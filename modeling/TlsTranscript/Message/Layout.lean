import TlsTranscript.Message.Basic
import TlsTranscript.Registry.Basic

/-!
# Layouts of messages

How the kinds of messages are laid out: the fields in the order in which they are
written, each with its label, the property that it shows and the form of its
value. A datum that is no message of a kind can still be written in the layout of
the kind, if it has all the properties.
-/

namespace TlsTranscript

/-- How the value of a field is written. -/
inductive FieldForm where
  /-- As a number of one octet in base sixteen. -/
  | octet
  /-- As a number of two octets in base sixteen. -/
  | twoOctets
  /-- As it displays itself. -/
  | display
  /-- As a listing of octets. -/
  | listing
  /-- As a listing of octets that may be missing. -/
  | listingOrNone
  /-- As a list of numbers of one octet in base sixteen. -/
  | octets
  /-- As a code with its name. -/
  | code (kind : RegistryKind)
  /-- As a list of codes with their names. -/
  | codes (kind : RegistryKind)
  /-- As a pair of algorithms. -/
  | algorithm
  deriving DecidableEq

/-- A field in a layout. -/
structure LaidField where
  /-- What stands before the value. -/
  label : String
  /-- The property that the field shows. -/
  property : String
  /-- How the value is written. -/
  form : FieldForm
  deriving DecidableEq

namespace MessageKind

/-- The fields of a kind of message in the order in which they are written. -/
def layout : MessageKind → List LaidField
  | .recordHeader =>
    [⟨"type", "record_type", .octet⟩, ⟨"version", "version", .twoOctets⟩,
      ⟨"len", "len", .display⟩]
  | .alert => [⟨"severity", "severity", .code .alertSeverity⟩, ⟨"code", "code", .display⟩]
  | .clientHello =>
    [⟨"version", "version", .twoOctets⟩, ⟨"rand_time", "rand_time", .display⟩,
      ⟨"rand_data", "rand_data", .listing⟩, ⟨"session_id", "session_id", .listingOrNone⟩,
      ⟨"ciphers", "ciphers", .codes .cipherSuite⟩, ⟨"comp", "comp", .octets⟩,
      ⟨"ext", "ext", .listingOrNone⟩]
  | .serverHello =>
    [⟨"version", "version", .twoOctets⟩, ⟨"rand_time", "rand_time", .display⟩,
      ⟨"rand_data", "rand_data", .listing⟩, ⟨"session_id", "session_id", .listingOrNone⟩,
      ⟨"cipher", "cipher", .code .cipherSuite⟩, ⟨"compression", "compression", .octet⟩,
      ⟨"ext", "ext", .listingOrNone⟩]
  | .serverHelloV13 =>
    [⟨"version", "version", .twoOctets⟩, ⟨"random", "random", .listing⟩,
      ⟨"cipher", "cipher", .code .cipherSuite⟩, ⟨"ext", "ext", .listingOrNone⟩]
  | .helloRetryRequest =>
    [⟨"version", "version", .twoOctets⟩, ⟨"ext", "ext", .listingOrNone⟩]
  | .rawCertificate => [⟨"data", "data", .listing⟩]
  | .serverKeyExchange => [⟨"parameters", "parameters", .listing⟩]
  | .clientKeyExchange => [⟨"parameters", "parameters", .listing⟩]
  | .serverDHParams =>
    [⟨"group size", "group_size", .display⟩, ⟨"dh_p", "dh_p", .listing⟩,
      ⟨"dh_g", "dh_g", .listing⟩, ⟨"dh_ys", "dh_ys", .listing⟩]
  | .hashSignAlgorithm =>
    [⟨"hash", "hash", .code .hashAlgorithm⟩, ⟨"sign", "sign", .code .signatureAlgorithm⟩]
  | .digitallySigned => [⟨"alg", "alg", .algorithm⟩, ⟨"data", "data", .listing⟩]

end MessageKind

end TlsTranscript
