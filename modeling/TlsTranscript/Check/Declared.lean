import TlsTranscript.Model.Fields

/-!
# Declared fields

Every kind of model declares its fields: their names, their types and what stands in for
those that are left out. A type says which values a field can have.
-/

namespace TlsTranscript

/-- The types of fields. -/
inductive FieldType where
  /-- Integers that are not negative, up to a limit if there is one. -/
  | number (limit : Option Nat)
  /-- Octet strings. -/
  | octets
  /-- Texts. -/
  | text
  /-- A single text. -/
  | tag (value : String)
  /-- Pairs of algorithms as models. -/
  | algorithm
  /-- Values that may be missing. -/
  | optional (content : FieldType)
  /-- Lists. -/
  | list (item : FieldType)
  /-- Pairs. -/
  | pair (first second : FieldType)

namespace FieldType

/-- Numbers of one octet. -/
def octet : FieldType := .number (some 0xFF)

/-- Numbers of two octets. -/
def twoOctets : FieldType := .number (some 0xFFFF)

/-- Numbers of four octets. -/
def fourOctets : FieldType := .number (some 0xFFFFFFFF)

/-- Whether a value is one of a type, just as it is kept in a model. -/
def isOf : FieldType → Datum → Bool
  | .number limit, .integer value =>
    decide (0 ≤ value) && limit.all fun most => decide (value ≤ (most : Int))
  | .octets, .octets _ => true
  | .text, .text _ => true
  | .tag expected, .text value => value == expected
  | .algorithm, .model (.message (.hashSignAlgorithm _)) => true
  | .optional _, .absent => true
  | .optional content, value => content.isOf value
  | .list item, .list items => items.all item.isOf
  | .pair first second, .tuple [a, b] => first.isOf a && second.isOf b
  | _, _ => false

end FieldType

/-- A declared field. -/
structure Declared where
  /-- The name. -/
  name : String
  /-- The type. -/
  type : FieldType
  /-- What stands in for the field if it is left out; a field without that is
  required. -/
  preset : Option Datum := none

/-- The fields that a kind of message declares. -/
def MessageKind.declared : MessageKind → List Declared
  | .recordHeader =>
    [{ name := "record_type", type := .octet }, { name := "version", type := .twoOctets },
      { name := "len", type := .number none }]
  | .alert => [{ name := "severity", type := .octet }, { name := "code", type := .octet }]
  | .clientHello =>
    [{ name := "version", type := .twoOctets }, { name := "rand_time", type := .fourOctets },
      { name := "rand_data", type := .octets },
      { name := "session_id", type := .optional .octets, preset := some .absent },
      { name := "ciphers", type := .list .twoOctets, preset := some (.list []) },
      { name := "comp", type := .list .octet, preset := some (.list []) },
      { name := "ext", type := .optional .octets, preset := some .absent }]
  | .serverHello =>
    [{ name := "version", type := .twoOctets }, { name := "rand_time", type := .fourOctets },
      { name := "rand_data", type := .octets },
      { name := "session_id", type := .optional .octets, preset := some .absent },
      { name := "cipher", type := .twoOctets }, { name := "compression", type := .octet },
      { name := "ext", type := .optional .octets, preset := some .absent }]
  | .serverHelloV13 =>
    [{ name := "version", type := .twoOctets }, { name := "random", type := .octets },
      { name := "cipher", type := .twoOctets },
      { name := "ext", type := .optional .octets, preset := some .absent }]
  | .helloRetryRequest =>
    [{ name := "version", type := .twoOctets },
      { name := "ext", type := .optional .octets, preset := some .absent }]
  | .rawCertificate => [{ name := "data", type := .octets }]
  | .serverKeyExchange => [{ name := "parameters", type := .octets }]
  | .clientKeyExchange => [{ name := "parameters", type := .octets }]
  | .serverDHParams =>
    [{ name := "dh_p", type := .octets }, { name := "dh_g", type := .octets },
      { name := "dh_ys", type := .octets }]
  | .hashSignAlgorithm => [{ name := "hash", type := .octet }, { name := "sign", type := .octet }]
  | .digitallySigned => [{ name := "alg", type := .algorithm }, { name := "data", type := .octets }]

namespace ExtensionKind

/-- The fields besides its tag that a kind of extension declares. -/
def declaredPayload : ExtensionKind → List Declared
  | .sni =>
    [{ name := "names", type := .list (.pair .octet .octets), preset := some (.list []) }]
  | .maxFragmentLength => [{ name := "length", type := .octet }]
  | .ellipticCurves =>
    [{ name := "groups", type := .list .twoOctets, preset := some (.list []) }]
  | .ecPointFormats => [{ name := "formats", type := .octets, preset := some (.octets []) }]
  | .signatureAlgorithms =>
    [{ name := "algorithms", type := .list (.pair .octet .octet), preset := some (.list []) }]
  | .keyShare | .preSharedKey | .cookie => [{ name := "data", type := .octets }]
  | .supportedVersions =>
    [{ name := "versions", type := .list .twoOctets, preset := some (.list []) }]
  | .pskExchangeModes => [{ name := "modes", type := .list .octet, preset := some (.list []) }]
  | .heartbeat => [{ name := "mode", type := .octet }]
  | .alpn => [{ name := "protocols", type := .list .octets, preset := some (.list []) }]
  | .statusRequest | .signedCertificateTimestamp =>
    [{ name := "data", type := .optional .octets, preset := some .absent }]
  | .sessionTicket | .padding | .renegotiationInfo =>
    [{ name := "data", type := .octets, preset := some (.octets []) }]
  | .earlyData | .encryptThenMac | .extendedMasterSecret | .nextProtocolNegotiation => []
  | .unknown =>
    [{ name := "id", type := .twoOctets },
      { name := "data", type := .octets, preset := some (.octets []) }]

/-- The fields that a kind of extension declares. The tag is that of the kind. -/
def declared (kind : ExtensionKind) : List Declared :=
  { name := "type", type := .tag kind.tag, preset := some (.text kind.tag) } ::
    kind.declaredPayload

end ExtensionKind

/-- The fields that a kind of model declares. -/
def ModelKind.declared : ModelKind → List Declared
  | .parsed => []
  | .bareExtension => []
  | .message kind => kind.declared
  | .extension kind => kind.declared
  | .settings =>
    [{ name := "log_level", type := .text, preset := some (.text "WARNING") },
      { name := "transcript_dir", type := .text, preset := some (.text "transcripts") }]

end TlsTranscript
