import TlsTranscript.Extension.Written
import TlsTranscript.Message.Basic

/-!
# Written messages

How a message is written: its name and, between braces, its fields in the order
in which they are sent, each with a label.
-/

namespace TlsTranscript

namespace Message

open Rendered

/-- A pair of algorithms as a record of its own. -/
def writeAlgorithm (registries : Registries) (algorithm : HashSignAlgorithm) : Rendered :=
  record "HashSignAlgorithm" [
    ("hash", registries.write .hashAlgorithm (UInt8.code algorithm.hash)),
    ("sign", registries.write .signatureAlgorithm (UInt8.code algorithm.sign))]

/-- A message as it is written. -/
def write (registries : Registries) : Message → Rendered
  | .recordHeader header =>
    record "RecordHeader" [
      ("type", plain (Text.hex8 (UInt8.code header.recordType))),
      ("version", plain (Text.hex16 (UInt16.code header.version))),
      ("len", plain (Text.decimal header.length))]
  | .alert notice =>
    record "Alert" [
      ("severity", registries.write .alertSeverity (UInt8.code notice.severity)),
      ("code", plain (Text.decimal (UInt8.code notice.code)))]
  | .clientHello hello =>
    record "ClientHello" [
      ("version", plain (Text.hex16 (UInt16.code hello.version))),
      ("rand_time", plain (Text.decimal hello.randTime.toNat)),
      ("rand_data", plain (Bytes.listing hello.randData)),
      ("session_id", plain (Bytes.listingOrNone hello.sessionId)),
      ("ciphers", list (hello.ciphers.map fun cipher =>
        registries.write .cipherSuite (UInt16.code cipher))),
      ("comp", list (hello.compressions.map fun method =>
        plain (Text.hex8 (UInt8.code method)))),
      ("ext", plain (Bytes.listingOrNone hello.extensions))]
  | .serverHello hello =>
    record "ServerHello" [
      ("version", plain (Text.hex16 (UInt16.code hello.version))),
      ("rand_time", plain (Text.decimal hello.randTime.toNat)),
      ("rand_data", plain (Bytes.listing hello.randData)),
      ("session_id", plain (Bytes.listingOrNone hello.sessionId)),
      ("cipher", registries.write .cipherSuite (UInt16.code hello.cipher)),
      ("compression", plain (Text.hex8 (UInt8.code hello.compression))),
      ("ext", plain (Bytes.listingOrNone hello.extensions))]
  | .serverHelloV13 hello =>
    record "ServerHelloV13" [
      ("version", plain (Text.hex16 (UInt16.code hello.version))),
      ("random", plain (Bytes.listing hello.random)),
      ("cipher", registries.write .cipherSuite (UInt16.code hello.cipher)),
      ("ext", plain (Bytes.listingOrNone hello.extensions))]
  | .helloRetryRequest request =>
    record "HelloRetryRequest" [
      ("version", plain (Text.hex16 (UInt16.code request.version))),
      ("ext", plain (Bytes.listingOrNone request.extensions))]
  | .rawCertificate certificate =>
    record "RawCertificate" [("data", plain (Bytes.listing certificate.data))]
  | .serverKeyExchange exchange =>
    record "ServerKeyExchange" [("parameters", plain (Bytes.listing exchange.parameters))]
  | .clientKeyExchange exchange =>
    record "ClientKeyExchange" [("parameters", plain (Bytes.listing exchange.parameters))]
  | .serverDHParams params =>
    record "ServerDHParams" [
      ("group size", plain (Text.decimal params.groupSize)),
      ("dh_p", plain (Bytes.listing params.prime)),
      ("dh_g", plain (Bytes.listing params.generator)),
      ("dh_ys", plain (Bytes.listing params.publicValue))]
  | .hashSignAlgorithm algorithm => writeAlgorithm registries algorithm
  | .digitallySigned signed =>
    record "DigitallySigned" [
      ("alg", writeAlgorithm registries signed.algorithm),
      ("data", plain (Bytes.listing signed.data))]

/-- Whether all numbers in a message are shown: only the length of a record has
no limit of its own. -/
def isWritable : Message → Bool
  | .recordHeader header => Text.isWritable header.length
  | _ => true

/-- The codes of a pair of algorithms. -/
def algorithmCodes (algorithm : HashSignAlgorithm) : List (RegistryKind × Int) :=
  [(.hashAlgorithm, UInt8.code algorithm.hash),
    (.signatureAlgorithm, UInt8.code algorithm.sign)]

/-- The codes in a message that registries name, in the order in which they are
written. -/
def codes : Message → List (RegistryKind × Int)
  | .alert notice => [(.alertSeverity, UInt8.code notice.severity)]
  | .clientHello hello => hello.ciphers.map fun cipher => (.cipherSuite, UInt16.code cipher)
  | .serverHello hello => [(.cipherSuite, UInt16.code hello.cipher)]
  | .serverHelloV13 hello => [(.cipherSuite, UInt16.code hello.cipher)]
  | .hashSignAlgorithm algorithm => algorithmCodes algorithm
  | .digitallySigned signed => algorithmCodes signed.algorithm
  | _ => []

end Message

end TlsTranscript
