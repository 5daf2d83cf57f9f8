import TlsTranscript.Datum.Basic

/-!
# Fields of models

A model seen as a list of named fields, in the order of their declaration. Every
extension begins with its tag under the name `type`. Parameters of a key
exchange also have a group size, which is derived from them.
-/

namespace TlsTranscript

/-- An octet as a datum. -/
def Datum.ofOctet (value : UInt8) : Datum := .integer (Int.ofNat value.toNat)

/-- A number of two octets as a datum. -/
def Datum.ofPair (value : UInt16) : Datum := .integer (Int.ofNat value.toNat)

/-- A pair of algorithms by its fields. -/
def HashSignAlgorithm.fields (algorithm : HashSignAlgorithm) : List (String × Datum) :=
  [("hash", .ofOctet algorithm.hash), ("sign", .ofOctet algorithm.sign)]

/-- A message by its fields. -/
def Message.fields : Message → List (String × Datum)
  | .recordHeader header =>
    [("record_type", .ofOctet header.recordType), ("version", .ofPair header.version),
      ("len", .integer header.length)]
  | .alert notice => [("severity", .ofOctet notice.severity), ("code", .ofOctet notice.code)]
  | .clientHello hello =>
    [("version", .ofPair hello.version), ("rand_time", .integer hello.randTime.toNat),
      ("rand_data", .octets hello.randData), ("session_id", .ofOctets? hello.sessionId),
      ("ciphers", .list (hello.ciphers.map .ofPair)),
      ("comp", .list (hello.compressions.map .ofOctet)), ("ext", .ofOctets? hello.extensions)]
  | .serverHello hello =>
    [("version", .ofPair hello.version), ("rand_time", .integer hello.randTime.toNat),
      ("rand_data", .octets hello.randData), ("session_id", .ofOctets? hello.sessionId),
      ("cipher", .ofPair hello.cipher), ("compression", .ofOctet hello.compression),
      ("ext", .ofOctets? hello.extensions)]
  | .serverHelloV13 hello =>
    [("version", .ofPair hello.version), ("random", .octets hello.random),
      ("cipher", .ofPair hello.cipher), ("ext", .ofOctets? hello.extensions)]
  | .helloRetryRequest request =>
    [("version", .ofPair request.version), ("ext", .ofOctets? request.extensions)]
  | .rawCertificate certificate => [("data", .octets certificate.data)]
  | .serverKeyExchange exchange => [("parameters", .octets exchange.parameters)]
  | .clientKeyExchange exchange => [("parameters", .octets exchange.parameters)]
  | .serverDHParams params =>
    [("dh_p", .octets params.prime), ("dh_g", .octets params.generator),
      ("dh_ys", .octets params.publicValue)]
  | .hashSignAlgorithm algorithm => algorithm.fields
  | .digitallySigned signed =>
    [("alg", .model (.message (.hashSignAlgorithm signed.algorithm))),
      ("data", .octets signed.data)]

/-- What an extension holds besides its tag, by its fields. -/
def Extension.payload : Extension → List (String × Datum)
  | .sni names =>
    [("names", .list (names.map fun name => .tuple [.ofOctet name.1, .octets name.2]))]
  | .maxFragmentLength length => [("length", .ofOctet length)]
  | .statusRequest data => [("data", .ofOctets? data)]
  | .ellipticCurves groups => [("groups", .list (groups.map .ofPair))]
  | .ecPointFormats formats => [("formats", .octets formats)]
  | .signatureAlgorithms algorithms =>
    [("algorithms",
      .list (algorithms.map fun pair => .tuple [.ofOctet pair.1, .ofOctet pair.2]))]
  | .sessionTicket data => [("data", .octets data)]
  | .keyShare data => [("data", .octets data)]
  | .preSharedKey data => [("data", .octets data)]
  | .earlyData => []
  | .supportedVersions versions => [("versions", .list (versions.map .ofPair))]
  | .cookie data => [("data", .octets data)]
  | .pskExchangeModes modes => [("modes", .list (modes.map .ofOctet))]
  | .heartbeat mode => [("mode", .ofOctet mode)]
  | .alpn protocols => [("protocols", .list (protocols.map .octets))]
  | .signedCertificateTimestamp data => [("data", .ofOctets? data)]
  | .padding data => [("data", .octets data)]
  | .encryptThenMac => []
  | .extendedMasterSecret => []
  | .nextProtocolNegotiation => []
  | .renegotiationInfo data => [("data", .octets data)]
  | .unknown id data => [("id", .ofPair id), ("data", .octets data)]

/-- An extension by its fields, the tag first. -/
def Extension.fields (extension : Extension) : List (String × Datum) :=
  ("type", .text extension.kind.tag) :: extension.payload

/-- Settings by their fields. -/
def Settings.fields (settings : Settings) : List (String × Datum) :=
  [("log_level", .text settings.logLevel), ("transcript_dir", .text settings.transcriptDir)]

namespace Model

/-- A model by its fields. -/
def fields : Model → List (String × Datum)
  | .parsed => []
  | .bareExtension => []
  | .message content => content.fields
  | .extension content => content.fields
  | .settings content => content.fields

/-- The fields of a model as pairs of a name and a value. -/
def pairs (model : Model) : List Datum :=
  model.fields.map fun field => .tuple [.text field.1, field.2]

/-- The group size of a model, if it is a set of parameters of a key exchange. -/
def groupSize? : Model → Option Nat
  | .message (.serverDHParams params) => some params.groupSize
  | _ => none

end Model

end TlsTranscript
