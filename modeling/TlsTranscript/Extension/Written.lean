import TlsTranscript.Extension.Basic
import TlsTranscript.Registry.Written

/-!
# Written extensions

How an extension is written: its name and, in parentheses, what it holds. Names
of servers and protocols are shown as text, all other octets as a listing, and
the extensions that hold nothing are a bare name.
-/

namespace TlsTranscript

/-- An octet code for the functions on integers. -/
def UInt8.code (value : UInt8) : Int := Int.ofNat value.toNat

/-- A code of two octets for the functions on integers. -/
def UInt16.code (value : UInt16) : Int := Int.ofNat value.toNat

namespace Extension

open Rendered

/-- A server name with its type. -/
def writeName (name : UInt8 × Bytes) : Rendered :=
  plain ("type=" ++ Text.hexUnpadded (UInt8.code name.1) ++ ",name=") ++ ofOctets name.2

/-- A pair of a hash algorithm and a signature algorithm. -/
def writePair (registries : Registries) (pair : UInt8 × UInt8) : Rendered :=
  plain "(" ++ registries.write .hashAlgorithm (UInt8.code pair.1) ++ plain "," ++
    registries.write .signatureAlgorithm (UInt8.code pair.2) ++ plain ")"

/-- A name with octets that may be missing. -/
def writeData (name : String) (data : Option Bytes) : Rendered :=
  plain (name ++ "(data=" ++ Bytes.listingOrNone data ++ ")")

/-- An extension as it is written. -/
def write (registries : Registries) : Extension → Rendered
  | .sni names => tagged "SNI" (list (names.map writeName))
  | .maxFragmentLength length =>
    plain ("MaxFragmentLength(" ++ Text.decimal (UInt8.code length) ++ ")")
  | .statusRequest data => writeData "StatusRequest" data
  | .ellipticCurves groups =>
    tagged "EllipticCurves"
      (list (groups.map fun group => registries.write .namedGroup (UInt16.code group)))
  | .ecPointFormats formats => writeData "EcPointFormats" formats
  | .signatureAlgorithms algorithms =>
    tagged "SignatureAlgorithms" (list (algorithms.map (writePair registries)))
  | .sessionTicket data => writeData "SessionTicket" data
  | .keyShare data => writeData "KeyShare" data
  | .preSharedKey data => writeData "PreSharedKey" data
  | .earlyData => plain "EarlyData"
  | .supportedVersions versions =>
    tagged "SupportedVersions"
      (list (versions.map fun version => plain (Text.hex16 (UInt16.code version))))
  | .cookie data => writeData "Cookie" data
  | .pskExchangeModes modes =>
    tagged "PskExchangeModes"
      (list (modes.map fun mode => plain (Text.hex8 (UInt8.code mode))))
  | .heartbeat mode => plain ("Heartbeat(" ++ Text.decimal (UInt8.code mode) ++ ")")
  | .alpn protocols => tagged "ALPN" (list (protocols.map ofOctets))
  | .signedCertificateTimestamp data => writeData "SignedCertificateTimestamp" data
  | .padding data => writeData "Padding" data
  | .encryptThenMac => plain "EncryptThenMac"
  | .extendedMasterSecret => plain "ExtendedMasterSecret"
  | .nextProtocolNegotiation => plain "NextProtocolNegotiation"
  | .renegotiationInfo data => writeData "RenegotiationInfo" data
  | .unknown id data =>
    plain ("Unknown(id=" ++ Text.hexUnpadded (UInt16.code id) ++ ",data=" ++
      Bytes.listing data ++ ")")

/-- The codes in an extension that registries name, in the order in which they
are written. -/
def codes : Extension → List (RegistryKind × Int)
  | .ellipticCurves groups => groups.map fun group => (.namedGroup, UInt16.code group)
  | .signatureAlgorithms algorithms => algorithms.flatMap fun pair =>
    [(.hashAlgorithm, UInt8.code pair.1), (.signatureAlgorithm, UInt8.code pair.2)]
  | _ => []

end Extension

end TlsTranscript
