import TlsTranscript.Text.Hex

/-!
# Hello extensions

The decoded extensions of a hello. The family is closed: an extension of any
other sort is kept as unknown with its number and its octets. Each kind has a tag,
by which input names it, and a name, under which it is written.
-/

namespace TlsTranscript

/-- A decoded extension. -/
inductive Extension where
  /-- Names of the server, each with the type of the name. -/
  | sni (names : List (UInt8 × Bytes))
  /-- Code of the longest fragment. -/
  | maxFragmentLength (length : UInt8)
  /-- Request for the status of the certificate. -/
  | statusRequest (data : Option Bytes)
  /-- Groups for key exchange. -/
  | ellipticCurves (groups : List UInt16)
  /-- Formats of curve points. -/
  | ecPointFormats (formats : Bytes)
  /-- Pairs of a hash algorithm and a signature algorithm. -/
  | signatureAlgorithms (algorithms : List (UInt8 × UInt8))
  /-- A ticket for resumption. -/
  | sessionTicket (data : Bytes)
  /-- Key shares. -/
  | keyShare (data : Bytes)
  /-- Keys known beforehand. -/
  | preSharedKey (data : Bytes)
  /-- Mark for early data. -/
  | earlyData
  /-- Versions offered. -/
  | supportedVersions (versions : List UInt16)
  /-- Cookie of a retry. -/
  | cookie (data : Bytes)
  /-- Modes of key exchange with a key known beforehand. -/
  | pskExchangeModes (modes : List UInt8)
  /-- Mode of the heartbeat. -/
  | heartbeat (mode : UInt8)
  /-- Names of application protocols. -/
  | alpn (protocols : List Bytes)
  /-- Timestamps of the certificate. -/
  | signedCertificateTimestamp (data : Option Bytes)
  /-- Padding. -/
  | padding (data : Bytes)
  /-- Mark for the order of encryption and authentication. -/
  | encryptThenMac
  /-- Mark for the extended master secret. -/
  | extendedMasterSecret
  /-- Mark for the older protocol negotiation. -/
  | nextProtocolNegotiation
  /-- State of a renegotiation. -/
  | renegotiationInfo (data : Bytes)
  /-- Any other extension. -/
  | unknown (id : UInt16) (data : Bytes)
  deriving DecidableEq

/-- The kinds of extensions. -/
inductive ExtensionKind where
  /-- Names of the server. -/
  | sni
  /-- Code of the longest fragment. -/
  | maxFragmentLength
  /-- Request for the status of the certificate. -/
  | statusRequest
  /-- Groups for key exchange. -/
  | ellipticCurves
  /-- Formats of curve points. -/
  | ecPointFormats
  /-- Pairs of algorithms. -/
  | signatureAlgorithms
  /-- A ticket for resumption. -/
  | sessionTicket
  /-- Key shares. -/
  | keyShare
  /-- Keys known beforehand. -/
  | preSharedKey
  /-- Mark for early data. -/
  | earlyData
  /-- Versions offered. -/
  | supportedVersions
  /-- Cookie of a retry. -/
  | cookie
  /-- Modes of key exchange with a key known beforehand. -/
  | pskExchangeModes
  /-- Mode of the heartbeat. -/
  | heartbeat
  /-- Names of application protocols. -/
  | alpn
  /-- Timestamps of the certificate. -/
  | signedCertificateTimestamp
  /-- Padding. -/
  | padding
  /-- Mark for the order of encryption and authentication. -/
  | encryptThenMac
  /-- Mark for the extended master secret. -/
  | extendedMasterSecret
  /-- Mark for the older protocol negotiation. -/
  | nextProtocolNegotiation
  /-- State of a renegotiation. -/
  | renegotiationInfo
  /-- Any other extension. -/
  | unknown
  deriving DecidableEq

namespace ExtensionKind

/-- Every kind of extension, in the order in which their tags are listed. -/
def all : List ExtensionKind :=
  [.sni, .maxFragmentLength, .statusRequest, .ellipticCurves, .ecPointFormats,
    .signatureAlgorithms, .sessionTicket, .keyShare, .preSharedKey, .earlyData,
    .supportedVersions, .cookie, .pskExchangeModes, .heartbeat, .alpn,
    .signedCertificateTimestamp, .padding, .encryptThenMac, .extendedMasterSecret,
    .nextProtocolNegotiation, .renegotiationInfo, .unknown]

/-- The tag of a kind. -/
def tag : ExtensionKind → String
  | .sni => "sni"
  | .maxFragmentLength => "max_fragment_length"
  | .statusRequest => "status_request"
  | .ellipticCurves => "elliptic_curves"
  | .ecPointFormats => "ec_point_formats"
  | .signatureAlgorithms => "signature_algorithms"
  | .sessionTicket => "session_ticket"
  | .keyShare => "key_share"
  | .preSharedKey => "pre_shared_key"
  | .earlyData => "early_data"
  | .supportedVersions => "supported_versions"
  | .cookie => "cookie"
  | .pskExchangeModes => "psk_exchange_modes"
  | .heartbeat => "heartbeat"
  | .alpn => "alpn"
  | .signedCertificateTimestamp => "signed_certificate_timestamp"
  | .padding => "padding"
  | .encryptThenMac => "encrypt_then_mac"
  | .extendedMasterSecret => "extended_master_secret"
  | .nextProtocolNegotiation => "next_protocol_negotiation"
  | .renegotiationInfo => "renegotiation_info"
  | .unknown => "unknown"

/-- The name of a kind. -/
def name : ExtensionKind → String
  | .sni => "SNI"
  | .maxFragmentLength => "MaxFragmentLength"
  | .statusRequest => "StatusRequest"
  | .ellipticCurves => "EllipticCurves"
  | .ecPointFormats => "EcPointFormats"
  | .signatureAlgorithms => "SignatureAlgorithms"
  | .sessionTicket => "SessionTicket"
  | .keyShare => "KeyShare"
  | .preSharedKey => "PreSharedKey"
  | .earlyData => "EarlyData"
  | .supportedVersions => "SupportedVersions"
  | .cookie => "Cookie"
  | .pskExchangeModes => "PskExchangeModes"
  | .heartbeat => "Heartbeat"
  | .alpn => "ALPN"
  | .signedCertificateTimestamp => "SignedCertificateTimestamp"
  | .padding => "Padding"
  | .encryptThenMac => "EncryptThenMac"
  | .extendedMasterSecret => "ExtendedMasterSecret"
  | .nextProtocolNegotiation => "NextProtocolNegotiation"
  | .renegotiationInfo => "RenegotiationInfo"
  | .unknown => "UnknownExtension"

end ExtensionKind

/-- The kind of an extension. -/
def Extension.kind : Extension → ExtensionKind
  | .sni _ => .sni
  | .maxFragmentLength _ => .maxFragmentLength
  | .statusRequest _ => .statusRequest
  | .ellipticCurves _ => .ellipticCurves
  | .ecPointFormats _ => .ecPointFormats
  | .signatureAlgorithms _ => .signatureAlgorithms
  | .sessionTicket _ => .sessionTicket
  | .keyShare _ => .keyShare
  | .preSharedKey _ => .preSharedKey
  | .earlyData => .earlyData
  | .supportedVersions _ => .supportedVersions
  | .cookie _ => .cookie
  | .pskExchangeModes _ => .pskExchangeModes
  | .heartbeat _ => .heartbeat
  | .alpn _ => .alpn
  | .signedCertificateTimestamp _ => .signedCertificateTimestamp
  | .padding _ => .padding
  | .encryptThenMac => .encryptThenMac
  | .extendedMasterSecret => .extendedMasterSecret
  | .nextProtocolNegotiation => .nextProtocolNegotiation
  | .renegotiationInfo _ => .renegotiationInfo
  | .unknown _ _ => .unknown

end TlsTranscript
