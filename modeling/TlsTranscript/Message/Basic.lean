import TlsTranscript.Text.Hex

/-!
# Records and handshake messages

The decoded structures of the record layer and of the handshake, as a parser
hands them over. Octet strings that a message may leave out are optional, and a
missing one differs from an empty one.
-/

namespace TlsTranscript

/-- Header of a record. The length is what the header says; nothing compares it
with the payload. -/
structure RecordHeader where
  /-- Content type. -/
  recordType : UInt8
  /-- Protocol version. -/
  version : UInt16
  /-- Length of the payload. -/
  length : Nat
  deriving DecidableEq

/-- An alert. -/
structure Alert where
  /-- How serious it is. -/
  severity : UInt8
  /-- What it is about. -/
  code : UInt8
  deriving DecidableEq

/-- First message of a client. -/
structure ClientHello where
  /-- Highest version offered. -/
  version : UInt16
  /-- Time part of the random value. -/
  randTime : UInt32
  /-- Rest of the random value. -/
  randData : Bytes
  /-- Session to resume. -/
  sessionId : Option Bytes
  /-- Cipher suites offered. -/
  ciphers : List UInt16
  /-- Compression methods offered. -/
  compressions : List UInt8
  /-- Extensions, not decoded. -/
  extensions : Option Bytes
  deriving DecidableEq

/-- Answer of a server up to version 1.2. -/
structure ServerHello where
  /-- Version chosen. -/
  version : UInt16
  /-- Time part of the random value. -/
  randTime : UInt32
  /-- Rest of the random value. -/
  randData : Bytes
  /-- Session in use. -/
  sessionId : Option Bytes
  /-- Cipher suite chosen. -/
  cipher : UInt16
  /-- Compression method chosen. -/
  compression : UInt8
  /-- Extensions, not decoded. -/
  extensions : Option Bytes
  deriving DecidableEq

/-- Answer of a server in version 1.3. -/
structure ServerHelloV13 where
  /-- Version chosen. -/
  version : UInt16
  /-- Random value. -/
  random : Bytes
  /-- Cipher suite chosen. -/
  cipher : UInt16
  /-- Extensions, not decoded. -/
  extensions : Option Bytes
  deriving DecidableEq

/-- Request for another hello of the client. -/
structure HelloRetryRequest where
  /-- Version chosen. -/
  version : UInt16
  /-- Extensions, not decoded. -/
  extensions : Option Bytes
  deriving DecidableEq

/-- A certificate, not decoded. -/
structure RawCertificate where
  /-- The certificate as it was sent. -/
  data : Bytes
  deriving DecidableEq

/-- Key exchange message of a server, not decoded. -/
structure ServerKeyExchange where
  /-- The parameters as they were sent. -/
  parameters : Bytes
  deriving DecidableEq

/-- Key exchange message of a client, not decoded. -/
structure ClientKeyExchange where
  /-- The parameters as they were sent. -/
  parameters : Bytes
  deriving DecidableEq

/-- Parameters of a finite-field key exchange. -/
structure ServerDHParams where
  /-- The prime. -/
  prime : Bytes
  /-- The generator. -/
  generator : Bytes
  /-- The public value of the server. -/
  publicValue : Bytes
  deriving DecidableEq

/-- The group size that is reported: the bits that the generator takes up. -/
def ServerDHParams.groupSize (params : ServerDHParams) : Nat :=
  params.generator.length * 8

/-- A hash algorithm and a signature algorithm. -/
structure HashSignAlgorithm where
  /-- The hash algorithm. -/
  hash : UInt8
  /-- The signature algorithm. -/
  sign : UInt8
  deriving DecidableEq

/-- A signature with its algorithms. -/
structure DigitallySigned where
  /-- The algorithms. -/
  algorithm : HashSignAlgorithm
  /-- The signature. -/
  data : Bytes
  deriving DecidableEq

/-- A decoded record header or message. -/
inductive Message where
  /-- Header of a record. -/
  | recordHeader (header : RecordHeader)
  /-- An alert. -/
  | alert (notice : Alert)
  /-- First message of a client. -/
  | clientHello (hello : ClientHello)
  /-- Answer of a server up to version 1.2. -/
  | serverHello (hello : ServerHello)
  /-- Answer of a server in version 1.3. -/
  | serverHelloV13 (hello : ServerHelloV13)
  /-- Request for another hello of the client. -/
  | helloRetryRequest (request : HelloRetryRequest)
  /-- A certificate. -/
  | rawCertificate (certificate : RawCertificate)
  /-- Key exchange message of a server. -/
  | serverKeyExchange (exchange : ServerKeyExchange)
  /-- Key exchange message of a client. -/
  | clientKeyExchange (exchange : ClientKeyExchange)
  /-- Parameters of a finite-field key exchange. -/
  | serverDHParams (params : ServerDHParams)
  /-- A hash algorithm and a signature algorithm. -/
  | hashSignAlgorithm (algorithm : HashSignAlgorithm)
  /-- A signature. -/
  | digitallySigned (signed : DigitallySigned)
  deriving DecidableEq

/-- The kinds of messages. -/
inductive MessageKind where
  /-- Header of a record. -/
  | recordHeader
  /-- An alert. -/
  | alert
  /-- First message of a client. -/
  | clientHello
  /-- Answer of a server up to version 1.2. -/
  | serverHello
  /-- Answer of a server in version 1.3. -/
  | serverHelloV13
  /-- Request for another hello of the client. -/
  | helloRetryRequest
  /-- A certificate. -/
  | rawCertificate
  /-- Key exchange message of a server. -/
  | serverKeyExchange
  /-- Key exchange message of a client. -/
  | clientKeyExchange
  /-- Parameters of a finite-field key exchange. -/
  | serverDHParams
  /-- A hash algorithm and a signature algorithm. -/
  | hashSignAlgorithm
  /-- A signature. -/
  | digitallySigned
  deriving DecidableEq

namespace MessageKind

/-- Every kind of message. -/
def all : List MessageKind :=
  [.recordHeader, .alert, .clientHello, .serverHello, .serverHelloV13, .helloRetryRequest,
    .rawCertificate, .serverKeyExchange, .clientKeyExchange, .serverDHParams,
    .hashSignAlgorithm, .digitallySigned]

/-- The written name of a kind. -/
def name : MessageKind → String
  | .recordHeader => "RecordHeader"
  | .alert => "Alert"
  | .clientHello => "ClientHello"
  | .serverHello => "ServerHello"
  | .serverHelloV13 => "ServerHelloV13"
  | .helloRetryRequest => "HelloRetryRequest"
  | .rawCertificate => "RawCertificate"
  | .serverKeyExchange => "ServerKeyExchange"
  | .clientKeyExchange => "ClientKeyExchange"
  | .serverDHParams => "ServerDHParams"
  | .hashSignAlgorithm => "HashSignAlgorithm"
  | .digitallySigned => "DigitallySigned"

end MessageKind

/-- The kind of a message. -/
def Message.kind : Message → MessageKind
  | .recordHeader _ => .recordHeader
  | .alert _ => .alert
  | .clientHello _ => .clientHello
  | .serverHello _ => .serverHello
  | .serverHelloV13 _ => .serverHelloV13
  | .helloRetryRequest _ => .helloRetryRequest
  | .rawCertificate _ => .rawCertificate
  | .serverKeyExchange _ => .serverKeyExchange
  | .clientKeyExchange _ => .clientKeyExchange
  | .serverDHParams _ => .serverDHParams
  | .hashSignAlgorithm _ => .hashSignAlgorithm
  | .digitallySigned _ => .digitallySigned

end TlsTranscript
