import TlsTranscript.Check.Field

/-!
# Checks of messages

How the messages of each kind are built from named data. The fields are checked
in the order of their declaration, and names that a kind does not declare are
passed over.
-/

namespace TlsTranscript

open Check

/-- A pair of algorithms. -/
def HashSignAlgorithm.ofEntries (entries : Keyed String Datum) : Checked HashSignAlgorithm :=
  HashSignAlgorithm.mk <$> required entries "hash" octet <*> required entries "sign" octet

/-- A pair of algorithms given as such or by its fields. -/
def Check.algorithm : Datum → Checked HashSignAlgorithm
  | .model (.message (.hashSignAlgorithm value)) => .valid value
  | .table entries => HashSignAlgorithm.ofEntries (Datum.words entries)
  | _ => .fail (.notModel MessageKind.hashSignAlgorithm.name)

/-- A record header. -/
def RecordHeader.ofEntries (entries : Keyed String Datum) : Checked RecordHeader :=
  RecordHeader.mk <$> required entries "record_type" octet
    <*> required entries "version" twoOctets
    <*> required entries "len" natural

/-- An alert. -/
def Alert.ofEntries (entries : Keyed String Datum) : Checked Alert :=
  Alert.mk <$> required entries "severity" octet <*> required entries "code" octet

/-- First message of a client. -/
def ClientHello.ofEntries (entries : Keyed String Datum) : Checked ClientHello :=
  ClientHello.mk <$> required entries "version" twoOctets
    <*> required entries "rand_time" fourOctets
    <*> required entries "rand_data" octets
    <*> withDefault entries "session_id" none (optional octets)
    <*> withDefault entries "ciphers" [] (list twoOctets)
    <*> withDefault entries "comp" [] (list octet)
    <*> withDefault entries "ext" none (optional octets)

/-- Answer of a server up to version 1.2. -/
def ServerHello.ofEntries (entries : Keyed String Datum) : Checked ServerHello :=
  ServerHello.mk <$> required entries "version" twoOctets
    <*> required entries "rand_time" fourOctets
    <*> required entries "rand_data" octets
    <*> withDefault entries "session_id" none (optional octets)
    <*> required entries "cipher" twoOctets
    <*> required entries "compression" octet
    <*> withDefault entries "ext" none (optional octets)

/-- Answer of a server in version 1.3. -/
def ServerHelloV13.ofEntries (entries : Keyed String Datum) : Checked ServerHelloV13 :=
  ServerHelloV13.mk <$> required entries "version" twoOctets
    <*> required entries "random" octets
    <*> required entries "cipher" twoOctets
    <*> withDefault entries "ext" none (optional octets)

/-- Request for another hello. -/
def HelloRetryRequest.ofEntries (entries : Keyed String Datum) : Checked HelloRetryRequest :=
  HelloRetryRequest.mk <$> required entries "version" twoOctets
    <*> withDefault entries "ext" none (optional octets)

/-- Parameters of a finite-field key exchange. -/
def ServerDHParams.ofEntries (entries : Keyed String Datum) : Checked ServerDHParams :=
  ServerDHParams.mk <$> required entries "dh_p" octets
    <*> required entries "dh_g" octets
    <*> required entries "dh_ys" octets

/-- A signature. -/
def DigitallySigned.ofEntries (entries : Keyed String Datum) : Checked DigitallySigned :=
  DigitallySigned.mk <$> required entries "alg" Check.algorithm <*> required entries "data" octets

/-- A message of a kind. -/
def MessageKind.ofEntries (entries : Keyed String Datum) : MessageKind → Checked Message
  | .recordHeader => .recordHeader <$> RecordHeader.ofEntries entries
  | .alert => .alert <$> Alert.ofEntries entries
  | .clientHello => .clientHello <$> ClientHello.ofEntries entries
  | .serverHello => .serverHello <$> ServerHello.ofEntries entries
  | .serverHelloV13 => .serverHelloV13 <$> ServerHelloV13.ofEntries entries
  | .helloRetryRequest => .helloRetryRequest <$> HelloRetryRequest.ofEntries entries
  | .rawCertificate => (fun data => .rawCertificate ⟨data⟩) <$> required entries "data" octets
  | .serverKeyExchange =>
    (fun data => .serverKeyExchange ⟨data⟩) <$> required entries "parameters" octets
  | .clientKeyExchange =>
    (fun data => .clientKeyExchange ⟨data⟩) <$> required entries "parameters" octets
  | .serverDHParams => .serverDHParams <$> ServerDHParams.ofEntries entries
  | .hashSignAlgorithm => .hashSignAlgorithm <$> HashSignAlgorithm.ofEntries entries
  | .digitallySigned => .digitallySigned <$> DigitallySigned.ofEntries entries

end TlsTranscript
