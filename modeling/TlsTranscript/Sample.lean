import TlsTranscript.Digest.Sha256
import TlsTranscript.Extension.Basic
import TlsTranscript.Failure
import TlsTranscript.Message.Basic
import TlsTranscript.Number.BigEndian

/-!
# A sample handshake

The messages and extensions of one handshake, from a record header to an alert,
made of given key material. The group of the key exchange is the one of 2048 bits
with generator two whose prime is written below.
-/

namespace TlsTranscript

/-- What a handshake takes from key generation. -/
structure KeyMaterial where
  /-- Random octets, used up from the front. -/
  random : Bytes
  /-- Public key of the client. -/
  share : Bytes
  /-- Certificate of the server. -/
  certificate : Bytes
  /-- Offset of the public value of the server above prime and generator. -/
  dhOffset : Int
  /-- Signature that the digest of the signed octets is added to. -/
  signature : Bytes

/-- The octets of an integer that is not negative. -/
def octetsOfInteger : Int → Except Failure Bytes
  | .ofNat n => .ok (BigEndian.ofNat n)
  | .negSucc _ => .error (.overflow .negativeUnsigned)

namespace Sample

/-- The prime of the group, in groups of 256 bits. -/
def primeGroups : List Nat :=
  [0xFFFFFFFFFFFFFFFFC90FDAA22168C234C4C6628B80DC1CD129024E088A67CC74,
    0x020BBEA63B139B22514A08798E3404DDEF9519B3CD3A431B302B0A6DF25F1437,
    0x4FE1356D6D51C245E485B576625E7EC6F44C42E9A637ED6B0BFF5CB6F406B7ED,
    0xEE386BFB5A899FA5AE9F24117C4B1FE649286651ECE45B3DC2007CB8A163BF05,
    0x98DA48361C55D39A69163FA8FD24CF5F83655D23DCA3AD961C62F356208552BB,
    0x9ED529077096966D670C354E4ABC9804F1746C08CA18217C32905E462E36CE3B,
    0xE39E772C180E86039B2783A2EC07A28FB5C55DF06F4C52C9DE2BCBF695581718,
    0x3995497CEA956AE515D2261898FA051015728E5A8AACAA68FFFFFFFFFFFFFFFF]

/-- The prime of the group. -/
def prime : Nat := primeGroups.foldl (fun read group => read <<< 256 + group) 0

/-- The generator of the group. -/
def generator : Nat := 2

/-- The extensions of the handshake. -/
def extensions (material : KeyMaterial) : List Extension :=
  [.sni [(0, Utf8.encode "server"), (0, Utf8.encode "bad" ++ 0xFF :: Utf8.encode "name")],
    .ellipticCurves [0x001D, 0x0017, 0x9999],
    .signatureAlgorithms [(4, 3), (4, 1), (0x0A, 3)],
    .supportedVersions [0x0304, 0x0303],
    .keyShare ([0x00, 0x1D, 0x00, 0x20] ++ material.share),
    .alpn [Utf8.encode "h2", Utf8.encode "http/1.1"],
    .earlyData,
    .unknown 0x44 [0x01, 0x02]]

/-- The parameters of the key exchange. -/
def parameters (material : KeyMaterial) : Except Failure ServerDHParams :=
  (octetsOfInteger (material.dhOffset + prime + generator)).map fun publicValue =>
    { prime := BigEndian.ofNat prime, generator := BigEndian.ofNat generator, publicValue }

/-- The signature of the parameters. -/
def signature (material : KeyMaterial) (params : ServerDHParams) : DigitallySigned where
  algorithm := { hash := 4, sign := 3 }
  data := material.signature ++
    Sha256.digest (params.prime ++ params.generator ++ params.publicValue)

/-- The messages of the handshake. -/
def messages (material : KeyMaterial) (params : ServerDHParams) : List Message :=
  [.recordHeader { recordType := 0x16, version := 0x0301, length := 0xC4 },
    .clientHello
      { version := 0x0303, randTime := 0xCB34ECB1, randData := material.random.take 28,
        sessionId := none, ciphers := [0x1301, 0xC02F, 0x9999], compressions := [0],
        extensions := none },
    .serverHello
      { version := 0x0303, randTime := 0x5F5E1000,
        randData := (material.random.drop 28).take 28,
        sessionId := some ((material.random.drop 56).take 32), cipher := 0x009E,
        compression := 0, extensions := none },
    .rawCertificate ⟨material.certificate⟩,
    .serverDHParams params,
    .digitallySigned (signature material params),
    .alert { severity := 2, code := 40 }]

/-- The messages and extensions of the handshake. -/
def handshake (material : KeyMaterial) : Except Failure (List Message × List Extension) :=
  (parameters material).map fun params => (messages material params, extensions material)

end Sample

end TlsTranscript
