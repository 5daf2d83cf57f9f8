import TlsTranscript.Registry.Basic

/-!
# Assigned codes

The registries that are used when no others are given: the codes that IANA has
assigned, as far as this library names them.
-/

namespace TlsTranscript

namespace Registries

/-- A table of codes that all have names. -/
def named (entries : List (Int × String)) : CodeTable :=
  entries.map fun entry => (entry.1, some entry.2)

/-- Assigned cipher suites. -/
def assignedCipherSuites : List (Int × String) := [
  (0x0000, "TLS_NULL_WITH_NULL_NULL"),
  (0x0001, "TLS_RSA_WITH_NULL_MD5"),
  (0x0002, "TLS_RSA_WITH_NULL_SHA"),
  (0x0003, "TLS_RSA_EXPORT_WITH_RC4_40_MD5"),
  (0x0004, "TLS_RSA_WITH_RC4_128_MD5"),
  (0x0005, "TLS_RSA_WITH_RC4_128_SHA"),
  (0x0006, "TLS_RSA_EXPORT_WITH_RC2_CBC_40_MD5"),
  (0x0008, "TLS_RSA_EXPORT_WITH_DES40_CBC_SHA"),
  (0x0009, "TLS_RSA_WITH_DES_CBC_SHA"),
  (0x000a, "TLS_RSA_WITH_3DES_EDE_CBC_SHA"),
  (0x0011, "TLS_DHE_DSS_EXPORT_WITH_DES40_CBC_SHA"),
  (0x0013, "TLS_DHE_DSS_WITH_3DES_EDE_CBC_SHA"),
  (0x0014, "TLS_DHE_RSA_EXPORT_WITH_DES40_CBC_SHA"),
  (0x0015, "TLS_DHE_RSA_WITH_DES_CBC_SHA"),
  (0x0016, "TLS_DHE_RSA_WITH_3DES_EDE_CBC_SHA"),
  (0x0017, "TLS_DH_anon_EXPORT_WITH_RC4_40_MD5"),
  (0x0018, "TLS_DH_anon_WITH_RC4_128_MD5"),
  (0x001b, "TLS_DH_anon_WITH_3DES_EDE_CBC_SHA"),
  (0x002f, "TLS_RSA_WITH_AES_128_CBC_SHA"),
  (0x0032, "TLS_DHE_DSS_WITH_AES_128_CBC_SHA"),
  (0x0033, "TLS_DHE_RSA_WITH_AES_128_CBC_SHA"),
  (0x0034, "TLS_DH_anon_WITH_AES_128_CBC_SHA"),
  (0x0035, "TLS_RSA_WITH_AES_256_CBC_SHA"),
  (0x0038, "TLS_DHE_DSS_WITH_AES_256_CBC_SHA"),
  (0x0039, "TLS_DHE_RSA_WITH_AES_256_CBC_SHA"),
  (0x003a, "TLS_DH_anon_WITH_AES_256_CBC_SHA"),
  (0x003b, "TLS_RSA_WITH_NULL_SHA256"),
  (0x003c, "TLS_RSA_WITH_AES_128_CBC_SHA256"),
  (0x003d, "TLS_RSA_WITH_AES_256_CBC_SHA256"),
  (0x0040, "TLS_DHE_DSS_WITH_AES_128_CBC_SHA256"),
  (0x0041, "TLS_RSA_WITH_CAMELLIA_128_CBC_SHA"),
  (0x0045, "TLS_DHE_RSA_WITH_CAMELLIA_128_CBC_SHA"),
  (0x0067, "TLS_DHE_RSA_WITH_AES_128_CBC_SHA256"),
  (0x006a, "TLS_DHE_DSS_WITH_AES_256_CBC_SHA256"),
  (0x006b, "TLS_DHE_RSA_WITH_AES_256_CBC_SHA256"),
  (0x0084, "TLS_RSA_WITH_CAMELLIA_256_CBC_SHA"),
  (0x0088, "TLS_DHE_RSA_WITH_CAMELLIA_256_CBC_SHA"),
  (0x008c, "TLS_PSK_WITH_AES_128_CBC_SHA"),
  (0x008d, "TLS_PSK_WITH_AES_256_CBC_SHA"),
  (0x009c, "TLS_RSA_WITH_AES_128_GCM_SHA256"),
  (0x009d, "TLS_RSA_WITH_AES_256_GCM_SHA384"),
  (0x009e, "TLS_DHE_RSA_WITH_AES_128_GCM_SHA256"),
  (0x009f, "TLS_DHE_RSA_WITH_AES_256_GCM_SHA384"),
  (0x00a2, "TLS_DHE_DSS_WITH_AES_128_GCM_SHA256"),
  (0x00a3, "TLS_DHE_DSS_WITH_AES_256_GCM_SHA384"),
  (0x00a8, "TLS_PSK_WITH_AES_128_GCM_SHA256"),
  (0x00a9, "TLS_PSK_WITH_AES_256_GCM_SHA384"),
  (0x00ff, "TLS_EMPTY_RENEGOTIATION_INFO_SCSV"),
  (0x1301, "TLS_AES_128_GCM_SHA256"),
  (0x1302, "TLS_AES_256_GCM_SHA384"),
  (0x1303, "TLS_CHACHA20_POLY1305_SHA256"),
  (0x1304, "TLS_AES_128_CCM_SHA256"),
  (0x1305, "TLS_AES_128_CCM_8_SHA256"),
  (0x5600, "TLS_FALLBACK_SCSV"),
  (0xc002, "TLS_ECDH_ECDSA_WITH_RC4_128_SHA"),
  (0xc004, "TLS_ECDH_ECDSA_WITH_AES_128_CBC_SHA"),
  (0xc005, "TLS_ECDH_ECDSA_WITH_AES_256_CBC_SHA"),
  (0xc007, "TLS_ECDHE_ECDSA_WITH_RC4_128_SHA"),
  (0xc008, "TLS_ECDHE_ECDSA_WITH_3DES_EDE_CBC_SHA"),
  (0xc009, "TLS_ECDHE_ECDSA_WITH_AES_128_CBC_SHA"),
  (0xc00a, "TLS_ECDHE_ECDSA_WITH_AES_256_CBC_SHA"),
  (0xc011, "TLS_ECDHE_RSA_WITH_RC4_128_SHA"),
  (0xc012, "TLS_ECDHE_RSA_WITH_3DES_EDE_CBC_SHA"),
  (0xc013, "TLS_ECDHE_RSA_WITH_AES_128_CBC_SHA"),
  (0xc014, "TLS_ECDHE_RSA_WITH_AES_256_CBC_SHA"),
  (0xc023, "TLS_ECDHE_ECDSA_WITH_AES_128_CBC_SHA256"),
  (0xc024, "TLS_ECDHE_ECDSA_WITH_AES_256_CBC_SHA384"),
  (0xc027, "TLS_ECDHE_RSA_WITH_AES_128_CBC_SHA256"),
  (0xc028, "TLS_ECDHE_RSA_WITH_AES_256_CBC_SHA384"),
  (0xc02b, "TLS_ECDHE_ECDSA_WITH_AES_128_GCM_SHA256"),
  (0xc02c, "TLS_ECDHE_ECDSA_WITH_AES_256_GCM_SHA384"),
  (0xc02f, "TLS_ECDHE_RSA_WITH_AES_128_GCM_SHA256"),
  (0xc030, "TLS_ECDHE_RSA_WITH_AES_256_GCM_SHA384"),
  (0xc09c, "TLS_RSA_WITH_AES_128_CCM"),
  (0xc09d, "TLS_RSA_WITH_AES_256_CCM"),
  (0xc09e, "TLS_DHE_RSA_WITH_AES_128_CCM"),
  (0xc09f, "TLS_DHE_RSA_WITH_AES_256_CCM"),
  (0xc0ac, "TLS_ECDHE_ECDSA_WITH_AES_128_CCM"),
  (0xc0ad, "TLS_ECDHE_ECDSA_WITH_AES_256_CCM"),
  (0xcca8, "TLS_ECDHE_RSA_WITH_CHACHA20_POLY1305_SHA256"),
  (0xcca9, "TLS_ECDHE_ECDSA_WITH_CHACHA20_POLY1305_SHA256"),
  (0xccaa, "TLS_DHE_RSA_WITH_CHACHA20_POLY1305_SHA256"),
  (0xccab, "TLS_PSK_WITH_CHACHA20_POLY1305_SHA256"),
  (0xccac, "TLS_ECDHE_PSK_WITH_CHACHA20_POLY1305_SHA256")]

/-- Assigned named groups. -/
def assignedNamedGroups : List (Int × String) := [
  (0x0001, "sect163k1"),
  (0x0002, "sect163r1"),
  (0x0003, "sect163r2"),
  (0x0004, "sect193r1"),
  (0x0005, "sect193r2"),
  (0x0006, "sect233k1"),
  (0x0007, "sect233r1"),
  (0x0008, "sect239k1"),
  (0x0009, "sect283k1"),
  (0x000a, "sect283r1"),
  (0x000b, "sect409k1"),
  (0x000c, "sect409r1"),
  (0x000d, "sect571k1"),
  (0x000e, "sect571r1"),
  (0x000f, "secp160k1"),
  (0x0010, "secp160r1"),
  (0x0011, "secp160r2"),
  (0x0012, "secp192k1"),
  (0x0013, "secp192r1"),
  (0x0014, "secp224k1"),
  (0x0015, "secp224r1"),
  (0x0016, "secp256k1"),
  (0x0017, "secp256r1"),
  (0x0018, "secp384r1"),
  (0x0019, "secp521r1"),
  (0x001a, "brainpoolP256r1"),
  (0x001b, "brainpoolP384r1"),
  (0x001c, "brainpoolP512r1"),
  (0x001d, "x25519"),
  (0x001e, "x448"),
  (0x001f, "brainpoolP256r1tls13"),
  (0x0020, "brainpoolP384r1tls13"),
  (0x0021, "brainpoolP512r1tls13"),
  (0x0100, "ffdhe2048"),
  (0x0101, "ffdhe3072"),
  (0x0102, "ffdhe4096"),
  (0x0103, "ffdhe6144"),
  (0x0104, "ffdhe8192"),
  (0x11ec, "X25519MLKEM768"),
  (0xff01, "arbitrary_explicit_prime_curves"),
  (0xff02, "arbitrary_explicit_char2_curves")]

/-- Assigned signature schemes. -/
def assignedSignatureSchemes : List (Int × String) := [
  (0x0201, "rsa_pkcs1_sha1"),
  (0x0203, "ecdsa_sha1"),
  (0x0401, "rsa_pkcs1_sha256"),
  (0x0403, "ecdsa_secp256r1_sha256"),
  (0x0501, "rsa_pkcs1_sha384"),
  (0x0503, "ecdsa_secp384r1_sha384"),
  (0x0601, "rsa_pkcs1_sha512"),
  (0x0603, "ecdsa_secp521r1_sha512"),
  (0x0804, "rsa_pss_rsae_sha256"),
  (0x0805, "rsa_pss_rsae_sha384"),
  (0x0806, "rsa_pss_rsae_sha512"),
  (0x0807, "ed25519"),
  (0x0808, "ed448"),
  (0x0809, "rsa_pss_pss_sha256"),
  (0x080a, "rsa_pss_pss_sha384"),
  (0x080b, "rsa_pss_pss_sha512"),
  (0x081a, "ecdsa_brainpoolP256r1tls13_sha256"),
  (0x081b, "ecdsa_brainpoolP384r1tls13_sha384"),
  (0x081c, "ecdsa_brainpoolP512r1tls13_sha512")]

/-- Assigned hash algorithms. -/
def assignedHashAlgorithms : List (Int × String) := [
  (0, "none"),
  (1, "md5"),
  (2, "sha1"),
  (3, "sha224"),
  (4, "sha256"),
  (5, "sha384"),
  (6, "sha512"),
  (8, "intrinsic")]

/-- Assigned signature algorithms. -/
def assignedSignatureAlgorithms : List (Int × String) := [
  (0, "anonymous"),
  (1, "rsa"),
  (2, "dsa"),
  (3, "ecdsa"),
  (7, "ed25519"),
  (8, "ed448")]

/-- Assigned alert severities. -/
def assignedAlertSeverities : List (Int × String) := [
  (1, "warning"),
  (2, "fatal")]

/-- The registries of all assigned codes. -/
def assigned : Registries where
  cipherSuites := named assignedCipherSuites
  namedGroups := named assignedNamedGroups
  signatureSchemes := named assignedSignatureSchemes
  hashAlgorithms := named assignedHashAlgorithms
  signatureAlgorithms := named assignedSignatureAlgorithms
  alertSeverities := named assignedAlertSeverities

end Registries

end TlsTranscript
