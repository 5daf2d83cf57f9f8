import TlsTranscript.Keyed

/-!
# Registries of protocol codes

Six kinds of codes have symbolic names: cipher suites, named groups, signature
schemes, hash algorithms, signature algorithms and alert severities. A set of
registries holds one table for each kind. A table may list a code without a
name, which counts as not listing it.
-/

namespace TlsTranscript

/-- The kinds of codes that have names. -/
inductive RegistryKind where
  /-- Cipher suites of a hello. -/
  | cipherSuite
  /-- Groups for key exchange. -/
  | namedGroup
  /-- Signature schemes of version 1.3. -/
  | signatureScheme
  /-- Hash algorithms of version 1.2. -/
  | hashAlgorithm
  /-- Signature algorithms of version 1.2. -/
  | signatureAlgorithm
  /-- Severities of an alert. -/
  | alertSeverity
  deriving DecidableEq

namespace RegistryKind

/-- Every kind, in the order in which the tables are listed. -/
def all : List RegistryKind :=
  [.cipherSuite, .namedGroup, .signatureScheme, .hashAlgorithm, .signatureAlgorithm,
    .alertSeverity]

/-- The written name of a kind. -/
def name : RegistryKind → String
  | .cipherSuite => "cipher_suite"
  | .namedGroup => "named_group"
  | .signatureScheme => "signature_scheme"
  | .hashAlgorithm => "hash_algorithm"
  | .signatureAlgorithm => "signature_algorithm"
  | .alertSeverity => "alert_severity"

/-- The kind with a written name. -/
def ofName? (name : String) : Option RegistryKind :=
  all.find? fun kind => kind.name == name

end RegistryKind

/-- The codes of one kind with their names. -/
abbrev CodeTable := Keyed Int (Option String)

/-- One table of codes for each kind. -/
structure Registries where
  /-- Cipher suites. -/
  cipherSuites : CodeTable := []
  /-- Named groups. -/
  namedGroups : CodeTable := []
  /-- Signature schemes. -/
  signatureSchemes : CodeTable := []
  /-- Hash algorithms. -/
  hashAlgorithms : CodeTable := []
  /-- Signature algorithms. -/
  signatureAlgorithms : CodeTable := []
  /-- Alert severities. -/
  alertSeverities : CodeTable := []
  deriving DecidableEq

namespace Registries

/-- The table of a kind. -/
def table (registries : Registries) : RegistryKind → CodeTable
  | .cipherSuite => registries.cipherSuites
  | .namedGroup => registries.namedGroups
  | .signatureScheme => registries.signatureSchemes
  | .hashAlgorithm => registries.hashAlgorithms
  | .signatureAlgorithm => registries.signatureAlgorithms
  | .alertSeverity => registries.alertSeverities

/-- Registries with another table for one kind. -/
def withTable (registries : Registries) (table : CodeTable) : RegistryKind → Registries
  | .cipherSuite => { registries with cipherSuites := table }
  | .namedGroup => { registries with namedGroups := table }
  | .signatureScheme => { registries with signatureSchemes := table }
  | .hashAlgorithm => { registries with hashAlgorithms := table }
  | .signatureAlgorithm => { registries with signatureAlgorithms := table }
  | .alertSeverity => { registries with alertSeverities := table }

/-- The name of a code, if its table gives one. -/
def nameOf? (registries : Registries) (kind : RegistryKind) (code : Int) : Option String :=
  (Keyed.get? code (registries.table kind)).join

end Registries

end TlsTranscript
