import TlsTranscript.Rendered

/-!
# Written codes

How a protocol code is written with the help of a registry. The codes of two
octets show their number and, in parentheses, their name; the codes of one octet
show their name alone. A code without a name is marked as unknown, shows its
number in base sixteen and in decimal, and leaves a log record.
-/

namespace TlsTranscript

namespace RegistryKind

/-- Whether the codes of a kind show their number before their name. -/
def showsNumber : RegistryKind → Bool
  | .cipherSuite | .namedGroup | .signatureScheme => true
  | .hashAlgorithm | .signatureAlgorithm | .alertSeverity => false

/-- A code with its name. -/
def withName (kind : RegistryKind) (code : Int) (name : String) : String :=
  if kind.showsNumber then Text.hex16 code ++ "(" ++ name ++ ")" else name

/-- A code marked as unknown, its decimal text given apart. -/
def withoutName (kind : RegistryKind) (code : Int) (shown : String) : String :=
  let marked := fun noun =>
    "<Unknown " ++ noun ++ " " ++ Text.hexUnpadded code ++ "/" ++ shown ++ ">"
  match kind with
  | .cipherSuite => Text.hex16 code ++ "(Unknown cipher/" ++ shown ++ ")"
  | .signatureScheme => Text.hex16 code ++ "(Unknown signature scheme/" ++ shown ++ ")"
  | .namedGroup => marked "curve"
  | .hashAlgorithm => marked "hash"
  | .signatureAlgorithm => marked "signature"
  | .alertSeverity => marked "severity"

end RegistryKind

namespace Registries

/-- A code as it is written. -/
def write (registries : Registries) (kind : RegistryKind) (code : Int) : Rendered :=
  match registries.nameOf? kind code with
  | some name => .plain (kind.withName code name)
  | none => ⟨kind.withoutName code (Text.decimal code), [.unlistedCode kind code]⟩

end Registries

end TlsTranscript
