import TlsTranscript.Datum.Operand
import TlsTranscript.World

/-!
# Written codes of any type

A code that is no part of a checked structure may be any datum. It is looked up as
it is, and what stands under it is its name. Where the name stands alone it is
written as the very datum that the registry holds. A code without a name leaves a
log record and shows its number, which only an integer has.
-/

namespace TlsTranscript

namespace Datum

/-- A code as it is written with its name. -/
def namedCode (kind : RegistryKind) (code name : Datum) : Except Failure Datum := do
  if kind.showsNumber then
    let value ← code.hexOperand
    return .text (kind.withName value (← name.displayOperand))
  else return name

/-- A code as it is written without a name. -/
def unnamedCode (kind : RegistryKind) (code : Datum) : Except Failure Datum := do
  let value ← match kind with
    | .cipherSuite | .signatureScheme => code.hexOperand
    | _ => code.formOperand
  return .text (kind.withoutName value (← code.displayOperand))

/-- Notes that a code has no name. Only an integer can be recorded; another code
is refused if somebody listens, and else goes unrecorded. -/
def noteMiss (kind : RegistryKind) (code : Datum) : Action Unit := do
  match code.toInt? with
  | some value => Action.note [.unlistedCode kind value]
  | none => if (← get).listening then throw (.misfit (.notWritable code.typeName))

/-- Writes a code of a kind. -/
def writeCode (kind : RegistryKind) (naming : Except Failure Naming) (code : Datum) :
    Action Datum := do
  let naming ← Action.ofResult naming
  match ← Action.ofResult (naming.nameOf kind code) with
  | .absent =>
    noteMiss kind code
    Action.ofResult (code.unnamedCode kind)
  | name => Action.ofResult (code.namedCode kind name)

/-- Writes a code of a kind as it is displayed. -/
def displayCode (kind : RegistryKind) (naming : Except Failure Naming) (code : Datum) :
    Action String := do
  Action.ofResult (← code.writeCode kind naming).displayOperand

end Datum

end TlsTranscript
