import TlsTranscript.Failure
import TlsTranscript.Keyed
import TlsTranscript.Model.Basic

/-!
# Signatures

An operation has named parameters, of which the last ones may be left out.
Arguments come by position or by name, and each parameter takes one of them. The
names are looked at first, one after the other, then the number of arguments by
position, and at last whether every parameter that must be given is given.
-/

namespace TlsTranscript

/-- The parameters of an operation. -/
structure Signature where
  /-- The name of the operation. -/
  operation : String
  /-- The parameters that must be given. -/
  required : List String
  /-- The parameters behind them that may be left out. -/
  optional : List String := []

namespace Signature

variable {α : Type}

/-- All parameters in their order. -/
def parameters (signature : Signature) : List String :=
  signature.required ++ signature.optional

/-- Arguments by name put beside those that are known already. -/
def addNamed (signature : Signature) (known : Keyed String α) :
    List (String × α) → Except CallFault (Keyed String α)
  | [] => .ok known
  | (name, value) :: rest =>
    if !signature.parameters.contains name then .error (.unknownName signature.operation name)
    else if (Keyed.get? name known).isSome then .error (.givenTwice signature.operation name)
    else addNamed signature (Keyed.put name value known) rest

/-- The required parameters that are not given. -/
def missing (signature : Signature) (known : Keyed String α) : List String :=
  signature.required.filter fun name => (Keyed.get? name known).isNone

/-- One argument for each parameter in their order, the given one or the
default. -/
def bind (signature : Signature) (default : α) (positional : List α)
    (named : List (String × α)) : Except CallFault (List α) := do
  let known ← signature.addNamed (signature.parameters.zip positional) named
  let greatest := signature.parameters.length
  if positional.length > greatest then
    .error (.tooMany signature.operation signature.required.length greatest positional.length)
  else if !(signature.missing known).isEmpty then
    .error (.missing signature.operation (signature.missing known))
  else .ok (signature.parameters.map fun name => (Keyed.get? name known).getD default)

end Signature

/-- How an operation is called. -/
inductive Interface where
  /-- With one signature. -/
  | fixed (signature : Signature)
  /-- With a signature that depends on the kind of model that the first argument
  by position is, and a usual one for all other data. -/
  | byKind (usual : Signature) (special : ModelKind → Option Signature)

namespace Interface

variable {α : Type}

/-- The signature for a first argument of a kind. -/
def signatureFor (usual : Signature) (special : ModelKind → Option Signature)
    (kind : Option ModelKind) : Signature :=
  (kind.bind special).getD usual

/-- One argument for each parameter in their order. The kind of an argument is
told by a function. -/
def bind (callable : Interface) (kindOf : α → Option ModelKind) (default : α)
    (positional : List α) (named : List (String × α)) : Except CallFault (List α) :=
  match callable, positional with
  | .fixed signature, _ => signature.bind default positional named
  | .byKind usual _, [] => .error (.nothingGiven usual.operation)
  | .byKind usual special, first :: _ =>
    (signatureFor usual special (kindOf first)).bind default positional named

end Interface

end TlsTranscript
