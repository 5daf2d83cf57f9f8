import TlsTranscript.Check.Checked
import TlsTranscript.Failure.Call
import TlsTranscript.Failure.Misfit
import TlsTranscript.Failure.Refusal
import TlsTranscript.Files.Tree
import TlsTranscript.Text.Wide

/-!
# Failures

Everything that can keep an operation from its result. A failure is a cause, and
each cause has one wording.
-/

namespace TlsTranscript

/-- Everything that can keep an operation from its result. -/
inductive Failure where
  /-- Data of a wrong type. -/
  | misfit (cause : Misfit)
  /-- Data that are refused. -/
  | refused (cause : Refusal)
  /-- An integer outside what can be represented. -/
  | overflow (cause : Overflow)
  /-- Nothing at an index of a list. -/
  | outOfRange (cause : OutOfRange)
  /-- What the machine refuses. -/
  | machine (cause : MachineFault)
  /-- A result that the memory does not hold. -/
  | outOfMemory
  /-- An operation that cannot be called as it is. -/
  | call (cause : CallFault)
  /-- A datum without a property that is needed. -/
  | noProperty (typeName property : String)
  /-- A model without a field that is needed. -/
  | noField (modelName field : String)
  /-- A property that cannot be set anew or removed. -/
  | fixedProperty (typeName property : String)
  /-- What a model of a kind would be whose insides are exchanged for these is not described
  here. -/
  | undescribed (modelName : String)
  /-- A name that nothing is bound to. -/
  | unbound (name : String)
  /-- A setting for the log level that is no level. -/
  | unknownLevel (level : String)
  /-- A failure at a path. -/
  | file (failure : FileFailure)
  /-- Octets that are no text. -/
  | undecodable (fault : Utf8.Fault)
  /-- A text that has no octets. -/
  | unencodable (fault : WideText.Fault)
  /-- Data that fail the checks of a model, which is given by its name. -/
  | invalid (subject : String) (problems : List Problem)
  deriving DecidableEq

/-- The wording of a failure. Failed checks are named by their subject alone,
since their problems have wordings of their own. -/
def Failure.message : Failure → String
  | .misfit cause => cause.message
  | .refused cause => cause.message
  | .overflow cause => cause.message
  | .outOfRange cause => cause.message
  | .machine cause => cause.message
  | .call cause => cause.message
  | .outOfMemory => ""
  | .noProperty typeName property =>
    "'" ++ typeName ++ "' object has no attribute '" ++ property ++ "'"
  | .noField modelName field =>
    "'" ++ modelName ++ "' object has no attribute " ++ Text.quoted field
  | .fixedProperty typeName property =>
    "attribute '" ++ property ++ "' of '" ++ typeName ++ "' objects is not writable"
  | .undescribed modelName => "the insides of '" ++ modelName ++ "' are not described"
  | .unbound name => Text.quoted name
  | .unknownLevel level => "TLSDEBUG_LOG_LEVEL: unknown level " ++ Text.quoted level
  | .file failure => failure.message
  | .undecodable fault => fault.message
  | .unencodable fault => fault.message
  | .invalid subject _ => subject

/-- The failure of a call of the machine at a path. -/
def FileFailure.inCall (failure : FileFailure) (call : String) : Failure :=
  match failure with
  | ⟨.embeddedNul, path⟩ => .refused (path.nulRefusal call)
  | other => .file other

/-- The value of a check, or its problems under a subject. -/
def Failure.ofChecked {α : Type} (subject : String) : Checked α → Except Failure α
  | .valid value => .ok value
  | .invalid problems => .error (.invalid subject problems)

end TlsTranscript
