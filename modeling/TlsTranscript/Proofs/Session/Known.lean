import TlsTranscript.Proofs.Check.Filled
import TlsTranscript.Proofs.Session.Instances

/-!
# Known instances

What can be done with an instance that a name is bound to. It is born when the name is
bound to a model that the checks accept. The name stands for the model, each field has
its value, and no field can be set or removed, whether the kind declares it or not. Under
a name that starts with an underscore a note is kept beside the fields.
-/

namespace TlsTranscript

open Changing Framing

/-- What an instance has under a name that nothing can be attached to. -/
def Instance.shows (content : Instance) (field : String) : Except Failure Datum :=
  match Keyed.get? field content.own with
  | some (.fixed value) => .ok value
  | _ => (Datum.model content.model).propertyOperand field

/-- Why a model does not let one of its fields change. -/
def Model.frozen (model : Model) (field : String) : Failure :=
  .invalid model.kind.name [⟨[.field field], .frozen⟩]

namespace Store

variable {store : Store} {name : String} {content : Instance}

end Store

namespace Deed

variable {session : Session} {name : String} {content : Instance}

end Deed

end TlsTranscript
