import TlsTranscript.Failure
import TlsTranscript.Model.Fields

/-!
# Properties of data

What data have under names. A model has its fields, what is derived from them and
what every model says of itself; registries have what is attached to them; a
number has its parts. A name under which a datum has nothing is reported together
with the type of the datum.
-/

namespace TlsTranscript

/-- The name under which a record has the table of all that it holds. -/
def Datum.contentsName : String := "__dict__"

/-- The name under which a record has what it is. -/
def Datum.className : String := "__class__"

namespace Model

/-- What every model says of itself: it holds nothing besides its fields, computes
none of them and is frozen. -/
def particulars (model : Model) : List (String × Datum) :=
  [("model_extra", .absent), ("model_computed_fields", .table []),
    ("model_config", .table [(.text "frozen", .flag true)]),
    (Datum.contentsName, .ofWords model.fields)]

/-- What is derived from the fields of a model: the group size of parameters of a
key exchange. -/
def derived (model : Model) : List (String × Datum) :=
  match model.groupSize? with
  | some size => [("group_size", .integer size)]
  | none => []

/-- A property of a model. -/
def property? (model : Model) (name : String) : Option Datum :=
  Keyed.get? name (model.fields ++ model.derived ++ model.particulars)

end Model

namespace Datum

/-- The parts of an integer: as a number of two dimensions and as a fraction. -/
def integerParts (value : Int) : List (String × Datum) :=
  [("real", .integer value), ("imag", .integer 0), ("numerator", .integer value),
    ("denominator", .integer 1)]

/-- The parts of a number in binary64. -/
def floatParts (value : Binary64) : List (String × Datum) :=
  [("real", .float value), ("imag", .float (.finite false 0 0))]

/-- The parts of a number; other data have none. -/
def numberParts (datum : Datum) : List (String × Datum) :=
  match datum with
  | .float value => floatParts value
  | other => (other.toInt?.map integerParts).getD []

/-- A property of a datum. -/
def property? (name : String) : Datum → Option Datum
  | .model value => value.property? name
  | .registries _ notes => Keyed.get? name (notes ++ [(contentsName, .ofWords notes)])
  | other => Keyed.get? name other.numberParts

/-- Whether a datum is one whose properties are looked at where a record is
needed. -/
def isRecord : Datum → Bool
  | .model _ => true
  | .registries _ _ => true
  | _ => false

/-- The failure of a datum that has nothing under a name. -/
def lacking (datum : Datum) (name : String) : Failure :=
  match datum with
  | .model value => .noField value.kind.name name
  | other => .noProperty other.typeName name

/-- What a datum has under a name. -/
def propertyOperand (datum : Datum) (name : String) : Except Failure Datum :=
  match datum.property? name with
  | some value => .ok value
  | none => .error (datum.lacking name)

/-- The failure of a datum that cannot do what a name says: it has nothing under
the name, or only another datum. -/
def unable (datum : Datum) (name : String) : Failure :=
  match datum.property? name with
  | some value => .misfit (.notCallable value.typeName)
  | none => datum.lacking name

end Datum

end TlsTranscript
