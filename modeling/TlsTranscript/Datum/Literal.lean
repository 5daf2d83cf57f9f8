import TlsTranscript.Message.Written
import TlsTranscript.Model.Fields
import TlsTranscript.Text.Quoted

/-!
# Written data

A datum has two written forms. Its literal shows what it is: texts and octet
strings are quoted, and a model is a name with its fields in parentheses. Its
display differs from the literal at the outermost level only: a text stands for
itself, and the fields of a model stand side by side. A datum with an integer that
is too long for decimal has neither.
-/

namespace TlsTranscript

/-- Items between two brackets. -/
def bracketed (opening closing : String) (items : List String) : String :=
  opening ++ ", ".intercalate items ++ closing

/-- The literal of a truth value. -/
def flagLiteral (value : Bool) : String := if value then "True" else "False"

namespace Datum

mutual

/-- The literal of a datum, the literals of models given. -/
def literalWith (models : Model → String) : Datum → String
  | .absent => "None"
  | .flag value => flagLiteral value
  | .integer value => Text.decimal value
  | .float value => value.text
  | .text value => Text.quoted value
  | .octets value => Bytes.quoted value
  | .list items => bracketed "[" "]" (literalsWith models items)
  | .tuple items =>
    match literalsWith models items with
    | [only] => "(" ++ only ++ ",)"
    | literals => bracketed "(" ")" literals
  | .table entries => bracketed "\x7b" "\x7d" (entryLiteralsWith models entries)
  | .model value => models value
  | .registries _ _ => "<registries>"

/-- The literals of the items of a list. -/
def literalsWith (models : Model → String) : List Datum → List String
  | [] => []
  | item :: rest => literalWith models item :: literalsWith models rest

/-- The literals of the entries of a table. -/
def entryLiteralsWith (models : Model → String) : List (Datum × Datum) → List String
  | [] => []
  | (key, value) :: rest =>
    (literalWith models key ++ ": " ++ literalWith models value) ::
      entryLiteralsWith models rest

end

end Datum

namespace Model

/-- The fields of a model as assignments, the literals of models given. -/
def assignmentsWith (models : Model → String) (model : Model) : List String :=
  model.fields.map fun field => field.1 ++ "=" ++ field.2.literalWith models

/-- The literal of a model that holds no other model. -/
def flatLiteral (model : Model) : String :=
  model.kind.name ++ bracketed "(" ")" (model.assignmentsWith fun _ => "")

/-- The fields of a model as assignments. A model inside a model holds no
further one. -/
def assignments (model : Model) : List String :=
  model.assignmentsWith flatLiteral

/-- Whether every integer in a model can be shown in decimal. -/
def isWritable : Model → Bool
  | .message content => content.isWritable
  | _ => true

/-- The literal of a model. -/
def literal (model : Model) : String :=
  model.kind.name ++ bracketed "(" ")" model.assignments

end Model

namespace Datum

/-- The literal of a datum. -/
def literal (datum : Datum) : String := datum.literalWith Model.literal

mutual

/-- Whether every integer in a datum can be shown in decimal. -/
def isWritable : Datum → Bool
  | .integer value => Text.isWritable value
  | .list items => areWritable items
  | .tuple items => areWritable items
  | .table entries => areWritableEntries entries
  | .model value => value.isWritable
  | _ => true

/-- Whether every integer in a list can be shown in decimal. -/
def areWritable : List Datum → Bool
  | [] => true
  | item :: rest => isWritable item && areWritable rest

/-- Whether every integer in a table can be shown in decimal. -/
def areWritableEntries : List (Datum × Datum) → Bool
  | [] => true
  | (key, value) :: rest => isWritable key && isWritable value && areWritableEntries rest

end

/-- The display of a datum. -/
def display : Datum → String
  | .text value => value
  | .model value => " ".intercalate value.assignments
  | other => other.literal

end Datum

end TlsTranscript
