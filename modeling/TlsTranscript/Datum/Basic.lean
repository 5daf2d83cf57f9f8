import TlsTranscript.Keyed
import TlsTranscript.Model.Basic
import TlsTranscript.Number.Binary64
import TlsTranscript.Registry.Basic

/-!
# Data

Structures are built from data that nobody has checked yet, and the tools that
write them accept any datum and say what they cannot use. A datum is a scalar, a
list or tuple of data, a table, a model or a set of registries. The texts among data
are texts of characters; one that may hold surrogates is given as a line.
-/

namespace TlsTranscript

/-- A datum. -/
inductive Datum where
  /-- Nothing. -/
  | absent
  /-- A truth value. -/
  | flag (value : Bool)
  /-- An integer. -/
  | integer (value : Int)
  /-- A number in binary64. -/
  | float (value : Binary64)
  /-- A text of characters. -/
  | text (value : String)
  /-- An octet string. -/
  | octets (value : Bytes)
  /-- A list. -/
  | list (items : List Datum)
  /-- A list of fixed length. -/
  | tuple (items : List Datum)
  /-- A table: values under keys without repetition, in the order in which the
  keys came. -/
  | table (entries : List (Datum × Datum))
  /-- A model. -/
  | model (value : Model)
  /-- Registries with what has been attached to them under names, the table of
  their tables among it. Two sets of registries are the same only if their serial
  numbers agree. -/
  | registries (serial : Nat) (notes : List (String × Datum))

namespace Datum

/-- The name of the type of a datum. -/
def typeName : Datum → String
  | .absent => "NoneType"
  | .flag _ => "bool"
  | .integer _ => "int"
  | .float _ => "float"
  | .text _ => "str"
  | .octets _ => "bytes"
  | .list _ => "list"
  | .tuple _ => "tuple"
  | .table _ => "dict"
  | .model value => value.kind.name
  | .registries _ _ => "Registries"

/-- Whether a datum counts as something: nothing, false, zero and whatever is
empty do not. -/
def isSomething : Datum → Bool
  | .absent => false
  | .flag value => value
  | .integer value => value != 0
  | .float value => !value.same (.finite false 0 0)
  | .text value => value != ""
  | .octets value => !value.isEmpty
  | .list items => !items.isEmpty
  | .tuple items => !items.isEmpty
  | .table entries => !entries.isEmpty
  | .model _ => true
  | .registries _ _ => true

/-- The integer that a number without a fraction type stands for; a truth value
is one or zero. -/
def toInt? : Datum → Option Int
  | .flag value => some (if value then 1 else 0)
  | .integer value => some value
  | _ => none

/-- The integer that a datum equals, if it equals one. -/
def integral? : Datum → Option Int
  | .float value => value.toInt?
  | other => other.toInt?

/-- Octets that may be missing. -/
def ofOctets? : Option Bytes → Datum
  | none => .absent
  | some value => .octets value

/-- A text that may be missing. -/
def ofText? : Option String → Datum
  | none => .absent
  | some value => .text value

/-- The name under which registries have the table of their tables. -/
def tablesName : String := "_tables"

/-- Words as the keys of a table. -/
def ofWords (entries : List (String × Datum)) : Datum :=
  .table (entries.map fun entry => (.text entry.1, entry.2))

/-- The entries of a table under words. -/
def words (entries : List (Datum × Datum)) : Keyed String Datum :=
  entries.filterMap fun entry =>
    match entry.1 with
    | .text name => some (name, entry.2)
    | _ => none

end Datum

end TlsTranscript
