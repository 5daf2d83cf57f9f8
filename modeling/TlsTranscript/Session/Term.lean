import TlsTranscript.Check.Model
import TlsTranscript.Number.NumberText
import TlsTranscript.Session.Product
import TlsTranscript.Session.Tables
import TlsTranscript.Text.HexOctets

/-!
# Terms

A term says how a value is built: from constants, lists and tables, from models
that are checked while they are built, from registries that copy their tables,
and from names that are bound in the session. Terms are built from left to
right, and the first failure ends the building.
-/

namespace TlsTranscript

/-- A way to build a value. -/
inductive Term where
  /-- A scalar. -/
  | constant (value : Datum)
  /-- An octet string by its text in base sixteen. -/
  | octets (source : Datum)
  /-- A number in binary64 by its text or by an integer. -/
  | numeral (source : Datum)
  /-- A list. -/
  | list (items : List Term)
  /-- A list of fixed length. -/
  | tuple (items : List Term)
  /-- Something a number of times: a text, an octet string, a list or a number. -/
  | repeated (content : Term) (times : Datum)
  /-- A table; the last entry under a key stays. -/
  | table (entries : List (Datum × Term))
  /-- Registries from tables for named kinds. -/
  | registries (tables : List (String × Term))
  /-- A model of a kind from named data. -/
  | model (kind : ModelKind) (fields : List (String × Term))
  /-- What a name is bound to. -/
  | variable (name : String)

/-- A change of a store that may fail. -/
abbrev Building := ExceptT Failure (StateM Store)

namespace Datum

/-- The octets that a text writes in base sixteen. -/
def writtenOctets : Datum → Except Failure Bytes
  | .text value =>
    match HexOctets.read value with
    | .ok data => .ok data
    | .error index => .error (.refused (.unreadableOctets index))
  | .absent => .error (.misfit (.notHexadecimal (literal .absent)))
  | other => .error (.misfit (.notHexadecimal other.typeName))

/-- The number in binary64 that a text writes or that is nearest to an integer. -/
def numberOperand (datum : Datum) : Except Failure Binary64 :=
  match datum, datum.toInt? with
  | .text value, _ =>
    match NumberText.read value with
    | some number => .ok number
    | none => .error (.refused (.unreadableNumber (Text.quoted value)))
  | _, some value =>
    match Binary64.ofInt? value with
    | some number => .ok number
    | none => .error (.overflow .beyondBinary64)
  | other, none => .error (.misfit (.notANumber other.typeName))

end Datum

namespace Building

/-- A result that is known without a store. -/
def ofResult {α : Type} (result : Except Failure α) : Building α :=
  ExceptT.mk (pure result)

/-- The datum that a held value has now. -/
def read (held : Held) : Building Datum := do
  return (← get).read held

/-- The data that named values have now. -/
def readNamed (values : List (String × Held)) : Building (List (String × Datum)) := do
  let store ← get
  return values.map fun entry => (entry.1, store.read entry.2)

/-- A new serial number. -/
def newSerial : Building Nat := modifyGet Store.nextSerial

/-- The number that a datum stands for in binary64. Each value that is not a number
gets a mark of its own. -/
def newNumber (source : Datum) : Building Held := do
  match ← ofResult source.numberOperand with
  | .nan _ => return .fixed (.float (.nan (← newSerial)))
  | value => return .fixed (.float value)

end Building

namespace Term

/-- The note that a model is born with: which of its fields were given when it was
built, in the order of their names. -/
def givenNote (model : Model) (given : List String) : String × Held :=
  let names := model.fields.map Prod.fst
  let known := (names.filter given.contains).mergeSort fun a b => decide (a ≤ b)
  ("model_fields_set", .fixed (.list (known.map .text)))

mutual

/-- Builds the value of a term. -/
def build : Term → Building Held
  | .constant value => return .fixed value
  | .octets source => do return .fixed (.octets (← Building.ofResult source.writtenOctets))
  | .numeral source => Building.newNumber source
  | .list items => do return .list (← buildAll items)
  | .tuple items => do return .tuple (← buildAll items)
  | .repeated content times => do
    let held ← build content
    let mark ← Building.newSerial
    Building.ofResult ((← get).product mark held times)
  | .table entries => do return .table (Table.ofEntries (← buildEntries entries))
  | .registries tables => do
    let built ← buildNamed tables
    let tables ← Building.ofResult ((← get).kindTables built)
    return .noted (.registries (← Building.newSerial) []) [(Datum.tablesName, tables)]
  | .model kind fields => do
    let built ← buildNamed fields
    let entries ← Building.readNamed built
    let value ← Building.ofResult (Failure.ofChecked kind.name (kind.ofEntries entries))
    return .noted (.model value) [givenNote value (built.map Prod.fst)]
  | .variable name => do
    match Keyed.get? name (← get).names with
    | some held => return held
    | none => throw (.unbound name)

/-- Builds the values of terms. -/
def buildAll : List Term → Building (List Held)
  | [] => return []
  | term :: rest => do
    let held ← build term
    return held :: (← buildAll rest)

/-- Builds the entries of a table. A key is looked at when its value is built. -/
def buildEntries : List (Datum × Term) → Building (List (Datum × Held))
  | [] => return []
  | (key, term) :: rest => do
    let held ← build term
    match key.changeable? with
    | some typeName => throw (.misfit (.notAKey typeName))
    | none => return (key, held) :: (← buildEntries rest)

/-- Builds named values. -/
def buildNamed : List (String × Term) → Building (List (String × Held))
  | [] => return []
  | (name, term) :: rest => do
    let held ← build term
    return (name, held) :: (← buildNamed rest)

end

/-- Builds a datum. -/
def buildDatum (term : Term) : Building Datum := do
  Building.read (← build term)

end Term

end TlsTranscript
