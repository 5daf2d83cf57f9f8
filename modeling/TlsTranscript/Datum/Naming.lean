import TlsTranscript.Datum.Property
import TlsTranscript.Datum.Table
import TlsTranscript.Registry.Assigned

/-!
# Names of codes

Codes have their names from registries that are given or, if none are, from the
assigned ones. Given registries may list any data under any data, and what stands
under a code is then the very datum that they list. Registries whose names are all
texts are also registries of integers, which is what structures are written with.
-/

namespace TlsTranscript

/-- Where codes have their names from. -/
inductive Naming where
  /-- From the assigned registries. -/
  | assigned
  /-- From tables that stand under the names of their kinds. -/
  | given (tables : Table Datum)

/-- A table of integers as a table of data. -/
def CodeTable.toData (codes : CodeTable) : Table Datum :=
  codes.map fun entry => (.integer entry.1, .ofText? entry.2)

/-- The name that a datum is, nothing being no name. -/
def CodeTable.name? : Datum → Option (Option String)
  | .absent => some none
  | .text name => some (some name)
  | _ => none

/-- A table of data as a table of integers, if all names of integers are texts.
What stands under no integer is left out. -/
def CodeTable.ofData? : Table Datum → Option CodeTable
  | [] => some []
  | (key, name) :: rest =>
    match key.integral?, CodeTable.name? name, ofData? rest with
    | none, _, codes => codes
    | some code, some name, some codes => some ((code, name) :: codes)
    | _, _, _ => none

namespace Naming

/-- The table for a kind; a kind without one has an empty table. -/
def table (naming : Naming) (kind : RegistryKind) : Datum :=
  match naming with
  | .assigned => .table (CodeTable.toData (Registries.assigned.table kind))
  | .given tables => (Table.get? (.text kind.name) tables).getD (.table [])

/-- Registries with the tables for some kinds, if those are tables of integers with
texts for names. -/
def withTables? (naming : Naming) : List RegistryKind → Option Registries
  | [] => some {}
  | kind :: rest =>
    match naming.table kind, withTables? naming rest with
    | .table entries, some registries =>
      (CodeTable.ofData? entries).map fun codes => registries.withTable codes kind
    | _, _ => none

/-- The registries that structures have the names of their codes from, if all
names are texts. -/
def registries? (naming : Naming) : Option Registries :=
  match naming with
  | .assigned => some .assigned
  | .given _ => naming.withTables? RegistryKind.all

/-- What stands under a code, nothing if it has no name. Only what can be a key
is looked up. -/
def nameOf (naming : Naming) (kind : RegistryKind) (code : Datum) : Except Failure Datum :=
  match naming.table kind, code.changeable? with
  | .table _, some typeName => .error (.misfit (.notAKey typeName))
  | .table entries, none => .ok ((Table.get? code entries).getD .absent)
  | other, _ => .error (other.unable "get")

end Naming

namespace Datum

/-- The naming of registries, which is in the table of their tables. -/
def namingWithin (registries : Datum) : Except Failure Naming :=
  match registries.property? tablesName with
  | some (.table tables) => .ok (.given tables)
  | some other => .error (other.unable "get")
  | none => .error (registries.lacking tablesName)

/-- The naming that a datum stands for; nothing stands for the assigned names.
Names are asked for under a word, and registries answer from their tables, unless
something that is attached to them stands in the way. Other data have nothing
under the word. -/
def namingOperand (word : String) (datum : Datum) : Except Failure Naming :=
  match datum with
  | .registries _ notes =>
    match [word, "table"].findSome? fun name => Keyed.get? name notes with
    | some note => .error (.misfit (.notCallable note.typeName))
    | none => datum.namingWithin
  | _ => if datum.isSomething then .error (datum.unable word) else .ok .assigned

end Datum

end TlsTranscript
