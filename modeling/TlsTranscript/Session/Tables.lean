import TlsTranscript.Session.Store

/-!
# Tables for registries

Registries are made of tables for named kinds. Each table is copied, but the names
in it stay shared with whatever else holds them. A table can also be given by its
entries, as items of two parts.
-/

namespace TlsTranscript

namespace Store

/-- The items of a value; those of lists are shared. -/
def itemsOf (store : Store) (held : Held) : Except Failure (List Held) :=
  match store.content held with
  | .list items => .ok items
  | .tuple items => .ok items
  | other => (store.read other).items.map fun items => items.map .fixed

/-- The entry of a table that the item at an index makes. -/
def entryOf (store : Store) (index : Nat) (item : Held) : Except Failure (Datum × Held) :=
  match store.itemsOf item with
  | .error _ => .error (.misfit (.entryWithoutItems index))
  | .ok [key, value] =>
    let key := store.read key
    match key.changeable? with
    | some typeName => .error (.misfit (.notAKey typeName))
    | none => .ok (key, value)
  | .ok parts => .error (.refused (.notAnEntry index parts.length))

/-- The entries that items make from an index on. -/
def entriesFrom (store : Store) : Nat → List Held → Except Failure (List (Datum × Held))
  | _, [] => .ok []
  | index, item :: rest => do
    let entry ← store.entryOf index item
    return entry :: (← entriesFrom store (index + 1) rest)

/-- The table that a value makes: a table as it is, and of other values every item
is an entry. What has keys of its own is asked for them, and nothing but a table can
tell them. -/
def tableOf (store : Store) (held : Held) : Except Failure (Table Held) :=
  match store.content held with
  | .table entries => .ok entries
  | other => do
    let datum := store.read other
    if (datum.property? "keys").isSome then .error (datum.unable "keys")
    else return Table.ofEntries (← entriesFrom store 0 (← store.itemsOf other))

/-- The kinds of named tables. -/
def kindsOf (tables : List (String × Held)) : Except Failure (List (RegistryKind × Held)) :=
  tables.mapM fun entry => do return (← (Datum.text entry.1).kindOperand, entry.2)

/-- The table of the tables for registries, under the names of their kinds. All
kinds are looked at before the first table is, and one name is refused before all
kinds: it belongs to the parameter that is always given. -/
def kindTables (store : Store) (tables : List (String × Held)) : Except Failure Held := do
  if (Keyed.get? "cls" tables).isSome then
    .error (.call (.givenTwice "Registries.from_tables" "cls"))
  else
    let copies ← (← kindsOf tables).mapM fun entry => do
      return (Datum.text entry.1.name, Held.table (← store.tableOf entry.2))
    return .table copies

end Store

end TlsTranscript
