import TlsTranscript.Datum.Equality
import TlsTranscript.Model.Fields

/-!
# Values under data

A table has values under keys, and any datum is a key that holds nothing whose
content may change: no list and no table, also not inside a tuple or a model.
A key is found by what it equals, so a number is found under every spelling of
its value. Putting a value under a known key changes the value in its place.
-/

namespace TlsTranscript

/-- Values under data, in the order in which the keys first came. -/
abbrev Table (α : Type) := List (Datum × α)

namespace Table

variable {α : Type}

/-- The value under a key. -/
def get? (key : Datum) : Table α → Option α
  | [] => none
  | (other, value) :: rest => if key.matchesPart other then some value else get? key rest

/-- A value put under a key. -/
def put (key : Datum) (value : α) : Table α → Table α
  | [] => [(key, value)]
  | (other, previous) :: rest =>
    if key.matchesPart other then (other, value) :: rest
    else (other, previous) :: put key value rest

/-- Entries put one after the other, so that the last value under a key stays. -/
def ofEntries (entries : List (Datum × α)) : Table α :=
  entries.foldl (fun known entry => put entry.1 entry.2 known) []

end Table

namespace Datum

/-- The name of the type of the first list or table among data. -/
def changeableAmong (data : List Datum) : Option String :=
  data.findSome? fun
    | .list _ => some "list"
    | .table _ => some "dict"
    | _ => none

mutual

/-- The name of the type that keeps a datum from being a key, if one does. -/
def changeable? : Datum → Option String
  | .list _ => some "list"
  | .table _ => some "dict"
  | .tuple items => changeableItem? items
  | .model value => changeableAmong (value.fields.map Prod.snd)
  | _ => none

/-- The name of the type that keeps the first item from being a key for which
there is one. -/
def changeableItem? : List Datum → Option String
  | [] => none
  | item :: rest => (changeable? item).or (changeableItem? rest)

end

end Datum

end TlsTranscript
