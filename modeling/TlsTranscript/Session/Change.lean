import TlsTranscript.Session.Deed

/-!
# Changes of named values

What can be done to the value that a name is bound to: a list or table takes
values under indices or keys, and models and registries take notes. A model takes
notes only under names that start with an underscore, refuses every change of its
fields, and keeps its notes.

Under one name a model has all that it holds, and exchanging that goes around the
checks: fields and notes are then those of the new contents. It is described for new
contents that are just the fields with scalars of their types, given by a table of
their own. Models with other contents are no models here, and what the validation
library does with names of its own is left open, so that such an attempt ends in a
failure that says so.
-/

namespace TlsTranscript

namespace Deed

/-- Binds a name. -/
def bindName (name : String) (value : Term) : Deed Datum := do
  let held ← onStore value.build
  modify fun session => { session with store := session.store.bind name held }
  datumUnder name

/-- The cell that a name is bound to with its content, if it is bound to one. -/
def cellUnder (name : String) : Deed (Option (Nat × Held)) := do
  match ← heldUnder name with
  | .cell index => return (← get).store.cells[index]?.map fun content => (index, content)
  | _ => return none

/-- A cell with another content. -/
def replace (index : Nat) (content : Held) : Deed Unit :=
  modify fun session => { session with store := session.store.replace index content }

/-- Puts a value into a list or table. -/
def assign (name : String) (key value : Datum) : Deed Datum := do
  match ← cellUnder name with
  | some (index, .list items) =>
    replace index (← ofResult (Held.replaceItem items key (.fixed value)))
    datumUnder name
  | some (index, .table entries) =>
    replace index (← ofResult (Held.putEntry entries key (.fixed value)))
    datumUnder name
  | _ => throw ((← datumUnder name).refuseItem key)

/-- Whether a model takes a note under a name. -/
def isNoteName (name : String) : Bool := name.toList.head? == some '_'

/-- Whether under a name a model has all that it holds, or the validation library keeps what
it needs to know of the model. -/
def isReserved (name : String) : Bool :=
  name == Datum.contentsName || "__pydantic_".toList.isPrefixOf name.toList ||
    ["__private_attributes__", "__fields_set__", "__weakref__", "_setattr_handler"].contains name

/-- Why a datum does not take a change: a model refuses it, the parts of a number
are fixed, and other data have nothing that could be changed. -/
def refuseChange (datum : Datum) (field : String) : Failure :=
  match datum, datum.property? field with
  | .model value, _ => .invalid value.kind.name [⟨[.field field], .frozen⟩]
  | .registries _ _, _ => datum.lacking field
  | .flag _, some _ => .fixedProperty (Datum.integer 0).typeName field
  | other, some _ => .fixedProperty other.typeName field
  | other, none => other.lacking field

/-- Whether a note can be attached to a datum under a name. -/
def takesNote (name : String) : Datum → Bool
  | .model _ => isNoteName name
  | .registries _ _ => true
  | _ => false

/-- Entries under words as notes. -/
def notesOf (entries : List (Datum × Held)) : List (String × Held) :=
  entries.filterMap fun entry =>
    match entry.1 with
    | .text name => some (name, entry.2)
    | _ => none

/-- All notes at once in the place of others. -/
def exchangeNotes (value : Held) : Deed (List (String × Held)) := do
  let store := (← get).store
  match store.content value with
  | .table entries => return notesOf entries
  | other => throw (.misfit (.notContents (store.read other).typeName))

/-- Scalars under words, if a table holds nothing else. -/
def scalarsOf : List (Datum × Held) → Option (Keyed String Datum)
  | [] => some []
  | (.text name, .fixed value) :: rest => (scalarsOf rest).map fun known => (name, value) :: known
  | _ => none

/-- All that a model holds exchanged at once. Only what was given in its making stays
known. -/
def exchangeContents (model : Model) (value : Held) (notes : List (String × Held)) :
    Deed (Datum × List (String × Held)) := do
  let store := (← get).store
  match store.content value with
  | .table entries =>
    match value, (scalarsOf entries).bind model.kind.ofContents? with
    | .table _, some other => return (.model other, notes.filter fun note => !isNoteName note.1)
    | _, _ => throw (.undescribed model.kind.name)
  | other => throw (.misfit (.notContents (store.read other).typeName))

/-- A datum and its notes after one more is attached. No datum says what a record is, and
under one name registries have all their notes and a model all that it holds. -/
def attach (datum : Datum) (field : String) (value : Held) (notes : List (String × Held)) :
    Deed (Datum × List (String × Held)) := do
  match datum with
  | .registries _ _ =>
    if field = Datum.contentsName then return (datum, ← exchangeNotes value)
  | .model model =>
    if field = Datum.contentsName then return ← exchangeContents model value notes
    if isReserved field then throw (.undescribed model.kind.name)
  | _ => pure ()
  if field = Datum.className then
    throw (.misfit (.notAClass ((← get).store.read value).typeName))
  return (datum, Keyed.put field value notes)

/-- Tries to change a field or to attach a note. -/
def setField (name field : String) (value : Term) : Deed Datum := do
  let _ ← heldUnder name
  let value ← onStore value.build
  match ← cellUnder name with
  | some (index, .noted datum notes) =>
    if takesNote field datum then
      let (datum, notes) ← attach datum field value notes
      replace index (.noted datum notes)
      return .absent
    else throw (refuseChange datum field)
  | _ => throw (refuseChange (← datumUnder name) field)

/-- The notes after those under a name are removed, if there are any. -/
def detach (field : String) (notes : List (String × Held)) : Option (List (String × Held)) :=
  if field = Datum.contentsName then some []
  else if (Keyed.get? field notes).isSome then some (Keyed.erase field notes)
  else none

/-- Tries to remove a field or a note. A model keeps its notes. -/
def removeField (name field : String) : Deed Datum := do
  match ← cellUnder name with
  | some (index, .noted (.registries serial shown) notes) =>
    match detach field notes with
    | some rest =>
      replace index (.noted (.registries serial shown) rest)
      return .absent
    | none =>
      if field = Datum.className then throw (.misfit .classRemoved)
      else throw (refuseChange (.registries serial shown) field)
  | _ => throw (refuseChange (← datumUnder name) field)

/-- The fields and notes of a model as a table. -/
def contents (model : Model) (notes : List (String × Held)) : Deed Datum := do
  let notes := notes.filter fun note => isNoteName note.1
  return .ofWords (model.fields ++ (← onStore (Building.readNamed notes)))

/-- Reads a property or a note. -/
def property (name field : String) : Deed Datum := do
  match ← cellUnder name with
  | some (_, .noted datum notes) =>
    match Keyed.get? field notes, datum with
    | some held, _ => onStore (Building.read held)
    | none, .model value =>
      if field = Datum.contentsName then contents value notes
      else ofResult (datum.propertyOperand field)
    | none, _ => ofResult ((← datumUnder name).propertyOperand field)
  | _ => ofResult ((← datumUnder name).propertyOperand field)

end Deed

end TlsTranscript
