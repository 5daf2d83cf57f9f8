import TlsTranscript.Datum.Operand

/-!
# Shared values

In a session a list or table can be known under several names and stand inside
several others, and a change of it is then seen everywhere. Models and registries
do not change, but something can be attached to them under names, their notes. So
what a name is bound to is kept in a numbered cell, and other values refer to the
cell. A datum is read off a value by looking up its cells; it is a snapshot that
later changes do not touch.
-/

namespace TlsTranscript

/-- A value that may refer to cells. -/
inductive Held where
  /-- A datum that refers to none. -/
  | fixed (value : Datum)
  /-- A list. -/
  | list (items : List Held)
  /-- A list of fixed length. -/
  | tuple (items : List Held)
  /-- A table. -/
  | table (entries : List (Datum × Held))
  /-- A model or registries with notes. -/
  | noted (value : Datum) (notes : List (String × Held))
  /-- What a cell holds. -/
  | cell (index : Nat)

namespace Held

/-- Whether a value is moved to a cell when a name is bound to it. -/
def isShared : Held → Bool
  | .list _ => true
  | .table _ => true
  | .noted _ _ => true
  | _ => false

/-- A datum with what is attached to it, if it shows that. -/
def withNotes (notes : List (String × Datum)) : Datum → Datum
  | .registries serial _ => .registries serial notes
  | other => other

mutual

/-- The datum of a value, the data of cells given: those of cells in general and
those of cells inside notes. The tables of registries are no notes in this
respect. -/
def readWith (cells noteCells : Nat → Datum) : Held → Datum
  | .fixed value => value
  | .list items => .list (readAllWith cells noteCells items)
  | .tuple items => .tuple (readAllWith cells noteCells items)
  | .table entries => .table (readEntriesWith cells noteCells entries)
  | .noted value notes => withNotes (readNotesWith cells noteCells notes) value
  | .cell index => cells index

/-- The data of values. -/
def readAllWith (cells noteCells : Nat → Datum) : List Held → List Datum
  | [] => []
  | held :: rest => readWith cells noteCells held :: readAllWith cells noteCells rest

/-- The entries of a table of values. -/
def readEntriesWith (cells noteCells : Nat → Datum) :
    List (Datum × Held) → List (Datum × Datum)
  | [] => []
  | (key, held) :: rest =>
    (key, readWith cells noteCells held) :: readEntriesWith cells noteCells rest

/-- The data of notes. -/
def readNotesWith (cells noteCells : Nat → Datum) :
    List (String × Held) → List (String × Datum)
  | [] => []
  | (name, held) :: rest =>
    let value := readWith (if name = Datum.tablesName then cells else noteCells) noteCells held
    (name, value) :: readNotesWith cells noteCells rest

end

/-- Where in a list an index leads; a negative one counts from the end. -/
def position (length : Nat) (index : Int) : Except OutOfRange Nat :=
  let place := if index < 0 then index + length else index
  if Datum.isBeyondAnyEnd index then .error .beyondAnyEnd
  else if 0 ≤ place ∧ place < length then .ok place.toNat
  else .error .beyondEnd

/-- A list with another item at an index. -/
def replaceItem (items : List Held) (index : Datum) (held : Held) : Except Failure Held :=
  match index.toInt? with
  | none => .error (.misfit (.notAnIndex index.typeName))
  | some index =>
    match position items.length index with
    | .ok place => .ok (.list (items.set place held))
    | .error cause => .error (.outOfRange cause)

/-- A table with a value put under a key. -/
def putEntry (entries : Table Held) (key : Datum) (held : Held) : Except Failure Held :=
  match key.changeable? with
  | some typeName => .error (.misfit (.notAKey typeName))
  | none => .ok (.table (Table.put key held entries))

end Held

/-- The cells and names of a session. -/
structure Store where
  /-- The contents of the cells by their numbers. -/
  cells : List Held := []
  /-- What the names are bound to. -/
  names : Keyed String Held := []
  /-- How many serial numbers have been given out. -/
  serial : Nat := 0

namespace Store

/-- The datum of a cell, cells inside cells followed up to a depth. Notes are
read in so many layers, since notes may lead back to where they are attached. -/
def readCell (store : Store) : Nat → Nat → Nat → Datum
  | 0, _, _ => .absent
  | depth + 1, layers, index =>
    let inNotes := match layers with
      | 0 => fun _ => .absent
      | layers + 1 => store.readCell depth layers
    match store.cells[index]? with
    | none => .absent
    | some content => content.readWith (store.readCell depth layers) inNotes

/-- How many layers of notes are read: a structure that is rendered from notes
may hold another one. -/
def noteLayers : Nat := 2

/-- The datum of a value. No cell lies deeper than there are cells. -/
def read (store : Store) (held : Held) : Datum :=
  let cells := store.readCell (store.cells.length + 1) noteLayers
  held.readWith cells cells

/-- What a value holds, which is what its cell holds if it refers to one. -/
def content (store : Store) : Held → Held
  | .cell index => store.cells[index]?.getD (.fixed .absent)
  | other => other

/-- A name bound to a value, which is moved to a new cell if it is shared. -/
def bind (store : Store) (name : String) (held : Held) : Store :=
  if held.isShared then
    { store with
      cells := store.cells ++ [held]
      names := Keyed.put name (.cell store.cells.length) store.names }
  else { store with names := Keyed.put name held store.names }

/-- A cell with another content. -/
def replace (store : Store) (index : Nat) (content : Held) : Store :=
  { store with cells := store.cells.set index content }

/-- A new serial number. -/
def nextSerial (store : Store) : Nat × Store :=
  (store.serial, { store with serial := store.serial + 1 })

end Store

end TlsTranscript
