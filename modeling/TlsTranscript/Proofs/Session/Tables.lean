import Mathlib.Data.List.Forall2
import TlsTranscript.Proofs.Rendering.Lookup
import TlsTranscript.Proofs.Session.Cells

/-!
# Copied tables

Registries are built from tables that are copied, so they hold what the tables hold then.
The names in a table are shared all the same: only names that refer to no cell, as texts
do, are sure to stay. Registries with such names have one datum in every store, and their
table for a kind is the one that was given under its name.
-/

namespace TlsTranscript

open Changing Framing

/-- A result that can be had comes from one that can be had. -/
theorem Except.exists_of_bind_eq_ok {α β ε : Type} {result : Except ε α} {next : α → Except ε β}
    {last : β} (h : (result >>= next) = .ok last) :
    ∃ value, result = .ok value ∧ next value = .ok last := by
  cases result with
  | error failure => cases h
  | ok value => exact ⟨value, rfl, h⟩

/-- A list of results that can all be had is one result for each item. -/
theorem Except.forall₂_of_mapM {α β ε : Type} {f : α → Except ε β} {items : List α}
    {values : List β} (h : items.mapM f = .ok values) :
    List.Forall₂ (fun item value => f item = .ok value) items values := by
  induction items generalizing values with
  | nil =>
    obtain rfl := Except.ok.inj h
    exact .nil
  | cons item rest ih =>
    rw [List.mapM_cons] at h
    obtain ⟨value, hitem, hrest⟩ := exists_of_bind_eq_ok h
    obtain ⟨others, hothers, hvalues⟩ := exists_of_bind_eq_ok hrest
    obtain rfl := Except.ok.inj hvalues
    exact .cons hitem (ih hothers)

/-- An item of the one list is related to one of the other. -/
theorem exists_of_mem_of_forall₂ {α β : Type} {related : α → β → Prop} {items : List α}
    {values : List β} (h : List.Forall₂ related items values) {item : α} (hmem : item ∈ items) :
    ∃ value ∈ values, related item value := by
  induction h with
  | nil => cases hmem
  | cons hfirst _ ih =>
    rcases List.mem_cons.mp hmem with rfl | hmem
    · exact ⟨_, List.mem_cons_self, hfirst⟩
    · obtain ⟨value, hvalue, hrelated⟩ := ih hmem
      exact ⟨value, List.mem_cons_of_mem _ hvalue, hrelated⟩

/-- Lists that are related item by item show the same where related items do. -/
theorem map_eq_map_of_forall₂ {α β γ : Type} {first : α → γ} {second : β → γ} {items : List α}
    {values : List β}
    (h : List.Forall₂ (fun item value => first item = second value) items values) :
    items.map first = values.map second := by
  rw [← List.forall₂_eq_eq_eq, List.forall₂_map_left_iff, List.forall₂_map_right_iff]
  exact h

namespace Held

/-- The datum of a value by itself, whatever cells hold. -/
def alone (held : Held) : Datum := held.readWith (fun _ => .absent) fun _ => .absent

/-- Whether a value has one datum whatever cells hold. -/
def Settled (held : Held) : Prop :=
  ∀ cells noteCells, held.readWith cells noteCells = held.alone

/-- A datum that refers to no cell is settled. -/
theorem settled_fixed (value : Datum) : (Held.fixed value).Settled := fun _ _ => rfl

/-- The entries of a table are read one by one. -/
theorem readEntriesWith_eq_map (cells noteCells : Nat → Datum) (entries : List (Datum × Held)) :
    readEntriesWith cells noteCells entries =
      entries.map fun entry => (entry.1, entry.2.readWith cells noteCells) := by
  induction entries with
  | nil => rfl
  | cons entry rest ih => rw [readEntriesWith, ih, List.map_cons]

/-- The entries of a table with settled values. -/
theorem readEntriesWith_of_settled {entries : List (Datum × Held)}
    (h : ∀ entry ∈ entries, entry.2.Settled) (cells noteCells : Nat → Datum) :
    readEntriesWith cells noteCells entries =
      entries.map fun entry => (entry.1, entry.2.alone) := by
  rw [readEntriesWith_eq_map]
  refine List.map_congr_left fun entry hentry => ?_
  rw [h entry hentry]

/-- The datum of a table with settled values. -/
theorem alone_table {entries : List (Datum × Held)} (h : ∀ entry ∈ entries, entry.2.Settled) :
    (Held.table entries).alone = .table (entries.map fun entry => (entry.1, entry.2.alone)) := by
  rw [alone, readWith, readEntriesWith_of_settled h]

/-- A table with settled values is settled. -/
theorem settled_table {entries : List (Datum × Held)} (h : ∀ entry ∈ entries, entry.2.Settled) :
    (Held.table entries).Settled := by
  intro cells noteCells
  rw [alone_table h, readWith, readEntriesWith_of_settled h]

/-- The table of tables that registries have, from tables under the names of their kinds. -/
def ofCopies (copies : Keyed String (Table Held)) : Held :=
  .table (copies.map fun copy => (.text copy.1, .table copy.2))

/-- Tables with settled names in a table. -/
theorem settled_ofCopies {copies : Keyed String (Table Held)}
    (h : ∀ copy ∈ copies, ∀ entry ∈ copy.2, entry.2.Settled) :
    (ofCopies copies).Settled ∧ (ofCopies copies).alone =
      .table (copies.map fun copy => (.text copy.1, (Held.table copy.2).alone)) := by
  have hcopies : ∀ entry ∈ copies.map fun copy => (Datum.text copy.1, Held.table copy.2),
      entry.2.Settled := by
    intro entry hentry
    obtain ⟨copy, hcopy, rfl⟩ := List.mem_map.mp hentry
    exact settled_table (h copy hcopy)
  refine ⟨settled_table hcopies, ?_⟩
  rw [ofCopies, alone_table hcopies, List.map_map]
  rfl

end Held

namespace Table

variable {α β : Type}

/-- What stands under words is found under them. -/
theorem get?_text (shown : α → β) (word : String) (entries : Keyed String α) :
    get? (.text word) (entries.map fun entry => (Datum.text entry.1, shown entry.2)) =
      (Keyed.get? word entries).map shown := by
  induction entries with
  | nil => rfl
  | cons entry rest ih =>
    have hmatch : (Datum.text word).matchesPart (.text entry.1) = (word == entry.1) := rfl
    rw [List.map_cons, get?, hmatch, ih, Keyed.get?]
    by_cases h : word = entry.1
    · rw [if_pos h, if_pos (beq_iff_eq.mpr h), Option.map_some]
    · rw [if_neg h, if_neg (by simpa using h)]

/-- What stands under a key is shown under it. -/
theorem get?_map (shown : α → β) (key : Datum) (entries : Table α) :
    get? key (entries.map fun entry => (entry.1, shown entry.2)) =
      (get? key entries).map shown := by
  induction entries with
  | nil => rfl
  | cons entry rest ih =>
    rw [List.map_cons, get?, get?, ih]
    split <;> rfl

/-- A value that is put under a code stands under it, and other codes keep theirs. -/
theorem get?_put_integer (code other : Int) (value : α) (entries : Table α) :
    get? (.integer other) (put (.integer code) value entries) =
      if other = code then some value else get? (.integer other) entries := by
  induction entries with
  | nil =>
    have hself : (Datum.integer code).integral? = some code := rfl
    rw [put, get?, get?, get?, Datum.matchesPart_integer, hself]
    by_cases h : other = code
    · simp [h]
    · simp [h, Ne.symm h]
  | cons entry rest ih =>
    obtain ⟨key, found⟩ := entry
    rw [put, Datum.matchesPart_integer]
    by_cases hkey : key.integral? = some code
    · rw [if_pos (beq_iff_eq.mpr hkey), get?, get?, Datum.matchesPart_integer, hkey]
      by_cases h : other = code
      · simp [h]
      · simp [h, Ne.symm h]
    · rw [if_neg (by simpa using hkey), get?, get?, Datum.matchesPart_integer, ih]
      by_cases hother : key.integral? = some other
      · have hne : other ≠ code := fun he => hkey (he ▸ hother)
        simp [hother, hne]
      · simp [hother]

end Table

/-- A kind is given by its own name. -/
theorem Datum.name_of_kindOperand {word : String} {kind : RegistryKind}
    (h : (Datum.text word).kindOperand = .ok kind) : kind.name = word := by
  unfold kindOperand at h
  dsimp only at h
  cases hfound : RegistryKind.ofName? word with
  | none =>
    rw [hfound] at h
    dsimp only at h
    cases hliteral : (Datum.text word).literalOperand <;> rw [hliteral] at h <;> cases h
  | some found =>
    rw [hfound] at h
    obtain rfl := Except.ok.inj h
    simpa using List.find?_some hfound

namespace Store

variable {store : Store}

/-- A table in a cell is copied entry by entry. -/
theorem tableOf_cell {index : Nat} {entries : List (Datum × Held)}
    (h : store.cells[index]? = some (.table entries)) :
    store.tableOf (.cell index) = .ok entries := by
  have hcontent : store.content (.cell index) = .table entries := by
    rw [content, h, Option.getD_some]
  rw [tableOf, hcontent]

/-- A copy of a table that was given under the name of its kind. -/
structure Copies (store : Store) (entry : String × Held) (copy : String × Table Held) : Prop where
  /-- The name is that of a kind. -/
  kind : ∃ kind : RegistryKind, kind.name = copy.1
  /-- The name is the one that was given. -/
  name : copy.1 = entry.1
  /-- The entries are copied. -/
  table : store.tableOf entry.2 = .ok copy.2

/-- Named tables are copied one by one. -/
theorem kindTables_eq_ok {tables : List (String × Held)} {copied : Held}
    (h : store.kindTables tables = .ok copied) :
    ∃ copies, copied = .ofCopies copies ∧ List.Forall₂ store.Copies tables copies := by
  unfold kindTables at h
  split at h
  · cases h
  · next hgiven =>
    obtain ⟨kinds, hkinds, hrest⟩ := Except.exists_of_bind_eq_ok h
    obtain ⟨entries, hentries, hcopied⟩ := Except.exists_of_bind_eq_ok hrest
    obtain rfl := Except.ok.inj hcopied
    replace hkinds := Except.forall₂_of_mapM hkinds
    replace hentries := Except.forall₂_of_mapM hentries
    -- kinds and copies come from two passes over the same tables, which are joined here
    clear h hgiven hrest hcopied
    induction hkinds generalizing entries with
    | nil =>
      cases hentries
      exact ⟨[], rfl, .nil⟩
    | cons hkind _ ih =>
      cases hentries with
      | cons hcopy hothers =>
        obtain ⟨kind, hnamed, hk⟩ := Except.exists_of_bind_eq_ok hkind
        obtain rfl := Except.ok.inj hk
        obtain ⟨copy, hcopied, hc⟩ := Except.exists_of_bind_eq_ok hcopy
        obtain rfl := Except.ok.inj hc
        obtain ⟨copies, hmap, hall⟩ := ih _ hothers
        refine ⟨(kind.name, copy) :: copies, ?_,
          .cons ⟨⟨kind, rfl⟩, Datum.name_of_kindOperand hnamed, hcopied⟩ hall⟩
        rw [Held.ofCopies, Held.table.inj hmap, List.map_cons]

/-- Registries with settled tables have the same datum in every store. -/
theorem read_registries {index serial : Nat} {copied : Held}
    (hcell : store.cells[index]? =
      some (.noted (.registries serial []) [(Datum.tablesName, copied)]))
    (hsettled : copied.Settled) :
    store.read (.cell index) = .registries serial [(Datum.tablesName, copied.alone)] := by
  simp only [read, Held.readWith, readCell, hcell, Held.readNotesWith, if_true, Held.withNotes,
    hsettled _ _]

/-- A table is shown entry by entry. -/
theorem read_cell_table {index : Nat} {entries : List (Datum × Held)}
    (hcell : store.cells[index]? = some (.table entries)) :
    ∃ cells noteCells, store.read (.cell index) =
      .table (entries.map fun entry => (entry.1, entry.2.readWith cells noteCells)) := by
  refine ⟨store.readCell store.cells.length 2, store.readCell store.cells.length 1, ?_⟩
  simp only [read, Held.readWith, readCell, noteLayers, hcell, Held.readEntriesWith_eq_map]

/-- A table shows the settled value that was put into it under a code. -/
theorem read_put_integer {index : Nat} {code : Int} {held : Held} {entries : Table Held}
    (hcell : store.cells[index]? = some (.table (Table.put (.integer code) held entries)))
    (hsettled : held.Settled) :
    ∃ shown, store.read (.cell index) = .table shown ∧
      Table.get? (.integer code) shown = some held.alone := by
  obtain ⟨cells, noteCells, hread⟩ := read_cell_table hcell
  refine ⟨_, hread, ?_⟩
  rw [Table.get?_map (Held.readWith cells noteCells), Table.get?_put_integer,
    if_pos rfl, Option.map_some, hsettled]

/-- A table with settled names shows its names. -/
theorem read_table {index : Nat} {entries : List (Datum × Held)}
    (hcell : store.cells[index]? = some (.table entries))
    (hsettled : ∀ entry ∈ entries, entry.2.Settled) :
    store.read (.cell index) = (Held.table entries).alone := by
  obtain ⟨cells, noteCells, hread⟩ := read_cell_table hcell
  rw [hread, ← Held.settled_table hsettled cells noteCells, Held.readWith,
    Held.readEntriesWith_eq_map]

end Store

/-- The table for a kind in registries is the one under its name. -/
theorem Operation.tableIn_registries (serial : Nat) (tables : Table Datum) (kind : RegistryKind) :
    tableIn (.registries serial [(Datum.tablesName, .table tables)]) (.text kind.name) =
      .ok ((Table.get? (.text kind.name) tables).getD (.table [])) := by
  have hnaming : (Datum.registries serial [(Datum.tablesName, .table tables)]).namingOperand
      "table" = .ok (.given tables) := rfl
  rw [tableIn, hnaming]
  change (do return (Naming.given tables).table (← (Datum.text kind.name).kindOperand) :
    Except Failure Datum) = _
  rw [RegistryKind.kindOperand_name]
  rfl

namespace Term

/-- Named values are built in their order, and where a name is asked for, it is what the name
was bound to at first. -/
theorem forall₂_of_buildNamed {fields : List (String × Term)} {built : List (String × Held)}
    {store after : Store} (h : runIn (buildNamed fields) store = (.ok built, after)) :
    List.Forall₂ (fun field entry => entry.1 = field.1 ∧ ∀ name, field.2 = .variable name →
      Keyed.get? name store.names = some entry.2) fields built := by
  induction fields generalizing built store with
  | nil =>
    cases h
    exact .nil
  | cons field rest ih =>
    obtain ⟨word, term⟩ := field
    rw [buildNamed] at h
    obtain ⟨held, between, hheld, hrest⟩ := runIn_bind_eq_ok h
    obtain ⟨others, last, hothers, hbuilt⟩ := runIn_bind_eq_ok hrest
    cases hbuilt
    have hnames := (Step.numbering_of_build hheld).2
    refine .cons ⟨rfl, ?_⟩ ((ih hothers).imp fun field entry hentry => ?_)
    · rintro name rfl
      rw [runIn_build_variable] at hheld
      cases hbound : Keyed.get? name store.names with
      | none => simp [hbound] at hheld
      | some bound =>
        rw [hbound] at hheld
        cases hheld
        rfl
    · rw [← hnames]
      exact hentry

/-- Registries are built from copies of the tables that are built. -/
theorem build_registries_eq_ok {tables : List (String × Term)} {held : Held}
    {store after : Store} (h : runIn (build (.registries tables)) store = (.ok held, after)) :
    ∃ built last copied, runIn (buildNamed tables) store = (.ok built, last) ∧
      last.kindTables built = .ok copied ∧
      held = .noted (.registries last.serial []) [(Datum.tablesName, copied)] ∧
      Store.numbering.Passes last after := by
  rw [build] at h
  obtain ⟨built, last, hbuilt, hrest⟩ := runIn_bind_eq_ok h
  rw [runIn_bind_of_ok (runIn_get last)] at hrest
  obtain ⟨copied, between, hcopied, hnumbered⟩ := runIn_bind_eq_ok hrest
  cases hresult : last.kindTables built with
  | error failure =>
    rw [hresult] at hcopied
    cases hcopied
  | ok found =>
    rw [hresult] at hcopied
    cases hcopied
    cases hnumbered
    exact ⟨built, last, _, hbuilt, hresult, rfl, rfl, rfl⟩

end Term

end TlsTranscript
