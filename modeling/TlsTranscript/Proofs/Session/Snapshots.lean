import Mathlib.Algebra.Ring.Int.Defs
import TlsTranscript.Proofs.Session.Calls
import TlsTranscript.Proofs.Session.Tables

/-!
# Registries are snapshots

Registries that are built from tables hold copies of them. Whatever a session does then, if
only no note is attached to the registries or taken from them, they stand for the same
datum, and every operation that looks at nothing but its arguments gives with them what it
gave at first. Their tables take no values. The tables that they were built from do, and
show them under all their names and in all registries that are built later.
-/

namespace TlsTranscript

open Changing Framing

namespace Store

/-- Whether the names in the tables that registries are built from are settled. -/
def NamesSettled (store : Store) (tables : List (String × Term)) : Prop :=
  ∀ built after, runIn (Term.buildNamed tables) store = (.ok built, after) →
    ∀ entry ∈ built, ∀ copy, after.tableOf entry.2 = .ok copy → ∀ name ∈ copy, name.2.Settled

/-- Building named values leaves the cells as they are. -/
theorem cells_of_buildNamed {store after : Store} {tables : List (String × Term)}
    {built : List (String × Held)}
    (h : runIn (Term.buildNamed tables) store = (.ok built, after)) :
    after.cells = store.cells := by
  have hnumbered := Term.covers_buildNamed tables store
  rw [h] at hnumbered
  exact hnumbered.1

/-- Whether tables are those that names are bound to, and each name in them is a text, nothing
or another datum that refers to no cell. -/
def BoundTables (store : Store) (tables : List (String × Term)) : Prop :=
  ∀ field ∈ tables, ∃ source place entries, field.2 = .variable source ∧
    Keyed.get? source store.names = some (.cell place) ∧
    store.cells[place]? = some (.table entries) ∧ ∀ name ∈ entries, ∃ value, name.2 = .fixed value

/-- The names in tables that names are bound to are settled. -/
theorem BoundTables.namesSettled {store : Store} {tables : List (String × Term)}
    (h : store.BoundTables tables) : store.NamesSettled tables := by
  intro built after hbuilt entry hentry copy hcopy name hname
  obtain ⟨field, hfield, -, hvariable⟩ :=
    exists_of_mem_of_forall₂ (Term.forall₂_of_buildNamed hbuilt).flip hentry
  obtain ⟨source, place, entries, hsource, hbound, hfound, hfixed⟩ := h field hfield
  have hheld : entry.2 = .cell place :=
    Option.some.inj ((hvariable source hsource).symm.trans hbound)
  rw [hheld, tableOf_cell (cells_of_buildNamed hbuilt ▸ hfound)] at hcopy
  obtain rfl := Except.ok.inj hcopy
  obtain ⟨value, hvalue⟩ := hfixed name hname
  rw [hvalue]
  exact Held.settled_fixed value

/-- A cell holds registries that stand for a datum, whatever other cells hold. -/
def HoldsRegistries (store : Store) (index : Nat) (datum : Datum) : Prop :=
  ∃ serial copied, store.cells[index]? =
      some (.noted (.registries serial []) [(Datum.tablesName, copied)]) ∧
    copied.Settled ∧ datum = .registries serial [(Datum.tablesName, copied.alone)]

/-- A name of such a cell stands for the datum. -/
theorem HoldsRegistries.shows {store : Store} {index : Nat} {datum : Datum}
    (h : store.HoldsRegistries index datum) {name : String}
    (hbound : Keyed.get? name store.names = some (.cell index)) : store.Shows name datum := by
  obtain ⟨serial, copied, hcell, hsettled, rfl⟩ := h
  exact ⟨.cell index, hbound, read_registries hcell hsettled⟩

end Store

/-- What registries show under the name of every kind is a table, and under the name that a
table was given under just what this table shows. -/
structure Datum.ShowsTables (datum : Datum) (store : Store) (tables : List (String × Term)) :
    Prop where
  /-- There is a table for each kind. -/
  table : ∀ kind : RegistryKind, ∃ entries,
    Operation.tableIn datum (.text kind.name) = .ok (.table entries)
  /-- The table that a name is bound to is shown. -/
  source : (tables.map Prod.fst).Nodup → ∀ {word source : String} {place : Nat}
    {entries : List (Datum × Held)}, (word, Term.variable source) ∈ tables →
    Keyed.get? source store.names = some (.cell place) →
    store.cells[place]? = some (.table entries) →
    Operation.tableIn datum (.text word) = .ok (store.read (.cell place))

/-- Registries show the copies of the tables that they were built from. -/
theorem Datum.showsTables_of_copies {store last : Store} {tables : List (String × Term)}
    {built : List (String × Held)} {copies : Keyed String (Table Held)} (serial : Nat)
    (hbuilt : List.Forall₂ (fun field entry => entry.1 = field.1 ∧ ∀ name,
      field.2 = .variable name → Keyed.get? name store.names = some entry.2) tables built)
    (hcopies : List.Forall₂ last.Copies built copies) (hcells : last.cells = store.cells)
    (hsettled : ∀ copy ∈ copies, ∀ entry ∈ copy.2, entry.2.Settled) :
    (Datum.registries serial [(tablesName, (Held.ofCopies copies).alone)]).ShowsTables store
      tables := by
  have hshown : ∀ kind : RegistryKind, Operation.tableIn
      (.registries serial [(tablesName, (Held.ofCopies copies).alone)]) (.text kind.name) =
        .ok (((Keyed.get? kind.name copies).map fun copy => (Held.table copy).alone).getD
          (.table [])) := by
    intro kind
    rw [(Held.settled_ofCopies hsettled).2, Operation.tableIn_registries,
      Table.get?_text (fun copy => (Held.table copy).alone)]
  constructor
  · intro kind
    rw [hshown]
    cases Keyed.get? kind.name copies with
    | none => exact ⟨[], rfl⟩
    | some copy => exact ⟨_, by rw [Option.map_some, Option.getD_some, Held.alone, Held.readWith]⟩
  · intro hnodup word source place entries hmem hbound hfound
    have hwords : copies.map Prod.fst = tables.map Prod.fst :=
      (map_eq_map_of_forall₂ (hcopies.flip.imp fun _ _ h => h.name)).trans
        (map_eq_map_of_forall₂ (hbuilt.flip.imp fun _ _ h => h.1))
    obtain ⟨⟨name, held⟩, hentry, rfl, hsource⟩ := exists_of_mem_of_forall₂ hbuilt hmem
    obtain ⟨⟨other, copy⟩, hcopy, ⟨kind, rfl⟩, hname, htable⟩ :=
      exists_of_mem_of_forall₂ hcopies hentry
    obtain rfl : Held.cell place = held := Option.some.inj (hbound.symm.trans (hsource source rfl))
    obtain rfl : entries = copy :=
      Except.ok.inj ((Store.tableOf_cell (hcells ▸ hfound)).symm.trans htable)
    have hget := Keyed.get?_of_mem (hwords ▸ hnodup) hcopy
    dsimp only at hname hget
    rw [← hname, hshown, hget, Store.read_table hfound (hsettled _ hcopy)]
    rfl

namespace Deed

/-- Registries are bound to a new cell, and show the tables that they were built from. -/
theorem runIn_bindName_registries {session after : Session} {name : String}
    {tables : List (String × Term)} {result : Datum}
    (hsettled : session.store.NamesSettled tables)
    (h : runIn (bindName name (.registries tables)) session = (.ok result, after)) :
    ∃ index, Keyed.get? name after.store.names = some (.cell index) ∧
      after.store.HoldsRegistries index result ∧
      result.ShowsTables session.store tables := by
  obtain ⟨held, between, hheld, hrest⟩ := runIn_bind_eq_ok h
  obtain ⟨⟨⟩, bound, hbind, hdatum⟩ := runIn_bind_eq_ok hrest
  rcases hmade : runIn (Term.build (.registries tables)) session.store with ⟨outcome, store⟩
  rw [runIn_onStore, hmade] at hheld
  cases hheld
  obtain ⟨built, last, copied, hbuilt, hcopied, rfl, -⟩ := Term.build_registries_eq_ok hmade
  obtain ⟨copies, rfl, hall⟩ := Store.kindTables_eq_ok hcopied
  cases hbind
  -- every copy is that of a table that was built, and those have settled names
  have hcopies : ∀ copy ∈ copies, ∀ entry ∈ copy.2, entry.2.Settled := by
    intro copy hcopy
    obtain ⟨entry, hentry, hcopied⟩ := exists_of_mem_of_forall₂ hall.flip hcopy
    exact hsettled built last hbuilt entry hentry copy.2 hcopied.table
  have hcell : Keyed.get? name (store.bind name (.noted (.registries last.serial [])
        [(Datum.tablesName, .ofCopies copies)])).names = some (.cell store.cells.length) := by
    simp [Store.bind, Held.isShared, Keyed.get?_put]
  have hholds : (store.bind name (.noted (.registries last.serial [])
        [(Datum.tablesName, .ofCopies copies)])).HoldsRegistries store.cells.length
      (.registries last.serial [(Datum.tablesName, (Held.ofCopies copies).alone)]) := by
    refine ⟨last.serial, _, ?_, (Held.settled_ofCopies hcopies).1, rfl⟩
    simp [Store.bind, Held.isShared]
  rw [runIn_datumUnder_of_shows (hholds.shows hcell)] at hdatum
  cases hdatum
  exact ⟨_, hcell, hholds, Datum.showsTables_of_copies last.serial
    (Term.forall₂_of_buildNamed hbuilt) hall (Store.cells_of_buildNamed hbuilt) hcopies⟩

end Deed

namespace Datum

/-- Whether a key, if it is an integer, is one that an index can be. -/
def WithinIndices (key : Datum) : Prop :=
  ∀ code, key.toInt? = some code → -2 ^ 63 ≤ code ∧ code < 2 ^ 63

/-- An index that no list is long enough for. -/
theorem isBeyondAnyEnd_iff (index : Int) :
    isBeyondAnyEnd index = true ↔ ¬(-2 ^ 63 ≤ index ∧ index < 2 ^ 63) := by
  have hhuge : hugeCount = 2 ^ 63 := by decide
  simp only [isBeyondAnyEnd, hhuge, Bool.or_eq_true, decide_eq_true_eq, beq_iff_eq]
  omega

/-- What takes no values refuses a key by its cause, but an integer that no index can be is
out of range at once. -/
theorem refusedEntry_eq (key : Datum) (cause : Misfit) :
    (key.WithinIndices → key.refusedEntry cause = .misfit cause) ∧
    (¬key.WithinIndices → key.refusedEntry cause = .outOfRange .beyondAnyEnd) := by
  unfold WithinIndices refusedEntry
  cases key.toInt? with
  | none => exact ⟨fun _ => rfl, fun h => absurd nofun h⟩
  | some index =>
    have hiff : isBeyondAnyEnd index = true ↔
        ¬∀ code, some index = some code → -2 ^ 63 ≤ code ∧ code < 2 ^ 63 := by
      rw [isBeyondAnyEnd_iff]
      simp
    refine ⟨fun h => ?_, fun h => ?_⟩
    · exact if_neg fun hbeyond => hiff.mp hbeyond h
    · exact if_pos (hiff.mpr h)

end Datum

namespace Operation

/-- An attempt to change a table fails and changes nothing. -/
theorem runIn_changeTable (arguments : List Datum) :
    ∃ failure, ∀ w, (changeTable.run arguments).runIn w = (.error failure, w) := by
  match arguments with
  | [registries, kind, key, value] =>
    change ∃ failure, ∀ w, Action.runIn (do
      throw (refuseEntry key (← Action.ofResult (tableIn registries kind)))) w =
        (.error failure, w)
    cases tableIn registries kind with
    | error failure => exact ⟨failure, fun _ => rfl⟩
    | ok table => exact ⟨refuseEntry key table, fun _ => rfl⟩
  | [] | [_] | [_, _] | [_, _, _] | _ :: _ :: _ :: _ :: _ :: _ =>
    exact ⟨.misfit .wrongArguments, fun _ => rfl⟩

/-- The assigned registries have a table for each kind. -/
theorem tableIn_absent (kind : RegistryKind) :
    ∃ entries, tableIn .absent (.text kind.name) = .ok (.table entries) := by
  have hnaming : Datum.absent.namingOperand "table" = .ok .assigned := rfl
  refine ⟨CodeTable.toData (Registries.assigned.table kind), ?_⟩
  rw [tableIn, hnaming]
  change (do return Naming.assigned.table (← (Datum.text kind.name).kindOperand) :
    Except Failure Datum) = _
  rw [RegistryKind.kindOperand_name]
  rfl

/-- An attempt to change a table of registries that have one. -/
theorem runIn_changeTable_of_table {registries kind : Datum} {entries : List (Datum × Datum)}
    (h : tableIn registries kind = .ok (.table entries)) (key value : Datum) (w : World) :
    (changeTable.run [registries, kind, key, value]).runIn w =
      (.error (key.refusedEntry .readOnlyTable), w) := by
  change Action.runIn (do
    throw (refuseEntry key (← Action.ofResult (tableIn registries kind)))) w = _
  rw [h]
  rfl

end Operation

namespace Session

open Deed

/-- What a session shows of registries in a cell: each of their names stands for their datum,
and calls with them have the answers that they had in an earlier session. -/
structure Recalls (later : Session) (index : Nat) (datum : Datum) (earlier : Session)
    (name : String) : Prop where
  /-- A name of the registries stands for their datum. -/
  shows : ∀ other, Keyed.get? other later.store.names = some (.cell index) →
    later.store.Shows other datum
  /-- An operation that looks at nothing but its arguments gives what it gave. -/
  answer : ∀ other, Keyed.get? other later.store.names = some (.cell index) →
    ∀ operation : Operation, operation.isQuiet = true → ∀ (callable : Interface)
      (positional : List (Option Datum)) (named : List (String × Option Datum))
      (listening : Bool),
    (later.answer ⟨.call (Call.under operation callable other positional named),
        listening⟩).1 =
      (earlier.answer ⟨.call (Call.under operation callable name positional named),
        listening⟩).1

/-- Registries that no step is aimed at are recalled. -/
theorem recalls_run {session : Session} {requests : List Request} {index : Nat} {datum : Datum}
    {name : String} (hbound : Keyed.get? name session.store.names = some (.cell index))
    (hholds : session.store.HoldsRegistries index datum) (h : session.Avoids index requests) :
    (session.run requests).2.Recalls index datum session name := by
  obtain ⟨serial, copied, hcell, hsettled, rfl⟩ := id hholds
  have hlater : (session.run requests).2.store.HoldsRegistries index
      (.registries serial [(Datum.tablesName, copied.alone)]) :=
    ⟨serial, copied, cell_run h hcell, hsettled, rfl⟩
  exact {
    shows := fun other hother => hlater.shows hother
    answer := fun other hother operation hquiet callable positional named listening =>
      answer_under (hlater.shows hother) (hholds.shows hbound) hquiet callable positional named
        listening }

/-- A call that fails before anything is recorded. -/
theorem answer_call_of_error {session after : Session} {call : Call} {listening : Bool}
    {failure : Failure}
    (hrun : runIn (Step.runCall call) (session.heard listening) = (.error failure, after))
    (hworld : after.world = (session.heard listening).world) :
    session.answer ⟨.call call, listening⟩ = (⟨.error failure, []⟩, after) := by
  rw [session.answer_of_deed rfl, hrun, hworld]
  rfl

/-- An attempt to change a table fails, whatever its arguments are, and leaves the world and
the cells and names as they are. -/
theorem answer_changeTable (session : Session) (callable : Interface) (positional : List Term)
    (named : List (String × Term)) (listening : Bool) :
    ∃ failure after, session.answer ⟨.call ⟨.changeTable, callable, positional, named⟩,
        listening⟩ = (⟨.error failure, []⟩, after) ∧
      after.world = (session.heard listening).world ∧
      Store.numbering.Passes session.store after.store := by
  let call : Call := ⟨.changeTable, callable, positional, named⟩
  obtain ⟨failure, after, hrun, hworld⟩ :=
    Step.runCall_fails call Operation.runIn_changeTable (session.heard listening)
  have hnumbered := Step.covers_runCall call (session.heard listening)
  rw [hrun] at hnumbered
  exact ⟨failure, after, answer_call_of_error hrun hworld, hworld, hnumbered⟩

/-- An attempt to change a table that is there is refused, and nothing is left behind. -/
theorem answer_changeTable_of_table {session : Session} {name : String} {datum : Datum}
    (h : session.store.Shows name datum) {callable : Interface}
    {positional : List (Option Datum)} {named : List (String × Option Datum)}
    {registries kind key value : Datum} {entries : List (Datum × Datum)}
    (harguments : callable.argumentsUnder datum positional named =
      .ok [registries, kind, key, value])
    (htable : Operation.tableIn registries kind = .ok (.table entries)) (listening : Bool) :
    session.answer ⟨.call (Call.under .changeTable callable name positional named),
        listening⟩ =
      (⟨.error (key.refusedEntry .readOnlyTable), []⟩, session.heard listening) := by
  have hheard : (session.heard listening).store.Shows name datum := h
  refine answer_call_of_error ?_ rfl
  rw [Step.runIn_runCall_under hheard, harguments]
  dsimp only
  rw [runIn_onWorld, Operation.runIn_changeTable_of_table htable]

/-- A value that is put into a table under a code is shown under it by every name of the
table. -/
theorem answer_assign_code {session : Session} {index : Nat} {entries : List (Datum × Held)}
    (hfound : session.store.cells[index]? = some (.table entries)) {name : String}
    (hbound : Keyed.get? name session.store.names = some (.cell index)) (code : Int)
    (value : Datum) (listening : Bool) :
    let request : Request := ⟨.assign name (.integer code) value, listening⟩
    ∃ shown, (session.answer request).1.outcome = .ok (.datum (.table shown)) ∧
      Table.get? (.integer code) shown = some value ∧
      ∀ other, Keyed.get? other session.store.names = some (.cell index) →
        (session.answer request).2.store.Shows other (.table shown) := by
  intro request
  have hkey : (Datum.integer code).changeable? = none := rfl
  have hheard : (session.heard listening).store = session.store := rfl
  let last := session.store.replace index
    (.table (Table.put (.integer code) (.fixed value) entries))
  have hrun : runIn (Deed.assign name (.integer code) value) (session.heard listening) =
      (.ok (last.read (.cell index)), { session.heard listening with store := last }) := by
    rw [← hheard] at hbound hfound
    rw [runIn_assign_table hbound hfound, hheard, hkey]
  have hlast : last.cells[index]? =
      some (.table (Table.put (.integer code) (.fixed value) entries)) :=
    Store.cells_replace_self hfound _
  obtain ⟨shown, hread, hshown⟩ := Store.read_put_integer hlast (Held.settled_fixed value)
  refine ⟨shown, ?_, hshown, fun other hother => ⟨.cell index, ?_, ?_⟩⟩
  · rw [session.answer_of_deed rfl, hrun, hread]
    rfl
  · rw [session.answer_of_deed rfl, hrun]
    exact hother
  · rw [session.answer_of_deed rfl, hrun]
    exact hread

/-- What a session keeps of registries that are bound to a name. -/
structure Keeps (made : Session) (name : String) (index : Nat) (datum : Datum) : Prop where
  /-- The name stays theirs unless it is bound again. -/
  bound : ∀ requests : List Request, (∀ request ∈ requests, request.step.binds? ≠ some name) →
    Keyed.get? name (made.run requests).2.store.names = some (.cell index)
  /-- Only what sets or removes a note can be aimed at them. -/
  avoids : ∀ requests : List Request,
    (∀ request ∈ requests, request.step.changesNotes = false) → made.Avoids index requests
  /-- They are recalled after all that is not aimed at them. -/
  recalls : ∀ requests, made.Avoids index requests →
    (made.run requests).2.Recalls index datum made name

/-- How a session answers attempts to put a value into a table of registries. -/
structure RefusesEntries (session : Session) : Prop where
  /-- They fail, and leave the world and the cells and names as they are. -/
  fails : ∀ (callable : Interface) (positional : List Term) (named : List (String × Term))
      (listening : Bool), ∃ failure after,
    session.answer ⟨.call ⟨.changeTable, callable, positional, named⟩, listening⟩ =
        (⟨.error failure, []⟩, after) ∧
      after.world = (session.heard listening).world ∧
      Store.numbering.Passes session.store after.store
  /-- The cause is that the table is read only, unless the key is an integer that no index
  can be. -/
  refuses : ∀ {name : String} {datum : Datum}, session.store.Shows name datum →
    ∀ {callable : Interface} {positional : List (Option Datum)}
      {named : List (String × Option Datum)} {registries kind key value : Datum},
    callable.argumentsUnder datum positional named = .ok [registries, kind, key, value] →
    ∀ {entries : List (Datum × Datum)},
    Operation.tableIn registries kind = .ok (.table entries) → ∀ listening : Bool,
    let request : Request :=
      ⟨.call (Call.under .changeTable callable name positional named), listening⟩
    (key.WithinIndices → session.answer request =
      (⟨.error (.misfit .readOnlyTable), []⟩, session.heard listening)) ∧
    (¬key.WithinIndices → session.answer request =
      (⟨.error (.outOfRange .beyondAnyEnd), []⟩, session.heard listening))
  /-- The assigned registries have tables too. -/
  assigned : ∀ kind : RegistryKind, ∃ entries,
    Operation.tableIn .absent (.text kind.name) = .ok (.table entries)

/-- What a session shows of a table in a cell. -/
structure Shares (session : Session) (index : Nat) (entries : Table Held) : Prop where
  /-- A value that is put into it is shown by each of its names. -/
  assign : ∀ name : String, Keyed.get? name session.store.names = some (.cell index) →
    ∀ (code : Int) (value : Datum) (listening : Bool),
    let request : Request := ⟨.assign name (.integer code) value, listening⟩
    ∃ shown, (session.answer request).1.outcome = .ok (.datum (.table shown)) ∧
      Table.get? (.integer code) shown = some value ∧
      ∀ other, Keyed.get? other session.store.names = some (.cell index) →
        (session.answer request).2.store.Shows other (.table shown)
  /-- After any steps it holds what it held and what was put into it. -/
  content : ∀ requests, (session.run requests).2.store.cells[index]? = some (.table
    ((session.puts index requests).foldl
      (fun known entry => Table.put entry.1 entry.2 known) entries))

/-- Registries that are built from tables with settled names, as all tables are that names are
bound to and that hold texts, show these tables as they were then, and go on showing them
whatever happens to the tables; their own tables take no values, those that they were built
from do. -/
theorem registries_stay (session : Session) :
    (∀ tables, session.store.BoundTables tables → session.store.NamesSettled tables) ∧
    (∀ (name : String) (tables : List (String × Term)) (listening : Bool) (result : Result),
      session.store.NamesSettled tables →
      (session.answer ⟨.bind name (.registries tables), listening⟩).1.outcome = .ok result →
      ∃ index datum, result = .datum datum ∧ datum.ShowsTables session.store tables ∧
        (session.answer ⟨.bind name (.registries tables), listening⟩).2.Keeps name index
          datum) ∧
    session.RefusesEntries ∧
    (∀ (index : Nat) (entries : Table Held),
      session.store.cells[index]? = some (.table entries) → session.Shares index entries) := by
  refine ⟨fun tables htables => htables.namesSettled,
    fun name tables listening result hsettled houtcome => ?_, ?_, fun index entries hc => ?_⟩
  · rcases hbind : runIn (bindName name (.registries tables)) (session.heard listening)
      with ⟨failure | datum, after⟩
    · rw [session.answer_of_deed rfl, hbind] at houtcome
      cases houtcome
    · rw [session.answer_of_deed rfl, hbind] at houtcome
      cases houtcome
      have hheard : (session.heard listening).store.NamesSettled tables := hsettled
      obtain ⟨index, hbound, hholds, hshows⟩ := runIn_bindName_registries hheard hbind
      have hafter : (session.answer ⟨.bind name (.registries tables), listening⟩).2 = after := by
        rw [session.answer_of_deed rfl, hbind]
      obtain ⟨serial, copied, hcell, -, -⟩ := id hholds
      refine ⟨index, datum, rfl, hshows, ?_⟩
      rw [hafter]
      exact {
        bound := fun requests hrequests => (binding_run hrequests).trans hbound
        avoids := fun requests hrequests => avoids_of_noted hcell hrequests
        recalls := fun requests havoids => recalls_run hbound hholds havoids }
  · refine ⟨session.answer_changeTable, ?_, Operation.tableIn_absent⟩
    intro name datum hshows callable positional named registries kind key value harguments
      entries htable listening request
    have hanswer := answer_changeTable_of_table hshows harguments htable listening
    obtain ⟨hwithin, hbeyond⟩ := key.refusedEntry_eq .readOnlyTable
    exact ⟨fun h => hwithin h ▸ hanswer, fun h => hbeyond h ▸ hanswer⟩
  · exact {
      assign := fun name hbound code value listening =>
        answer_assign_code hc hbound code value listening
      content := fun requests => table_run hc requests }

/-- A table under two names. -/
def bindingTable : List Request :=
  [⟨.bind "table" (.table [(.integer 4865, .constant (.text "first"))]), false⟩,
    ⟨.bind "alias" (.variable "table"), false⟩]

/-- Registries with the table for two kinds. -/
def bindingRegistries : Request :=
  ⟨.bind "known" (.registries
    [("cipher_suite", .variable "table"), ("named_group", .variable "alias")]), false⟩

/-- A change of the table, and other registries with it. -/
def changingTable : List Request :=
  [⟨.assign "alias" (.integer 4865) (.text "changed"), false⟩,
    ⟨.bind "later" (.registries [("cipher_suite", .variable "table")]), true⟩]

/-- How the table of registries is changed. -/
def tableWriting : Interface := .fixed ⟨"table_write", ["regs", "kind", "code", "name"], []⟩

/-- Registries go on showing a table that is changed under another name. -/
theorem registries_stay_changed :
    let shared := (Session.run {} bindingTable).2
    let made := (shared.answer bindingRegistries).2
    let render : Step := .call (Call.under (.codeOf .cipherSuite)
      (.fixed ⟨"render_cipher", ["code", "registries"], []⟩) "known"
      [some (.integer 4865), none] [])
    let write : Step := .call (Call.under .changeTable tableWriting "known"
      [none, some (.text "cipher_suite"), some (.integer 4865), some (.text "x")] [])
    ((made.run changingTable).2.answer ⟨render, false⟩).1 = (made.answer ⟨render, false⟩).1 ∧
      (made.answer ⟨render, false⟩).1.outcome = .ok (.datum (.text "0x1301(first)")) ∧
      made.answer ⟨write, false⟩ = (⟨.error (.misfit .readOnlyTable), []⟩, made.heard false) ∧
      (made.run changingTable).2.store.cells[0]? =
        some (.table [(.integer 4865, .fixed (.text "changed"))]) ∧
      ∃ shown, (made.answer ⟨.assign "alias" (.integer 4865) (.text "changed"),
          false⟩).2.store.Shows "table" (.table shown) ∧
        Table.get? (.integer 4865) shown = some (.text "changed") := by
  intro shared made render write
  have htables : shared.store.BoundTables
      [("cipher_suite", .variable "table"), ("named_group", .variable "alias")] := by
    have hnames : ∀ name ∈ [(Datum.integer 4865, Held.fixed (.text "first"))],
        ∃ value, name.2 = .fixed value := by
      intro name hname
      exact ⟨.text "first", by rw [List.mem_singleton.mp hname]⟩
    unfold Store.BoundTables
    rw [List.forall_mem_cons, List.forall_mem_singleton]
    exact ⟨⟨"table", 0, _, rfl, rfl, rfl, hnames⟩, ⟨"alias", 0, _, rfl, rfl, rfl, hnames⟩⟩
  obtain ⟨hsettled, hborn, -, -⟩ := registries_stay shared
  obtain ⟨index, datum, hresult, -, hkeeps⟩ := hborn "known" _ false
    (.datum (.registries 0 [(Datum.tablesName, .table
      [(.text "cipher_suite", .table [(.integer 4865, .text "first")]),
        (.text "named_group", .table [(.integer 4865, .text "first")])])])) (hsettled _ htables) rfl
  cases hresult
  obtain ⟨-, -, hrefuses, hshares⟩ := registries_stay made
  obtain ⟨hassign, hcontent⟩ := hshares 0 [(.integer 4865, .fixed (.text "first"))] rfl
  have hbound := hkeeps.bound changingTable (by decide)
  have hrecalls := hkeeps.recalls changingTable (hkeeps.avoids changingTable (by decide))
  obtain ⟨shown, -, hunder, hshown⟩ := hassign "alias" rfl 4865 (.text "changed") false
  have hknown : made.store.Shows "known" _ :=
    (hkeeps.recalls [] trivial).shows "known" (hkeeps.bound [] nofun)
  have hwithin : (Datum.integer 4865).WithinIndices := by
    rintro code ⟨⟩
    decide
  exact ⟨hrecalls.answer "known" hbound _ rfl _ _ _ false, rfl,
    (hrefuses.refuses hknown rfl rfl false).1 hwithin, hcontent changingTable, shown,
    hshown "table" rfl, hunder⟩

/-- A key that no index can be is out of range before the table is looked at. -/
theorem changeTable_beyond_indices :
    let write : Step := .call ⟨.changeTable, tableWriting,
      [.constant .absent, .constant (.text "hash_algorithm"),
        .constant (.integer 9223372036854775808), .constant (.text "x")], []⟩
    (Session.answer {} ⟨write, false⟩).1.outcome = .error (.outOfRange .beyondAnyEnd) ∧
      ∀ cause, (Session.answer {} ⟨write, false⟩).1.outcome ≠ .error (.misfit cause) := by
  intro write
  have hwrite : (Session.answer {} ⟨write, false⟩).1.outcome =
      .error (.outOfRange .beyondAnyEnd) := rfl
  refine ⟨hwrite, fun cause h => ?_⟩
  cases hwrite.symm.trans h

end Session

end TlsTranscript
