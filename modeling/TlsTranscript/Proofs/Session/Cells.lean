import TlsTranscript.Proofs.Session.Effects

/-!
# Cells over a run

A step changes at most one cell, the one that the name in it is bound to: an assignment a
list or a table, and the setting or removal of a field a model or registries. So a cell
that no step of a run is aimed at keeps its content, and a table holds in the end what it
held before and what was put into it through any of its names, in this order.
-/

namespace TlsTranscript

open Changing Framing

/-- Whether a value takes other values under indices or keys. -/
def Held.takesValues : Held → Bool
  | .list _ => true
  | .table _ => true
  | _ => false

/-- Whether a value takes notes. -/
def Held.takesNotes : Held → Bool
  | .noted _ _ => true
  | _ => false

namespace Store

variable {store : Store} {name : String} {index : Nat}

/-- The cell that a name is bound to, if its content is of a kind. -/
def cellUnder? (store : Store) (kind : Held → Bool) (name : String) : Option Nat :=
  match Keyed.get? name store.names with
  | some (.cell index) => if store.cells[index]?.any kind then some index else none
  | _ => none

/-- The cell of a name is found if its content is of the kind. -/
theorem cellUnder?_eq_some_iff {kind : Held → Bool} : store.cellUnder? kind name = some index ↔
    Keyed.get? name store.names = some (.cell index) ∧
      ∃ found, store.cells[index]? = some found ∧ kind found = true := by
  unfold cellUnder?
  split
  · next place hbound =>
    rw [hbound]
    cases hfound : store.cells[place]? with
    | none =>
      constructor
      · intro h
        cases h
      · rintro ⟨⟨⟩, found, hc, -⟩
        rw [hfound] at hc
        cases hc
    | some found =>
      by_cases hkind : kind found = true
      · rw [Option.any_some, if_pos hkind]
        constructor
        · rintro ⟨⟩
          exact ⟨rfl, found, hfound, hkind⟩
        · rintro ⟨⟨⟩, -⟩
          rfl
      · rw [Option.any_some, if_neg hkind]
        constructor
        · intro h
          cases h
        · rintro ⟨⟨⟩, other, hc, hother⟩
          obtain rfl := Option.some.inj (hfound.symm.trans hc)
          exact absurd hother hkind
  · next hbound =>
    constructor
    · intro h
      cases h
    · exact fun h => absurd h.1 (hbound index)

/-- A value that is bound to a name leaves the cells as they are; a new one comes behind
them. -/
theorem cells_bind {content : Held} (hc : store.cells[index]? = some content) (name : String)
    (held : Held) : (store.bind name held).cells[index]? = some content := by
  unfold bind
  split
  · obtain ⟨hlt, -⟩ := List.getElem?_eq_some_iff.mp hc
    rw [List.getElem?_append_left hlt]
    exact hc
  · exact hc

/-- Another name is bound to what it was bound to. -/
theorem names_bind (store : Store) {other : String} (h : other ≠ name) (held : Held) :
    Keyed.get? other (store.bind name held).names = Keyed.get? other store.names := by
  unfold bind
  split <;> rw [Keyed.get?_put, if_neg h]

/-- The other cells keep their contents where one is exchanged. -/
theorem cells_replace_of_ne {place : Nat} (h : place ≠ index) (content : Held) :
    (store.replace place content).cells[index]? = store.cells[index]? :=
  List.getElem?_set_ne h

/-- A cell has the content that it was given. -/
theorem cells_replace_self {found : Held} (hfound : store.cells[index]? = some found)
    (content : Held) : (store.replace index content).cells[index]? = some content :=
  List.getElem?_set_self (List.getElem?_eq_some_iff.mp hfound).1

end Store

namespace Step

open Deed

/-- The cell whose content a step may change. -/
def target? (store : Store) : Step → Option Nat
  | .assign name _ _ => store.cellUnder? Held.takesValues name
  | .setField name _ _ => store.cellUnder? Held.takesNotes name
  | .removeField name _ => store.cellUnder? Held.takesNotes name
  | _ => none

/-- The name that a step binds. -/
def binds? : Step → Option String
  | .bind name _ => some name
  | _ => none

/-- Whether a step sets or removes a field or a note. -/
def changesNotes : Step → Bool
  | .setField _ _ _ => true
  | .removeField _ _ => true
  | _ => false

/-- What a step puts into the table in a cell: a key and the value under it. -/
def put? (store : Store) (index : Nat) (step : Step) : Option (Datum × Held) :=
  if step.target? store = some index then
    match step with
    | .assign _ key value => if key.changeable? = none then some (key, .fixed value) else none
    | _ => none
  else none

variable {step : Step} {before after : Store}

/-- A built value leaves the cells and names as they were. -/
theorem numbering_of_build {value : Term} {held : Held} {between : Store}
    (hbuilt : runIn value.build before = (.ok held, between)) :
    between.cells = before.cells ∧ between.names = before.names := by
  have hnumbered := value.covers_build before
  rw [hbuilt] at hnumbered
  exact hnumbered

/-- A cell that a step is not aimed at keeps its content. -/
theorem Effect.cell_of_target?_ne (h : step.Effect before after) {index : Nat} {content : Held}
    (htarget : step.target? before ≠ some index)
    (hc : before.cells[index]? = some content) : after.cells[index]? = some content := by
  -- the place of an exchanged content is the target of the step
  have hne : ∀ {kind : Held → Bool} {name : String} {place : Nat} {found : Held},
      before.cellUnder? kind name ≠ some index →
      Keyed.get? name before.names = some (.cell place) →
      before.cells[place]? = some found → kind found = true → place ≠ index := by
    rintro kind name place found hother hbound hfound hkind rfl
    exact hother (Store.cellUnder?_eq_some_iff.mpr ⟨hbound, found, hfound, hkind⟩)
  cases h with
  | numbered h => rw [h.1, hc]
  | bound hbuilt =>
    refine Store.cells_bind ?_ _ _
    rw [(numbering_of_build hbuilt).1, hc]
  | replacedItem hbound hfound _ =>
    rw [Store.cells_replace_of_ne (hne htarget hbound hfound rfl), hc]
  | putEntry hbound hfound _ =>
    rw [Store.cells_replace_of_ne (hne htarget hbound hfound rfl), hc]
  | attached hbuilt hbound hfound _ _ =>
    rw [Store.cells_replace_of_ne (hne htarget hbound hfound rfl), (numbering_of_build hbuilt).1,
      hc]
  | detached hbound hfound =>
    rw [Store.cells_replace_of_ne (hne htarget hbound hfound rfl), hc]

/-- A name that a step does not bind stays bound to what it was bound to. -/
theorem Effect.binding_of_binds?_ne (h : step.Effect before after) {name : String}
    (hbinds : step.binds? ≠ some name) :
    Keyed.get? name after.names = Keyed.get? name before.names := by
  cases h with
  | numbered h => rw [h.2]
  | bound hbuilt =>
    rw [Store.names_bind _ (fun he => hbinds (by rw [binds?, he])), (numbering_of_build hbuilt).2]
  | replacedItem _ _ _ => rfl
  | putEntry _ _ _ => rfl
  | attached hbuilt _ _ _ _ => exact congrArg _ (numbering_of_build hbuilt).2
  | detached _ _ => rfl

end Step

namespace Deed

/-- A table takes a value under a key that can be one, and the answer is the table under its
name. -/
theorem runIn_assign_table {session : Session} {name : String} {index : Nat}
    {entries : List (Datum × Held)}
    (hbound : Keyed.get? name session.store.names = some (.cell index))
    (hfound : session.store.cells[index]? = some (.table entries)) (key value : Datum) :
    runIn (assign name key value) session =
      match key.changeable? with
      | some typeName => (.error (.misfit (.notAKey typeName)), session)
      | none =>
        let store := session.store.replace index (.table (Table.put key (.fixed value) entries))
        (.ok (store.read (.cell index)), { session with store }) := by
  rw [assign, runIn_bind_of_ok (runIn_cellUnder hbound hfound)]
  dsimp only
  unfold Held.putEntry
  cases key.changeable? with
  | some typeName => rfl
  | none =>
    have hreplace : runIn (replace index (.table (Table.put key (.fixed value) entries)))
        session = (.ok ⟨⟩, { session with
          store := session.store.replace index
            (.table (Table.put key (.fixed value) entries)) }) := rfl
    have hname : Keyed.get? name
        (session.store.replace index (.table (Table.put key (.fixed value) entries))).names =
          some (.cell index) := hbound
    rw [runIn_bind_of_ok (runIn_ofResult (.ok _) _), runIn_bind_of_ok hreplace,
      runIn_datumUnder, hname]
    rfl

end Deed

namespace Session

open Deed

/-- A request puts into a table what its step does, and changes it in no other way. -/
theorem table_answer {session : Session} {index : Nat} {entries : List (Datum × Held)}
    (hc : session.store.cells[index]? = some (.table entries)) (request : Request) :
    (session.answer request).2.store.cells[index]? = some (.table
      ((request.step.put? session.store index).elim entries fun entry =>
        Table.put entry.1 entry.2 entries)) := by
  obtain ⟨step, listening⟩ := request
  dsimp only
  by_cases htarget : step.target? session.store = some index
  · have hnotes : ∀ name, session.store.cellUnder? Held.takesNotes name ≠ some index := by
      intro name hname
      obtain ⟨-, found, hfound, hkind⟩ := Store.cellUnder?_eq_some_iff.mp hname
      obtain rfl := Option.some.inj (hc.symm.trans hfound)
      cases hkind
    cases step with
    | assign name key value =>
      obtain ⟨hbound, -⟩ := Store.cellUnder?_eq_some_iff.mp htarget
      have hheard : (session.heard listening).store = session.store := rfl
      rw [← hheard] at hbound hc
      rw [after_answer, Step.run, Step.runIn_answer, runIn_assign_table hbound hc, Step.put?,
        if_pos htarget, hheard]
      rw [hheard] at hc
      cases key.changeable? with
      | some typeName => exact hc
      | none => exact Store.cells_replace_self hc _
    | setField name field value => exact absurd htarget (hnotes name)
    | removeField name field => exact absurd htarget (hnotes name)
    | _ => cases htarget
  · have hput : step.put? session.store index = none := if_neg htarget
    rw [hput]
    exact (session.effect_of_request ⟨step, listening⟩).cell_of_target?_ne htarget hc

/-- Whether no step of some requests is aimed at a cell. -/
def Avoids (index : Nat) : Session → List Request → Prop
  | _, [] => True
  | session, first :: rest =>
    first.step.target? session.store ≠ some index ∧ Avoids index (session.answer first).2 rest

/-- A cell that no step is aimed at keeps its content. -/
theorem cell_run {session : Session} {requests : List Request} {index : Nat} {content : Held}
    (h : session.Avoids index requests) (hc : session.store.cells[index]? = some content) :
    (session.run requests).2.store.cells[index]? = some content := by
  induction requests generalizing session with
  | nil => exact hc
  | cons first rest ih =>
    obtain ⟨hfirst, hrest⟩ := h
    exact ih hrest ((session.effect_of_request first).cell_of_target?_ne hfirst hc)

/-- Steps are aimed at registries or a model only if they set or remove a note. -/
theorem avoids_of_noted {session : Session} {requests : List Request} {index : Nat}
    {datum : Datum} {notes : List (String × Held)}
    (hc : session.store.cells[index]? = some (.noted datum notes))
    (h : ∀ request ∈ requests, request.step.changesNotes = false) :
    session.Avoids index requests := by
  induction requests generalizing session with
  | nil => trivial
  | cons first rest ih =>
    obtain ⟨hfirst, hrest⟩ := List.forall_mem_cons.mp h
    have htarget : first.step.target? session.store ≠ some index := by
      intro htarget
      cases hstep : first.step with
      | assign name key value =>
        rw [hstep] at htarget
        obtain ⟨-, found, hfound, hkind⟩ := Store.cellUnder?_eq_some_iff.mp htarget
        obtain rfl := Option.some.inj (hc.symm.trans hfound)
        cases hkind
      | setField name field value =>
        rw [hstep] at hfirst
        cases hfirst
      | removeField name field =>
        rw [hstep] at hfirst
        cases hfirst
      | _ =>
        rw [hstep] at htarget
        cases htarget
    exact ⟨htarget,
      ih ((session.effect_of_request first).cell_of_target?_ne htarget hc) hrest⟩

/-- A name that no step binds stays bound to what it was bound to. -/
theorem binding_run {session : Session} {requests : List Request} {name : String}
    (h : ∀ request ∈ requests, request.step.binds? ≠ some name) :
    Keyed.get? name (session.run requests).2.store.names =
      Keyed.get? name session.store.names := by
  induction requests generalizing session with
  | nil => rfl
  | cons first rest ih =>
    obtain ⟨hfirst, hrest⟩ := List.forall_mem_cons.mp h
    exact (ih hrest).trans ((session.effect_of_request first).binding_of_binds?_ne hfirst)

/-- What requests put into the table in a cell, in their order. -/
def puts (index : Nat) : Session → List Request → List (Datum × Held)
  | _, [] => []
  | session, first :: rest =>
    (first.step.put? session.store index).toList ++ puts index (session.answer first).2 rest

/-- A table holds what it held and what was put into it. -/
theorem table_run {session : Session} {index : Nat} {entries : List (Datum × Held)}
    (hc : session.store.cells[index]? = some (.table entries)) (requests : List Request) :
    (session.run requests).2.store.cells[index]? = some (.table
      ((session.puts index requests).foldl
        (fun known entry => Table.put entry.1 entry.2 known) entries)) := by
  induction requests generalizing session entries with
  | nil => exact hc
  | cons first rest ih =>
    have hfirst := ih (table_answer hc first)
    rw [puts, List.foldl_append]
    cases hput : first.step.put? session.store index with
    | none =>
      rw [hput] at hfirst
      exact hfirst
    | some entry =>
      rw [hput] at hfirst
      exact hfirst

end Session

end TlsTranscript
