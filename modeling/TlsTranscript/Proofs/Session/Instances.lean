import TlsTranscript.Proofs.Session.Effects

/-!
# Instances stay

A model that a name is bound to lies in a cell, and every name for the cell stands for
the same instance. Steps put new cells behind the old ones, exchange lists and tables,
and attach notes, so an instance keeps its model, and it keeps the notes that nobody can
attach. A name stays bound to its cell until it is bound anew. Only the reserved names are
left out here: the one under which a model has all that it holds, and those of the
validation library. A step that sets one of them is not among those that spare an instance.
-/

namespace TlsTranscript

open Changing Framing

/-- Whether a note under a name can be attached to a model. -/
def Deed.isAttachable (name : String) : Bool :=
  isNoteName name && !isReserved name && name != Datum.className

/-- A model in a cell, with the notes that nobody can attach. -/
structure Instance where
  /-- The model. -/
  model : Model
  /-- The notes of its own. -/
  own : List (String × Held)

/-- Whether a note under a name is one that nobody can attach. -/
def Instance.owns (name : String) : Bool := !Deed.isAttachable name

/-- The instance that a value is, if it is one. -/
def Held.asInstance? : Held → Option Instance
  | .noted (.model model) notes =>
    some ⟨model, notes.filter fun note => Instance.owns note.1⟩
  | _ => none

namespace Store

/-- The instance in a cell, if there is one. -/
def instanceAt (store : Store) (index : Nat) : Option Instance :=
  store.cells[index]?.bind Held.asInstance?

/-- A name is bound to a cell with an instance. -/
def Knows (store : Store) (name : String) (content : Instance) : Prop :=
  ∃ index, Keyed.get? name store.names = some (.cell index) ∧
    store.instanceAt index = some content

/-- What steps leave as it is: the instances, and what the given names are bound to. -/
structure Kept (names : List String) (before after : Store) : Prop where
  /-- Every instance stays in its cell. -/
  instances : ∀ {index : Nat} {content : Instance}, before.instanceAt index = some content →
    after.instanceAt index = some content
  /-- The names stay bound to what they were bound to. -/
  bindings : ∀ name ∈ names, Keyed.get? name after.names = Keyed.get? name before.names

/-- The frame of changes that keep instances and what names are bound to. -/
def keeping (names : List String) : Framing Store where
  Passes := Kept names
  refl _ := ⟨id, fun _ _ => rfl⟩
  trans h h' := ⟨fun hc => h'.instances (h.instances hc), fun name hn =>
    (h'.bindings name hn).trans (h.bindings name hn)⟩

variable {names : List String}

/-- Where cells and names are left alone, everything is kept. -/
theorem kept_of_numbering {before after : Store} (h : numbering.Passes before after) :
    Kept names before after := by
  obtain ⟨hcells, hnames⟩ := h
  refine ⟨fun hc => ?_, fun name _ => by rw [hnames]⟩
  unfold instanceAt at hc ⊢
  rw [hcells]
  exact hc

/-- A new cell comes behind the others. -/
theorem kept_bind (store : Store) {name : String} (h : name ∉ names) (held : Held) :
    Kept names store (store.bind name held) := by
  have hother : ∀ other ∈ names, ∀ bound : Held,
      Keyed.get? other (Keyed.put name bound store.names) = Keyed.get? other store.names := by
    intro other ho bound
    rw [Keyed.get?_put, if_neg (ne_of_mem_of_not_mem ho h)]
  unfold bind
  split
  · refine ⟨fun {index content} hc => ?_, fun other ho => hother other ho _⟩
    unfold instanceAt at hc ⊢
    obtain ⟨found, hf, hcontent⟩ := Option.bind_eq_some_iff.mp hc
    obtain ⟨hlt, -⟩ := List.getElem?_eq_some_iff.mp hf
    rw [List.getElem?_append_left hlt]
    exact hc
  · exact ⟨id, fun other ho => hother other ho _⟩

/-- A cell can get a content that is the same instance, if it is one. -/
theorem kept_replace {store : Store} {index : Nat} {found content : Held}
    (hfound : store.cells[index]? = some found)
    (h : ∀ known, found.asInstance? = some known → content.asInstance? = some known) :
    Kept names store (store.replace index content) := by
  refine ⟨fun {place known} hc => ?_, fun _ _ => rfl⟩
  unfold instanceAt at hc ⊢
  by_cases hplace : index = place
  · subst hplace
    rw [hfound] at hc
    obtain ⟨hlt, -⟩ := List.getElem?_eq_some_iff.mp hfound
    rw [replace, List.getElem?_set_self hlt]
    exact h known hc
  · rw [replace, List.getElem?_set_ne hplace]
    exact hc

end Store

/-- A note that can be attached is none of those that nobody can attach. -/
theorem Held.asInstance?_put {field : String} (h : Deed.isAttachable field = true)
    (model : Model) (value : Held) (notes : List (String × Held)) :
    (Held.noted (.model model) (Keyed.put field value notes)).asInstance? =
      (Held.noted (.model model) notes).asInstance? := by
  have hother : Instance.owns field = false := by simp [Instance.owns, h]
  rw [asInstance?, asInstance?, Keyed.filter_put hother]

namespace Step

open Deed Store

variable {names : List String}

/-- Whether a step leaves instances and the given names alone: it binds none of the names
anew, and it sets no reserved name of an instance. -/
def Spares (names : List String) (store : Store) : Step → Prop
  | .bind name _ => name ∉ names
  | .setField name field _ => isReserved field = true → ∀ content, ¬store.Knows name content
  | _ => True

/-- What a step that spares them does to the store keeps instances and names: an instance
takes at most a note that can be attached. -/
theorem Effect.kept {step : Step} {before after : Store} (h : step.Effect before after)
    (hspares : step.Spares names before) : Kept names before after := by
  have hbuild : ∀ {value : Term} {held : Held} {between : Store},
      runIn value.build before = (.ok held, between) →
        Store.numbering.Passes before between ∧ Kept names before between := by
    intro value held between hbuilt
    have hnumbered := value.covers_build before
    rw [hbuilt] at hnumbered
    exact ⟨hnumbered, kept_of_numbering hnumbered⟩
  cases h with
  | numbered h => exact kept_of_numbering h
  | bound hbuilt => exact (keeping names).trans (hbuild hbuilt).2 (kept_bind _ hspares _)
  | replacedItem _ hfound _ => exact kept_replace hfound fun _ hknown => by cases hknown
  | putEntry _ hfound _ => exact kept_replace hfound fun _ hknown => by cases hknown
  | @attached name field _ held _ index datum _ _ _ hbuilt hbound hfound htakes hrest =>
    obtain ⟨⟨hcells, -⟩, hkept⟩ := hbuild hbuilt
    refine (keeping names).trans hkept (kept_replace (hcells ▸ hfound) fun known hknown => ?_)
    cases datum with
    | model model =>
      have hknows : before.Knows name known :=
        ⟨index, hbound, by rw [instanceAt, hfound]; exact hknown⟩
      have hfree : isReserved field = false :=
        Bool.eq_false_iff.mpr fun hreserved => hspares hreserved known hknows
      obtain ⟨hclass, rfl, rfl⟩ := hrest model rfl hfree
      have hattachable : isAttachable field = true := by
        simpa [isAttachable, hfree, hclass, takesNote] using htakes
      rw [Held.asInstance?_put hattachable]
      exact hknown
    | _ => cases hknown
  | detached _ hfound => exact kept_replace hfound fun _ hknown => by cases hknown

end Step

namespace Session

variable {names : List String}

end Session

end TlsTranscript
