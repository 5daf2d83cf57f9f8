import TlsTranscript.Proofs.Changing
import TlsTranscript.Session.Change

/-!
# Frames

A change of a state may fail, and what it has changed by then stays. So what a change
leaves as it is has to be said of the state after it, whatever its result is. A frame
is a relation between earlier and later states that is passed on from step to step; a
change that stays in a frame can be put together from such changes. Building the value
of a term only gives out serial numbers, and operations on the world leave the store
alone.
-/

namespace TlsTranscript

open Changing

/-- What changes leave as it is: a relation between earlier and later states. -/
structure Framing (σ : Type) where
  /-- The later state has what the earlier one has. -/
  Passes : σ → σ → Prop
  /-- Nothing is lost without a change. -/
  refl : ∀ state, Passes state state
  /-- What two changes leave as it is, both together do. -/
  trans : ∀ {first second third}, Passes first second → Passes second third →
    Passes first third

namespace Framing

variable {σ α β : Type} {frame : Framing σ}

/-- A frame covers a change if the state after it has what the state before it has. -/
def Covers (frame : Framing σ) (change : Changing σ α) : Prop :=
  ∀ state, frame.Passes state (runIn change state).2

/-- The frame of changes that change nothing. -/
def same (σ : Type) : Framing σ where
  Passes := Eq
  refl _ := rfl
  trans := Eq.trans

/-- A value that is given is covered. -/
theorem covers_pure (value : α) : frame.Covers (pure value) := frame.refl

/-- A failure is covered. -/
theorem covers_throw (failure : Failure) : frame.Covers (throw failure : Changing σ α) :=
  frame.refl

/-- A look at the state is covered. -/
theorem covers_get : frame.Covers get := frame.refl

/-- What a change and what follows it leave as it is in a state. -/
theorem passes_bind {change : Changing σ α} {next : α → Changing σ β} {state : σ}
    (hchange : frame.Passes state (runIn change state).2)
    (hnext : ∀ value after, runIn change state = (.ok value, after) →
      frame.Passes after (runIn (next value) after).2) :
    frame.Passes state (runIn (change >>= next) state).2 := by
  rw [runIn_bind]
  rcases hc : runIn change state with ⟨_ | value, after⟩
  · simpa [hc] using hchange
  · rw [hc] at hchange
    exact frame.trans hchange (hnext value after hc)

/-- A change and what follows it are covered if the second one is in every state that
the first one can lead to. -/
theorem covers_bind_of {change : Changing σ α} {next : α → Changing σ β}
    (hchange : frame.Covers change)
    (hnext : ∀ state value after, runIn change state = (.ok value, after) →
      frame.Passes after (runIn (next value) after).2) :
    frame.Covers (change >>= next) :=
  fun state => passes_bind (hchange state) (hnext state)

/-- Two changes one after the other are covered if both are. -/
theorem covers_bind {change : Changing σ α} {next : α → Changing σ β}
    (hchange : frame.Covers change) (hnext : ∀ value, frame.Covers (next value)) :
    frame.Covers (change >>= next) :=
  covers_bind_of hchange fun _ value after _ => hnext value after

/-- A look at the state and what follows it are covered if what follows is in that
state. -/
theorem covers_get_bind {next : σ → Changing σ β}
    (h : ∀ state, frame.Passes state (runIn (next state) state).2) :
    frame.Covers (get >>= next) := by
  intro state
  rw [runIn_bind_of_ok (runIn_get state)]
  exact h state

/-- A change for each item of a list is covered if each one is. -/
theorem covers_mapM {change : α → Changing σ β} (h : ∀ item, frame.Covers (change item))
    (items : List α) : frame.Covers (items.mapM change) := by
  induction items with
  | nil =>
    rw [List.mapM_nil]
    exact covers_pure _
  | cons item rest ih =>
    rw [List.mapM_cons]
    exact covers_bind (h item) fun _ => covers_bind ih fun _ => covers_pure _

/-- A change that changes nothing is covered by every frame. -/
theorem covers_of_same {change : Changing σ α} (h : (same σ).Covers change) :
    frame.Covers change := by
  intro state
  have hstate : state = (runIn change state).2 := h state
  rw [← hstate]
  exact frame.refl state

/-- A change that changes nothing leads to the state that it starts in. -/
theorem eq_of_same {change : Changing σ α} (h : (same σ).Covers change) {state after : σ}
    {result : Except Failure α} (hrun : runIn change state = (result, after)) :
    after = state := by
  have hstate : state = (runIn change state).2 := h state
  rw [hrun] at hstate
  exact hstate.symm

end Framing

open Framing

/-- The frame of changes that only give out serial numbers: cells and names stay. -/
def Store.numbering : Framing Store where
  Passes before after := after.cells = before.cells ∧ after.names = before.names
  refl _ := ⟨rfl, rfl⟩
  trans h h' := ⟨h'.1.trans h.1, h'.2.trans h.2⟩

namespace Building

/-- A known result is no change. -/
theorem covers_ofResult {α : Type} (result : Except Failure α) :
    Store.numbering.Covers (ofResult result) := Store.numbering.refl

/-- A serial number is given out. -/
theorem covers_newSerial : Store.numbering.Covers newSerial := fun _ => ⟨rfl, rfl⟩

/-- Reading a number gives out at most a serial number. -/
theorem covers_newNumber (source : Datum) : Store.numbering.Covers (newNumber source) := by
  refine covers_bind (covers_ofResult _) fun number => ?_
  cases number with
  | nan mark => exact covers_bind covers_newSerial fun _ => covers_pure _
  | infinite negative => exact covers_pure _
  | finite negative mantissa exponent => exact covers_pure _

end Building

namespace Term

open Building

/-- What a name is bound to is looked up. -/
theorem runIn_build_variable (name : String) (store : Store) :
    runIn (build (.variable name)) store =
      ((Keyed.get? name store.names).elim (.error (.unbound name)) .ok, store) := by
  rw [build, runIn_bind_of_ok (runIn_get store)]
  cases Keyed.get? name store.names <;> rfl

/-- The datum of what a name is bound to is looked up. -/
theorem runIn_buildDatum_variable (name : String) (store : Store) :
    runIn (buildDatum (.variable name)) store =
      ((Keyed.get? name store.names).elim (.error (.unbound name)) fun held =>
        .ok (store.read held), store) := by
  rw [buildDatum, runIn_bind, runIn_build_variable]
  cases Keyed.get? name store.names <;> rfl

mutual

/-- Building the value of a term only gives out serial numbers. -/
theorem covers_build : (term : Term) → Store.numbering.Covers term.build
  | .constant _ => covers_pure _
  | .octets _ => covers_bind (covers_ofResult _) fun _ => covers_pure _
  | .numeral source => covers_newNumber source
  | .list items => covers_bind (covers_buildAll items) fun _ => covers_pure _
  | .tuple items => covers_bind (covers_buildAll items) fun _ => covers_pure _
  | .repeated content _ =>
    covers_bind (covers_build content) fun _ => covers_bind covers_newSerial fun _ =>
      covers_bind covers_get fun _ => covers_ofResult _
  | .table entries => covers_bind (covers_buildEntries entries) fun _ => covers_pure _
  | .registries tables =>
    covers_bind (covers_buildNamed tables) fun _ => covers_bind covers_get fun _ =>
      covers_bind (covers_ofResult _) fun _ => covers_bind covers_newSerial fun _ =>
        covers_pure _
  | .model _ fields =>
    covers_bind (covers_buildNamed fields) fun _ =>
      covers_bind (covers_bind covers_get fun _ => covers_pure _) fun _ =>
        covers_bind (covers_ofResult _) fun _ => covers_pure _
  | .variable name => by
    refine covers_bind covers_get fun store => ?_
    cases Keyed.get? name store.names with
    | none => exact covers_throw _
    | some held => exact covers_pure _

/-- So does building the values of terms. -/
theorem covers_buildAll : (terms : List Term) → Store.numbering.Covers (buildAll terms)
  | [] => covers_pure _
  | term :: rest =>
    covers_bind (covers_build term) fun _ => covers_bind (covers_buildAll rest) fun _ =>
      covers_pure _

/-- So does building the entries of a table. -/
theorem covers_buildEntries :
    (entries : List (Datum × Term)) → Store.numbering.Covers (buildEntries entries)
  | [] => covers_pure _
  | (key, term) :: rest => by
    refine covers_bind (covers_build term) fun held => ?_
    cases key.changeable? with
    | some typeName => exact covers_throw _
    | none => exact covers_bind (covers_buildEntries rest) fun _ => covers_pure _

/-- So does building named values. -/
theorem covers_buildNamed :
    (fields : List (String × Term)) → Store.numbering.Covers (buildNamed fields)
  | [] => covers_pure _
  | (_, term) :: rest =>
    covers_bind (covers_build term) fun _ => covers_bind (covers_buildNamed rest) fun _ =>
      covers_pure _

end

/-- Building a datum only gives out serial numbers. -/
theorem covers_buildDatum (term : Term) : Store.numbering.Covers term.buildDatum :=
  covers_bind (covers_build term) fun _ => covers_bind covers_get fun _ => covers_pure _

end Term

/-- The frame of sessions for a frame of their stores. -/
def Session.framed (frame : Framing Store) : Framing Session where
  Passes before after := frame.Passes before.store after.store
  refl session := frame.refl session.store
  trans := frame.trans

namespace Deed

variable {α : Type} {frame : Framing Store}

/-- What happens to the world leaves the store alone. -/
theorem covers_onWorld (action : Action α) : (Session.framed frame).Covers (onWorld action) :=
  fun session => frame.refl session.store

/-- An action happens in the world of a session. -/
theorem runIn_onWorld (action : Action α) (session : Session) :
    runIn (onWorld action) session =
      ((action.runIn session.world).1,
        { session with world := (action.runIn session.world).2 }) := rfl

/-- A building happens in the store of a session. -/
theorem runIn_onStore (building : Building α) (session : Session) :
    runIn (onStore building) session =
      ((runIn building session.store).1,
        { session with store := (runIn building session.store).2 }) := rfl

/-- A building leaves in a session what it leaves in the store. -/
theorem covers_onStore {building : Building α} (h : frame.Covers building) :
    (Session.framed frame).Covers (onStore building) :=
  fun session => h session.store

/-- A known result changes nothing. -/
@[simp] theorem runIn_ofResult (result : Except Failure α) (session : Session) :
    runIn (ofResult result) session = (result, session) := rfl

/-- A known result is no change. -/
theorem covers_ofResult (result : Except Failure α) :
    (Session.framed frame).Covers (ofResult result) := (Session.framed frame).refl

end Deed

end TlsTranscript
