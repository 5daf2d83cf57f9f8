import TlsTranscript.Failure

/-!
# Changes run

What the building blocks of a change that may fail do to a state. A change that fails
ends everything in the state that it has left behind; a change that succeeds hands its
value and its state to the next one.
-/

namespace TlsTranscript

/-- Changes of a state that may fail. -/
abbrev Changing (σ : Type) := ExceptT Failure (StateM σ)

namespace Changing

variable {σ α β : Type}

/-- The result of a change, and the state after it. -/
def runIn (change : Changing σ α) (state : σ) : Except Failure α × σ :=
  StateT.run (ExceptT.run change) state

/-- A value that is given changes nothing. -/
@[simp] theorem runIn_pure (value : α) (state : σ) :
    runIn (pure value) state = (.ok value, state) := rfl

/-- A failure changes nothing. -/
@[simp] theorem runIn_throw (failure : Failure) (state : σ) :
    runIn (throw failure : Changing σ α) state = (.error failure, state) := rfl

/-- The state can be looked at. -/
@[simp] theorem runIn_get (state : σ) : runIn get state = (.ok state, state) := rfl

/-- What follows a change goes on in the state after it, unless the change fails. -/
theorem runIn_bind (change : Changing σ α) (next : α → Changing σ β) (state : σ) :
    runIn (change >>= next) state =
      match runIn change state with
      | (.ok value, after) => runIn (next value) after
      | (.error failure, after) => (.error failure, after) := by
  change (ExceptT.bindCont next (runIn change state).1 : StateM σ _) (runIn change state).2 = _
  rcases runIn change state with ⟨result, after⟩
  cases result <;> rfl

/-- A change that succeeds hands its value and its state to what follows. -/
theorem runIn_bind_of_ok {change : Changing σ α} {next : α → Changing σ β} {state after : σ}
    {value : α} (h : runIn change state = (.ok value, after)) :
    runIn (change >>= next) state = runIn (next value) after := by
  rw [runIn_bind, h]

/-- A change that fails ends everything. -/
theorem runIn_bind_of_error {change : Changing σ α} {next : α → Changing σ β}
    {state after : σ} {failure : Failure} (h : runIn change state = (.error failure, after)) :
    runIn (change >>= next) state = (.error failure, after) := by
  rw [runIn_bind, h]

/-- If two changes one after the other succeed, each of them does. -/
theorem runIn_bind_eq_ok {change : Changing σ α} {next : α → Changing σ β} {state last : σ}
    {result : β} (h : runIn (change >>= next) state = (.ok result, last)) :
    ∃ value after, runIn change state = (.ok value, after) ∧
      runIn (next value) after = (.ok result, last) := by
  rw [runIn_bind] at h
  rcases hc : runIn change state with ⟨_ | value, after⟩
  · simp [hc] at h
  · exact ⟨value, after, rfl, by simpa [hc] using h⟩

/-- Where all that may follow a change fails, the whole fails whatever the change does. -/
theorem fails_bind {change : Changing σ α} {next : α → Changing σ β}
    (h : ∀ value state, ∃ failure after, runIn (next value) state = (.error failure, after))
    (state : σ) : ∃ failure after, runIn (change >>= next) state = (.error failure, after) := by
  rw [runIn_bind]
  rcases runIn change state with ⟨failure | value, after⟩
  · exact ⟨failure, after, rfl⟩
  · exact h value after

end Changing

end TlsTranscript
