import TlsTranscript.Proofs.Changing
import TlsTranscript.World

/-!
# Actions run

What the building blocks of an action do to a world. A step that fails ends the
action in the world that the step has left behind; a step that succeeds hands its
value and its world to the next one.
-/

namespace TlsTranscript

namespace Action

variable {α β : Type}

/-- A value that is given changes nothing. -/
@[simp] theorem runIn_pure (value : α) (w : World) :
    (pure value : Action α).runIn w = (.ok value, w) := rfl

/-- A result that is known changes nothing. -/
@[simp] theorem runIn_ofResult (result : Except Failure α) (w : World) :
    (ofResult result).runIn w = (result, w) := rfl

/-- The world can be looked at. -/
@[simp] theorem runIn_get (w : World) : (get : Action World).runIn w = (.ok w, w) := rfl

/-- The world can be put in place of another one. -/
@[simp] theorem runIn_set (changed w : World) :
    (set changed : Action PUnit).runIn w = (.ok ⟨⟩, changed) := rfl

/-- A rendering leaves its records in front of the log, the newest first, and answers its
text. -/
@[simp] theorem runIn_emit (rendered : Rendered) (w : World) :
    (emit rendered).runIn w =
      (.ok rendered.text, { w with log := rendered.log.reverse ++ w.log }) := rfl

/-- A step that succeeds hands its value and its world to what follows. -/
theorem runIn_bind_of_ok {action : Action α} {next : α → Action β} {w after : World}
    {value : α} (h : action.runIn w = (.ok value, after)) :
    (action >>= next).runIn w = (next value).runIn after :=
  Changing.runIn_bind_of_ok h

/-- A step that fails ends the action. -/
theorem runIn_bind_of_error {action : Action α} {next : α → Action β} {w after : World}
    {failure : Failure} (h : action.runIn w = (.error failure, after)) :
    (action >>= next).runIn w = (.error failure, after) :=
  Changing.runIn_bind_of_error h

/-- An action that succeeds has succeeded in its first step and in what follows. -/
theorem runIn_bind_eq_ok {action : Action α} {next : α → Action β} {w last : World}
    {result : β} (h : (action >>= next).runIn w = (.ok result, last)) :
    ∃ value after, action.runIn w = (.ok value, after) ∧
      (next value).runIn after = (.ok result, last) :=
  Changing.runIn_bind_eq_ok h

/-- What follows a step goes on in the world of the step, unless the step fails. -/
theorem runIn_bind (action : Action α) (next : α → Action β) (w : World) :
    (action >>= next).runIn w =
      match action.runIn w with
      | (.ok value, after) => (next value).runIn after
      | (.error failure, after) => (.error failure, after) := by
  rcases h : action.runIn w with ⟨_ | value, after⟩
  · exact runIn_bind_of_error h
  · exact runIn_bind_of_ok h

end Action

end TlsTranscript
