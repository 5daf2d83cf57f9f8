import TlsTranscript.Check.Problem

/-!
# Results of checks

A check gives a value or all the problems that it finds. Checks of several parts
side by side are joined by application: the whole is valid if every part is, and
otherwise its problems are those of the parts in the order of the parts.
-/

namespace TlsTranscript

/-- The result of a check. -/
inductive Checked (α : Type) where
  /-- A value without a problem. -/
  | valid (value : α)
  /-- The problems, in the order in which they were found. -/
  | invalid (problems : List Problem)

namespace Checked

variable {α β : Type}

/-- A valid value changed by a function. -/
def map (f : α → β) : Checked α → Checked β
  | .valid value => .valid (f value)
  | .invalid problems => .invalid problems

/-- A checked function applied to a checked value. -/
def apply : Checked (α → β) → Checked α → Checked β
  | .valid f, .valid value => .valid (f value)
  | .valid _, .invalid problems => .invalid problems
  | .invalid problems, .valid _ => .invalid problems
  | .invalid problems, .invalid more => .invalid (problems ++ more)

instance : Functor Checked where
  map := map

instance : Applicative Checked where
  pure := .valid
  seq f value := apply f (value ())

/-- A single problem at the place of the check. -/
def fail (defect : Defect) : Checked α := .invalid [⟨[], defect⟩]

/-- A result seen from further out. -/
def within (step : Place) : Checked α → Checked α
  | .valid value => .valid value
  | .invalid problems => .invalid (problems.map (Problem.within step))

/-- A result that a second check may still refuse. -/
def andThen (result : Checked α) (next : α → Checked β) : Checked β :=
  match result with
  | .valid value => next value
  | .invalid problems => .invalid problems

@[simp] theorem map_eq (f : α → β) (value : Checked α) : f <$> value = map f value := rfl

@[simp] theorem seq_eq (f : Checked (α → β)) (value : Checked α) :
    f <*> value = apply f value := rfl

@[simp] theorem pure_eq (value : α) : (pure value : Checked α) = .valid value := rfl

/-- An application is valid exactly if both parts are. -/
theorem apply_eq_valid {f : Checked (α → β)} {value : Checked α} {result : β} :
    apply f value = .valid result ↔
      ∃ g a, f = .valid g ∧ value = .valid a ∧ g a = result := by
  cases f <;> cases value <;> simp [apply]

/-- Where a result is seen from does not change whether it is valid. -/
theorem within_eq_valid {step : Place} {value : Checked α} {result : α} :
    within step value = .valid result ↔ value = .valid result := by
  cases value <;> simp [within]

end Checked

end TlsTranscript
