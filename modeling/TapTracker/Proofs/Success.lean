import Mathlib.Tactic.Lemma

/-!
# Computations that succeed

What the success of a computation that may fail says about its parts.
-/

namespace TapTracker

section Success

variable {ε ε' α β : Type} {x : Except ε α}

/-- Two computations one after the other succeed if both of them do. -/
lemma bind_eq_ok {f : α → Except ε β} {b : β} :
    x >>= f = .ok b ↔ ∃ a, x = .ok a ∧ f a = .ok b := by
  cases x with
  | error e => simp [bind, Except.bind]
  | ok a => simp [bind, Except.bind]

/-- What is made of a result succeeds if there is a result. -/
lemma map_eq_ok {f : α → β} {b : β} : x.map f = .ok b ↔ ∃ a, x = .ok a ∧ f a = b := by
  cases x with
  | error e => simp [Except.map]
  | ok a => simp [Except.map]

/-- Another wording of errors keeps the successes. -/
lemma mapError_eq_ok {f : ε → ε'} {a : α} : x.mapError f = .ok a ↔ x = .ok a := by
  constructor
  · intro h
    cases x with
    | error e => cases h
    | ok a =>
      cases h
      rfl
  · rintro rfl
    rfl

end Success

end TapTracker
