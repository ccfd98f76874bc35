import Mathlib.Init

/-!
# Computations that fail

How a result comes out of a sequence in `Except`: what returns has returned in every part, and an
exception comes from the first part that does not return.
-/

namespace LivekitBridge.Lib

variable {ε α β : Type} {x : Except ε α} {f : α → Except ε β}

/-- What follows is reached, and returns. -/
theorem bind_eq_ok {b : β} : (x >>= f) = .ok b ↔ ∃ a, x = .ok a ∧ f a = .ok b := by
  cases x with
  | ok a =>
    constructor
    · intro h
      exact ⟨a, rfl, h⟩
    · intro h
      obtain ⟨a', ha, h⟩ := h
      cases ha
      exact h
  | error e =>
    constructor
    · intro h
      cases h
    · intro h
      obtain ⟨a, ha, _⟩ := h
      cases ha

/-- An exception comes from the first part, or from the second after the first has returned. -/
theorem bind_eq_error {e : ε} :
    (x >>= f) = .error e ↔ x = .error e ∨ ∃ a, x = .ok a ∧ f a = .error e := by
  cases x with
  | ok a =>
    constructor
    · intro h
      exact .inr ⟨a, rfl, h⟩
    · intro h
      rcases h with h | ⟨a', ha, h⟩
      · cases h
      · cases ha
        exact h
  | error e' =>
    constructor
    · intro h
      cases h
      exact .inl rfl
    · intro h
      rcases h with h | ⟨a, ha, _⟩
      · cases h
        rfl
      · cases ha

end LivekitBridge.Lib
