import Mathlib.Data.Set.Insert
import Mathlib.Order.Defs.LinearOrder

/-!
# The newest of a set of samples

What a register that should keep the newest sample holds, and what a write makes of it.
-/

namespace Newest

variable {α τ : Type*} [LinearOrder τ] {time : α → τ} {W W' : Set α} {c : Option α} {w : α}

/-- The content is the newest sample of `W`, and empty when there is none. -/
def IsNewest (time : α → τ) (W : Set α) : Option α → Prop
  | none => W = ∅
  | some c => c ∈ W ∧ ∀ d ∈ W, time d ≤ time c

/-- A write is right exactly when what it overwrites is not newer. -/
theorem isNewest_write_iff (h : IsNewest time W c) (hw : w ∈ W') (hsub : W ⊆ W')
    (hnew : ∀ d ∈ W', d ∈ W ∨ d = w) :
    IsNewest time W' (some w) ↔ ∀ d ∈ c, time d ≤ time w := by
  refine ⟨?_, ?_⟩
  · intro hnewest d hd
    cases hd
    exact hnewest.2 d (hsub h.1)
  · intro hle
    refine ⟨hw, ?_⟩
    intro d hd
    rcases hnew d hd with hold | hwritten
    · cases c with
      | none =>
        have hempty : W = ∅ := h
        rw [hempty] at hold
        exact absurd hold (Set.notMem_empty d)
      | some c => exact (h.2 d hold).trans (hle c rfl)
    · rw [hwritten]

end Newest
