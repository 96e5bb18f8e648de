import Mathlib.Logic.Basic
import Mathlib.Tactic.ByContra

/-!
# A flag that stands for an owner

A flag is taken by one party, may be handed over to another one, and is released by whoever holds
it then.  Who holds it is read off the state of the parties.
-/

namespace Ownership

variable {κ : Type*} {flag : Bool} {holds holds' : κ → Prop} {k m : κ}

/-- At most one party holds the flag, and it is set just when one does. -/
structure Exclusive (flag : Bool) (holds : κ → Prop) : Prop where
  unique : ∀ k l, holds k → holds l → k = l
  flag_iff : flag = true ↔ ∃ k, holds k

theorem exclusive_of_none (h : ∀ k, ¬ holds k) : Exclusive false holds := by
  refine ⟨fun k l hk => absurd hk (h k), ?_⟩
  simp [h]

theorem exclusive_of_only (hk : holds k) (honly : ∀ l, holds l → l = k) : Exclusive true holds :=
  ⟨fun l m hl hm => (honly l hl).trans (honly m hm).symm, fun _ => ⟨k, hk⟩, fun _ => rfl⟩

theorem Exclusive.flag_of_holds (h : Exclusive flag holds) (hk : holds k) : flag = true :=
  h.flag_iff.mpr ⟨k, hk⟩

theorem Exclusive.not_holds (h : Exclusive false holds) (k : κ) : ¬ holds k := by
  intro hk
  cases h.flag_of_holds hk

theorem Exclusive.congr (h : Exclusive flag holds) (hiff : ∀ k, holds' k ↔ holds k) :
    Exclusive flag holds' := by
  rw [show holds' = holds from funext fun k => propext (hiff k)]
  exact h

/-- A party takes the free flag. -/
theorem Exclusive.take (h : Exclusive false holds) (hk : holds' k)
    (hother : ∀ l, l ≠ k → holds' l → holds l) : Exclusive true holds' := by
  apply exclusive_of_only hk
  intro l hl
  by_contra hlk
  exact h.not_holds l (hother l hlk hl)

/-- The owner hands the flag over. -/
theorem Exclusive.handOver (h : Exclusive flag holds) (hk : holds k) (hm : holds' m)
    (hother : ∀ l, l ≠ m → holds' l → holds l ∧ l ≠ k) : Exclusive flag holds' := by
  rw [h.flag_of_holds hk]
  apply exclusive_of_only hm
  intro l hl
  by_contra hlm
  obtain ⟨hl, hlk⟩ := hother l hlm hl
  exact hlk (h.unique l k hl hk)

/-- The owner gives the flag back. -/
theorem Exclusive.release (h : Exclusive flag holds) (hk : holds k)
    (hother : ∀ l, holds' l → holds l ∧ l ≠ k) : Exclusive false holds' := by
  apply exclusive_of_none
  intro l hl
  obtain ⟨hl, hlk⟩ := hother l hl
  exact hlk (h.unique l k hl hk)

end Ownership
