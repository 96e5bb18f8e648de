import Mathlib.Data.List.DropRight

/-!
# How long a condition has held at the end of a list

The trailing run of a list of observations is the longest final segment whose members all meet a
condition.  A counter that goes up while the condition is met and back to nothing when it is not
holds its length.
-/

namespace TrailingRun

variable {α : Type*} {p : α → Bool}

/-- How many of the last observations in a row meet `p`. -/
def trailing (p : α → Bool) (obs : List α) : ℕ := (obs.rtakeWhile p).length

/-- The last `k` observations are there and all meet `p`. -/
def Lasting (p : α → Bool) (k : ℕ) (obs : List α) : Prop :=
  ∃ t, t <:+ obs ∧ t.length = k ∧ ∀ x ∈ t, p x = true

theorem trailing_concat (obs : List α) (x : α) :
    trailing p (obs ++ [x]) = if p x = true then trailing p obs + 1 else 0 := by
  unfold trailing
  rw [List.rtakeWhile_concat]
  by_cases hx : p x = true
  · rw [if_pos hx, if_pos hx, List.length_append, List.length_singleton]
  · rw [if_neg hx, if_neg hx, List.length_nil]

/-- A final segment that meets `p` lies inside the trailing run. -/
theorem length_le_trailing {t obs : List α} (ht : t <:+ obs) (hp : ∀ x ∈ t, p x = true) :
    t.length ≤ trailing p obs := by
  obtain ⟨s, rfl⟩ := ht
  induction t using List.reverseRecOn with
  | nil => exact Nat.zero_le _
  | append_singleton t x ih =>
    have hx : p x = true := hp x (List.mem_append_right t (List.mem_singleton_self x))
    have hrest := ih fun y hy => hp y (List.mem_append_left [x] hy)
    rw [← List.append_assoc, trailing_concat, if_pos hx, List.length_append, List.length_singleton]
    exact Nat.succ_le_succ hrest

theorem le_trailing_iff (k : ℕ) (obs : List α) : k ≤ trailing p obs ↔ Lasting p k obs := by
  constructor
  · intro hk
    refine ⟨(obs.rtakeWhile p).drop (trailing p obs - k), ?_, ?_, ?_⟩
    · exact (List.drop_suffix _ _).trans (List.rtakeWhile_suffix p obs)
    · rw [List.length_drop]
      exact Nat.sub_sub_self hk
    · intro x hx
      exact List.mem_rtakeWhile_imp (List.mem_of_mem_drop hx)
  · rintro ⟨t, ht, rfl, hp⟩
    exact length_le_trailing ht hp

end TrailingRun
