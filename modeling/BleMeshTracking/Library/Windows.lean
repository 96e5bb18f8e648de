import Mathlib.Order.Monotone.Basic
import Mathlib.Tactic.Ring

/-!
# Signals and sampling windows

Time is cut from a start `s` on into windows of length `w`, each open on the left and closed on
the right.  A strictly increasing sequence of signals that starts in time and leaves no gap longer
than `w` hits every window; one whose signals are all more than `w` apart misses some window.
-/

namespace Windows

def InWindow (s w j t : ℕ) : Prop := s + j * w < t ∧ t ≤ s + (j + 1) * w

variable {T : ℕ → ℕ} {s w P : ℕ}

theorem le_of_spaced (h : ∀ k, T k + P ≤ T (k + 1)) (k m : ℕ) : T k + m * P ≤ T (k + m) := by
  induction m with
  | zero => simp
  | succ m ih =>
    have hm := h (k + m)
    calc T k + (m + 1) * P = T k + m * P + P := by ring
      _ ≤ T (k + m) + P := by omega
      _ ≤ T (k + (m + 1)) := hm

theorem hits_every_window (hfirst : T 0 ≤ s + w) (hgrow : ∀ k, T k < T (k + 1))
    (hgap : ∀ k, T (k + 1) ≤ T k + w) (j : ℕ) : ∃ k, InWindow s w j (T k) := by
  classical
  -- the first signal after the start of the window
  have hlate : ∃ k, s + j * w < T k := by
    have hspaced := le_of_spaced (P := 1) hgrow 0 (s + j * w + 1)
    rw [Nat.zero_add] at hspaced
    exact ⟨s + j * w + 1, by omega⟩
  have hw : (j + 1) * w = j * w + w := by ring
  refine ⟨Nat.find hlate, Nat.find_spec hlate, ?_⟩
  cases hk : Nat.find hlate with
  | zero => omega
  | succ k =>
    have hearly := Nat.find_min hlate (m := k) (by omega)
    have hnext := hgap k
    omega

theorem misses_some_window (hw : w < P) (h : ∀ k, T k + P ≤ T (k + 1)) (s : ℕ) :
    ∃ j, ∀ k, ¬InWindow s w j (T k) := by
  by_contra hall
  push Not at hall
  choose f hf using hall
  have hmono : Monotone T := monotone_nat_of_le_succ fun k => by have := h k; omega
  -- windows are disjoint and in order, so each needs a signal of its own
  have hnext : ∀ j, f j + 1 ≤ f (j + 1) := by
    intro j
    by_contra hle
    have hT := hmono (show f (j + 1) ≤ f j by omega)
    have hend := (hf j).2
    have hstart := (hf (j + 1)).1
    omega
  have hf0 : f 0 + w * 1 ≤ f (0 + w) := le_of_spaced hnext 0 w
  have hspaced := le_of_spaced h (f 0) w
  have hlast := hmono (show f 0 + w ≤ f w by simpa using hf0)
  have hstart := (hf 0).1
  have hend := (hf w).2
  have hprod : w * (w + 1) ≤ w * P := Nat.mul_le_mul_left w hw
  have hcomm : (w + 1) * w = w * (w + 1) := Nat.mul_comm _ _
  omega

end Windows
