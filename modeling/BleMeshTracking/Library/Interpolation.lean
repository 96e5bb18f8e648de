import Mathlib.Algebra.Order.Ring.Int
import Mathlib.Data.Int.Order.Basic
import Mathlib.Data.List.Chain
import Mathlib.Tactic.Ring

/-!
# Interpolation in a table

Integer values between the points of a table, listed from the largest argument down, rounded down.
-/

namespace Interpolation

structure Point where
  x : ℤ
  y : ℤ

def between (hi lo : Point) (x : ℤ) : ℤ := lo.y + (x - lo.x) * (hi.y - lo.y) / (hi.x - lo.x)

def along : List Point → ℤ → Option ℤ
  | hi :: lo :: rest, x =>
    if x ≤ hi.x ∧ lo.x ≤ x then some (between hi lo x) else along (lo :: rest) x
  | _, _ => none

abbrev Falling (points : List Point) : Prop := points.IsChain fun p q => q.x < p.x

section Table

variable {p q : Point} {points : List Point} {x v : ℤ}

theorem along_cons_cons (h : along (p :: q :: points) x = some v) :
    (x ≤ p.x ∧ q.x ≤ x) ∧ v = between p q x ∨
      ¬ (x ≤ p.x ∧ q.x ≤ x) ∧ along (q :: points) x = some v := by
  unfold along at h
  split_ifs at h with hin
  · cases h
    exact Or.inl ⟨hin, rfl⟩
  · exact Or.inr ⟨hin, h⟩

/-- Every argument from the last point to the first has a value. -/
theorem along_isSome (hq : q.x ≤ x) (hx : x ≤ p.x) :
    (along (p :: points ++ [q]) x).isSome = true := by
  induction points generalizing p with
  | nil =>
    rw [List.singleton_append, along, if_pos ⟨hx, hq⟩]
    rfl
  | cons r points ih =>
    rw [List.cons_append, List.cons_append]
    unfold along
    split_ifs with hin
    · rfl
    · have hxr : x ≤ r.x := by
        by_contra hlt
        exact hin ⟨hx, (not_le.mp hlt).le⟩
      exact ih hxr

/-- Where the points lie on one line, with one step of `y` for `k` of `x`, so do the values,
rounded down. -/
theorem along_line (hf : Falling points) {k : ℤ} (hk : 0 < k) {o : Point}
    (hline : ∀ r ∈ points, r.x = o.x + k * (r.y - o.y)) (h : along points x = some v) :
    v = o.y + (x - o.x) / k := by
  induction points with
  | nil => cases h
  | cons p points ih =>
    cases points with
    | nil => cases h
    | cons q points =>
      obtain ⟨hbelow, hrest⟩ := List.isChain_cons_cons.mp hf
      obtain ⟨hp, hline'⟩ := List.forall_mem_cons.mp hline
      rcases along_cons_cons h with ⟨-, rfl⟩ | ⟨-, hv⟩
      · have hq := hline' q List.mem_cons_self
        have hdx : p.x - q.x = (p.y - q.y) * k := by
          rw [hp, hq]
          ring
        have hdy : 0 < p.y - q.y := by
          have hpos := sub_pos.mpr hbelow
          rw [hdx] at hpos
          exact (pos_iff_pos_of_mul_pos hpos).mpr hk
        have hsum : x - o.x = (x - q.x) + k * (q.y - o.y) := by
          rw [hq]
          ring
        rw [between, hdx, mul_comm (x - q.x), Int.mul_ediv_mul_of_pos _ _ hdy, hsum,
          Int.add_mul_ediv_left _ _ hk.ne']
        ring
      · exact ih hrest hline' hv

end Table

end Interpolation
