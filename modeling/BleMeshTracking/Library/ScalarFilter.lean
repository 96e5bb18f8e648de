import Mathlib.Algebra.Order.Field.Basic
import Mathlib.Tactic.FieldSimp
import Mathlib.Tactic.Linarith
import Mathlib.Tactic.Ring

/-!
# A scalar Kalman filter

The gain and the covariance of one measurement are monotone in the covariance before it, and the
estimate moves towards the measurement by a fraction.
-/

namespace ScalarFilter

variable {K : Type*} [Field K] [LinearOrder K] [IsStrictOrderedRing K]

/-- The weight of a measurement with noise `r` against an estimate with covariance `p`. -/
def gain (p r : K) : K := p / (p + r)

def posterior (p r : K) : K := (1 - gain p r) * p

variable {p p' r r' : K}

theorem posterior_eq (hp : 0 < p) (hr : 0 < r) : posterior p r = gain p r * r := by
  have hne : p + r ≠ 0 := (add_pos hp hr).ne'
  unfold posterior gain
  field_simp
  ring

theorem posterior_comm (hp : 0 < p) (hr : 0 < r) : posterior p r = posterior r p := by
  rw [posterior_eq hp hr, posterior_eq hr hp]
  unfold gain
  rw [div_mul_eq_mul_div, div_mul_eq_mul_div, mul_comm p r, add_comm p r]

/-- A larger covariance and a smaller noise make a larger gain. -/
theorem gain_le_gain (hp : 0 < p) (hr' : 0 < r') (hpp : p ≤ p') (hrr : r' ≤ r) :
    gain p r ≤ gain p' r' := by
  have hp' : 0 < p' := hp.trans_le hpp
  have hr : 0 < r := hr'.trans_le hrr
  unfold gain
  rw [div_le_div_iff₀ (add_pos hp hr) (add_pos hp' hr')]
  have hcross : p * r' ≤ p' * r := mul_le_mul hpp hrr hr'.le hp'.le
  calc
    p * (p' + r') = p' * p + p * r' := by ring
    _ ≤ p' * p + p' * r := by linarith only [hcross]
    _ = p' * (p + r) := by ring

theorem gain_nonneg (hp : 0 < p) (hr : 0 < r) : 0 ≤ gain p r :=
  (div_pos hp (add_pos hp hr)).le

theorem gain_le_one (hp : 0 < p) (hr : 0 < r) : gain p r ≤ 1 := by
  unfold gain
  rw [div_le_one (add_pos hp hr)]
  linarith only [hr]

theorem posterior_le_left (hp : 0 < p) (hr : 0 < r) (hpp : p ≤ p') :
    posterior p r ≤ posterior p' r := by
  rw [posterior_eq hp hr, posterior_eq (hp.trans_le hpp) hr]
  exact mul_le_mul_of_nonneg_right (gain_le_gain hp hr hpp le_rfl) hr.le

/-- The covariance grows with the one before and with the noise. -/
theorem posterior_le_posterior (hp : 0 < p) (hr : 0 < r) (hpp : p ≤ p') (hrr : r ≤ r') :
    posterior p r ≤ posterior p' r' := by
  have hp' : 0 < p' := hp.trans_le hpp
  have hleft := posterior_le_left hp hr hpp
  have hright := posterior_le_left hr hp' hrr
  rw [posterior_comm hr hp', posterior_comm (hr.trans_le hrr) hp'] at hright
  exact hleft.trans hright

/-- `x` lies between two of the samples. -/
def Between (zs : List K) (x : K) : Prop := ∃ a ∈ zs, ∃ b ∈ zs, a ≤ x ∧ x ≤ b

omit [Field K] [IsStrictOrderedRing K] in
theorem between_singleton (z : K) : Between [z] z := by
  refine ⟨z, ?_, z, ?_, le_rfl, le_rfl⟩
  · exact List.mem_singleton_self z
  · exact List.mem_singleton_self z

/-- An estimate that moves towards a new sample stays between the samples. -/
theorem Between.towards {zs : List K} {x k : K} (h : Between zs x) (hk : 0 ≤ k) (hk1 : k ≤ 1)
    (z : K) : Between (z :: zs) (x + k * (z - x)) := by
  obtain ⟨a, ha, b, hb, hax, hxb⟩ := h
  rcases le_total x z with hxz | hzx
  · have hmove : 0 ≤ k * (z - x) := mul_nonneg hk (sub_nonneg.mpr hxz)
    have hstop : k * (z - x) ≤ z - x := mul_le_of_le_one_left (sub_nonneg.mpr hxz) hk1
    refine ⟨a, List.mem_cons_of_mem z ha, z, List.mem_cons_self, ?_, ?_⟩
    · linarith only [hax, hmove]
    · linarith only [hstop]
  · have hmove : k * (z - x) ≤ 0 := mul_nonpos_of_nonneg_of_nonpos hk (sub_nonpos.mpr hzx)
    have hstop : k * (x - z) ≤ x - z := mul_le_of_le_one_left (sub_nonneg.mpr hzx) hk1
    refine ⟨z, List.mem_cons_self, b, List.mem_cons_of_mem z hb, ?_, ?_⟩
    · have hneg : k * (z - x) = -(k * (x - z)) := by ring
      linarith only [hstop, hneg]
    · linarith only [hxb, hmove]

/-- The estimate after a measurement. -/
theorem Between.measure {zs : List K} {x : K} (h : Between zs x) (hp : 0 < p) (hr : 0 < r) (z : K) :
    Between (z :: zs) (x + gain p r * (z - x)) :=
  h.towards (gain_nonneg hp hr) (gain_le_one hp hr) z

end ScalarFilter
