import Mathlib.Algebra.Order.Ring.Int
import Mathlib.Data.UInt
import Mathlib.Tactic.Ring

/-!
# Two clocks counting whole ticks

A sender counts ticks of length `T` since its own origin `o`; a receiver that knows the count at
time `s` can only divide the time elapsed since then.  The two differ by at most the one tick
that the phase of the sender's clock hides, and both cases occur unless `s` is a tick boundary.
Counts are sent in 16 bits.  A receiver anchored at the last count it accepted predicts the next
one and covers its neighbours as well; `InStep` says exactly which anchors cover the sender for
ever.
-/

namespace TickClock

/-- The number of whole ticks at time `t` of a clock started at `o`. -/
def ticks (T o t : ℤ) : ℤ := (t - o) / T

variable {T o s t : ℤ}

/-- The true count has advanced by the elapsed ticks, or by one more. -/
theorem ticks_advance (hT : 0 < T) (o s t : ℤ) :
    ticks T o t = ticks T o s + (t - s) / T ∨ ticks T o t = ticks T o s + (t - s) / T + 1 := by
  have hs := Int.mul_ediv_add_emod (s - o) T
  have ht := Int.mul_ediv_add_emod (t - s) T
  have hs0 := Int.emod_nonneg (s - o) hT.ne'
  have hs1 := Int.emod_lt_of_pos (s - o) hT
  have ht0 := Int.emod_nonneg (t - s) hT.ne'
  have ht1 := Int.emod_lt_of_pos (t - s) hT
  have hsum : t - o = (s - o) % T + (t - s) % T + T * ((s - o) / T + (t - s) / T) := by
    rw [mul_add]
    omega
  have hdiv : ticks T o t =
      ((s - o) % T + (t - s) % T) / T + (ticks T o s + (t - s) / T) := by
    unfold ticks
    rw [hsum, Int.add_mul_ediv_left _ _ hT.ne']
  by_cases hlt : (s - o) % T + (t - s) % T < T
  · rw [Int.ediv_eq_zero_of_lt (by omega) hlt] at hdiv
    omega
  · have hsplit : (s - o) % T + (t - s) % T = (s - o) % T + (t - s) % T - T + T := by omega
    rw [hsplit, Int.add_ediv_of_dvd_right (dvd_refl T), Int.ediv_self hT.ne',
      Int.ediv_eq_zero_of_lt (by omega) (by omega)] at hdiv
    omega

theorem ticks_advance_of_boundary (hT : 0 < T) (h : T ∣ s - o) (t : ℤ) :
    ticks T o t = ticks T o s + (t - s) / T := by
  obtain ⟨m, hm⟩ := h
  have hsum : t - o = t - s + T * m := by omega
  unfold ticks
  rw [hsum, Int.add_mul_ediv_left _ _ hT.ne', hm, Int.mul_ediv_cancel_left _ hT.ne']
  ring

/-- After `m` whole ticks the count has advanced by `m`. -/
theorem ticks_add_mul (hT : 0 < T) (o s m : ℤ) :
    ticks T o (s + T * m) = ticks T o s + m ∧ (s + T * m - s) / T = m := by
  refine ⟨?_, ?_⟩
  · have hsum : s + T * m - o = s - o + T * m := by ring
    unfold ticks
    rw [hsum, Int.add_mul_ediv_left _ _ hT.ne']
  · rw [add_sub_cancel_left, Int.mul_ediv_cancel_left _ hT.ne']

/-- Off a boundary the count is one further just before the receiver sees the next tick. -/
theorem ticks_add_mul_pred (hT : 0 < T) (h : ¬ T ∣ s - o) (m : ℤ) :
    ticks T o (s + T * m + (T - 1)) = ticks T o s + m + 1 ∧
      (s + T * m + (T - 1) - s) / T = m := by
  have hmod := Int.mul_ediv_add_emod (s - o) T
  have hmod0 := Int.emod_nonneg (s - o) hT.ne'
  have hmod1 := Int.emod_lt_of_pos (s - o) hT
  have hne : (s - o) % T ≠ 0 := fun h0 => h (Int.dvd_of_emod_eq_zero h0)
  refine ⟨?_, ?_⟩
  · have hsum : s + T * m + (T - 1) - o =
        (s - o) % T - 1 + T * ((s - o) / T + m + 1) := by
      rw [mul_add, mul_add]
      omega
    unfold ticks
    rw [hsum, Int.add_mul_ediv_left _ _ hT.ne', Int.ediv_eq_zero_of_lt (by omega) (by omega)]
    ring
  · have hsum : s + T * m + (T - 1) - s = T - 1 + T * m := by ring
    rw [hsum, Int.add_mul_ediv_left _ _ hT.ne', Int.ediv_eq_zero_of_lt (by omega) (by omega)]
    ring

theorem ofInt_toNat (x : UInt16) : UInt16.ofInt (x.toNat : ℤ) = x := by
  apply UInt16.toNat_inj.mp
  have hx := x.toNat_lt
  simp only [UInt16.ofInt, UInt16.toNat_ofNat']
  omega

theorem ofInt_natCast (n : ℕ) : UInt16.ofInt n = UInt16.ofNat n := by
  apply UInt16.toNat_inj.mp
  simp only [UInt16.ofInt, UInt16.toNat_ofNat']
  omega

theorem ofInt_eq_ofInt_iff {a b : ℤ} :
    UInt16.ofInt a = UInt16.ofInt b ↔ a % 2 ^ 16 = b % 2 ^ 16 := by
  rw [← UInt16.toNat_inj]
  have ha := Int.emod_nonneg a (show (2 ^ 16 : ℤ) ≠ 0 by decide)
  have hb := Int.emod_nonneg b (show (2 ^ 16 : ℤ) ≠ 0 by decide)
  have ha' := Int.emod_lt_of_pos a (show (0 : ℤ) < 2 ^ 16 by decide)
  have hb' := Int.emod_lt_of_pos b (show (0 : ℤ) < 2 ^ 16 by decide)
  simp only [UInt16.ofInt, UInt16.toNat_ofNat', Nat.reducePow] at *
  omega

theorem toNat_ofInt (n : ℤ) : ((UInt16.ofInt n).toNat : ℤ) = n % 2 ^ 16 := by
  have hx := (UInt16.ofInt n).toNat_lt
  have h := ofInt_eq_ofInt_iff.mp (ofInt_toNat (UInt16.ofInt n))
  omega

theorem ofInt_toNat_add (x : UInt16) (b : ℤ) :
    UInt16.ofInt (x.toNat + b) = x + UInt16.ofInt b := by
  rw [UInt16.ofInt_add, ofInt_toNat]

/-- Every count modulo 2^16 comes up again, at a whole number of ticks after `s` and after
`now`. -/
theorem exists_late_ticks (hT : 0 < T) (o s now k : ℤ) :
    ∃ m : ℤ, 0 ≤ m ∧ now ≤ s + T * m ∧ (ticks T o s + m) % 2 ^ 16 = k % 2 ^ 16 := by
  have hr := Int.emod_nonneg (k - ticks T o s) (show (2 ^ 16 : ℤ) ≠ 0 by decide)
  generalize hm : (k - ticks T o s) % 2 ^ 16 + 2 ^ 16 * ((now - s).natAbs : ℤ) = m
  have hm0 : 0 ≤ m := by omega
  have hmul : m ≤ T * m := le_mul_of_one_le_left hm0 hT
  exact ⟨m, hm0, by omega, by omega⟩

def sent (T o t : ℤ) : UInt16 := UInt16.ofInt (ticks T o t)

structure Anchor where
  count : UInt16
  time : ℤ

def Anchor.predicted (T : ℤ) (a : Anchor) (t : ℤ) : UInt16 :=
  UInt16.ofInt (a.count.toNat + (t - a.time) / T)

def Anchor.Covers (T : ℤ) (a : Anchor) (t : ℤ) (k : UInt16) : Prop :=
  ∃ d ∈ [-1, 0, 1], k = UInt16.ofInt ((a.predicted T t).toNat + d)

/-- The anchor holds the sender's count, or the next one, or on a boundary the previous one. -/
def Anchor.InStep (T o : ℤ) (a : Anchor) : Prop :=
  a.count = UInt16.ofInt (ticks T o a.time) ∨ a.count = UInt16.ofInt (ticks T o a.time + 1) ∨
    a.count = UInt16.ofInt (ticks T o a.time - 1) ∧ T ∣ a.time - o

theorem Anchor.covers_iff {T t n : ℤ} {a : Anchor} :
    a.Covers T t (UInt16.ofInt n) ↔
      ∃ d ∈ [-1, 0, 1], (n - a.count.toNat - (t - a.time) / T - d) % 2 ^ 16 = 0 := by
  have hd : ∀ d : ℤ, UInt16.ofInt n = UInt16.ofInt ((a.predicted T t).toNat + d) ↔
      (n - a.count.toNat - (t - a.time) / T - d) % 2 ^ 16 = 0 := by
    intro d
    rw [Anchor.predicted, ofInt_toNat_add, ← UInt16.ofInt_add, ofInt_eq_ofInt_iff]
    omega
  simp only [Anchor.Covers, hd]

/-- An anchor in step covers the sender from then on. -/
theorem Anchor.InStep.covers {a : Anchor} (hT : 0 < T) (h : a.InStep T o) (t : ℤ) :
    a.Covers T t (sent T o t) := by
  have hcount := a.count.toNat_lt
  rw [sent, Anchor.covers_iff]
  rcases h with h | h | ⟨h, hbound⟩
  all_goals rw [← ofInt_toNat a.count, ofInt_eq_ofInt_iff] at h
  · rcases ticks_advance hT o a.time t with ht | ht
    · exact ⟨0, by simp, by omega⟩
    · exact ⟨1, by simp, by omega⟩
  · rcases ticks_advance hT o a.time t with ht | ht
    · exact ⟨-1, by simp, by omega⟩
    · exact ⟨0, by simp, by omega⟩
  · have ht := ticks_advance_of_boundary hT hbound t
    exact ⟨1, by simp, by omega⟩

/-- An anchor that covers the sender at all late times at which it sends the counts `k` and
`k + 1` is in step. -/
theorem Anchor.inStep_of_covers {a : Anchor} (hT : 0 < T) (now k : ℤ)
    (h : ∀ t, now ≤ t → a.time ≤ t → ticks T o t % 2 ^ 16 = k % 2 ^ 16 →
      a.Covers T t (sent T o t)) : a.InStep T o := by
  have hcount := a.count.toNat_lt
  have hexact : ∃ d ∈ [-1, 0, 1], (ticks T o a.time - a.count.toNat - d) % 2 ^ 16 = 0 := by
    obtain ⟨m, hm, hnow, hmod⟩ := exists_late_ticks hT o a.time now k
    obtain ⟨htick, hdiv⟩ := ticks_add_mul hT o a.time m
    have hpos : 0 ≤ T * m := Int.mul_nonneg hT.le hm
    obtain ⟨d, hd, hcov⟩ := Anchor.covers_iff.mp
      (h (a.time + T * m) hnow (by omega) (by rw [htick]; exact hmod))
    exact ⟨d, hd, by rw [htick, hdiv] at hcov; omega⟩
  by_cases hbound : T ∣ a.time - o
  · obtain ⟨d, hd, hcov⟩ := hexact
    rw [Anchor.InStep, ← ofInt_toNat a.count, ofInt_eq_ofInt_iff, ofInt_eq_ofInt_iff,
      ofInt_eq_ofInt_iff]
    simp only [List.mem_cons, List.not_mem_nil, or_false] at hd
    rcases hd with rfl | rfl | rfl
    · exact Or.inr (Or.inl (by omega))
    · exact Or.inl (by omega)
    · exact Or.inr (Or.inr ⟨by omega, hbound⟩)
  · have hcarry : ∃ d ∈ [-1, 0, 1],
        (ticks T o a.time + 1 - a.count.toNat - d) % 2 ^ 16 = 0 := by
      obtain ⟨m, hm, hnow, hmod⟩ := exists_late_ticks hT o a.time now (k - 1)
      obtain ⟨htick, hdiv⟩ := ticks_add_mul_pred hT hbound m
      have hpos : 0 ≤ T * m := Int.mul_nonneg hT.le hm
      obtain ⟨d, hd, hcov⟩ := Anchor.covers_iff.mp
        (h (a.time + T * m + (T - 1)) (by omega) (by omega) (by rw [htick]; omega))
      exact ⟨d, hd, by rw [htick, hdiv] at hcov; omega⟩
    obtain ⟨d, hd, hcov⟩ := hexact
    obtain ⟨c, hc, hcov'⟩ := hcarry
    rw [Anchor.InStep, ← ofInt_toNat a.count, ofInt_eq_ofInt_iff, ofInt_eq_ofInt_iff]
    simp only [List.mem_cons, List.not_mem_nil, or_false] at hd hc
    omega

end TickClock
