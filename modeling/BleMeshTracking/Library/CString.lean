import Mathlib.Data.List.Lex
import Mathlib.Data.Nat.Digits.Lemmas
import Mathlib.Data.UInt
import Mathlib.Order.Basic

/-!
# Comparing strings of digits

`strncmp` on arrays of bytes.  On strings of decimal digits of one length it orders by the number
they write, and a fixed split of such a string into fields is ordered by its fields.
-/

namespace CString

/-- The comparison stops after `n` bytes, at a difference, or at a NUL in both. -/
def strncmp : ℕ → List UInt8 → List UInt8 → ℤ
  | n + 1, c :: a, d :: b =>
    if c ≠ d then (c.toNat : ℤ) - d.toNat else if c = 0 then 0 else strncmp n a b
  | _, _, _ => 0

def isLineEnd (c : UInt8) : Bool := c == 0x0D || c == 0x0A

def IsDigit (c : UInt8) : Prop := 48 ≤ c.toNat ∧ c.toNat ≤ 57

instance (c : UInt8) : Decidable (IsDigit c) := by
  unfold IsDigit
  infer_instance

def digit (c : UInt8) : ℕ := c.toNat - 48

def decimal (a : List UInt8) : ℕ := Nat.ofDigits 10 (a.reverse.map digit)

theorem IsDigit.digit_lt {c : UInt8} (h : IsDigit c) : digit c < 10 := by
  unfold digit
  have := h.2
  omega

theorem IsDigit.ne_zero {c : UInt8} (h : IsDigit c) : c ≠ 0 := by
  rintro rfl
  exact absurd h.1 (by decide)

theorem digit_lt_digit_iff {c d : UInt8} (hc : IsDigit c) (hd : IsDigit d) :
    digit c < digit d ↔ c.toNat < d.toNat := by
  have := hc.1
  have := hd.1
  unfold digit
  omega

theorem decimal_append (a b : List UInt8) :
    decimal (a ++ b) = decimal a * 10 ^ b.length + decimal b := by
  simp only [decimal, List.reverse_append, List.map_append, Nat.ofDigits_append, List.length_map,
    List.length_reverse]
  ring

theorem decimal_cons (c : UInt8) (a : List UInt8) :
    decimal (c :: a) = digit c * 10 ^ a.length + decimal a := by
  rw [← List.singleton_append, decimal_append]
  simp [decimal]

theorem decimal_lt {a : List UInt8} (h : ∀ c ∈ a, IsDigit c) : decimal a < 10 ^ a.length := by
  have hd : ∀ x ∈ a.reverse.map digit, x < 10 := by
    intro x hx
    obtain ⟨c, hc, rfl⟩ := List.mem_map.mp hx
    exact (h c (List.mem_reverse.mp hc)).digit_lt
  have hlt := Nat.ofDigits_lt_base_pow_length (by decide : 1 < 10) hd
  rw [List.length_map, List.length_reverse] at hlt
  exact hlt

/-- Two numbers in mixed radix are ordered by their leading parts first. -/
theorem mul_add_lt_iff {p q r s k : ℕ} (hr : r < k) (hs : s < k) :
    p * k + r < q * k + s ↔ p < q ∨ p = q ∧ r < s := by
  rcases Nat.lt_trichotomy p q with hlt | heq | hgt
  · have hle : (p + 1) * k ≤ q * k := Nat.mul_le_mul_right k hlt
    refine iff_of_true ?_ (Or.inl hlt)
    rw [Nat.succ_mul] at hle
    omega
  · subst heq
    simp
  · have hle : (q + 1) * k ≤ p * k := Nat.mul_le_mul_right k hgt
    rw [Nat.succ_mul] at hle
    refine iff_of_false (by omega) ?_
    rintro (h | ⟨h, _⟩) <;> omega

/-- On digit strings of one length that end in a NUL, `strncmp` compares the numbers. -/
theorem strncmp_pos_iff {n : ℕ} {a b : List UInt8} (x y : List UInt8)
    (ha : ∀ c ∈ a, IsDigit c) (hb : ∀ c ∈ b, IsDigit c) (hlen : a.length = b.length)
    (hn : a.length < n) :
    0 < strncmp n (a ++ 0 :: x) (b ++ 0 :: y) ↔ decimal b < decimal a := by
  induction a generalizing b n with
  | nil =>
    obtain rfl := List.eq_nil_of_length_eq_zero hlen.symm
    obtain ⟨n, rfl⟩ := Nat.exists_eq_add_one_of_ne_zero (Nat.ne_zero_of_lt hn)
    simp [strncmp]
  | cons c a ih =>
    obtain ⟨n, rfl⟩ := Nat.exists_eq_add_one_of_ne_zero (Nat.ne_zero_of_lt hn)
    cases b with
    | nil => exact absurd hlen (Nat.succ_ne_zero _)
    | cons d b =>
      have hl : a.length = b.length := Nat.succ.inj hlen
      obtain ⟨hc, hta⟩ := List.forall_mem_cons.mp ha
      obtain ⟨hd, htb⟩ := List.forall_mem_cons.mp hb
      rw [decimal_cons, decimal_cons, hl,
        mul_add_lt_iff (decimal_lt htb) (hl ▸ decimal_lt hta), digit_lt_digit_iff hd hc]
      simp only [List.cons_append, strncmp]
      by_cases hcd : c = d
      · subst hcd
        rw [if_neg (not_not_intro rfl), if_neg hc.ne_zero,
          ih hta htb hl (Nat.lt_of_succ_lt_succ hn)]
        simp
      · have hne : ¬digit d = digit c := by
          intro h
          apply hcd
          apply UInt8.toNat_inj.mp
          have := hc.1
          have := hd.1
          unfold digit at h
          omega
        rw [if_pos hcd]
        simp [hne]

def fields : List ℕ → List UInt8 → List ℕ
  | [], _ => []
  | w :: ws, a => decimal (a.take w) :: fields ws (a.drop w)

/-- Fixed-width fields are in the order of the whole string. -/
theorem fields_lt_iff {ws : List ℕ} {a b : List UInt8} (ha : ∀ c ∈ a, IsDigit c)
    (hb : ∀ c ∈ b, IsDigit c) (hal : a.length = ws.sum) (hbl : b.length = ws.sum) :
    fields ws a < fields ws b ↔ decimal a < decimal b := by
  induction ws generalizing a b with
  | nil =>
    obtain rfl := List.eq_nil_of_length_eq_zero hal
    obtain rfl := List.eq_nil_of_length_eq_zero hbl
    simp [fields]
  | cons w ws ih =>
    have hda : (a.drop w).length = ws.sum := by
      rw [List.length_drop, hal, List.sum_cons, Nat.add_sub_cancel_left]
    have hdb : (b.drop w).length = ws.sum := by
      rw [List.length_drop, hbl, List.sum_cons, Nat.add_sub_cancel_left]
    have hdda : ∀ c ∈ a.drop w, IsDigit c := fun c hc => ha c (List.mem_of_mem_drop hc)
    have hddb : ∀ c ∈ b.drop w, IsDigit c := fun c hc => hb c (List.mem_of_mem_drop hc)
    have hlt := ih hdda hddb hda hdb
    calc fields (w :: ws) a < fields (w :: ws) b
        ↔ decimal (a.take w) < decimal (b.take w) ∨
            decimal (a.take w) = decimal (b.take w) ∧ decimal (a.drop w) < decimal (b.drop w) := by
          rw [fields, fields, List.cons_lt_cons_iff, hlt]
      _ ↔ decimal (a.take w ++ a.drop w) < decimal (b.take w ++ b.drop w) := by
          rw [decimal_append, decimal_append, hda, hdb,
            mul_add_lt_iff (hda ▸ decimal_lt hdda) (hdb ▸ decimal_lt hddb)]
      _ ↔ decimal a < decimal b := by rw [List.take_append_drop, List.take_append_drop]

end CString
