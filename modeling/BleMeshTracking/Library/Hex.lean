import Mathlib.Algebra.Order.Ring.Nat
import Mathlib.Data.List.Basic
import Mathlib.Tactic.Ring

/-!
# Hexadecimal numerals of a fixed width

The lower-case digits that `%0wx` prints of a number below `16 ^ w`, and of a row of bytes.
-/

namespace Hex

def digits : ℕ → ℕ → List Char
  | 0, _ => []
  | w + 1, n => digits w (n / 16) ++ [(n % 16).digitChar]

@[simp]
theorem length_digits (w n : ℕ) : (digits w n).length = w := by
  induction w generalizing n with
  | zero => rfl
  | succ w ih => rw [digits, List.length_append, ih, List.length_singleton]

theorem digitChar_inj {a b : ℕ} (ha : a < 16) (hb : b < 16) (h : a.digitChar = b.digitChar) :
    a = b := by
  have hall : ∀ a b : Fin 16, (a : ℕ).digitChar = (b : ℕ).digitChar → a = b := by decide
  exact congrArg Fin.val (hall ⟨a, ha⟩ ⟨b, hb⟩ h)

theorem digits_inj {w n m : ℕ} (hn : n < 16 ^ w) (hm : m < 16 ^ w)
    (h : digits w n = digits w m) : n = m := by
  induction w generalizing n m with
  | zero => omega
  | succ w ih =>
    have hpow : 16 ^ (w + 1) = 16 ^ w * 16 := pow_succ 16 w
    obtain ⟨hhigh, hlow⟩ := List.append_inj' h rfl
    have hq := ih (Nat.div_lt_of_lt_mul (by omega)) (Nat.div_lt_of_lt_mul (by omega)) hhigh
    have hr := digitChar_inj (Nat.mod_lt n (by omega)) (Nat.mod_lt m (by omega))
      (List.cons.inj hlow).1
    omega

def row (w : ℕ) (l : List ℕ) : List Char := l.flatMap (digits w)

/-- Rows of equally many numbers are told apart. -/
theorem row_inj {w : ℕ} {l l' : List ℕ} (hlen : l.length = l'.length)
    (hl : ∀ n ∈ l, n < 16 ^ w) (hl' : ∀ n ∈ l', n < 16 ^ w) (h : row w l = row w l') : l = l' := by
  induction l generalizing l' with
  | nil => exact (List.length_eq_zero_iff.mp hlen.symm).symm
  | cons n l ih =>
    obtain ⟨m, l', rfl⟩ := List.exists_cons_of_length_eq_add_one hlen.symm
    simp only [row, List.flatMap_cons] at h
    obtain ⟨hfirst, hrest⟩ := List.append_inj h (by simp)
    have hnm := digits_inj (hl n List.mem_cons_self) (hl' m List.mem_cons_self) hfirst
    have htail := ih (Nat.succ.inj hlen) (fun k hk => hl k (List.mem_cons_of_mem n hk))
      (fun k hk => hl' k (List.mem_cons_of_mem m hk)) hrest
    rw [hnm, htail]

end Hex
