import Mathlib.Data.Int.ConditionallyCompleteOrder
import Mathlib.Data.List.MinMax
import Mathlib.Order.ConditionallyCompleteLattice.Basic

/-!
# The loop that keeps the strongest entry

A `for` loop over candidates, some of which have no value, that replaces its current best only
by a strictly larger value.  It computes the first entry of largest value, `List.argmax` over
the candidates that have one, as long as the initial bound lies below every value.
-/

namespace Strongest

variable {α : Type*} (value : α → Option ℤ)

def keep (best : Option α × ℤ) (a : α) : Option α × ℤ :=
  match value a with
  | some v => if best.2 < v then (some a, v) else best
  | none => best

/-- The whole loop, started with no candidate and the bound `floor`. -/
def scan (floor : ℤ) (l : List α) : Option α × ℤ :=
  l.foldl (keep value) (none, floor)

def valued (l : List α) : List α := l.filter fun a => (value a).isSome

variable {value} {floor : ℤ}

theorem mem_valued {l : List α} {a : α} : a ∈ valued value l ↔ a ∈ l ∧ ∃ v, value a = some v := by
  simp [valued, Option.isSome_iff_exists]

theorem scan_concat (l : List α) (a : α) :
    scan value floor (l ++ [a]) = keep value (scan value floor l) a := by
  simp [scan, List.foldl_append]

/-- Index of the loop's result: its candidate is the first of largest value, its bound is
that value, or the initial bound when no candidate has a value. -/
theorem scan_eq (hfloor : ∀ a v, value a = some v → floor < v) (l : List α) :
    scan value floor l =
      ((valued value l).argmax fun a => (value a).getD floor,
        (((valued value l).argmax fun a => (value a).getD floor).bind value).getD floor) := by
  induction l using List.reverseRecOn with
  | nil => rfl
  | append_singleton l a ih =>
    rw [scan_concat, ih]
    cases ha : value a with
    | none => simp [valued, keep, ha]
    | some v =>
      have hv : valued value (l ++ [a]) = valued value l ++ [a] := by simp [valued, ha]
      rw [hv, List.argmax_concat]
      cases hm : (valued value l).argmax fun a => (value a).getD floor with
      | none => simp [keep, ha, hfloor a v ha]
      | some m =>
        obtain ⟨w, hw⟩ := (mem_valued.mp (List.argmax_mem hm)).2
        by_cases h : w < v
        · simp [keep, ha, hw, h]
        · simp [keep, ha, hw, h]

theorem scan_fst (hfloor : ∀ a v, value a = some v → floor < v) (l : List α) :
    (scan value floor l).1 = (valued value l).argmax fun a => (value a).getD floor := by
  rw [scan_eq hfloor]

theorem scan_snd (hfloor : ∀ a v, value a = some v → floor < v) {l : List α} {a : α}
    (h : (scan value floor l).1 = some a) : value a = some (scan value floor l).2 := by
  rw [scan_fst hfloor] at h
  obtain ⟨v, hv⟩ := (mem_valued.mp (List.argmax_mem h)).2
  rw [scan_eq hfloor]
  simp [h, hv]

theorem scan_eq_none (hfloor : ∀ a v, value a = some v → floor < v) {l : List α} :
    (scan value floor l).1 = none ↔ ∀ a ∈ l, value a = none := by
  rw [scan_fst hfloor, List.argmax_eq_none, valued, List.filter_eq_nil_iff]
  simp

theorem le_scan (hfloor : ∀ a v, value a = some v → floor < v) {l : List α} {a b : α} {v : ℤ}
    (h : (scan value floor l).1 = some a) (hb : b ∈ l) (hv : value b = some v) :
    v ≤ (scan value floor l).2 := by
  have ha := scan_snd hfloor h
  rw [scan_fst hfloor] at h
  have hle := List.le_of_mem_argmax (mem_valued.mpr ⟨hb, v, hv⟩) h
  simpa [ha, hv] using hle

end Strongest
