import Mathlib.Data.List.Basic

/-!
# Lists of length-prefixed fields

A list cut into fields, each behind an element that gives its length, and the search for the first
field that is accepted.
-/

namespace Fields

section Split

variable {α : Type*} (size : α → ℕ)

/-- The fields up to the first one that is empty or does not fit. -/
def split : List α → List (List α)
  | [] => []
  | a :: rest =>
    if size a = 0 ∨ rest.length < size a then []
    else rest.take (size a) :: split (rest.drop (size a))
termination_by l => l.length
decreasing_by
  rw [List.length_drop, List.length_cons]
  omega

variable {size} {l : List α} {a : α} {pos : ℕ}

theorem split_nil : split size [] = [] := by rw [split]

theorem split_drop_end (h : l.length ≤ pos) : split size (l.drop pos) = [] := by
  rw [List.drop_of_length_le h, split_nil]

/-- What a loop finds that stands in front of a field at `pos`. -/
theorem split_drop (h : l[pos]? = some a) :
    split size (l.drop pos) =
      if size a = 0 ∨ l.length ≤ pos + size a then []
      else (l.drop (pos + 1)).take (size a) :: split size (l.drop (pos + size a + 1)) := by
  obtain ⟨hpos, ha⟩ := List.getElem?_eq_some_iff.mp h
  have hcut : l.drop pos = a :: l.drop (pos + 1) := by
    rw [List.drop_eq_getElem_cons hpos, ha]
  have hfits : (l.drop (pos + 1)).length < size a ↔ l.length ≤ pos + size a := by
    rw [List.length_drop]
    omega
  rw [hcut, split, List.drop_drop]
  simp only [hfits]
  rw [show pos + 1 + size a = pos + size a + 1 by omega]

/-- A field behind its length is cut off. -/
theorem split_field {field rest : List α} (hsize : size a = field.length) (hne : field ≠ []) :
    split size (a :: (field ++ rest)) = field :: split size rest := by
  have hpos : field.length ≠ 0 := fun h => hne (List.length_eq_zero_iff.mp h)
  have hfits : ¬ (size a = 0 ∨ (field ++ rest).length < size a) := by
    rw [hsize, List.length_append]
    omega
  rw [split, if_neg hfits, hsize, List.take_left, List.drop_left]

theorem length_lt_of_mem_split {field : List α} (h : field ∈ split size l) :
    field.length < l.length := by
  fun_induction split size l with
  | case1 => cases h
  | case2 a rest hend => cases h
  | case3 a rest hfits ih =>
    rw [List.length_cons]
    rcases List.mem_cons.mp h with hfirst | hlater
    · rw [hfirst, List.length_take]
      omega
    · have hrest := ih hlater
      rw [List.length_drop] at hrest
      omega

end Split

section First

variable {β π σ : Type*} {accept : β → σ → Option π × σ} {b : β} {bs : List β} {s t : σ} {p : π}

def first (accept : β → σ → Option π × σ) : List β → σ → Option π × σ
  | [], s => (none, s)
  | b :: bs, s =>
    match accept b s with
    | (some p, s) => (some p, s)
    | (none, s) => first accept bs s

theorem first_cons_some (h : accept b s = (some p, t)) :
    first accept (b :: bs) s = (some p, t) := by
  unfold first
  rw [h]

theorem first_cons_none (h : accept b s = (none, t)) :
    first accept (b :: bs) s = first accept bs t := by
  rw [first, h]

theorem first_of_refused (h : ∀ b ∈ bs, ∀ s, accept b s = (none, s)) :
    first accept bs s = (none, s) := by
  induction bs with
  | nil => rfl
  | cons b bs ih =>
    rw [first_cons_none (h b List.mem_cons_self s)]
    exact ih fun c hc => h c (List.mem_cons_of_mem b hc)

/-- Where all fields but one are refused and leave the state alone, that one decides. -/
theorem first_of_only {pre post : List β} (hpre : ∀ b ∈ pre, ∀ s, accept b s = (none, s))
    (hpost : ∀ b ∈ post, ∀ s, accept b s = (none, s)) :
    first accept (pre ++ b :: post) s = accept b s := by
  induction pre with
  | nil =>
    rw [List.nil_append]
    rcases hb : accept b s with ⟨_ | p, t⟩
    · rw [first_cons_none hb, first_of_refused hpost]
    · rw [first_cons_some hb]
  | cons c pre ih =>
    rw [List.cons_append, first_cons_none (hpre c List.mem_cons_self s)]
    exact ih fun d hd => hpre d (List.mem_cons_of_mem c hd)

/-- What is accepted is one field, after a refusal of all fields before it. -/
theorem first_eq_some_iff :
    first accept bs s = (some p, t) ↔
      ∃ pre b post s', bs = pre ++ b :: post ∧ first accept pre s = (none, s') ∧
        accept b s' = (some p, t) := by
  induction bs generalizing s with
  | nil => simp [first]
  | cons c bs ih =>
    rcases hc : accept c s with ⟨_ | q, u⟩
    · rw [first_cons_none hc, ih]
      refine ⟨?_, ?_⟩
      · rintro ⟨pre, b, post, s', hbs, hpre, hb⟩
        exact ⟨c :: pre, b, post, s', by rw [hbs]; rfl, by rw [first_cons_none hc, hpre], hb⟩
      · rintro ⟨pre, b, post, s', hbs, hpre, hb⟩
        cases pre with
        | nil =>
          cases hpre
          obtain ⟨rfl, -⟩ := List.cons_eq_cons.mp hbs
          rw [hc] at hb
          cases hb
        | cons d pre =>
          obtain ⟨rfl, hrest⟩ := List.cons_eq_cons.mp hbs
          rw [first_cons_none hc] at hpre
          exact ⟨pre, b, post, s', hrest, hpre, hb⟩
    · rw [first_cons_some hc]
      refine ⟨?_, ?_⟩
      · intro h
        cases h
        exact ⟨[], c, bs, s, rfl, rfl, hc⟩
      · rintro ⟨pre, b, post, s', hbs, hpre, hb⟩
        cases pre with
        | nil =>
          cases hpre
          obtain ⟨rfl, -⟩ := List.cons_eq_cons.mp hbs
          rw [← hc, hb]
        | cons d pre =>
          obtain ⟨rfl, -⟩ := List.cons_eq_cons.mp hbs
          rw [first_cons_some hc] at hpre
          cases hpre

end First

end Fields
