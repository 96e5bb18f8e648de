import BleMeshTracking.Library.SlotTable
import Mathlib.Data.List.TakeWhile

/-!
# First come, first kept

A table of `n` slots that gives every new key a free slot, and takes none back, holds the first `n`
keys it was given.
-/

namespace FirstCome

section Keys

variable {κ : Type*} [DecidableEq κ] {n : ℕ} {k : κ} {ks pre : List κ}

def accept (n : ℕ) (held : Finset κ) (k : κ) : Finset κ :=
  if held.card < n then insert k held else held

def kept (n : ℕ) (ks : List κ) : Finset κ := ks.foldl (accept n) ∅

theorem kept_append_singleton : kept n (ks ++ [k]) = accept n (kept n ks) k := by
  rw [kept, List.foldl_append]
  rfl

theorem subset_accept (held : Finset κ) : held ⊆ accept n held k := by
  unfold accept
  split_ifs
  · exact Finset.subset_insert k held
  · exact Finset.Subset.refl held

theorem accept_of_mem {held : Finset κ} (h : k ∈ held) : accept n held k = held := by
  unfold accept
  rw [Finset.insert_eq_of_mem h, ite_self]

theorem kept_subset : kept n ks ⊆ ks.toFinset := by
  induction ks using List.reverseRecOn with
  | nil => exact Finset.Subset.refl _
  | append_singleton ks k ih =>
    rw [kept_append_singleton, List.toFinset_append, accept]
    split_ifs
    · apply Finset.insert_subset
      · simp
      · exact ih.trans Finset.subset_union_left
    · exact ih.trans Finset.subset_union_left

theorem card_kept_le : (kept n ks).card ≤ n := by
  induction ks using List.reverseRecOn with
  | nil => exact Nat.zero_le n
  | append_singleton ks k ih =>
    rw [kept_append_singleton, accept]
    split_ifs with hroom
    · exact (Finset.card_insert_le _ _).trans hroom
    · exact ih

theorem kept_of_room (h : (kept n ks).card < n) : kept n ks = ks.toFinset := by
  induction ks using List.reverseRecOn with
  | nil => rfl
  | append_singleton ks k ih =>
    have hroom : (kept n ks).card < n := by
      rw [kept_append_singleton] at h
      exact (Finset.card_le_card (subset_accept _)).trans_lt h
    rw [kept_append_singleton, accept, if_pos hroom, ih hroom, List.toFinset_append,
      Finset.insert_eq, Finset.union_comm]
    simp

theorem card_kept_lt_iff : (kept n ks).card < n ↔ ks.toFinset.card < n := by
  refine ⟨?_, ?_⟩
  · intro h
    rw [← kept_of_room h]
    exact h
  · exact (Finset.card_le_card kept_subset).trans_lt

theorem subset_foldl_accept (held : Finset κ) : held ⊆ ks.foldl (accept n) held := by
  induction ks generalizing held with
  | nil => exact Finset.Subset.refl held
  | cons k ks ih => exact (subset_accept held).trans (ih _)

theorem kept_subset_append (post : List κ) : kept n ks ⊆ kept n (ks ++ post) := by
  rw [kept, kept, List.foldl_append]
  exact subset_foldl_accept _

/-- Once there is no room, every further key is turned away. -/
theorem kept_append_of_full (h : ¬(kept n ks).card < n) (post : List κ) :
    kept n (ks ++ post) = kept n ks := by
  rw [kept, List.foldl_append, ← kept]
  induction post with
  | nil => rfl
  | cons k post ih => rwa [List.foldl_cons, accept, if_neg h]

theorem takeWhile_first {post : List κ} (h : k ∉ pre) :
    (pre ++ k :: post).takeWhile (· ≠ k) = pre := by
  rw [List.takeWhile_append_of_pos, List.takeWhile_cons_of_neg, List.append_nil]
  · simp
  · intro a ha
    simpa using ne_of_mem_of_not_mem ha h

/-- A key is held if it was given, and fewer than `n` others before it first was. -/
theorem mem_kept_iff :
    k ∈ kept n ks ↔ k ∈ ks ∧ (ks.takeWhile (· ≠ k)).toFinset.card < n := by
  refine ⟨?_, ?_⟩
  · intro hk
    have hmem : k ∈ ks := List.mem_toFinset.mp (kept_subset hk)
    obtain ⟨pre, post, rfl, hpre⟩ := List.eq_append_cons_of_mem hmem
    refine ⟨hmem, ?_⟩
    rw [takeWhile_first hpre, ← card_kept_lt_iff]
    by_contra hfull
    rw [kept_append_of_full hfull] at hk
    exact hpre (List.mem_toFinset.mp (kept_subset hk))
  · rintro ⟨hmem, hroom⟩
    obtain ⟨pre, post, rfl, hpre⟩ := List.eq_append_cons_of_mem hmem
    rw [takeWhile_first hpre, ← card_kept_lt_iff] at hroom
    have hgiven : k ∈ kept n (pre ++ [k]) := by
      rw [kept_append_singleton, accept, if_pos hroom]
      exact Finset.mem_insert_self k _
    rw [List.append_cons]
    exact kept_subset_append post hgiven

/-- All keys are held just if there are at most `n` of them. -/
theorem kept_eq_iff : kept n ks = ks.toFinset ↔ ks.toFinset.card ≤ n := by
  refine ⟨?_, ?_⟩
  · intro h
    rw [← h]
    exact card_kept_le
  · intro hcard
    by_cases hroom : (kept n ks).card < n
    · exact kept_of_room hroom
    · exact Finset.eq_of_subset_of_card_le kept_subset (hcard.trans (not_lt.mp hroom))

end Keys

section Table

variable {κ α : Type*} [DecidableEq κ] {n : ℕ} {used : α → Bool} {key : α → κ} {k : κ} {a : α}
  {t t' : Fin n → α} {i : Fin n}

def keys (used : α → Bool) (key : α → κ) (t : Fin n → α) : Finset κ :=
  (Finset.univ.filter fun i => used (t i) = true).image fun i => key (t i)

theorem mem_keys_iff : k ∈ keys used key t ↔ ∃ i, used (t i) = true ∧ key (t i) = k := by
  simp [keys]

theorem keys_of_unused (h : ∀ i, used (t i) = false) : keys used key t = ∅ := by
  apply Finset.eq_empty_of_forall_notMem
  intro k hk
  obtain ⟨i, hi, -⟩ := mem_keys_iff.mp hk
  rw [h i] at hi
  cases hi

theorem keys_congr (hused : ∀ i, used (t' i) = used (t i)) (hkey : ∀ i, key (t' i) = key (t i)) :
    keys used key t' = keys used key t := by
  ext k
  simp only [mem_keys_iff, hused, hkey]

theorem card_keys_lt_iff (h : SlotTable.Distinct used key t) :
    (keys used key t).card < n ↔ ∃ i, used (t i) = false := by
  have hcard : (keys used key t).card = (Finset.univ.filter fun i => used (t i) = true).card := by
    apply Finset.card_image_of_injOn
    intro i hi j hj hij
    exact h i j (Finset.mem_filter.mp hi).2 (Finset.mem_filter.mp hj).2 hij
  rw [hcard]
  refine ⟨?_, ?_⟩
  · intro hlt
    by_contra hfull
    have hall : ∀ i, used (t i) = true := by
      intro i
      apply Bool.eq_true_of_not_eq_false
      exact fun hi => hfull ⟨i, hi⟩
    simp [hall] at hlt
  · rintro ⟨i, hi⟩
    have hlt : (Finset.univ.filter fun i => used (t i) = true).card <
        (Finset.univ : Finset (Fin n)).card := by
      apply Finset.card_lt_card
      refine Finset.filter_ssubset.mpr ⟨i, Finset.mem_univ i, ?_⟩
      simp [hi]
    simpa using hlt

theorem keys_update_own (hi : used (t i) = true) (ha : used a = true) (hkey : key a = key (t i)) :
    keys used key (Function.update t i a) = keys used key t := by
  apply keys_congr
  · intro j
    by_cases hj : j = i
    · rw [hj, Function.update_self, ha, hi]
    · rw [Function.update_of_ne hj]
  · intro j
    by_cases hj : j = i
    · rw [hj, Function.update_self, hkey]
    · rw [Function.update_of_ne hj]

theorem keys_update_new (hi : used (t i) = false) (ha : used a = true) :
    keys used key (Function.update t i a) = insert (key a) (keys used key t) := by
  ext k
  rw [Finset.mem_insert, mem_keys_iff, mem_keys_iff]
  refine ⟨?_, ?_⟩
  · rintro ⟨j, hj, hk⟩
    by_cases hji : j = i
    · rw [hji, Function.update_self] at hk
      exact Or.inl hk.symm
    · rw [Function.update_of_ne hji] at hj hk
      exact Or.inr ⟨j, hj, hk⟩
  · rintro (hk | ⟨j, hj, hk⟩)
    · exact ⟨i, by rw [Function.update_self]; exact ⟨ha, hk.symm⟩⟩
    · have hji : j ≠ i := by
        intro hji
        rw [hji, hi] at hj
        cases hj
      refine ⟨j, ?_⟩
      rw [Function.update_of_ne hji]
      exact ⟨hj, hk⟩

/-- The slot of the key is written, a free one for a new key; without a slot and without a free one
nothing is. -/
def Gives (used : α → Bool) (key : α → κ) (k : κ) (t t' : Fin n → α) : Prop :=
  SlotTable.WritesFor used key k t t' ∧
    (k ∈ keys used key t' ∨ ∀ i, used (t i) = true)

/-- Giving a table a key admits the key. -/
theorem Gives.keys_eq (h : Gives used key k t t') (hd : SlotTable.Distinct used key t) :
    keys used key t' = accept n (keys used key t) k := by
  obtain ⟨hwrites, hslot⟩ := h
  rcases hwrites with rfl | ⟨i, a, rfl, ha, hk, ⟨hi, hown⟩ | ⟨hi, -⟩⟩
  · rcases hslot with hmem | hfull
    · exact (accept_of_mem hmem).symm
    · have hnone : ¬(keys used key t').card < n := by
        rw [card_keys_lt_iff hd]
        rintro ⟨i, hi⟩
        rw [hfull i] at hi
        cases hi
      rw [accept, if_neg hnone]
  · rw [keys_update_own hi ha (hk.trans hown.symm)]
    exact (accept_of_mem (mem_keys_iff.mpr ⟨i, hi, hown⟩)).symm
  · rw [keys_update_new hi ha, hk, accept, if_pos ((card_keys_lt_iff hd).mpr ⟨i, hi⟩)]

end Table

end FirstCome
