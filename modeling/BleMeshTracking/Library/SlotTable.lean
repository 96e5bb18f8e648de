import Mathlib.Data.Fin.Tuple.Basic
import Mathlib.Data.Finset.Card
import Mathlib.Data.Fintype.EquivFin
import Mathlib.Data.List.FinRange
import Mathlib.Order.Fin.Basic

/-!
# Fixed-size slot tables

A table of `n` slots searched from the first one on.  `find` is the loop that returns the first
slot with a property; `acquire` gives a key the slot it has, or else a free one made `fresh`.
-/

namespace SlotTable

variable {n : ℕ} {α : Type*}

def find (p : α → Bool) (t : Fin n → α) : Option (Fin n) := Fin.find? fun i => p (t i)

/-- The slot of a key: its own one, or the first free one, initialised. -/
def acquire (p free : α → Bool) (fresh : α) (t : Fin n → α) : Option (Fin n) × (Fin n → α) :=
  match find p t with
  | some i => (some i, t)
  | none =>
    match find free t with
    | some i => (some i, Function.update t i fresh)
    | none => (none, t)

def Distinct {κ : Type*} (used : α → Bool) (key : α → κ) (t : Fin n → α) : Prop :=
  ∀ i j, used (t i) → used (t j) → key (t i) = key (t j) → i = j

variable {p q free : α → Bool} {fresh a : α} {t : Fin n → α} {i : Fin n}

theorem find_eq_some_iff : find p t = some i ↔ p (t i) ∧ ∀ j < i, p (t j) = false :=
  Fin.find?_eq_some_iff

theorem find_eq_none_iff : find p t = none ↔ ∀ i, p (t i) = false :=
  Fin.find?_eq_none_iff

theorem find_isSome_iff : (find p t).isSome ↔ ∃ i, p (t i) := Fin.isSome_find?_iff

theorem find_sat (h : find p t = some i) : p (t i) := (find_eq_some_iff.mp h).1

/-- Writing a slot of the key in place keeps it the slot of the key. -/
theorem find_update_self (h : find p t = some i) (ha : p a) :
    find p (Function.update t i a) = some i := by
  obtain ⟨-, hlt⟩ := find_eq_some_iff.mp h
  refine find_eq_some_iff.mpr ⟨by simpa using ha, fun j hj => ?_⟩
  rw [Function.update_of_ne (ne_of_lt hj)]
  exact hlt j hj

/-- A slot written for an absent key becomes the slot of the key. -/
theorem find_update_absent (h : find p t = none) (ha : p a) :
    find p (Function.update t i a) = some i := by
  have hnone := find_eq_none_iff.mp h
  refine find_eq_some_iff.mpr ⟨by simpa using ha, fun j hj => ?_⟩
  rw [Function.update_of_ne (ne_of_lt hj)]
  exact hnone j

/-- A write that concerns the key neither before nor after it leaves its slot alone. -/
theorem find_update_other (hi : p (t i) = false) (ha : p a = false) :
    find p (Function.update t i a) = find p t := by
  have hp : (fun j => p (Function.update t i a j)) = fun j => p (t j) := by
    funext j
    by_cases hj : j = i
    · rw [hj, Function.update_self, ha, hi]
    · rw [Function.update_of_ne hj]
  unfold find
  rw [hp]

theorem acquire_of_find (h : find p t = some i) : acquire p free fresh t = (some i, t) := by
  simp [acquire, h]

theorem acquire_of_free (h : find p t = none) (hf : find free t = some i) :
    acquire p free fresh t = (some i, Function.update t i fresh) := by
  simp [acquire, h, hf]

theorem acquire_of_full (h : find p t = none) (hf : find free t = none) :
    acquire p free fresh t = (none, t) := by
  simp [acquire, h, hf]

/-- The three outcomes of `acquire`. -/
theorem acquire_cases (p free : α → Bool) (fresh : α) (t : Fin n → α) :
    (∃ i, find p t = some i ∧ acquire p free fresh t = (some i, t)) ∨
      (∃ i, find p t = none ∧ find free t = some i ∧
        acquire p free fresh t = (some i, Function.update t i fresh)) ∨
      (find p t = none ∧ find free t = none ∧ acquire p free fresh t = (none, t)) := by
  cases h : find p t with
  | some i => exact Or.inl ⟨i, rfl, acquire_of_find h⟩
  | none =>
    cases hf : find free t with
    | some i => exact Or.inr (Or.inl ⟨i, rfl, rfl, acquire_of_free h hf⟩)
    | none => exact Or.inr (Or.inr ⟨rfl, rfl, acquire_of_full h hf⟩)

theorem acquire_isSome_iff :
    (acquire p free fresh t).1.isSome ↔ ∃ i, p (t i) ∨ free (t i) := by
  rw [exists_or, ← find_isSome_iff, ← find_isSome_iff]
  rcases acquire_cases p free fresh t with ⟨i, h, he⟩ | ⟨i, h, hf, he⟩ | ⟨h, hf, he⟩
  · simp [he, h]
  · simp [he, hf]
  · simp [he, h, hf]

/-- The acquired slot is the slot of the key in the new table. -/
theorem find_acquire (hfresh : p fresh) (h : (acquire p free fresh t).1 = some i) :
    find p (acquire p free fresh t).2 = some i := by
  rcases acquire_cases p free fresh t with ⟨j, hj, he⟩ | ⟨j, hj, -, he⟩ | ⟨-, -, he⟩
  · rw [he] at h ⊢
    cases h
    exact hj
  · rw [he] at h ⊢
    cases h
    exact find_update_absent hj hfresh
  · rw [he] at h
    cases h

/-- Acquiring a slot for one key does not move the slot of another. -/
theorem find_acquire_other (hfresh : q fresh = false) (hfree : ∀ a, free a → q a = false) :
    find q (acquire p free fresh t).2 = find q t := by
  rcases acquire_cases p free fresh t with ⟨j, -, he⟩ | ⟨j, -, hf, he⟩ | ⟨-, -, he⟩
  · rw [he]
  · rw [he]
    exact find_update_other (hfree _ (find_sat hf)) hfresh
  · rw [he]

/-- A slot that is not free is not overwritten. -/
theorem acquire_of_occupied {j : Fin n} (h : free (t j) = false) :
    (acquire p free fresh t).2 j = t j := by
  rcases acquire_cases p free fresh t with ⟨i, -, he⟩ | ⟨i, -, hf, he⟩ | ⟨-, -, he⟩
  · rw [he]
  · rw [he]
    refine Function.update_of_ne (fun hji => ?_) _ _
    rw [hji, find_sat hf] at h
    cases h
  · rw [he]

section Distinct

variable {κ : Type*} {used : α → Bool} {key : α → κ}

theorem Distinct.update (h : Distinct used key t)
    (ha : used a → ∀ j, j ≠ i → used (t j) → key (t j) ≠ key a) :
    Distinct used key (Function.update t i a) := by
  intro j k hj hk hkey
  by_cases hji : j = i
  · by_cases hki : k = i
    · rw [hji, hki]
    · rw [hji, Function.update_self, Function.update_of_ne hki] at hkey
      rw [hji, Function.update_self] at hj
      rw [Function.update_of_ne hki] at hk
      exact absurd hkey.symm (ha hj k hki hk)
  · by_cases hki : k = i
    · rw [hki, Function.update_self, Function.update_of_ne hji] at hkey
      rw [hki, Function.update_self] at hk
      rw [Function.update_of_ne hji] at hj
      exact absurd hkey (ha hk j hji hj)
    · rw [Function.update_of_ne hji] at hj hkey
      rw [Function.update_of_ne hki] at hk hkey
      exact h j k hj hk hkey

theorem Distinct.clear (h : Distinct used key t) (ha : used a = false) :
    Distinct used key (Function.update t i a) := by
  apply h.update
  intro hused
  rw [ha] at hused
  cases hused

theorem Distinct.congr {t' : Fin n → α} (h : Distinct used key t)
    (hused : ∀ i, used (t' i) = used (t i)) (hkey : ∀ i, key (t' i) = key (t i)) :
    Distinct used key t' := by
  intro j k hj hk hjk
  rw [hused] at hj hk
  rw [hkey, hkey] at hjk
  exact h j k hj hk hjk

theorem key_ne_of_find {k : κ} (hp : ∀ a, p a = true ↔ used a = true ∧ key a = k)
    (h : find p t = none) (hi : used (t i) = true) : key (t i) ≠ k := by
  intro hkey
  have hnone := find_eq_none_iff.mp h i
  rw [(hp (t i)).mpr ⟨hi, hkey⟩] at hnone
  cases hnone

end Distinct

def lookup (p : α → Bool) (t : Fin n → α) : Option α := (find p t).map t

theorem lookup_eq_none_iff : lookup p t = none ↔ ∀ i, p (t i) = false := by
  rw [lookup, Option.map_eq_none_iff, find_eq_none_iff]

theorem lookup_of_find (h : find p t = some i) : lookup p t = some (t i) := by
  rw [lookup, h]
  rfl

theorem lookup_update_self (h : find p t = some i) (ha : p a) :
    lookup p (Function.update t i a) = some a := by
  rw [lookup_of_find (find_update_self h ha), Function.update_self]

theorem lookup_update_absent (h : lookup p t = none) (ha : p a) :
    lookup p (Function.update t i a) = some a := by
  have hnone : find p t = none := Option.map_eq_none_iff.mp h
  rw [lookup_of_find (find_update_absent hnone ha), Function.update_self]

theorem lookup_update_other (hi : p (t i) = false) (ha : p a = false) :
    lookup p (Function.update t i a) = lookup p t := by
  unfold lookup
  rw [find_update_other hi ha]
  apply Option.map_congr
  intro j hj
  apply Function.update_of_ne
  intro hji
  have hsat := find_sat hj
  rw [hji, hi] at hsat
  cases hsat

/-- Walking all slots for those of one key meets at most one. -/
theorem filterMap_finRange {β : Type*} (f : α → β)
    (hone : ∀ i j, p (t i) = true → p (t j) = true → i = j) :
    (List.finRange n).filterMap (fun i => if p (t i) = true then some (f (t i)) else none) =
      ((lookup p t).map f).toList := by
  cases hfind : find p t with
  | none =>
    have hnone := find_eq_none_iff.mp hfind
    rw [lookup, hfind]
    apply List.filterMap_eq_nil_iff.mpr
    intro i _
    rw [hnone i, if_neg Bool.false_ne_true]
  | some i =>
    have hi := find_sat hfind
    have hother : ∀ l : List (Fin n), i ∉ l →
        l.filterMap (fun i => if p (t i) = true then some (f (t i)) else none) = [] := by
      intro l hl
      apply List.filterMap_eq_nil_iff.mpr
      intro j hj
      apply if_neg
      intro hpj
      rw [hone i j hi hpj] at hl
      exact hl hj
    obtain ⟨pre, post, hsplit⟩ := List.append_of_mem (List.mem_finRange i)
    have hnodup := List.nodup_finRange n
    rw [hsplit] at hnodup ⊢
    have hnot := (List.nodup_middle.mp hnodup).notMem
    rw [List.mem_append, not_or] at hnot
    rw [List.filterMap_append, hother pre hnot.1, List.filterMap_cons, hother post hnot.2,
      lookup_of_find hfind, if_pos hi]
    rfl

section Keyed

variable {κ : Type*} {used : α → Bool} {key : α → κ} {isOf : κ → α → Bool}

/-- With distinct keys, a used slot is the slot of its key. -/
theorem Distinct.lookup_eq (h : Distinct used key t)
    (hof : ∀ k a, isOf k a = true ↔ used a = true ∧ key a = k) (hi : used (t i) = true) :
    lookup (isOf (key (t i))) t = some (t i) := by
  have hsome : (find (isOf (key (t i))) t).isSome :=
    find_isSome_iff.mpr ⟨i, (hof _ _).mpr ⟨hi, rfl⟩⟩
  obtain ⟨j, hj⟩ := Option.isSome_iff_exists.mp hsome
  obtain ⟨hused, hkey⟩ := (hof _ _).mp (find_sat hj)
  rw [lookup_of_find hj, h j i hused hi hkey]

/-- An update of every slot that keeps the keys, and may only free slots, updates the slot of a
key. -/
theorem Distinct.lookup_comp (h : Distinct used key t)
    (hof : ∀ k a, isOf k a = true ↔ used a = true ∧ key a = k) {f : α → α}
    (hused : ∀ a, used (f a) = true → used a = true) (hkey : ∀ a, key (f a) = key a) (k : κ) :
    lookup (isOf k) (fun i => f (t i)) = ((lookup (isOf k) t).map f).filter used := by
  cases hfind : find (isOf k) t with
  | none =>
    have hnone := find_eq_none_iff.mp hfind
    rw [lookup, lookup, hfind]
    apply Option.map_eq_none_iff.mpr
    apply find_eq_none_iff.mpr
    intro i
    apply Bool.eq_false_iff.mpr
    intro hi
    obtain ⟨hi, hk⟩ := (hof _ _).mp hi
    have hold := (hof k (t i)).mpr ⟨hused _ hi, (hkey _).symm.trans hk⟩
    rw [hnone i] at hold
    cases hold
  | some i =>
    obtain ⟨hi, hk⟩ := (hof _ _).mp (find_sat hfind)
    rw [lookup_of_find hfind, Option.map_some]
    cases hfi : used (f (t i)) with
    | true =>
      rw [Option.filter_some_pos hfi]
      have hd : Distinct used key fun i => f (t i) := by
        intro j l hj hl hjl
        rw [hkey, hkey] at hjl
        exact h j l (hused _ hj) (hused _ hl) hjl
      have hown := hd.lookup_eq hof hfi
      rw [hkey, hk] at hown
      exact hown
    | false =>
      rw [Option.filter_some_neg (by simp [hfi])]
      apply lookup_eq_none_iff.mpr
      intro j
      apply Bool.eq_false_iff.mpr
      intro hj
      obtain ⟨hj, hjk⟩ := (hof _ _).mp hj
      have hji : j = i := h j i (hused _ hj) hi (by rw [← hkey, hjk, hk])
      rw [hji, hfi] at hj
      cases hj

/-- Two tables of one size: when every key used in the second is used in the first, a free slot in
the first means one in the second. -/
theorem Distinct.exists_free {t' : Fin n → α} (h : Distinct used key t')
    (hcover : ∀ j, used (t' j) = true → ∃ i, used (t i) = true ∧ key (t i) = key (t' j))
    (hfree : ∃ i, used (t i) = false) : ∃ j, used (t' j) = false := by
  by_contra hfull
  have hall : ∀ j, used (t' j) = true := by
    intro j
    apply Bool.eq_true_of_not_eq_false
    intro hj
    exact hfull ⟨j, hj⟩
  choose f hf using fun j => hcover j (hall j)
  have hinj : Function.Injective f := by
    intro j l hjl
    apply h j l (hall j) (hall l)
    rw [← (hf j).2, ← (hf l).2, hjl]
  obtain ⟨i, hi⟩ := hfree
  obtain ⟨j, hj⟩ := Finite.surjective_of_injective hinj i
  have hused := (hf j).1
  rw [hj, hi] at hused
  cases hused

/-- Distinct keys out of at most as many as there are slots: an absent one leaves a slot free. -/
theorem Distinct.exists_free_of_absent [DecidableEq κ] (h : Distinct used key t) {keys : Finset κ}
    (hkeys : ∀ i, used (t i) = true → key (t i) ∈ keys) (hcard : keys.card ≤ n) {k : κ}
    (hk : k ∈ keys) (habsent : ∀ i, used (t i) = true → key (t i) ≠ k) :
    ∃ i, used (t i) = false := by
  by_contra hfull
  have hall : ∀ i, used (t i) = true := by
    intro i
    apply Bool.eq_true_of_not_eq_false
    intro hi
    exact hfull ⟨i, hi⟩
  have hmaps : ∀ i ∈ (Finset.univ : Finset (Fin n)), key (t i) ∈ keys.erase k := by
    intro i _
    exact Finset.mem_erase.mpr ⟨habsent i (hall i), hkeys i (hall i)⟩
  have hinj : Set.InjOn (fun i => key (t i)) (Finset.univ : Finset (Fin n)) := by
    intro i _ j _ hij
    exact h i j (hall i) (hall j) hij
  -- as many keys as slots, without the absent one
  have hle := Finset.card_le_card_of_injOn _ hmaps hinj
  rw [Finset.card_univ, Fintype.card_fin, Finset.card_erase_of_mem hk] at hle
  have hpos : 0 < keys.card := Finset.card_pos.mpr ⟨k, hk⟩
  omega

/-- Nothing is written but, for a key, the slot it has, or an unused one if it has none. -/
def WritesFor (used : α → Bool) (key : α → κ) (k : κ) (t t' : Fin n → α) : Prop :=
  t' = t ∨ ∃ i a, t' = Function.update t i a ∧ used a = true ∧ key a = k ∧
    (used (t i) = true ∧ key (t i) = k ∨
      used (t i) = false ∧ ∀ j, used (t j) = true → key (t j) ≠ k)

variable {k : κ} {t' : Fin n → α}

theorem Distinct.writesFor (h : Distinct used key t) (hw : WritesFor used key k t t') :
    Distinct used key t' := by
  rcases hw with rfl | ⟨i, a, rfl, -, hka, hown⟩
  · exact h
  · apply h.update
    intro _ j hji hj hkey
    rcases hown with ⟨hi, hki⟩ | ⟨-, habsent⟩
    · exact hji (h j i hj hi (hkey.trans (hka.trans hki.symm)))
    · exact habsent j hj (hkey.trans hka)

theorem WritesFor.mem_keys (hw : WritesFor used key k t t') {keys : Finset κ}
    (hkeys : ∀ i, used (t i) = true → key (t i) ∈ keys) (hk : k ∈ keys) :
    ∀ i, used (t' i) = true → key (t' i) ∈ keys := by
  rcases hw with rfl | ⟨i, a, rfl, -, hka, -⟩
  · exact hkeys
  · intro j hj
    by_cases hji : j = i
    · rw [hji, Function.update_self, hka]
      exact hk
    · rw [Function.update_of_ne hji] at hj ⊢
      exact hkeys j hj

theorem WritesFor.lookup_other (hw : WritesFor used key k t t')
    (hof : ∀ k a, isOf k a = true ↔ used a = true ∧ key a = k) {other : κ} (hne : other ≠ k) :
    lookup (isOf other) t' = lookup (isOf other) t := by
  rcases hw with rfl | ⟨i, a, rfl, -, hka, hown⟩
  · rfl
  · apply lookup_update_other
    · apply Bool.eq_false_iff.mpr
      intro hi
      obtain ⟨hused, hkey⟩ := (hof _ _).mp hi
      rcases hown with ⟨-, hki⟩ | ⟨hfree, -⟩
      · exact hne (hkey.symm.trans hki)
      · rw [hfree] at hused
        cases hused
    · apply Bool.eq_false_iff.mpr
      intro ha
      exact hne (((hof _ _).mp ha).2.symm.trans hka)

end Keyed

end SlotTable
