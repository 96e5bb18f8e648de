import BleMeshTracking.Library.SlotTable
import Mathlib.Data.Finset.Card
import Mathlib.Data.Fintype.Basic
import Mathlib.Data.List.Count

/-!
# Clearing the first slot of a key

Each event names a key.  It clears the first slot of the key if that slot is `ready`, and does
nothing otherwise.  What a sequence of events clears depends on the number of events of each key
and on the slots ahead of a slot under its key.
-/

namespace SlotTable

variable {n : ℕ} {α κ : Type*} (isOf : κ → α → Bool) (ready : α → Bool)
  (cleared : α) (key : α → κ) (used : α → Bool)

def firstReady (k : κ) (t : Fin n → α) : Option (Fin n) :=
  (find (isOf k) t).filter fun i => ready (t i)

def pop (t : Fin n → α) (k : κ) : Fin n → α :=
  match firstReady isOf ready k t with
  | some i => Function.update t i cleared
  | none => t

def pops : (Fin n → α) → List κ → List κ
  | _, [] => []
  | t, k :: ks =>
    if (firstReady isOf ready k t).isSome then k :: pops (pop isOf ready cleared t k) ks
    else pops t ks

def ahead (t : Fin n → α) (i : Fin n) : Finset (Fin n) :=
  Finset.univ.filter fun j => j ≤ i ∧ isOf (key (t i)) (t j) = true

variable {isOf key} in
theorem mem_ahead_iff {t : Fin n → α} {i j : Fin n} :
    j ∈ ahead isOf key t i ↔ j ≤ i ∧ isOf (key (t i)) (t j) = true := by
  simp [ahead]

variable [DecidableEq κ]

/-- Slot `i` and those ahead of it are ready, and there are events for all of them. -/
def Popped (t : Fin n → α) (ks : List κ) (i : Fin n) : Prop :=
  used (t i) = true ∧ (∀ j ∈ ahead isOf key t i, ready (t j) = true) ∧
    (ahead isOf key t i).card ≤ ks.count (key (t i))

instance (t : Fin n → α) (ks : List κ) (i : Fin n) :
    Decidable (Popped isOf ready key used t ks i) :=
  inferInstanceAs (Decidable (_ ∧ _ ∧ _))

section Keyed

variable {isOf ready cleared key used}
variable (hof : ∀ k a, isOf k a = true ↔ used a = true ∧ key a = k)
variable (hcleared : used cleared = false)
variable {t : Fin n → α} {i : Fin n} {k : κ} {ks : List κ}

include hof in
/-- An event of another key, or of a key whose first slot is not ready, clears nothing of slot
`i`. -/
theorem popped_cons_of_none (h : firstReady isOf ready k t = none) :
    Popped isOf ready key used t (k :: ks) i ↔ Popped isOf ready key used t ks i := by
  by_cases hk : key (t i) = k
  · -- then slot `i` is blocked, by the first slot of the key
    have hblocked : used (t i) = true → ¬∀ j ∈ ahead isOf key t i, ready (t j) = true := by
      intro hused hall
      have hi := (hof k (t i)).mpr ⟨hused, hk⟩
      obtain ⟨j, hj⟩ := Option.isSome_iff_exists.mp (find_isSome_iff.mpr ⟨i, hi⟩)
      obtain ⟨hjk, hfirst⟩ := find_eq_some_iff.mp hj
      have hji : j ≤ i := by
        by_contra hlt
        rw [hfirst i (not_le.mp hlt)] at hi
        cases hi
      have hready := hall j (mem_ahead_iff.mpr ⟨hji, hk ▸ hjk⟩)
      exact Option.filter_eq_none_iff.mp h j hj hready
    refine ⟨?_, ?_⟩
    · intro hp
      exact absurd hp.2.1 (hblocked hp.1)
    · intro hp
      exact absurd hp.2.1 (hblocked hp.1)
  · unfold Popped
    rw [List.count_cons_of_ne (Ne.symm hk)]

include hof hcleared in
omit [DecidableEq κ] in
theorem ahead_update {i₀ : Fin n} (hi : i ≠ i₀) :
    ahead isOf key (Function.update t i₀ cleared) i = (ahead isOf key t i).erase i₀ := by
  ext j
  rw [Finset.mem_erase, mem_ahead_iff, mem_ahead_iff, Function.update_of_ne hi]
  by_cases hj : j = i₀
  · subst hj
    rw [Function.update_self, hof, hcleared]
    simp
  · rw [Function.update_of_ne hj]
    simp [hj]

include hof in
omit [DecidableEq κ] in
theorem ahead_of_find (h : find (isOf k) t = some i) : ahead isOf key t i = {i} := by
  obtain ⟨hk, hfirst⟩ := find_eq_some_iff.mp h
  have hkey := ((hof _ _).mp hk).2
  ext j
  rw [mem_ahead_iff, Finset.mem_singleton, hkey]
  refine ⟨?_, ?_⟩
  · intro hj
    by_contra hne
    have hnot := hfirst j (lt_of_le_of_ne hj.1 hne)
    rw [hj.2] at hnot
    cases hnot
  · intro hj
    rw [hj]
    exact ⟨le_rfl, hk⟩

include hof in
theorem popped_cons_self (h : firstReady isOf ready k t = some i) :
    Popped isOf ready key used t (k :: ks) i := by
  obtain ⟨hfind, hready⟩ := Option.filter_eq_some_iff.mp h
  obtain ⟨hused, hkey⟩ := (hof _ _).mp (find_sat hfind)
  refine ⟨hused, ?_, ?_⟩
  · intro j hj
    rw [ahead_of_find hof hfind, Finset.mem_singleton] at hj
    rw [hj]
    exact hready
  · rw [ahead_of_find hof hfind, Finset.card_singleton, hkey, List.count_cons_self]
    omega

include hof in
/-- A slot behind the first one of a key needs one event more of that key. -/
theorem card_ahead_le_cons_iff {i₀ : Fin n} (h : find (isOf k) t = some i₀)
    (hused : used (t i) = true) :
    (ahead isOf key t i).card ≤ (k :: ks).count (key (t i)) ↔
      ((ahead isOf key t i).erase i₀).card ≤ ks.count (key (t i)) := by
  obtain ⟨hk₀, hfirst⟩ := find_eq_some_iff.mp h
  have hkey₀ := ((hof _ _).mp hk₀).2
  by_cases hk : key (t i) = k
  · have hi₀ : i₀ ≤ i := by
      by_contra hlt
      have hnot := hfirst i (not_le.mp hlt)
      rw [(hof _ _).mpr ⟨hused, hk⟩] at hnot
      cases hnot
    have hmem : i₀ ∈ ahead isOf key t i := mem_ahead_iff.mpr ⟨hi₀, hk ▸ hk₀⟩
    have hpos := Finset.card_pos.mpr ⟨i₀, hmem⟩
    rw [Finset.card_erase_of_mem hmem, hk, List.count_cons_self]
    omega
  · have hmem : i₀ ∉ ahead isOf key t i := by
      intro hmem
      have hkey := ((hof _ _).mp (mem_ahead_iff.mp hmem).2).2
      exact hk (hkey.symm.trans hkey₀)
    rw [Finset.erase_eq_of_notMem hmem, List.count_cons_of_ne (Ne.symm hk)]

include hof hcleared in
/-- One event less: slot `i` is the one it clears, or is cleared by the rest. -/
theorem popped_cons_of_some {i₀ : Fin n} (h : firstReady isOf ready k t = some i₀) :
    Popped isOf ready key used t (k :: ks) i ↔
      i = i₀ ∨ Popped isOf ready key used (Function.update t i₀ cleared) ks i := by
  obtain ⟨hfind, hready⟩ := Option.filter_eq_some_iff.mp h
  by_cases hi : i = i₀
  · rw [hi]
    exact ⟨fun _ => Or.inl rfl, fun _ => popped_cons_self hof h⟩
  · unfold Popped
    rw [ahead_update hof hcleared hi, Function.update_of_ne hi]
    have hrest : (∀ j ∈ (ahead isOf key t i).erase i₀,
        ready (Function.update t i₀ cleared j) = true) ↔
          ∀ j ∈ ahead isOf key t i, ready (t j) = true := by
      refine ⟨?_, ?_⟩
      · intro hall j hj
        by_cases hj₀ : j = i₀
        · rw [hj₀]
          exact hready
        · have hjr := hall j (Finset.mem_erase.mpr ⟨hj₀, hj⟩)
          rwa [Function.update_of_ne hj₀] at hjr
      · intro hall j hj
        obtain ⟨hj₀, hj⟩ := Finset.mem_erase.mp hj
        rw [Function.update_of_ne hj₀]
        exact hall j hj
    rw [hrest]
    refine ⟨?_, ?_⟩
    · intro hp
      exact Or.inr ⟨hp.1, hp.2.1, (card_ahead_le_cons_iff hof hfind hp.1).mp hp.2.2⟩
    · intro hp
      rcases hp with hp | hp
      · exact absurd hp hi
      · exact ⟨hp.1, hp.2.1, (card_ahead_le_cons_iff hof hfind hp.1).mpr hp.2.2⟩

include hof in
theorem not_popped_nil : ¬Popped isOf ready key used t [] i := by
  intro hp
  have hmem : i ∈ ahead isOf key t i :=
    mem_ahead_iff.mpr ⟨le_rfl, (hof _ _).mpr ⟨hp.1, rfl⟩⟩
  have hpos := Finset.card_pos.mpr ⟨i, hmem⟩
  have hle := hp.2.2
  rw [List.count_nil] at hle
  omega

include hof hcleared in
/-- The table after a sequence of events. -/
theorem foldl_pop (ks : List κ) (t : Fin n → α) (i : Fin n) :
    ks.foldl (pop isOf ready cleared) t i =
      if Popped isOf ready key used t ks i then cleared else t i := by
  induction ks generalizing t with
  | nil => rw [if_neg (not_popped_nil hof), List.foldl_nil]
  | cons k ks ih =>
    rw [List.foldl_cons, ih]
    cases h : firstReady isOf ready k t with
    | none =>
      have hpop : pop isOf ready cleared t k = t := by rw [pop, h]
      simp only [hpop, popped_cons_of_none hof h]
    | some i₀ =>
      have hpop : pop isOf ready cleared t k = Function.update t i₀ cleared := by rw [pop, h]
      simp only [hpop, popped_cons_of_some hof hcleared h]
      by_cases hi : i = i₀
      · rw [if_pos (Or.inl hi), hi, Function.update_self, ite_self]
      · simp only [hi, false_or, Function.update_of_ne hi]

include hof hcleared in
/-- A key was popped exactly if a slot of it was cleared. -/
theorem mem_pops_iff (ks : List κ) (t : Fin n → α) (k : κ) :
    k ∈ pops isOf ready cleared t ks ↔
      ∃ i, Popped isOf ready key used t ks i ∧ key (t i) = k := by
  induction ks generalizing t with
  | nil =>
    refine ⟨?_, ?_⟩
    · intro hmem
      cases hmem
    · intro hmem
      obtain ⟨i, hi, -⟩ := hmem
      exact absurd hi (not_popped_nil hof)
  | cons l ks ih =>
    cases h : firstReady isOf ready l t with
    | none =>
      simp only [pops, h, Option.isSome_none, Bool.false_eq_true, if_false, ih,
        popped_cons_of_none hof h]
    | some i₀ =>
      have hpop : pop isOf ready cleared t l = Function.update t i₀ cleared := by rw [pop, h]
      have hkey₀ : key (t i₀) = l :=
        ((hof _ _).mp (find_sat (Option.filter_eq_some_iff.mp h).1)).2
      simp only [pops, h, Option.isSome_some, if_true, List.mem_cons, hpop, ih,
        popped_cons_of_some hof hcleared h]
      refine ⟨?_, ?_⟩
      · intro hmem
        rcases hmem with hkl | hrest
        · exact ⟨i₀, Or.inl rfl, hkey₀.trans hkl.symm⟩
        · obtain ⟨i, hi, hik⟩ := hrest
          have hne : i ≠ i₀ := by
            intro heq
            have hused := hi.1
            rw [heq, Function.update_self, hcleared] at hused
            cases hused
          rw [Function.update_of_ne hne] at hik
          exact ⟨i, Or.inr hi, hik⟩
      · intro hmem
        obtain ⟨i, hi, hik⟩ := hmem
        by_cases heq : i = i₀
        · rw [heq, hkey₀] at hik
          exact Or.inl hik.symm
        · refine Or.inr ⟨i, hi.resolve_left heq, ?_⟩
          rw [Function.update_of_ne heq]
          exact hik

end Keyed

end SlotTable
