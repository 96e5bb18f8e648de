import BleMeshTracking.Library.Run
import BleMeshTracking.RuleChain.Hysteresis

/-!
# Zone changes over whole runs

When the saved zone changes, in terms of the messages of the run; and what a change says about
the samples of the new room.
-/

namespace BleMeshTracking.RuleChain

open Debounce (room step moves_iff)

/-- The saved zone changes from `A` to `B` at a message exactly when that message and the one
before it were both evaluated in `A` and `B` outdoes `A` on both snapshots. -/
theorem change_iff (pre : List Arrival) (a : Arrival) {A B : Zone}
    (hA : A.IsRoom) (hB : B.IsRoom) (hAB : A ≠ B) :
    ((savedAfter pre).currentZone = some A ∧ (savedAfter (pre ++ [a])).currentZone = some B) ↔
      ∃ pre' a', pre = pre' ++ [a'] ∧
        (savedAfter pre').currentZone = some A ∧ (savedAfter pre).currentZone = some A ∧
        Outdoes ((savedAfter pre').snap a') a'.now A B ∧
        Outdoes ((savedAfter pre).snap a) a.now A B := by
  rcases List.eq_nil_or_concat' pre with hnil | ⟨pre', a', hpre⟩
  · subst hnil
    simp [savedAfter]
  · -- both messages are steps of the abstract debouncer, which moves on two challenges in a row
    subst hpre
    obtain ⟨s, hs⟩ := exists_represents pre'
    have h1 := represents_process hs a'
    rw [← savedAfter_concat] at h1
    have h2 := represents_process h1 a
    rw [← savedAfter_concat] at h2
    have hmove := moves_iff hAB s (evidence ((savedAfter pre').snap a') a'.now)
      (evidence ((savedAfter (pre' ++ [a'])).snap a) a.now)
    rw [challenges_iff_outdoes hAB, challenges_iff_outdoes hAB] at hmove
    rw [represents_room h1 hA, represents_room h2 hB, hmove, ← represents_room hs hA,
      ← represents_room h1 hA]
    refine ⟨fun h => ⟨pre', a', rfl, h⟩, ?_⟩
    intro h
    rcases h with ⟨p, b, hpb, h⟩
    obtain ⟨hp, hb⟩ := List.append_inj' hpb rfl
    cases hp
    cases hb
    exact h

theorem candidateCount_cases (pre : List Arrival) (a : Arrival) :
    (savedAfter (pre ++ [a])).candidateCount = some 0 ∨
      ((savedAfter (pre ++ [a])).candidateCount = some 1 ∧
        ∃ B, B.IsRoom ∧ (savedAfter (pre ++ [a])).candidateZone = some B ∧
          (savedAfter (pre ++ [a])).currentZone ≠ some B) := by
  obtain ⟨s, hs⟩ := exists_represents (pre ++ [a])
  have hzero : (savedAfter (pre ++ [a])).candidateCount.getD 0 = 0 →
      (savedAfter (pre ++ [a])).candidateCount = some 0 := by
    intro h
    rw [savedAfter_concat] at h ⊢
    exact congrArg some h
  rcases s with _ | ⟨A, _ | B⟩
  · exact Or.inl (hzero hs.2)
  · exact Or.inl (hzero hs.2.2)
  · rcases hs with ⟨-, hB, hne, hcur, hcount, hcand⟩
    exact Or.inr ⟨hcount, B, hB, hcand, fun h => hne (Option.some.inj (h.symm.trans hcur))⟩

/-- Runs of the chain: the saved zone changes between rooms exactly on two messages in a row
that were evaluated in the old room and show the new one ahead by the hysteresis; the saved
candidate count is 0, or 1 while another room is the candidate. -/
theorem zone_change_iff_two_in_a_row (pre : List Arrival) (a : Arrival) :
    (∀ A B : Zone, A.IsRoom → B.IsRoom → A ≠ B →
      (((savedAfter pre).currentZone = some A ∧
          (savedAfter (pre ++ [a])).currentZone = some B) ↔
        ∃ pre' a', pre = pre' ++ [a'] ∧
          (savedAfter pre').currentZone = some A ∧ (savedAfter pre).currentZone = some A ∧
          Outdoes ((savedAfter pre').snap a') a'.now A B ∧
          Outdoes ((savedAfter pre).snap a) a.now A B)) ∧
    ((savedAfter (pre ++ [a])).candidateCount = some 0 ∨
      ((savedAfter (pre ++ [a])).candidateCount = some 1 ∧
        ∃ B, B.IsRoom ∧ (savedAfter (pre ++ [a])).candidateZone = some B ∧
          (savedAfter (pre ++ [a])).currentZone ≠ some B)) :=
  ⟨fun _ _ hA hB hAB => change_iff pre a hA hB hAB, candidateCount_cases pre a⟩

def Arrival.sampleFrom (a : Arrival) (B : Zone) : Option Int8 :=
  match a.msg with
  | .telemetry (some (.known s)) (some r) _ => if zoneOf s = B then some r else none
  | _ => none

/-- The message is a sample of `B`, `HYSTERESIS_DBM` or more above every fresh sample of `A`. -/
def Confirms (st : TagState) (a : Arrival) (A B : Zone) : Prop :=
  ∃ r, a.sampleFrom B = some r ∧
    ∀ s r', zoneOf s = A → freshRssi (st.snap a) a.now s = some r' → r' + hysteresisDbm ≤ r.toInt

/-- Whenever the saved zone changes from a room `A` to a room `B`, two distinct samples of `B`
confirmed the change since the tag came to `A`. -/
def EveryChangeConfirmed (as : List Arrival) : Prop :=
  ∀ pre a, pre ++ [a] <+: as → ∀ A B : Zone, A.IsRoom → B.IsRoom → A ≠ B →
    (savedAfter pre).currentZone = some A → (savedAfter (pre ++ [a])).currentZone = some B →
    ∃ i j, i < j ∧ j ≤ pre.length ∧
      (∀ k, i ≤ k → k ≤ pre.length → (savedAfter (as.take k)).currentZone = some A) ∧
      ∀ k, k = i ∨ k = j →
        ∃ b, as[k]? = some b ∧ Confirms (savedAfter (as.take k)) b A B

/-- The debounce counter is moved by a sample of the candidate room: a message evaluated in `A`
on which `B` passes the hysteresis is itself a sample of `B`. -/
def CountsSample (st : TagState) (a : Arrival) : Prop :=
  ∀ A B : Zone, A.IsRoom → B.IsRoom → A ≠ B → st.currentZone = some A →
    Outdoes (st.snap a) a.now A B → (a.sampleFrom B).isSome

theorem snap_sample (st : TagState) {a : Arrival} {B : Zone} {r : Int8}
    (h : a.sampleFrom B = some r) :
    ∃ s, zoneOf s = B ∧ freshRssi (st.snap a) a.now s = some r.toInt := by
  obtain ⟨msg, now⟩ := a
  unfold Arrival.sampleFrom at h
  split at h
  · rename_i s r' battery hmsg
    split_ifs at h with hs
    cases h
    cases hmsg
    exact ⟨s, hs, by
      simp [freshRssi, TagState.snap, snapshot, parseAndMapZone, scannerValidMs]⟩
  · cases h

/-- In a room with one scanner the leading sample is the one just received. -/
theorem confirms_of_counts {st : TagState} {a : Arrival} {A B : Zone}
    (hsample : (a.sampleFrom B).isSome) (h : Outdoes (st.snap a) a.now A B) :
    Confirms st a A B := by
  obtain ⟨r, hr⟩ := Option.isSome_iff_exists.mp hsample
  obtain ⟨s, hs, hfresh⟩ := snap_sample st hr
  obtain ⟨s', r', -, hs', hfresh', hall⟩ := h
  have he : s' = s := zoneOf_injective (hs'.trans hs.symm)
  subst he
  have hrr : r' = r.toInt := Option.some.inj (hfresh'.symm.trans hfresh)
  exact ⟨r, hr, fun t v ht hv => hrr ▸ hall t v ht hv⟩

/-- A run in which only samples of the candidate room move the debounce counter confirms every
change by two of them. -/
theorem every_change_confirmed (as : List Arrival)
    (h : Run.Meets (Run.total TagState.process) CountsSample {} as) :
    EveryChangeConfirmed as := by
  have hcounts : ∀ pre a, pre ++ [a] <+: as → CountsSample (savedAfter pre) a :=
    Run.meets_total_iff.mp h
  intro pre a hpre A B hA hB hAB hfrom hto
  obtain ⟨pre', a', hpre', h0, h1, hout', hout⟩ :=
    (change_iff pre a hA hB hAB).mp ⟨hfrom, hto⟩
  subst hpre'
  -- the two messages are the ones at the last two places of the prefix
  have hprefix : pre' ++ [a'] <+: as := (List.prefix_append _ _).trans hpre
  obtain ⟨post, hpost⟩ := hpre
  have htake : as.take pre'.length = pre' := by simp [← hpost]
  have htake' : as.take (pre' ++ [a']).length = pre' ++ [a'] := by
    rw [← hpost, List.append_assoc (pre' ++ [a']), List.take_left]
  have hget : as[pre'.length]? = some a' := by simp [← hpost]
  have hget' : as[(pre' ++ [a']).length]? = some a := by simp [← hpost]
  refine ⟨pre'.length, (pre' ++ [a']).length, by simp, le_rfl, fun k hk hk' => ?_,
    fun k hk => ?_⟩
  · have hcases : k = pre'.length ∨ k = (pre' ++ [a']).length := by
      simp only [List.length_append, List.length_singleton] at hk' ⊢
      omega
    rcases hcases with rfl | rfl
    · rw [htake]; exact h0
    · rw [htake']; exact h1
  · rcases hk with rfl | rfl
    · refine ⟨a', hget, ?_⟩
      rw [htake]
      exact confirms_of_counts (hcounts pre' a' hprefix A B hA hB hAB h0 hout') hout'
    · refine ⟨a, hget', ?_⟩
      rw [htake']
      exact confirms_of_counts (hcounts _ a ⟨post, hpost⟩ A B hA hB hAB h1 hout) hout

theorem Outdoes.leader {snap : ScannerId → Option Sample} {now : ℤ} {A B : Zone}
    (hAB : A ≠ B) (h : Outdoes snap now A B) : (strongestFresh snap now).1.map zoneOf = some B :=
  ((challenges_iff_outdoes hAB).mpr h).1

def walkRun : List Arrival :=
  [⟨.telemetry (some (.known .scan01)) (some (-60)) (some 90), 0⟩,
    ⟨.telemetry (some (.known .scan02)) (some (-50)) (some 90), 1000⟩,
    ⟨.telemetry (some (.known .scan02)) (some (-50)) (some 90), 2000⟩]

theorem every_change_confirmed_walkRun :
    (savedAfter walkRun).currentZone = some .room2 ∧ EveryChangeConfirmed walkRun := by
  refine ⟨by decide, every_change_confirmed walkRun ?_⟩
  simp only [walkRun, Run.meets_total_cons]
  refine ⟨fun A B _ _ _ h => ?_, fun A B _ _ hAB _ h => ?_, fun A B _ _ hAB _ h => ?_, trivial⟩
  · cases h
  · cases h.leader hAB
    decide
  · cases h.leader hAB
    decide

def outlierRun : List Arrival :=
  [⟨.telemetry (some (.known .scan01)) (some (-60)) (some 90), 0⟩,
    ⟨.telemetry (some (.known .scan02)) (some (-50)) (some 90), 1000⟩,
    ⟨.telemetry (some (.known .scan01)) (some (-60)) (some 90), 2000⟩]

/-- A single outlier moves the tag: the report of room 1 that follows it is counted as its
confirmation. -/
theorem outlierRun_not_confirmed :
    ¬ EveryChangeConfirmed outlierRun ∧
      (outlierRun.filter fun a => (a.sampleFrom .room2).isSome).length = 1 := by
  refine ⟨fun h => ?_, by decide⟩
  obtain ⟨i, j, hij, hj, -, hk⟩ := h (outlierRun.take 2) (outlierRun.getLast (by decide))
    ⟨[], by decide⟩ .room1 .room2 (by decide) (by decide) (by decide) (by decide) (by decide)
  have hone : ∀ k ≤ 2, ∀ b ∈ outlierRun[k]?, (b.sampleFrom .room2).isSome → k = 1 := by decide
  have hj' : j ≤ 2 := hj
  obtain ⟨b, hb, r, hr, -⟩ := hk i (Or.inl rfl)
  obtain ⟨c, hc, r', hr', -⟩ := hk j (Or.inr rfl)
  have hi1 : i = 1 := hone i (by omega) b hb (by simp [hr])
  have hj1 : j = 1 := hone j hj' c hc (by simp [hr'])
  omega

end BleMeshTracking.RuleChain
