import BleMeshTracking.Library.Debounce
import BleMeshTracking.RuleChain.ZoneDetection

/-!
# The hysteresis script debounces the zone

The saved `current_zone`, `candidate_zone` and `candidate_count` represent a state of the
abstract debouncer, and every message moves them as the debouncer moves on the evidence of the
message's snapshot.
-/

namespace BleMeshTracking.RuleChain

open Debounce (Evidence Challenges room step)

def zoneOf (s : Scanner) : Zone := (zoneMap (.known s)).getD .outOfRange

theorem zoneMap_known (s : Scanner) : zoneMap (.known s) = some (zoneOf s) := by cases s <;> rfl

theorem zoneOf_isRoom (s : Scanner) : (zoneOf s).IsRoom := by cases s <;> decide

theorem zoneOf_injective : Function.Injective zoneOf := by
  intro s s' h
  cases s <;> cases s' <;> first | rfl | cases h

theorem mem_scanners (s : Scanner) : s ∈ scanners := by cases s <;> decide

variable {snap : ScannerId → Option Sample} {now : ℤ}

/-- No int8 reaches down to the initial bound of the loops. -/
theorem freshRssi_gt (s : Scanner) (v : ℤ) (h : freshRssi snap now s = some v) : -999 < v := by
  unfold freshRssi at h
  split at h
  · rename_i sample _
    split_ifs at h with hf
    have := sample.rssi.le_toInt
    cases h
    omega
  · cases h

theorem freshRssiIn_gt (A : Zone) (s : Scanner) (v : ℤ)
    (h : (if zoneMap (.known s) = some A then freshRssi snap now s else none) = some v) :
    -999 < v := by
  split_ifs at h
  exact freshRssi_gt s v h

def freshScanners (snap : ScannerId → Option Sample) (now : ℤ) : List Scanner :=
  Strongest.valued (freshRssi snap now) scanners

/-- The strongest fresh scanner belongs to `B` and its sample is `HYSTERESIS_DBM` or more above
every fresh sample of `A`; that is vacuous when `A` has no fresh scanner. -/
def Outdoes (snap : ScannerId → Option Sample) (now : ℤ) (A B : Zone) : Prop :=
  ∃ s r, ((freshScanners snap now).argmax fun s => (freshRssi snap now s).getD (-999)) = some s ∧
    zoneOf s = B ∧ freshRssi snap now s = some r ∧
    ∀ s' r', zoneOf s' = A → freshRssi snap now s' = some r' → r' + hysteresisDbm ≤ r

/-- The evidence of a snapshot: the zone of the strongest fresh scanner, and the zones it clears
the hysteresis against. -/
def evidence (snap : ScannerId → Option Sample) (now : ℤ) : Evidence Zone where
  leader := (strongestFresh snap now).1.map zoneOf
  clear A := passHysteresis (strongestFresh snap now).2 (strongestFreshIn snap now A)

theorem passHysteresis_iff (r : ℤ) (A : Zone) :
    passHysteresis r (strongestFreshIn snap now A) = true ↔
      ∀ s' r', zoneOf s' = A → freshRssi snap now s' = some r' → r' + hysteresisDbm ≤ r := by
  have hin : ∀ s', zoneOf s' = A →
      (if zoneMap (.known s') = some A then freshRssi snap now s' else none) =
        freshRssi snap now s' := by
    intro s' hs'
    rw [if_pos (by rw [zoneMap_known, hs'])]
  cases hb : (strongestFreshIn snap now A).1 with
  | none =>
    -- no scanner of `A` is fresh, so there is nothing to lead
    have hall := (Strongest.scan_eq_none (freshRssiIn_gt A)).mp hb
    refine ⟨fun _ s' r' hs' hr' => ?_, fun _ => by simp [passHysteresis, hb]⟩
    have := hall s' (mem_scanners s')
    rw [hin s' hs', hr'] at this
    cases this
  | some b =>
    have hval := Strongest.scan_snd (freshRssiIn_gt A) hb
    have hA : zoneOf b = A := by
      split_ifs at hval with h
      rw [zoneMap_known] at h
      exact Option.some.inj h
    rw [hin b hA] at hval
    have hpass : passHysteresis r (strongestFreshIn snap now A) = true ↔
        hysteresisDbm ≤ r - (strongestFreshIn snap now A).2 := by
      simp [passHysteresis, hb]
    rw [hpass]
    refine ⟨fun h s' r' hs' hr' => ?_, fun h => ?_⟩
    · have hle := Strongest.le_scan (freshRssiIn_gt A) hb (mem_scanners s')
        ((hin s' hs').trans hr')
      change r' ≤ (strongestFreshIn snap now A).2 at hle
      omega
    · have := h b _ hA hval
      change (strongestFreshIn snap now A).2 + hysteresisDbm ≤ r at this
      omega

/-- The script counts a message towards a change of zone exactly if, on the fresh samples, the
strongest scanner is one of the new zone and beats each one of the old by the hysteresis. -/
theorem challenges_iff_outdoes {A B : Zone} (hAB : A ≠ B) :
    Challenges (evidence snap now) A B ↔ Outdoes snap now A B := by
  have hfst : (strongestFresh snap now).1 =
      (freshScanners snap now).argmax fun s => (freshRssi snap now s).getD (-999) :=
    Strongest.scan_fst freshRssi_gt scanners
  unfold Challenges evidence
  rw [passHysteresis_iff]
  refine ⟨?_, ?_⟩
  · intro h
    rcases h with ⟨hl, -, hc⟩
    rcases Option.map_eq_some_iff.mp hl with ⟨s, hs, hB⟩
    exact ⟨s, _, hfst ▸ hs, hB, Strongest.scan_snd freshRssi_gt hs, hc⟩
  · intro h
    rcases h with ⟨s, r, hs, hB, hr, hc⟩
    have hs' : (strongestFresh snap now).1 = some s := hfst.trans hs
    have hr' : r = (strongestFresh snap now).2 :=
      Option.some.inj (hr.symm.trans (Strongest.scan_snd freshRssi_gt hs'))
    exact ⟨by simp [hs', hB], hAB.symm, hr' ▸ hc⟩

/-- `d` shows the debouncer state: its zone, and a count of 1 exactly for a pending challenge. -/
def Decision.Shows (d : Decision) : Debounce.State Zone → Prop
  | none => d.finalZone = .outOfRange ∧ d.newCandCount = 0
  | some (A, none) => A.IsRoom ∧ d.finalZone = A ∧ d.newCandCount = 0
  | some (A, some B) => A.IsRoom ∧ B.IsRoom ∧ B ≠ A ∧
      d.finalZone = A ∧ d.newCandCount = 1 ∧ d.newCandZone = some B

def Represents (st : TagState) : Debounce.State Zone → Prop
  | none => (∀ z, st.currentZone = some z → z = .outOfRange) ∧ st.candidateCount.getD 0 = 0
  | some (A, none) => A.IsRoom ∧ st.currentZone = some A ∧ st.candidateCount.getD 0 = 0
  | some (A, some B) => A.IsRoom ∧ B.IsRoom ∧ B ≠ A ∧
      st.currentZone = some A ∧ st.candidateCount = some 1 ∧ st.candidateZone = some B

theorem represents_room {st : TagState} {s : Debounce.State Zone} (h : Represents st s)
    {A : Zone} (hA : A.IsRoom) : st.currentZone = some A ↔ room s = some A := by
  rcases s with _ | ⟨B, _ | C⟩
  · exact ⟨fun hz => absurd (h.1 A hz) hA, fun hz => by simp [room] at hz⟩
  · simp [room, h.2.1]
  · simp [room, h.2.2.2.1]

def Metadata.Pending (metadata : Metadata) (A : Zone) : Option Zone → Prop
  | none => metadata.candidateCount.getD 0 = 0
  | some B => metadata.candidateCount = some 1 ∧ metadata.candidateZone = some B ∧ B ≠ A

theorem challenge_shows {metadata : Metadata} {A : Zone} (hA : A.IsRoom) {s : Scanner}
    (hs : zoneOf s ≠ A) {p : Option Zone} (hp : metadata.Pending A p)
    (r : ℤ) (curBest : Option Scanner × ℤ) :
    (challenge metadata A (zoneOf s) s r curBest).Shows
      (if passHysteresis r curBest then
        if p = some (zoneOf s) then some (zoneOf s, none) else some (A, some (zoneOf s))
      else some (A, none)) := by
  have hroom := zoneOf_isRoom s
  unfold challenge
  cases hpass : passHysteresis r curBest with
  | true =>
    cases p with
    | none =>
      have hcount : (if metadata.candidateZone = some (zoneOf s) then
          metadata.candidateCount.getD 0 + 1 else 1) = 1 := by
        simp [show metadata.candidateCount.getD 0 = 0 from hp]
      simp [Decision.Shows, hcount, debounceCount, hA, hroom, hs]
    | some B =>
      -- the second message in a row for the pending room confirms it, another room takes its place
      obtain ⟨hcount, hzone, -⟩ := hp
      by_cases hB : B = zoneOf s
      · simp [Decision.Shows, hcount, hzone, hB, debounceCount, hroom]
      · simp [Decision.Shows, hzone, hB, debounceCount, hA, hroom, hs]
  | false =>
    cases p with
    | none =>
      have hcount : metadata.candidateCount.getD 0 = 0 := hp
      cases hz : metadata.candidateZone <;> simp [Decision.Shows, hA, hcount]
    | some B =>
      obtain ⟨hcount, hzone, hB⟩ := hp
      simp [Decision.Shows, hA, hcount, hzone, hB]

theorem decideZone_shows {st : TagState} {s : Debounce.State Zone} (h : Represents st s) :
    (decideZone (fetchTagState st) snap now).Shows (step s (evidence snap now)) := by
  unfold decideZone
  cases hb : (strongestFresh snap now).1 with
  | none =>
    have hpair : strongestFresh snap now = (none, (strongestFresh snap now).2) := by rw [← hb]
    have hl : (evidence snap now).leader = none := by simp [evidence, hb]
    rw [hpair]
    simp [step, hl, Decision.Shows]
  | some b =>
    have hpair : strongestFresh snap now = (some b, (strongestFresh snap now).2) := by rw [← hb]
    have hl : (evidence snap now).leader = some (zoneOf b) := by simp [evidence, hb]
    have hroom := zoneOf_isRoom b
    rw [hpair]
    simp only [zoneMap_known, Option.getD_some]
    rcases s with _ | ⟨A, p⟩
    · -- without a room the leader's is taken at once
      have hstep : step none (evidence snap now) = some (zoneOf b, none) := by simp [step, hl]
      rw [hstep]
      cases hz : st.currentZone with
      | none => simp [fetchTagState, hz, Decision.Shows, hroom]
      | some z => simp [fetchTagState, hz, h.1 z hz, Decision.Shows, hroom]
    · have hA : A.IsRoom ∧ st.currentZone = some A := by
        cases p with
        | none => exact ⟨h.1, h.2.1⟩
        | some B => exact ⟨h.1, h.2.2.2.1⟩
      have hcur : (fetchTagState st).currentZone = some A := hA.2
      have hne : A ≠ .outOfRange := hA.1
      by_cases hz : zoneOf b = A
      · simp [hcur, hne, hz, step, hl, Decision.Shows, hA.1]
      · have hclear : (evidence snap now).clear A =
            passHysteresis (strongestFresh snap now).2 (strongestFreshIn snap now A) := rfl
        have hp : (fetchTagState st).Pending A p := by
          cases p with
          | none => exact h.2.2
          | some B => exact ⟨h.2.2.2.2.1, h.2.2.2.2.2, h.2.2.1⟩
        simp only [hcur, hne, hz, if_false, step, hl, hclear]
        exact challenge_shows hA.1 hz hp _ _

theorem represents_process {st : TagState} {s : Debounce.State Zone} (h : Represents st s)
    (a : Arrival) : Represents (st.process a) (step s (evidence (st.snap a) a.now)) := by
  have hd : (decideZone (fetchTagState st) (st.snap a) a.now).Shows
      (step s (evidence (st.snap a) a.now)) := decideZone_shows h
  have hzone : (st.process a).currentZone =
      some (decideZone (fetchTagState st) (st.snap a) a.now).finalZone := rfl
  have hcount : (st.process a).candidateCount =
      some (decideZone (fetchTagState st) (st.snap a) a.now).newCandCount := rfl
  have hcand : (st.process a).candidateZone =
      (decideZone (fetchTagState st) (st.snap a) a.now).newCandZone.orElse
        fun _ => st.candidateZone := rfl
  generalize step s (evidence (st.snap a) a.now) = t at hd
  rcases t with _ | ⟨A, _ | B⟩
  · simp [Represents, hzone, hcount, hd.1, hd.2]
  · exact ⟨hd.1, by rw [hzone, hd.2.1], by simp [hcount, hd.2.2]⟩
  · exact ⟨hd.1, hd.2.1, hd.2.2.1, by rw [hzone, hd.2.2.2.1], by rw [hcount, hd.2.2.2.2.1],
      by simp [hcand, hd.2.2.2.2.2]⟩

/-- Every state saved by a run represents a debouncer state. -/
theorem exists_represents (as : List Arrival) : ∃ s, Represents (savedAfter as) s := by
  induction as using List.reverseRecOn with
  | nil => exact ⟨none, by simp [savedAfter, Represents]⟩
  | append_singleton as a ih =>
    obtain ⟨s, hs⟩ := ih
    rw [savedAfter_concat]
    exact ⟨_, represents_process hs a⟩

end BleMeshTracking.RuleChain
