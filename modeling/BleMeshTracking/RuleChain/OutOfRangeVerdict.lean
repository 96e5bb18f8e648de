import BleMeshTracking.Gateway.ThingsBoard
import BleMeshTracking.RuleChain.Hysteresis

/-!
# The gateway's out-of-range message in the rule chain

The message of `tb_publish_tag_out_of_range` is an attribute message.  It goes through Apply
hysteresis like a report, without a sample of its own, so the zone that is saved is decided by the
samples saved before and by the time of its arrival.
-/

namespace BleMeshTracking.RuleChain

/-- The attributes `tb_publish_tag_out_of_range` sends; no script reads `current_zone_num`. -/
def tbPublishTagOutOfRange : Incoming := .attributes none (some .outOfRange)

/-- The verdict is saved: after the message has gone through, the tag is out of range. -/
def VerdictSaved (st : TagState) (now : ℤ) : Prop :=
  (st.process ⟨tbPublishTagOutOfRange, now⟩).currentZone = some .outOfRange

def AllStale (st : TagState) (now : ℤ) : Prop :=
  ∀ s r ts, st.rssiScan s = some r → st.tsScan s = some ts → scannerValidMs < now - ts

section Decide

variable {snap : ScannerId → Option Sample} {now : ℤ}

theorem challenge_finalZone (metadata : Metadata) (A B : Zone) (s : Scanner) (r : ℤ)
    (curBest : Option Scanner × ℤ) :
    (challenge metadata A B s r curBest).finalZone = A ∨
      (challenge metadata A B s r curBest).finalZone = B := by
  unfold challenge
  dsimp only
  by_cases hpass : passHysteresis r curBest = true
  · rw [if_pos hpass]
    generalize (if metadata.candidateZone = some B then _ else 1) = newCandCount
    by_cases hcount : debounceCount ≤ newCandCount
    · rw [if_pos hcount]
      exact Or.inr rfl
    · rw [if_neg hcount]
      exact Or.inl rfl
  · rw [if_neg hpass]
    left
    cases metadata.candidateZone with
    | none => rfl
    | some candZone =>
      by_cases hkeep : candZone ≠ A ∧ 0 < metadata.candidateCount.getD 0
      · simp only [if_pos hkeep]
      · simp only [if_neg hkeep]

/-- While some sample is fresh the chain decides for a room, whatever was saved before. -/
theorem decideZone_outOfRange_iff (metadata : Metadata) :
    (decideZone metadata snap now).finalZone = .outOfRange ↔
      ∀ s, freshRssi snap now s = none := by
  have hnone : (strongestFresh snap now).1 = none ↔ ∀ s, freshRssi snap now s = none := by
    have h : (strongestFresh snap now).1 = none ↔ ∀ s ∈ scanners, freshRssi snap now s = none :=
      Strongest.scan_eq_none freshRssi_gt
    refine h.trans ⟨?_, ?_⟩
    · intro hall s
      exact hall s (mem_scanners s)
    · intro hall s _
      exact hall s
  rw [← hnone]
  unfold decideZone
  cases hb : (strongestFresh snap now).1 with
  | none =>
    have hpair : strongestFresh snap now = (none, (strongestFresh snap now).2) := by rw [← hb]
    rw [hpair]
    simp
  | some b =>
    have hpair : strongestFresh snap now = (some b, (strongestFresh snap now).2) := by rw [← hb]
    have hroom : zoneOf b ≠ .outOfRange := zoneOf_isRoom b
    rw [hpair]
    simp only [zoneMap_known, Option.getD_some, reduceCtorEq, iff_false]
    cases hz : metadata.currentZone with
    | none => exact hroom
    | some curZone =>
      dsimp only
      split_ifs with hout hsame
      · exact hroom
      · exact hout
      · have hzone := challenge_finalZone metadata curZone (zoneOf b) b (strongestFresh snap now).2
          (strongestFreshIn snap now curZone)
        intro h
        rcases hzone with hzone | hzone
        · exact hout (hzone.symm.trans h)
        · exact hroom (hzone.symm.trans h)

end Decide

/-- An attribute message is evaluated on the samples as they were saved. -/
theorem snap_attributes (st : TagState) (role : Option String) (zone : Option Zone) (now : ℤ)
    (s : Scanner) :
    st.snap ⟨.attributes role zone, now⟩ (.known s) =
      match st.rssiScan s, st.tsScan s with
      | some rVal, some tVal => some ⟨rVal, tVal⟩
      | _, _ => none := rfl

theorem freshRssi_attributes_eq_none_iff (st : TagState) (role : Option String)
    (zone : Option Zone) (now : ℤ) (s : Scanner) :
    freshRssi (st.snap ⟨.attributes role zone, now⟩) now s = none ↔
      ∀ r ts, st.rssiScan s = some r → st.tsScan s = some ts → scannerValidMs < now - ts := by
  unfold freshRssi
  rw [snap_attributes]
  cases hr : st.rssiScan s with
  | none => simp
  | some r =>
    cases hts : st.tsScan s with
    | none => simp
    | some ts =>
      dsimp only
      rw [ite_eq_right_iff]
      refine ⟨?_, ?_⟩
      · intro h r' ts' _ hts'
        cases hts'
        by_contra hle
        exact absurd (h (not_lt.mp hle)) (by simp)
      · intro h hle
        exact absurd (h r ts rfl rfl) (not_lt.mpr hle)

/-- What an attribute message of any kind leaves as the zone. -/
theorem attributes_outOfRange_iff (st : TagState) (role : Option String) (zone : Option Zone)
    (now : ℤ) :
    (st.process ⟨.attributes role zone, now⟩).currentZone = some .outOfRange ↔
      AllStale st now := by
  have hzone : (st.process ⟨.attributes role zone, now⟩).currentZone =
      some (decideZone (fetchTagState st) (st.snap ⟨.attributes role zone, now⟩) now).finalZone :=
    rfl
  rw [hzone, Option.some_inj, decideZone_outOfRange_iff]
  apply forall_congr'
  intro s
  exact freshRssi_attributes_eq_none_iff st role zone now s

/-- The gateway's verdict is saved exactly when every saved sample is more than
`SCANNER_VALID_MS` old as the message arrives. -/
theorem verdict_saved_iff_all_stale (st : TagState) (now : ℤ) :
    VerdictSaved st now ↔ AllStale st now :=
  attributes_outOfRange_iff st none (some .outOfRange) now

/-- The verdict is saved when no report of the tag was longer on its way than the verdict. -/
theorem verdict_saved_of_not_overtaken {st : TagState} {lastReport pass delay : ℤ}
    (hdue : lastReport + Gateway.bmtTagOutOfRangeMs.toNat < pass)
    (hdelay : ∀ s ts, st.tsScan s = some ts → ts ≤ lastReport + delay) :
    VerdictSaved st (pass + delay) := by
  rw [verdict_saved_iff_all_stale]
  intro s r ts _ hts
  have hms : Gateway.bmtTagOutOfRangeMs.toNat = 10000 := rfl
  have hle := hdelay s ts hts
  unfold scannerValidMs
  omega

theorem process_attributes (st : TagState) (role : Option String) (zone : Option Zone) (now : ℤ) :
    (st.process ⟨.attributes role zone, now⟩).rssiScan = st.rssiScan ∧
      (st.process ⟨.attributes role zone, now⟩).tsScan = st.tsScan := by
  have hsnap : ∀ s, st.snap ⟨.attributes role zone, now⟩ (.known s) = none ∨
      ∃ r ts, st.rssiScan s = some r ∧ st.tsScan s = some ts ∧
        st.snap ⟨.attributes role zone, now⟩ (.known s) = some ⟨r, ts⟩ := by
    intro s
    rw [snap_attributes]
    cases st.rssiScan s with
    | none => exact Or.inl rfl
    | some r =>
      cases st.tsScan s with
      | none => exact Or.inl rfl
      | some ts => exact Or.inr ⟨r, ts, rfl, rfl, rfl⟩
  refine ⟨?_, ?_⟩
  · funext s
    change ((st.snap _ (.known s)).map Sample.rssi).orElse (fun _ => st.rssiScan s) = st.rssiScan s
    rcases hsnap s with h | ⟨r, ts, hr, -, h⟩
    · rw [h]
      rfl
    · rw [h, hr]
      rfl
  · funext s
    change ((st.snap _ (.known s)).map Sample.ts).orElse (fun _ => st.tsScan s) = st.tsScan s
    rcases hsnap s with h | ⟨r, ts, -, hts, h⟩
    · rw [h]
      rfl
    · rw [h, hts]
      rfl

/-- Once saved, the verdict stays through all attribute messages to come. -/
theorem verdict_final_until_heard {st : TagState} {now : ℤ} (h : AllStale st now)
    (later : List (Option String × Option Zone × ℤ)) (hlater : ∀ m ∈ later, now ≤ m.2.2) :
    (later.foldl (fun st m => st.process ⟨.attributes m.1 m.2.1, m.2.2⟩)
      (st.process ⟨tbPublishTagOutOfRange, now⟩)).currentZone = some .outOfRange := by
  -- along the messages the zone is out of range and the samples are those of `st`
  have hkept : ∀ st' : TagState, st'.currentZone = some .outOfRange →
      st'.rssiScan = st.rssiScan → st'.tsScan = st.tsScan →
      (later.foldl (fun st m => st.process ⟨.attributes m.1 m.2.1, m.2.2⟩) st').currentZone =
        some .outOfRange := by
    induction later with
    | nil =>
      intro st' hzone _ _
      exact hzone
    | cons m later ih =>
      intro st' _ hrssi hts
      have hrest := ih fun m' hm' => hlater m' (List.mem_cons_of_mem _ hm')
      have hle := hlater m List.mem_cons_self
      obtain ⟨hrssi', hts'⟩ := process_attributes st' m.1 m.2.1 m.2.2
      apply hrest _ _ (hrssi'.trans hrssi) (hts'.trans hts)
      rw [attributes_outOfRange_iff]
      intro s r ts hr ht
      have hold := h s r ts (hrssi ▸ hr) (hts ▸ ht)
      omega
  obtain ⟨hrssi, hts⟩ := process_attributes st none (some .outOfRange) now
  exact hkept _ ((verdict_saved_iff_all_stale st now).mpr h) hrssi hts

/-- The gateway hands on a report of a tag at 0 and, hearing nothing more of it, declares it out of
range at 11000.  The report takes 2000 ms to the rule chain and the message none: it is evaluated
9000 ms after the report, and the tag stays in room 1. -/
theorem late_report_undoes_verdict :
    .outOfRange 1 ∈ (Gateway.zoneTimeoutPass true (fun _ => true) 11000
      (Gateway.bmtTbPubTagReport true {} ⟨1, 90, 1, -60, 10, 0⟩ 0 fun _ => {}).1).2 ∧
    ¬VerdictSaved
      (savedAfter [⟨.telemetry (some (.known .scan01)) (some (-60)) (some 90), 2000⟩]) 11000 := by
  refine ⟨?_, ?_⟩
  · apply Gateway.outOfRange_mem_timeoutPass_iff.mpr
    exact ⟨⟨0, by decide⟩, by decide, by decide, rfl, rfl⟩
  · rw [verdict_saved_iff_all_stale]
    intro h
    have hage := h .scan01 (-60) 2000 rfl rfl
    simp [scannerValidMs] at hage

end BleMeshTracking.RuleChain
