import BleMeshTracking.RuleChain.SavedState
import Mathlib.Algebra.Order.Field.Rat
import Mathlib.Tactic.NormNum

/-!
# The zone history

Build TS payload makes a row of the time series of every message that Apply hysteresis hands on,
beside the attributes that are saved.  What the rows of a tag say, one by one and in a row, without
the saved state.  Ages are exact here.
-/

namespace BleMeshTracking.RuleChain

open Debounce (room step room_step_iff)

def scannerNumMap : Scanner → ℕ
  | .scan01 => 1
  | .scan02 => 2
  | .scan03 => 3

def ageSeconds (now : ℤ) : Option ℤ → ℚ
  | none => -1
  | some ts => max 0 ((now - ts : ℤ) / 1000)

structure TsPayload where
  currentZoneNum : ℕ
  currentRssi : ℤ
  rssiScan : Scanner → Option Int8
  candidateZoneNum : ℕ
  candidateCount : ℕ
  incomingScannerNum : ℕ
  incomingRssi : Option Int8
  ageScan : Scanner → ℚ
  tsScan : Scanner → Option ℤ

/-- `scanner_id` and `rssi` are as they came; a message without `rssi` has none parsed. -/
def buildTsPayload (incoming : Msg) (msg : Evaluated) (now : ℤ) : TsPayload where
  currentZoneNum := msg.currentZoneNum
  currentRssi := msg.currentRssi
  rssiScan := msg.rssiScan
  candidateZoneNum := (msg.candidateZone.map zoneNumMap).getD 0
  candidateCount := msg.candidateCount
  incomingScannerNum :=
    match incoming.scannerId with
    | some (.known s) => scannerNumMap s
    | _ => 0
  incomingRssi := incoming.rssi
  ageScan := fun s => ageSeconds now (msg.tsScan s)
  tsScan := msg.tsScan

def TagState.row (st : TagState) (a : Arrival) (later : ℤ) : TsPayload :=
  buildTsPayload (parseAndMapZone a.msg).1 (st.evaluate a) later

def zoneHistory (st : TagState) : List (Arrival × ℤ) → List TsPayload
  | [] => []
  | (a, later) :: as => st.row a later :: zoneHistory (st.process a) as

/-- A row shows no zone, or one sample of the scanner of its zone; a candidate is another zone, and
counted once; and without one the sample of the zone is at most ten seconds old, but for the delay
of the row. -/
structure TsPayload.Readable (delay : ℤ) (row : TsPayload) : Prop where
  sample : row.currentZoneNum = 0 ∧ row.currentRssi = -999 ∨
    ∃ s rssi ts, row.currentZoneNum = scannerNumMap s ∧ row.currentRssi = rssi.toInt ∧
      row.rssiScan s = some rssi ∧ row.tsScan s = some ts
  candidate : row.candidateCount = 0 ∧ row.candidateZoneNum = row.currentZoneNum ∨
    row.candidateCount = 1 ∧ row.candidateZoneNum ≠ row.currentZoneNum ∧
      row.candidateZoneNum ≠ 0 ∧ row.currentZoneNum ≠ 0
  settled : row.candidateCount = 0 → ∀ s, row.currentZoneNum = scannerNumMap s →
    0 ≤ row.ageScan s ∧ row.ageScan s ≤ ((10000 + delay : ℤ) : ℚ) / 1000

/-- A move from room to room is announced by the row before it. -/
def TsPayload.Announces (row next : TsPayload) : Prop :=
  row.currentZoneNum ≠ 0 → next.currentZoneNum ≠ 0 → next.currentZoneNum ≠ row.currentZoneNum →
    row.candidateCount = 1 ∧ row.candidateZoneNum = next.currentZoneNum ∧ next.candidateCount = 0

theorem zoneNumMap_injective : Function.Injective zoneNumMap := by
  intro z z' h
  cases z <;> cases z' <;> first | rfl | cases h

theorem zoneNumMap_ne_zero_iff {z : Zone} : zoneNumMap z ≠ 0 ↔ z.IsRoom := by
  cases z <;> decide

theorem zoneNumMap_zoneOf (s : Scanner) : zoneNumMap (zoneOf s) = scannerNumMap s := by
  cases s <;> rfl

/-- The decision has no candidate besides its zone, and its room has a fresh sample. -/
def Decision.Settled (d : Decision) (snap : ScannerId → Option Sample) (now : ℤ) : Prop :=
  d.newCandZone = some d.finalZone ∧ ∀ s, d.finalZone = zoneOf s →
    ∃ x : Sample, snap (.known s) = some x ∧ x.Fresh now

variable {snap : ScannerId → Option Sample} {now : ℤ} {metadata : Metadata}

theorem strongestFresh_fresh {s : Scanner} (h : (strongestFresh snap now).1 = some s) :
    ∃ x : Sample, snap (.known s) = some x ∧ x.Fresh now := by
  obtain ⟨x, hfresh, hsnap, -⟩ :=
    freshRssi_eq_some_iff.mp (Strongest.scan_snd (l := scanners) freshRssi_gt h)
  exact ⟨x, hsnap, hfresh⟩

theorem strongestFreshIn_fresh {A : Zone} {s : Scanner}
    (h : (strongestFreshIn snap now A).1 = some s) :
    zoneOf s = A ∧ ∃ x : Sample, snap (.known s) = some x ∧ x.Fresh now := by
  have hvalue := Strongest.scan_snd (l := scanners) (freshRssiIn_gt A) h
  split_ifs at hvalue with hzone
  rw [zoneMap_known] at hzone
  obtain ⟨x, hfresh, hsnap, -⟩ := freshRssi_eq_some_iff.mp hvalue
  exact ⟨Option.some.inj hzone, x, hsnap, hfresh⟩

theorem settled_of_fresh {d : Decision} {s : Scanner} (hzone : d.finalZone = zoneOf s)
    (hcand : d.newCandZone = some d.finalZone)
    (hfresh : ∃ x : Sample, snap (.known s) = some x ∧ x.Fresh now) : d.Settled snap now := by
  refine ⟨hcand, ?_⟩
  intro s' hs'
  have hss : s = s' := zoneOf_injective (hzone.symm.trans hs')
  rw [← hss]
  exact hfresh

theorem challenge_settled {A : Zone} {b : Scanner} {r : ℤ}
    (hb : ∃ x : Sample, snap (.known b) = some x ∧ x.Fresh now)
    (h : (challenge metadata A (zoneOf b) b r (strongestFreshIn snap now A)).newCandCount = 0) :
    (challenge metadata A (zoneOf b) b r (strongestFreshIn snap now A)).Settled snap now := by
  unfold challenge at h ⊢
  dsimp only at h ⊢
  by_cases hpass : passHysteresis r (strongestFreshIn snap now A) = true
  · rw [if_pos hpass] at h ⊢
    generalize hcount : (if metadata.candidateZone = some (zoneOf b) then
      metadata.candidateCount.getD 0 + 1 else 1) = newCandCount at h ⊢
    by_cases hfull : debounceCount ≤ newCandCount
    · rw [if_pos hfull]
      exact settled_of_fresh (s := b) rfl rfl hb
    · -- a challenge counts itself
      rw [if_neg hfull] at h
      have hzero : newCandCount = 0 := h
      rw [hzero] at hcount
      split_ifs at hcount
  · rw [if_neg hpass] at h ⊢
    -- the room held its own, so it has a fresh scanner
    obtain ⟨s, hs⟩ : ∃ s, (strongestFreshIn snap now A).1 = some s := by
      rw [← Option.isSome_iff_exists]
      by_contra hnone
      apply hpass
      unfold passHysteresis
      rw [Option.not_isSome_iff_eq_none.mp hnone]
      rfl
    obtain ⟨hzone, hfresh⟩ := strongestFreshIn_fresh hs
    cases hcand : metadata.candidateZone with
    | none => exact settled_of_fresh (s := s) hzone.symm rfl hfresh
    | some candZone =>
      rw [hcand] at h
      dsimp only at h ⊢
      by_cases hkeep : candZone ≠ A ∧ 0 < metadata.candidateCount.getD 0
      · rw [if_pos hkeep] at h ⊢
        have hzero : metadata.candidateCount.getD 0 - 1 = 0 := h
        refine settled_of_fresh (s := s) hzone.symm ?_ hfresh
        dsimp only
        rw [hzero, if_neg (lt_irrefl 0)]
      · rw [if_neg hkeep]
        exact settled_of_fresh (s := s) hzone.symm rfl hfresh

theorem decideZone_settled (h : (decideZone metadata snap now).newCandCount = 0) :
    (decideZone metadata snap now).Settled snap now := by
  unfold decideZone at h ⊢
  cases hbest : (strongestFresh snap now).1 with
  | none =>
    have hpair : strongestFresh snap now = (none, (strongestFresh snap now).2) := by rw [← hbest]
    rw [hpair]
    refine ⟨rfl, ?_⟩
    intro s hs
    exact absurd hs.symm (zoneOf_isRoom s)
  | some b =>
    have hpair : strongestFresh snap now = (some b, (strongestFresh snap now).2) := by
      rw [← hbest]
    have hfresh := strongestFresh_fresh hbest
    rw [hpair] at h ⊢
    simp only [zoneMap_known, Option.getD_some] at h ⊢
    cases hzone : metadata.currentZone with
    | none => exact settled_of_fresh (s := b) rfl rfl hfresh
    | some curZone =>
      rw [hzone] at h
      dsimp only at h ⊢
      by_cases hout : curZone = .outOfRange
      · rw [if_pos hout]
        exact settled_of_fresh (s := b) rfl rfl hfresh
      · rw [if_neg hout] at h ⊢
        by_cases hsame : zoneOf b = curZone
        · rw [if_pos hsame]
          exact settled_of_fresh (s := b) hsame.symm rfl hfresh
        · rw [if_neg hsame] at h ⊢
          exact challenge_settled hfresh h

variable {st : TagState} {s : Debounce.State Zone} {a : Arrival} {later delay : ℤ}

theorem age_bounds {x : Sample} (hfresh : x.Fresh a.now) (hsoon : a.now ≤ later)
    (hdelay : later ≤ a.now + delay) :
    0 ≤ ageSeconds later (some x.ts) ∧
      ageSeconds later (some x.ts) ≤ ((10000 + delay : ℤ) : ℚ) / 1000 := by
  unfold Sample.Fresh scannerValidMs at hfresh
  have hpos : (0 : ℚ) ≤ ((10000 + delay : ℤ) : ℚ) / 1000 := by
    apply div_nonneg _ (by norm_num)
    exact_mod_cast (by omega : 0 ≤ 10000 + delay)
  refine ⟨le_max_left _ _, max_le hpos ?_⟩
  apply div_le_div_of_nonneg_right _ (by norm_num)
  exact_mod_cast (by omega : later - x.ts ≤ 10000 + delay)

theorem row_sample (h : st.CoherentIfSaved) :
    (st.row a later).currentZoneNum = 0 ∧ (st.row a later).currentRssi = -999 ∨
      ∃ s rssi ts, (st.row a later).currentZoneNum = scannerNumMap s ∧
        (st.row a later).currentRssi = rssi.toInt ∧ (st.row a later).rssiScan s = some rssi ∧
          (st.row a later).tsScan s = some ts := by
  rcases decideZone_restsOn (h.heldBy a) with ⟨-, hzone, hrssi⟩ | ⟨s, x, -, hzone, hsnap, hrssi⟩
  · exact Or.inl ⟨congrArg zoneNumMap hzone, hrssi⟩
  · refine Or.inr ⟨s, x.rssi, x.ts, ?_, hrssi, ?_, ?_⟩
    · exact (congrArg zoneNumMap hzone).trans (zoneNumMap_zoneOf s)
    · exact congrArg (Option.map Sample.rssi) hsnap
    · exact congrArg (Option.map Sample.ts) hsnap

theorem row_candidate (h : Represents st s) :
    (st.row a later).candidateCount = 0 ∧
        (st.row a later).candidateZoneNum = (st.row a later).currentZoneNum ∨
      (st.row a later).candidateCount = 1 ∧
        (st.row a later).candidateZoneNum ≠ (st.row a later).currentZoneNum ∧
          (st.row a later).candidateZoneNum ≠ 0 ∧ (st.row a later).currentZoneNum ≠ 0 := by
  have hshows : (decideZone (fetchTagState st) (st.snap a) a.now).Shows
      (step s (evidence (st.snap a) a.now)) := decideZone_shows h
  have hzero : (decideZone (fetchTagState st) (st.snap a) a.now).newCandCount = 0 →
      (st.row a later).candidateCount = 0 ∧
        (st.row a later).candidateZoneNum = (st.row a later).currentZoneNum := by
    intro hcount
    refine ⟨hcount, ?_⟩
    exact congrArg (fun z => (Option.map zoneNumMap z).getD 0) (decideZone_settled hcount).1
  generalize step s (evidence (st.snap a) a.now) = t at hshows
  rcases t with _ | ⟨A, _ | B⟩
  · exact Or.inl (hzero hshows.2)
  · exact Or.inl (hzero hshows.2.2)
  · obtain ⟨hA, hB, hne, hzone, hcount, hcand⟩ := hshows
    have hcandNum : (st.row a later).candidateZoneNum = zoneNumMap B :=
      congrArg (fun z => (Option.map zoneNumMap z).getD 0) hcand
    have hzoneNum : (st.row a later).currentZoneNum = zoneNumMap A := congrArg zoneNumMap hzone
    rw [hcandNum, hzoneNum]
    refine Or.inr ⟨hcount, ?_, zoneNumMap_ne_zero_iff.mpr hB, zoneNumMap_ne_zero_iff.mpr hA⟩
    exact fun heq => hne (zoneNumMap_injective heq)

theorem row_settled (hsoon : a.now ≤ later) (hdelay : later ≤ a.now + delay)
    (hcount : (st.row a later).candidateCount = 0) (s : Scanner)
    (hs : (st.row a later).currentZoneNum = scannerNumMap s) :
    0 ≤ (st.row a later).ageScan s ∧
      (st.row a later).ageScan s ≤ ((10000 + delay : ℤ) : ℚ) / 1000 := by
  have hzone : (decideZone (fetchTagState st) (st.snap a) a.now).finalZone = zoneOf s :=
    zoneNumMap_injective (hs.trans (zoneNumMap_zoneOf s).symm)
  obtain ⟨x, hsnap, hfresh⟩ := (decideZone_settled hcount).2 s hzone
  have hage : (st.row a later).ageScan s = ageSeconds later (some x.ts) :=
    congrArg (fun o => ageSeconds later (Option.map Sample.ts o)) hsnap
  rw [hage]
  exact age_bounds hfresh hsoon hdelay

/-- A change of the room was pending after the message before. -/
theorem row_announces (h : Represents st s) (b : Arrival) (afterwards : ℤ) :
    (st.row a later).Announces ((st.process a).row b afterwards) := by
  intro hfrom hto hmoved
  have hfirst : (decideZone (fetchTagState st) (st.snap a) a.now).Shows
      (step s (evidence (st.snap a) a.now)) := decideZone_shows h
  have hnext : (decideZone (fetchTagState (st.process a)) ((st.process a).snap b) b.now).Shows
      (step (step s (evidence (st.snap a) a.now)) (evidence ((st.process a).snap b) b.now)) :=
    decideZone_shows (represents_process h a)
  have hzone := zoneNumMap_ne_zero_iff.mp hfrom
  have hzone' := zoneNumMap_ne_zero_iff.mp hto
  cases hstate : step s (evidence (st.snap a) a.now) with
  | none =>
    rw [hstate] at hfirst
    exact absurd hfirst.1 hzone
  | some t =>
    obtain ⟨A, p⟩ := t
    rw [hstate] at hfirst hnext
    have hA : (decideZone (fetchTagState st) (st.snap a) a.now).finalZone = A := by
      cases p with
      | none => exact hfirst.2.1
      | some B => exact hfirst.2.2.2.1
    cases hstate' : step (some (A, p)) (evidence ((st.process a).snap b) b.now) with
    | none =>
      rw [hstate'] at hnext
      exact absurd hnext.1 hzone'
    | some t' =>
      obtain ⟨B, q⟩ := t'
      rw [hstate'] at hnext
      have hB : (decideZone (fetchTagState (st.process a)) ((st.process a).snap b) b.now).finalZone
          = B := by
        cases q with
        | none => exact hnext.2.1
        | some C => exact hnext.2.2.2.1
      have hAB : A ≠ B := by
        rintro rfl
        exact hmoved (congrArg zoneNumMap (hB.trans hA.symm))
      obtain ⟨hpending, hchallenge⟩ := (room_step_iff hAB p _).mp (by rw [hstate']; rfl)
      rw [hpending] at hfirst hstate'
      rw [Debounce.step_challenge hchallenge, if_pos rfl] at hstate'
      cases hstate'
      obtain ⟨-, -, -, -, hcount, hcand⟩ := hfirst
      refine ⟨hcount, ?_, hnext.2.2⟩
      have hcandNum : (st.row a later).candidateZoneNum = zoneNumMap B :=
        congrArg (fun z => (Option.map zoneNumMap z).getD 0) hcand
      exact hcandNum.trans (congrArg zoneNumMap hB.symm)

theorem zoneHistory_readable {as : List (Arrival × ℤ)} (hsaved : st.CoherentIfSaved)
    (hstate : Represents st s) (h : ∀ a ∈ as, a.1.now ≤ a.2 ∧ a.2 ≤ a.1.now + delay) :
    (∀ row ∈ zoneHistory st as, row.Readable delay) ∧
      (zoneHistory st as).IsChain TsPayload.Announces := by
  induction as generalizing st s with
  | nil => exact ⟨nofun, List.IsChain.nil⟩
  | cons a as ih =>
    obtain ⟨a, later⟩ := a
    obtain ⟨⟨hsoon, hdelay⟩, hrest⟩ := List.forall_mem_cons.mp h
    obtain ⟨hrows, hchain⟩ := ih (Or.inr (hsaved.process a)) (represents_process hstate a) hrest
    refine ⟨?_, ?_⟩
    · intro row hrow
      rcases List.mem_cons.mp hrow with rfl | hlater
      · exact ⟨row_sample hsaved, row_candidate hstate, row_settled hsoon hdelay⟩
      · exact hrows row hlater
    · unfold zoneHistory
      cases as with
      | nil => exact List.IsChain.singleton _
      | cons b as =>
        obtain ⟨b, afterwards⟩ := b
        exact List.isChain_cons_cons.mpr ⟨row_announces hstate b afterwards, hchain⟩

/-- The rows of a tag, in the order of its messages, can be read on their own, and no move from
room to room comes without notice. -/
theorem zone_history_readable (delay : ℤ) (as : List (Arrival × ℤ))
    (h : ∀ a ∈ as, a.1.now ≤ a.2 ∧ a.2 ≤ a.1.now + delay) :
    (∀ row ∈ zoneHistory {} as, row.Readable delay) ∧
      (zoneHistory {} as).IsChain TsPayload.Announces := by
  have hstart : Represents {} none := ⟨nofun, rfl⟩
  exact zoneHistory_readable (Or.inl rfl) hstart h

/-- A tag goes from room 1 to room 2; each row is made 5 ms after its message was evaluated. -/
def walkHistory : List (Arrival × ℤ) :=
  [(⟨.telemetry (some (.known .scan01)) (some (-60)) (some 90), 0⟩, 5),
    (⟨.telemetry (some (.known .scan02)) (some (-50)) (some 90), 1000⟩, 1005),
    (⟨.telemetry (some (.known .scan02)) (some (-50)) (some 90), 2000⟩, 2005)]

theorem zone_history_readable_walk :
    ((zoneHistory {} walkHistory).map fun row =>
        (row.currentZoneNum, row.candidateZoneNum, row.candidateCount)) =
      [(1, 1, 0), (1, 2, 1), (2, 2, 0)] ∧
    (∀ row ∈ zoneHistory {} walkHistory, row.Readable 5) ∧
      (zoneHistory {} walkHistory).IsChain TsPayload.Announces :=
  ⟨by decide, zone_history_readable 5 walkHistory (by decide)⟩

end BleMeshTracking.RuleChain
