import BleMeshTracking.RuleChain.Interleaving

/-!
# Samples that are no longer fresh

Stale samples stay in the saved attributes and are written back with every message.  Two saved
states that differ in nothing else are decided alike from then on.
-/

namespace BleMeshTracking.RuleChain

def TagState.evaluate (st : TagState) (a : Arrival) : Evaluated :=
  applyHysteresis (parseAndMapZone a.msg).1 (fetchTagState st) a.now

def Evaluated.decision (e : Evaluated) : Zone × ℤ × Option Scanner × Option Zone × ℕ :=
  (e.currentZone, e.currentRssi, e.currentScanner, e.candidateZone, e.candidateCount)

def Sample.Fresh (now : ℤ) (x : Sample) : Prop := now - x.ts ≤ scannerValidMs

/-- Two saved states that agree on the last decision and on every sample that is fresh at `now`. -/
structure AgreeFresh (now : ℤ) (st st' : TagState) : Prop where
  currentZone : st.currentZone = st'.currentZone
  currentRssi : st.currentRssi = st'.currentRssi
  currentScanner : st.currentScanner = st'.currentScanner
  candidateZone : st.candidateZone = st'.candidateZone
  candidateCount : st.candidateCount = st'.candidateCount
  samples : ∀ s (x : Sample), x.Fresh now → (st.pair s = some x ↔ st'.pair s = some x)

/-- The evaluations of a list of messages, each on what the one before it has saved. -/
def decisions (st : TagState) : List Arrival → List (Zone × ℤ × Option Scanner × Option Zone × ℕ)
  | [] => []
  | a :: as => (st.evaluate a).decision :: decisions (st.process a) as

section Agree

variable {now : ℤ} {st st' : TagState} {a : Arrival}

theorem Sample.Fresh.earlier {x : Sample} {after : ℤ} (h : x.Fresh after) (hle : now ≤ after) :
    x.Fresh now := by
  unfold Sample.Fresh at h ⊢
  omega

theorem AgreeFresh.later {after : ℤ} (h : AgreeFresh now st st') (hle : now ≤ after) :
    AgreeFresh after st st' :=
  { h with samples := fun s x hx => h.samples s x (hx.earlier hle) }

/-- Both states give a message the same fresh samples to be compared. -/
theorem AgreeFresh.written_iff (h : AgreeFresh now st st') (msg : Incoming) (s : Scanner)
    {x : Sample} (hx : x.Fresh now) :
    msg.written (fetchTagState st) now s = some x ↔
      msg.written (fetchTagState st') now s = some x := by
  unfold Incoming.written
  cases msg.sample now s with
  | some y => exact Iff.rfl
  | none => exact h.samples s x hx

theorem freshRssi_eq_some_iff {snap : ScannerId → Option Sample} {s : Scanner} {v : ℤ} :
    freshRssi snap now s = some v ↔
      ∃ x : Sample, x.Fresh now ∧ snap (.known s) = some x ∧ x.rssi.toInt = v := by
  unfold freshRssi Sample.Fresh
  cases snap (.known s) with
  | none => simp
  | some x => simp

theorem AgreeFresh.freshRssi_eq (h : AgreeFresh a.now st st') (s : Scanner) :
    freshRssi (st.snap a) a.now s = freshRssi (st'.snap a) a.now s := by
  apply Option.ext
  intro v
  rw [freshRssi_eq_some_iff, freshRssi_eq_some_iff]
  apply exists_congr
  intro x
  apply and_congr_right
  intro hx
  unfold TagState.snap
  rw [snapshot_known, snapshot_known, h.written_iff a.msg s hx]

/-- Stale samples take no part in the decision. -/
theorem AgreeFresh.decideZone_eq (h : AgreeFresh a.now st st') :
    decideZone (fetchTagState st) (st.snap a) a.now =
      decideZone (fetchTagState st') (st'.snap a) a.now := by
  have hfresh : freshRssi (st.snap a) a.now = freshRssi (st'.snap a) a.now := funext h.freshRssi_eq
  have hbest : strongestFresh (st.snap a) a.now = strongestFresh (st'.snap a) a.now := by
    unfold strongestFresh
    rw [hfresh]
  have hroom : strongestFreshIn (st.snap a) a.now = strongestFreshIn (st'.snap a) a.now := by
    funext zone
    unfold strongestFreshIn
    rw [hfresh]
  unfold decideZone challenge fetchTagState
  dsimp only
  rw [hbest, hroom, h.currentZone, h.currentRssi, h.currentScanner, h.candidateZone,
    h.candidateCount]

theorem AgreeFresh.decision_eq (h : AgreeFresh a.now st st') :
    (st.evaluate a).decision = (st'.evaluate a).decision := by
  have hdecide := h.decideZone_eq
  unfold TagState.snap at hdecide
  unfold Evaluated.decision TagState.evaluate applyHysteresis
  dsimp only
  rw [hdecide]

theorem pair_process (st : TagState) (a : Arrival) (s : Scanner) :
    (st.process a).pair s = a.msg.written (fetchTagState st) a.now s := by
  unfold TagState.process
  rw [pair_saveTagState]
  unfold Incoming.written
  cases a.msg.sample a.now s with
  | some x => rfl
  | none =>
    rw [Option.none_or]
    exact Option.or_self

/-- Two states that agree when a message is evaluated still agree when it has been saved. -/
theorem AgreeFresh.process (h : AgreeFresh a.now st st') :
    AgreeFresh a.now (st.process a) (st'.process a) := by
  have hdecide := h.decideZone_eq
  unfold TagState.snap at hdecide
  refine ⟨?_, ?_, ?_, ?_, ?_, ?_⟩
  · exact congrArg (fun d => some d.finalZone) hdecide
  · exact congrArg (fun d => some d.finalRssi) hdecide
  · exact congrArg Decision.finalScanner hdecide
  · unfold TagState.process saveTagState buildAttrsPayload applyHysteresis
    dsimp only
    rw [hdecide, h.candidateZone]
  · exact congrArg (fun d => some d.newCandCount) hdecide
  · intro s x hx
    rw [pair_process, pair_process]
    exact h.written_iff a.msg s hx

end Agree

theorem decisions_eq {st st' : TagState} {now : ℤ} (h : AgreeFresh now st st') {as : List Arrival}
    (htimes : (now :: as.map Arrival.now).IsChain (· ≤ ·)) :
    decisions st as = decisions st' as := by
  induction as generalizing st st' now with
  | nil => rfl
  | cons a as ih =>
    obtain ⟨hle, hrest⟩ := List.isChain_cons_cons.mp htimes
    -- the later the message, the fewer samples are fresh
    have hnow := h.later hle
    unfold decisions
    rw [hnow.decision_eq, ih hnow.process hrest]

/-- Stale samples never influence the zone: from two saved states that agree on the last decision
and on the samples that are fresh at the first message, every message of a sequence with times that
do not decrease is decided alike. -/
theorem stale_samples_never_influence (a : Arrival) (as : List Arrival)
    (htimes : ((a :: as).map Arrival.now).IsChain (· ≤ ·)) (st st' : TagState)
    (h : AgreeFresh a.now st st') : decisions st (a :: as) = decisions st' (a :: as) := by
  apply decisions_eq h
  exact List.isChain_cons_cons.mpr ⟨le_rfl, htimes⟩

def leftRoomOne (rssi : Int8) : TagState where
  currentZone := some .room1
  currentRssi := some (-60)
  currentScanner := some .scan01
  rssiScan s := if s = .scan01 then some rssi else none
  tsScan s := if s = .scan01 then some 0 else none

def heardInRoomTwo (now : ℤ) : Arrival :=
  ⟨.telemetry (some (.known .scan02)) (some (-80)) none, now⟩

theorem stale_samples_never_influence_roomOne :
    decisions (leftRoomOne (-30)) [heardInRoomTwo 20000, heardInRoomTwo 21000] =
      decisions (leftRoomOne (-90)) [heardInRoomTwo 20000, heardInRoomTwo 21000] := by
  apply stale_samples_never_influence _ _ (by decide)
  refine ⟨rfl, rfl, rfl, rfl, rfl, ?_⟩
  intro s x hx
  have hts : ∀ rssi, (leftRoomOne rssi).pair s = some x → x.ts = 0 := by
    intro rssi h
    cases s with
    | scan01 =>
      cases h
      rfl
    | _ => cases h
  have hstale : x.ts ≠ 0 := by
    intro h
    unfold Sample.Fresh at hx
    rw [h] at hx
    exact absurd hx (by decide)
  exact ⟨fun h => absurd (hts _ h) hstale, fun h => absurd (hts _ h) hstale⟩

end BleMeshTracking.RuleChain
