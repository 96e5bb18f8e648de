import BleMeshTracking.Library.History
import BleMeshTracking.Scanner.Beacons

/-!
# The scanner: radio phases and publishing

`radio_manager_task` of `bmt_scan.c` statement by statement, with `bmt_mesh_publish_tags` slot by
slot.  `gap_event_handler` and `timeout_check_task` run between any two of its steps.
-/

namespace BleMeshTracking.Scanner

open Gateway (TagReport)
open Protocol

inductive RadioPhase
  | gapScan
  | meshPub
  deriving DecidableEq

/-- Where `radio_manager_task` stands: before the loop, at its head, behind
`s_phase = PHASE_GAP_SCAN`, in the scan window, at the test of `s_has_new_data`, in the loop of
`bmt_mesh_publish_tags` and behind it. -/
inductive RadioTask
  | waitProvision
  | loop
  | clearNews
  | scanning
  | testNews
  | publishing (i : ℕ)
  | resetNews
  | deleted
  deriving DecidableEq

structure RadioCalls where
  provComplete : Bool := true
  setScanParamsOk : Bool := true
  isProvisioned : Bool := true
  appIdx : UInt16 := 0
  scannerId : UInt8 := 1
  publishOk : Bool := true

/-- What matters for the reports: payloads accepted by `parse_tag_payload`, each with whether the
table applied it, and `TAG_STATUS` reports sent. -/
inductive RadioLog
  | accepted (tagId : UInt16) (applied : Bool)
  | reported (r : TagReport)

def RadioLog.isReportOf (tagId : UInt16) : RadioLog → Prop
  | .accepted _ _ => False
  | .reported r => r.tagId = tagId

def RadioLog.isAccepted : RadioLog → Prop
  | .accepted _ _ => True
  | .reported _ => False

/-- News of a tag: a payload of it that was applied to its entry. -/
def RadioLog.isNewsOf (tagId : UInt16) : RadioLog → Prop
  | .accepted id applied => id = tagId ∧ applied = true
  | .reported _ => False

/-- The scanner, with `s_phase`, `s_has_new_data` and what was accepted and reported. -/
structure RadioManager where
  air : AirState := {}
  tags : TagTable := fun _ => {}
  phase : RadioPhase := .gapScan
  hasNewData : Bool := false
  task : RadioTask := .waitProvision
  log : List RadioLog := []

/-- `bmt_tag_table_update` returns early for a packet this little behind. -/
def TagEntry.isLate (sequence : UInt8) (t : TagEntry) : Bool :=
  let diff := (sequence - t.lastSequence).toInt8
  sequence ≠ t.lastSequence && diff < 0 && diff > -10

/-- `bmt_tag_table_add` or `bmt_tag_table_update` applies the payload to the entry of its tag. -/
def TagPayload.isApplied (p : TagPayload) (tags : TagTable) : Bool :=
  match entryOf p.tagId tags with
  | some t => !t.isLate p.sequence
  | none => hasFree tags

inductive RadioEvent
  | scanResult (r : ScanResult)
  | checkTimeouts (nowMs : UInt32)
  | otaTrigger (triggered : Bool)
  | radio (calls : RadioCalls)

namespace RadioManager

/-- `gap_event_handler`. -/
def handle (hmac : Hmac) (s : RadioManager) (r : ScanResult) : RadioManager :=
  match acceptScanResult hmac { r with phaseGapScan := s.phase == .gapScan } s.air with
  | some (some p, air) =>
    { s with
      air
      tags := trackTag p r (bmtAuthGetLockedEpoch p.tagId air.epochs) s.tags
      hasNewData := true
      log := s.log ++ [.accepted p.tagId (p.isApplied s.tags)] }
  | some (none, air) => { s with air }
  | none => s

def publishSlot (s : RadioManager) (c : RadioCalls) (i : Fin bmtMaxTags) : RadioManager :=
  match bmtTagTableAt i s.tags with
  | some t =>
    if c.publishOk then { s with log := s.log ++ [.reported (t.report c.scannerId)] } else s
  | none => s

def radio (s : RadioManager) (c : RadioCalls) : RadioManager :=
  match s.task with
  | .waitProvision =>
    if !c.provComplete then s
    else if c.setScanParamsOk then { s with phase := .meshPub, task := .loop }
    else { s with task := .deleted }
  | .loop =>
    if s.air.otaTriggered then { s with phase := .meshPub }
    else { s with phase := .gapScan, task := .clearNews }
  | .clearNews => { s with hasNewData := false, task := .scanning }
  | .scanning => { s with phase := .meshPub, task := .testNews }
  | .testNews =>
    if !s.hasNewData then { s with task := .loop }
    -- `bmt_mesh_publish_tags` returns at once
    else if !c.isProvisioned || c.appIdx == 0xFFFF then { s with task := .resetNews }
    else { s with task := .publishing 0 }
  | .publishing i =>
    if h : i < bmtMaxTags then { s.publishSlot c ⟨i, h⟩ with task := .publishing (i + 1) }
    else { s with task := .resetNews }
  | .resetNews => { s with hasNewData := false, task := .loop }
  | .deleted => s

def after (hmac : Hmac) (s : RadioManager) : RadioEvent → RadioManager
  | .scanResult r => s.handle hmac r
  | .checkTimeouts nowMs =>
    if s.air.otaTriggered then s else { s with tags := bmtTagTableCheckTimeouts nowMs s.tags }
  | .otaTrigger triggered => { s with air := { s.air with otaTriggered := triggered } }
  | .radio c => s.radio c

def Pending (s : RadioManager) (tagId : UInt16) : Prop :=
  History.Pending (RadioLog.isReportOf tagId) RadioLog.isAccepted s.log

/-- Between two reports of one tag an advertisement was accepted. -/
def Separated (s : RadioManager) : Prop :=
  ∀ tagId, History.Separated (RadioLog.isReportOf tagId) RadioLog.isAccepted s.log

end RadioManager

def RadioTask.reporting : RadioTask → Bool
  | .publishing _ => true
  | .resetNews => true
  | _ => false

def RadioTask.offAir : RadioTask → Bool
  | .testNews => true
  | .publishing _ => true
  | .resetNews => true
  | _ => false

namespace RadioManager

/-- The flag says that something was accepted since the last report of any tag, and a publishing
task has reported no tag of a slot still ahead of it. -/
structure NewsKept (s : RadioManager) : Prop where
  distinct : DistinctTags s.tags
  offAir : s.task.offAir = true → s.phase = .meshPub
  flagged : s.task.reporting = false → s.hasNewData = true → ∀ tagId, ¬ s.Pending tagId
  ahead : ∀ i, s.task = .publishing i → ∀ j, i ≤ j.val → (s.tags j).active = true →
    ¬ s.Pending (s.tags j).tagId
  separated : s.Separated

variable {s : RadioManager}

theorem newsKept_boot : NewsKept {} := by
  refine ⟨?_, ?_, ?_, ?_, ?_⟩
  · intro i j hi
    cases hi
  · intro h
    cases h
  · intro _ h
    cases h
  · intro i h
    cases h
  · intro tagId
    exact History.separated_nil

/-- `parse_tag_payload` is called in the scan phase only. -/
theorem phaseGapScan_of_accept {hmac : Hmac} {r : ScanResult} {air air' : AirState}
    {p : TagPayload} (h : acceptScanResult hmac r air = some (some p, air')) :
    r.phaseGapScan = true := by
  unfold acceptScanResult at h
  obtain ⟨ota, -, h⟩ := Option.bind_eq_some_iff.mp h
  dsimp only at h
  split_ifs at h with hskip
  · cases h
  · simp only [Bool.or_eq_true, Bool.not_eq_true', not_or, Bool.not_eq_false] at hskip
    exact hskip.1.2

/-- A scan result changes the table, the flag and the log together, and only in the scan phase. -/
theorem handle_cases (hmac : Hmac) (s : RadioManager) (r : ScanResult) :
    (∃ air, s.handle hmac r = { s with air }) ∨
      ∃ p epoch air, s.phase = .gapScan ∧ s.handle hmac r =
        { s with
          air
          tags := trackTag p r epoch s.tags
          hasNewData := true
          log := s.log ++ [.accepted p.tagId (p.isApplied s.tags)] } := by
  unfold handle
  cases haccept : acceptScanResult hmac { r with phaseGapScan := s.phase == .gapScan } s.air with
  | none => exact Or.inl ⟨s.air, rfl⟩
  | some result =>
    obtain ⟨o, air⟩ := result
    cases o with
    | none => exact Or.inl ⟨air, rfl⟩
    | some p =>
      have hphase := phaseGapScan_of_accept haccept
      exact Or.inr ⟨p, _, air, of_decide_eq_true hphase, rfl⟩

theorem NewsKept.scanResult (h : NewsKept s) (hmac : Hmac) (r : ScanResult) :
    NewsKept (s.handle hmac r) := by
  rcases s.handle_cases hmac r with ⟨air, heq⟩ | ⟨p, epoch, air, hphase, heq⟩
  · rw [heq]
    exact ⟨h.distinct, h.offAir, h.flagged, h.ahead, h.separated⟩
  · have hpending : ∀ tagId, ¬ (s.handle hmac r).Pending tagId := by
      intro tagId hpending
      rw [heq] at hpending
      rcases History.pending_concat_iff.mp hpending with hmark | ⟨-, hsep⟩
      · exact hmark
      · exact hsep trivial
    rw [heq] at hpending ⊢
    -- what is accepted separates the reports of all tags
    refine ⟨distinct_trackTag h.distinct p r epoch, h.offAir, fun _ _ => hpending, ?_, ?_⟩
    · intro i _ j _ _
      exact hpending _
    · intro tagId
      exact History.separated_concat_iff.mpr ⟨h.separated tagId, False.elim⟩

theorem NewsKept.checkTimeouts (h : NewsKept s) (now : UInt32) :
    NewsKept { s with tags := bmtTagTableCheckTimeouts now s.tags } := by
  refine ⟨distinct_checkTimeouts h.distinct now, h.offAir, h.flagged, ?_, h.separated⟩
  intro i hi j hij hj
  obtain ⟨hactive, hid⟩ := (s.tags j).checkTimeout_key now
  have hahead := h.ahead i hi j hij (hactive hj)
  rw [← hid] at hahead
  exact hahead

/-- A slot of the publishing loop sends at most one report, about a tag not reported so far. -/
theorem publishSlot_cases (s : RadioManager) (c : RadioCalls) (i : Fin bmtMaxTags) :
    s.publishSlot c i = s ∨
      (s.tags i).active = true ∧
        s.publishSlot c i =
          { s with log := s.log ++ [.reported ((s.tags i).report c.scannerId)] } := by
  unfold publishSlot bmtTagTableAt
  cases hactive : (s.tags i).active with
  | false => exact Or.inl rfl
  | true =>
    rw [if_pos rfl]
    dsimp only
    split_ifs
    · exact Or.inr ⟨rfl, rfl⟩
    · exact Or.inl rfl

theorem NewsKept.publishSlot (h : NewsKept s) (c : RadioCalls) {i : Fin bmtMaxTags}
    (htask : s.task = .publishing i.val) :
    NewsKept { s.publishSlot c i with task := .publishing (i.val + 1) } := by
  have hphase : s.phase = .meshPub := by
    apply h.offAir
    rw [htask]
    rfl
  rcases s.publishSlot_cases c i with heq | ⟨hactive, heq⟩
  · rw [heq]
    refine ⟨h.distinct, fun _ => hphase, ?_, ?_, h.separated⟩
    · intro hreporting
      cases hreporting
    · intro k hk j hkj hj
      cases hk
      exact h.ahead i.val htask j (Nat.le_of_succ_le hkj) hj
  · rw [heq]
    refine ⟨h.distinct, fun _ => hphase, ?_, ?_, ?_⟩
    · intro hreporting
      cases hreporting
    · intro k hk j hkj hj hpending
      cases hk
      rcases History.pending_concat_iff.mp hpending with hmark | ⟨hpending, -⟩
      · -- the slots ahead hold other tags
        have hij := h.distinct i j hactive hj hmark
        rw [hij] at hkj
        exact absurd hkj (Nat.not_succ_le_self _)
      · exact h.ahead i.val htask j (Nat.le_of_succ_le hkj) hj hpending
    · intro tagId
      refine History.separated_concat_iff.mpr ⟨h.separated tagId, ?_⟩
      intro hmark hpending
      rw [← show (s.tags i).tagId = tagId from hmark] at hpending
      exact h.ahead i.val htask i le_rfl hactive hpending

/-- A step of the task that reports nothing, raises no flag and does not enter the publishing
loop. -/
theorem NewsKept.moveTo (h : NewsKept s) {phase : RadioPhase} {task : RadioTask} {flag : Bool}
    (hoff : task.offAir = true → phase = .meshPub)
    (hflag : task.reporting = false → flag = true →
      s.task.reporting = false ∧ s.hasNewData = true)
    (htask : ∀ i, task ≠ .publishing i) :
    NewsKept { s with phase, task, hasNewData := flag } := by
  refine ⟨h.distinct, hoff, ?_, ?_, h.separated⟩
  · intro hquiet hnews
    obtain ⟨hnow, hnews⟩ := hflag hquiet hnews
    exact h.flagged hnow hnews
  · intro i hi
    exact absurd hi (htask i)

theorem NewsKept.radio (h : NewsKept s) (c : RadioCalls) : NewsKept (s.radio c) := by
  unfold RadioManager.radio
  cases htask : s.task with
  | waitProvision =>
    have hnow : s.task.reporting = false := by rw [htask]; rfl
    dsimp only
    split_ifs
    · exact h
    · exact h.moveTo (fun _ => rfl) (fun _ hnews => ⟨hnow, hnews⟩) (fun _ => RadioTask.noConfusion)
    · exact h.moveTo Bool.noConfusion (fun _ hnews => ⟨hnow, hnews⟩)
        (fun _ => RadioTask.noConfusion)
  | loop =>
    have hnow : s.task.reporting = false := by rw [htask]; rfl
    dsimp only
    split_ifs
    · exact h.moveTo (fun _ => rfl) (fun _ hnews => ⟨hnow, hnews⟩) (fun _ => RadioTask.noConfusion)
    · exact h.moveTo Bool.noConfusion (fun _ hnews => ⟨hnow, hnews⟩)
        (fun _ => RadioTask.noConfusion)
  | clearNews =>
    exact h.moveTo Bool.noConfusion (fun _ => Bool.noConfusion) (fun _ => RadioTask.noConfusion)
  | scanning =>
    have hnow : s.task.reporting = false := by rw [htask]; rfl
    exact h.moveTo (fun _ => rfl) (fun _ hnews => ⟨hnow, hnews⟩) (fun _ => RadioTask.noConfusion)
  | testNews =>
    have hnow : s.task.reporting = false := by rw [htask]; rfl
    have hphase : s.phase = .meshPub := by
      apply h.offAir
      rw [htask]
      rfl
    dsimp only
    split_ifs with hflag hsend
    · exact h.moveTo (fun _ => hphase) (fun _ hnews => ⟨hnow, hnews⟩)
        (fun _ => RadioTask.noConfusion)
    · exact h.moveTo (fun _ => hphase) Bool.noConfusion (fun _ => RadioTask.noConfusion)
    · -- all slots are ahead, and the flag says that no tag is pending
      refine ⟨h.distinct, fun _ => hphase, ?_, ?_, h.separated⟩
      · intro hreporting
        cases hreporting
      · intro i _ j _ _
        apply h.flagged hnow
        simpa using hflag
  | publishing i =>
    have hphase : s.phase = .meshPub := by
      apply h.offAir
      rw [htask]
      rfl
    dsimp only
    split_ifs with hi
    · exact h.publishSlot c (i := ⟨i, hi⟩) htask
    · exact h.moveTo (fun _ => hphase) Bool.noConfusion (fun _ => RadioTask.noConfusion)
  | resetNews =>
    exact h.moveTo Bool.noConfusion (fun _ => Bool.noConfusion) (fun _ => RadioTask.noConfusion)
  | deleted => exact h

theorem NewsKept.after (h : NewsKept s) (hmac : Hmac) (e : RadioEvent) :
    NewsKept (s.after hmac e) := by
  cases e with
  | scanResult r => exact h.scanResult hmac r
  | checkTimeouts now =>
    unfold RadioManager.after
    dsimp only
    split_ifs
    · exact h
    · exact h.checkTimeouts now
  | otaTrigger triggered => exact ⟨h.distinct, h.offAir, h.flagged, h.ahead, h.separated⟩
  | radio c => exact h.radio c

theorem newsKept_run (h : NewsKept s) (hmac : Hmac) (es : List RadioEvent) :
    NewsKept (es.foldl (RadioManager.after hmac) s) := by
  induction es generalizing s with
  | nil => exact h
  | cons e es ih => exact ih (h.after hmac e)

end RadioManager

/-- Between two `TAG_STATUS` reports of one tag, `parse_tag_payload` accepted an advertisement, of
whatever tag. -/
theorem reports_separated (hmac : Hmac) (es : List RadioEvent) :
    (es.foldl (RadioManager.after hmac) {}).Separated :=
  (RadioManager.newsKept_run RadioManager.newsKept_boot hmac es).separated

/-- A scan window of `radio_manager_task` and the publishing of all slots. -/
def radioCycle (heard : List RadioEvent) : List RadioEvent :=
  List.replicate 2 (.radio {}) ++ heard ++ List.replicate (bmtMaxTags + 4) (.radio {})

def heardTag (minor : UInt16) : RadioEvent :=
  .scanResult { adv := tagAdv minor, rssi := -60, bda := fun _ => 0, nowMs := 1, nowUs := 1,
                keys := tagOne.keys }

def tagsInTurn : List RadioEvent :=
  .radio {} :: radioCycle [heardTag 1] ++ radioCycle [heardTag 2]

def RadioLog.summary : RadioLog → UInt16 × Option Bool
  | .accepted tagId applied => (tagId, some applied)
  | .reported r => (r.tagId, none)

theorem RadioLog.isReportOf_of_summary {m : RadioLog} {tagId : UInt16}
    (h : m.summary = (tagId, none)) : m.isReportOf tagId := by
  cases m with
  | accepted id applied => cases h
  | reported r => exact congrArg Prod.fst h

theorem RadioLog.not_isNewsOf_of_summary {m : RadioLog} {tagId id : UInt16} {o : Option Bool}
    (h : m.summary = (id, o)) (hid : id ≠ tagId) : ¬ m.isNewsOf tagId := by
  cases m with
  | accepted id' applied =>
    rintro ⟨rfl, -⟩
    exact hid (congrArg Prod.fst h).symm
  | reported r => exact not_false

/-- The second window has news of tag 2 only, and tag 1 is reported once more. -/
theorem reported_without_news :
    ¬ History.Separated (RadioLog.isReportOf 1) (RadioLog.isNewsOf 1)
      (tagsInTurn.foldl (RadioManager.after echoHmac) {}).log := by
  have hlog : (tagsInTurn.foldl (RadioManager.after echoHmac) {}).log.map RadioLog.summary =
      [(1, some true), (1, none), (2, some true), (1, none), (2, none)] := by
    decide +kernel
  intro hseparated
  obtain ⟨a, as, has, -, has'⟩ := List.map_eq_cons_iff.mp hlog
  obtain ⟨b, bs, rfl, hb, hbs⟩ := List.map_eq_cons_iff.mp has'
  obtain ⟨c, cs, rfl, hc, hcs⟩ := List.map_eq_cons_iff.mp hbs
  obtain ⟨d, ds, rfl, hd, -⟩ := List.map_eq_cons_iff.mp hcs
  rw [has] at hseparated
  apply hseparated [a, b, c] d ⟨ds, rfl⟩ (RadioLog.isReportOf_of_summary hd)
  refine ⟨[a], b, [c], rfl, RadioLog.isReportOf_of_summary hb, ?_⟩
  intro m hm
  rw [List.mem_singleton.mp hm]
  exact RadioLog.not_isNewsOf_of_summary hc (by decide)

end BleMeshTracking.Scanner
