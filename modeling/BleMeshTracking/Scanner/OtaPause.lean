import BleMeshTracking.Library.Run
import BleMeshTracking.Scanner.Independence
import BleMeshTracking.Scanner.Publishing

/-!
# Tags across an OTA attempt

`timeout_check_task` makes no check while an OTA is triggered, and scan results are ignored
meanwhile.  The ages that the next check compares include the pause.
-/

namespace BleMeshTracking.Scanner

open Run
open Protocol

/-- An event of the scanner while the tick clock reads `atMs`. -/
structure ClockedEvent where
  atMs : ℕ
  event : RadioEvent

/-- The event with `xTaskGetTickCount() * portTICK_PERIOD_MS` for its time. -/
def ClockedEvent.clocked (e : ClockedEvent) : RadioEvent :=
  match e.event with
  | .scanResult r => .scanResult { r with nowMs := UInt32.ofNat e.atMs }
  | .checkTimeouts _ => .checkTimeouts (UInt32.ofNat e.atMs)
  | .otaTrigger triggered => .otaTrigger triggered
  | .radio c => .radio c

namespace RadioManager

def tick (hmac : Hmac) (s : RadioManager) (e : ClockedEvent) : RadioManager :=
  s.after hmac e.clocked

/-- The tag whose advertisement the event brings, if it is accepted. -/
def heardTag (hmac : Hmac) (s : RadioManager) : RadioEvent → Option UInt16
  | .scanResult r =>
    (acceptScanResult hmac { r with phaseGapScan := s.phase == .gapScan } s.air).bind fun result =>
      result.1.map TagPayload.tagId
  | _ => none

/-- A check made while no OTA is triggered finds the entry no older than `BMT_TAG_TIMEOUT_MS`. -/
def FreshPass (t : TagEntry) (s : RadioManager) (e : ClockedEvent) : Prop :=
  match e.event with
  | .checkTimeouts _ =>
    s.air.otaTriggered = false → UInt32.ofNat e.atMs - t.lastSeenMs ≤ bmtTagTimeoutMs
  | _ => True

section Step

variable {hmac : Hmac} {s : RadioManager} {tagId : UInt16} {t : TagEntry}

theorem radio_tags (c : RadioCalls) : (s.radio c).tags = s.tags ∧ (s.radio c).air = s.air := by
  unfold radio
  split
  case h_6 i _ =>
    split_ifs with hi
    · rcases s.publishSlot_cases c ⟨i, hi⟩ with heq | ⟨-, heq⟩
      · rw [heq]
        exact ⟨rfl, rfl⟩
      · rw [heq]
        exact ⟨rfl, rfl⟩
    · exact ⟨rfl, rfl⟩
  all_goals
    try split_ifs
    all_goals exact ⟨rfl, rfl⟩

/-- An event in which the tag is not heard leaves its entry, unless it is a check. -/
theorem entryOf_handle_other {r : ScanResult} (h : s.heardTag hmac (.scanResult r) ≠ some tagId) :
    entryOf tagId (s.handle hmac r).tags = entryOf tagId s.tags := by
  unfold heardTag at h
  dsimp only at h
  unfold handle
  cases haccept : acceptScanResult hmac { r with phaseGapScan := s.phase == .gapScan } s.air with
  | none => rfl
  | some result =>
    obtain ⟨o, air⟩ := result
    cases o with
    | none => rfl
    | some p =>
      rw [haccept] at h
      have hne : tagId ≠ p.tagId := fun heq => h (congrArg some heq.symm)
      dsimp only
      rw [entryOf_trackTag, if_neg hne]

theorem entryOf_handle_own {r : ScanResult} (h : s.heardTag hmac (.scanResult r) = some tagId)
    (ht : entryOf tagId s.tags = some t) :
    ∃ sequence battery epoch, entryOf tagId (s.handle hmac r).tags =
      some { t.update r.rssi sequence battery r.nowMs with lockedEpoch := epoch } := by
  unfold heardTag at h
  obtain ⟨⟨o, air⟩, haccept, ho⟩ := Option.bind_eq_some_iff.mp h
  obtain ⟨p, rfl, rfl⟩ := Option.map_eq_some_iff.mp ho
  refine ⟨p.sequence, p.battery, bmtAuthGetLockedEpoch p.tagId air.epochs, ?_⟩
  unfold handle
  rw [haccept]
  dsimp only
  rw [entryOf_trackTag, if_pos rfl, ht]
  rfl

theorem entryOf_checkTimeouts_eq_iff (hd : DistinctTags s.tags) (now : UInt32)
    (ht : entryOf tagId s.tags = some t) :
    entryOf tagId (bmtTagTableCheckTimeouts now s.tags) = some t ↔
      now - t.lastSeenMs ≤ bmtTagTimeoutMs := by
  have hactive : t.active = true := by
    obtain ⟨i, hi, rfl⟩ := Option.map_eq_some_iff.mp ht
    exact ((TagEntry.isOf_iff _ _).mp (SlotTable.find_sat hi)).1
  rw [entryOf_checkTimeouts hd, ht, Option.map_some]
  by_cases hold : now - t.lastSeenMs > bmtTagTimeoutMs
  · rw [TagEntry.checkTimeout, if_pos ⟨hactive, hold⟩]
    refine iff_of_false ?_ (UInt32.not_le.mpr hold)
    intro h
    have hdropped := Option.some.inj (Option.filter_eq_some_iff.mp h).1
    rw [← hdropped] at hactive
    cases hactive
  · rw [TagEntry.checkTimeout, if_neg fun h => hold h.2]
    exact iff_of_true (by simp [hactive]) (UInt32.not_lt.mp hold)

theorem after_checkTimeouts (now : UInt32) : s.after hmac (.checkTimeouts now) =
    if s.air.otaTriggered then s else { s with tags := bmtTagTableCheckTimeouts now s.tags } := rfl

theorem distinct_after (hd : DistinctTags s.tags) (e : RadioEvent) :
    DistinctTags (s.after hmac e).tags := by
  cases e with
  | scanResult r =>
    rcases s.handle_cases hmac r with ⟨air, heq⟩ | ⟨p, epoch, air, -, heq⟩
    · rw [after, heq]
      exact hd
    · rw [after, heq]
      exact distinct_trackTag hd p r epoch
  | checkTimeouts now =>
    rw [after_checkTimeouts]
    split_ifs
    · exact hd
    · exact distinct_checkTimeouts hd now
  | otaTrigger triggered => exact hd
  | radio c =>
    rw [after, (radio_tags c).1]
    exact hd

/-- An event in which the tag is not heard keeps its entry exactly when it is no stale check. -/
theorem entryOf_tick_iff (hd : DistinctTags s.tags) (ht : entryOf tagId s.tags = some t)
    {e : ClockedEvent} (hquiet : s.heardTag hmac e.clocked ≠ some tagId) :
    entryOf tagId (s.tick hmac e).tags = some t ↔ s.FreshPass t e := by
  obtain ⟨atMs, event⟩ := e
  cases event with
  | scanResult r =>
    refine iff_of_true ?_ trivial
    exact (entryOf_handle_other hquiet).trans ht
  | checkTimeouts now =>
    show entryOf tagId (s.after hmac (.checkTimeouts (UInt32.ofNat atMs))).tags = some t ↔
      (s.air.otaTriggered = false → UInt32.ofNat atMs - t.lastSeenMs ≤ bmtTagTimeoutMs)
    rw [after_checkTimeouts]
    cases hota : s.air.otaTriggered with
    | true =>
      refine iff_of_true ?_ fun h => by cases h
      exact ht
    | false =>
      exact (entryOf_checkTimeouts_eq_iff hd _ ht).trans ⟨fun h _ => h, fun h => h rfl⟩
  | otaTrigger triggered => exact iff_of_true ht trivial
  | radio c =>
    refine iff_of_true ?_ trivial
    show entryOf tagId (s.radio c).tags = some t
    rw [(radio_tags c).1]
    exact ht

/-- While an OTA is triggered, only its own end resets the flag. -/
theorem otaTriggered_tick (h : s.air.otaTriggered = true) {e : ClockedEvent}
    (he : e.event ≠ .otaTrigger false) : (s.tick hmac e).air.otaTriggered = true := by
  obtain ⟨atMs, event⟩ := e
  cases event with
  | scanResult r =>
    show (s.handle hmac { r with nowMs := UInt32.ofNat atMs }).air.otaTriggered = true
    unfold handle acceptScanResult otaBeacon
    simp [h]
  | checkTimeouts now =>
    show (s.after hmac (.checkTimeouts (UInt32.ofNat atMs))).air.otaTriggered = true
    rw [after_checkTimeouts, if_pos h]
    exact h
  | otaTrigger triggered =>
    cases triggered with
    | true => rfl
    | false => exact absurd rfl he
  | radio c =>
    show (s.radio c).air.otaTriggered = true
    rw [(radio_tags c).2]
    exact h

/-- A check does not trigger an OTA. -/
theorem freshPass_of_started (hidle : s.air.otaTriggered = false) {e : ClockedEvent}
    (hstarted : (s.tick hmac e).air.otaTriggered = true) : s.FreshPass t e := by
  obtain ⟨atMs, event⟩ := e
  cases event with
  | checkTimeouts now =>
    have hkept : (s.after hmac (.checkTimeouts (UInt32.ofNat atMs))).air.otaTriggered =
        s.air.otaTriggered := by
      rw [after_checkTimeouts]
      split_ifs <;> rfl
    exact absurd (hkept.symm.trans hstarted) (by rw [hidle]; exact Bool.false_ne_true)
  | _ => trivial

end Step

end RadioManager

def otaEnd (endMs : ℕ) : ClockedEvent := ⟨endMs, .otaTrigger false⟩

def RadioManager.ran (hmac : Hmac) (es : List ClockedEvent) : RadioManager :=
  es.foldl (RadioManager.tick hmac) {}

/-- A run from boot with an OTA attempt that ends without a reboot: the entry of the tag is active
and no older than `BMT_TAG_TIMEOUT_MS` when the attempt starts, and the tag is heard next, in
`next`, within `BMT_TAG_TIMEOUT_MS` after the end. -/
structure OtaPause (hmac : Hmac) (tagId : UInt16) where
  before : List ClockedEvent
  start : ClockedEvent
  during : List ClockedEvent
  endMs : ℕ
  resumed : List ClockedEvent
  nextMs : ℕ
  next : ScanResult
  entry : TagEntry
  /-- The clock does not run backwards. -/
  clock : ((before ++ start :: during ++ otaEnd endMs :: resumed ++
    [ClockedEvent.mk nextMs (.scanResult next)]).map ClockedEvent.atMs).Pairwise (· ≤ ·)
  idle : (RadioManager.ran hmac before).air.otaTriggered = false
  started : ((RadioManager.ran hmac before).tick hmac start).air.otaTriggered = true
  running : ∀ e ∈ during, e.event ≠ .otaTrigger false
  active : entryOf tagId (RadioManager.ran hmac before).tags = some entry
  fresh : UInt32.ofNat start.atMs - entry.lastSeenMs ≤ bmtTagTimeoutMs
  unheard : Meets (total (RadioManager.tick hmac))
    (fun s e => s.heardTag hmac e.clocked ≠ some tagId) (RadioManager.ran hmac before)
    (start :: during ++ otaEnd endMs :: resumed)
  heard : (RadioManager.ran hmac (before ++ start :: during ++ otaEnd endMs :: resumed)).heardTag
    hmac (.scanResult { next with nowMs := UInt32.ofNat nextMs }) = some tagId
  soon : nextMs ≤ endMs + bmtTagTimeoutMs.toNat

namespace OtaPause

variable {hmac : Hmac} {tagId : UInt16} (p : OtaPause hmac tagId)

def startState : RadioManager := .ran hmac p.before

def attempt : List ClockedEvent := p.start :: p.during ++ [otaEnd p.endMs]

def endState : RadioManager := .ran hmac (p.before ++ p.attempt)

def lastState : RadioManager := .ran hmac (p.before ++ p.attempt ++ p.resumed)

def nextState : RadioManager := p.lastState.tick hmac ⟨p.nextMs, .scanResult p.next⟩

/-- The tag keeps its entry, and the advertisement goes on from it. -/
structure KeepsEntry : Prop where
  kept : Throughout (total (RadioManager.tick hmac))
    (fun s => entryOf tagId s.tags = some p.entry) p.startState (p.attempt ++ p.resumed)
  updated : ∃ sequence battery epoch, entryOf tagId p.nextState.tags =
    some { p.entry.update p.next.rssi sequence battery (UInt32.ofNat p.nextMs) with
      lockedEpoch := epoch }

/-- No check between the end of the attempt and the advertisement, unless one more OTA is
triggered, finds the entry older than `BMT_TAG_TIMEOUT_MS`. -/
def NoStaleCheck : Prop :=
  Meets (total (RadioManager.tick hmac)) (RadioManager.FreshPass p.entry) p.endState p.resumed

/-- The attempt itself drops nothing. -/
theorem freshPass_attempt :
    Meets (total (RadioManager.tick hmac)) (RadioManager.FreshPass p.entry) p.startState
      p.attempt := by
  unfold attempt
  rw [List.cons_append, meets_total_cons]
  refine ⟨RadioManager.freshPass_of_started p.idle p.started, ?_⟩
  -- the flag stays set up to the last event, which is no check
  have hruns : Meets (total (RadioManager.tick hmac))
      (fun _ e => e.event ≠ .otaTrigger false) (p.startState.tick hmac p.start) p.during :=
    meets_of_mem (fun e he _ => p.running e he) _
  refine Meets.append ?_ run_total ?_
  · refine meets_of_meets (P := fun s => s.air.otaTriggered = true) ?_ ?_ p.started hruns
    · intro s e s' h he hs
      cases hs
      exact RadioManager.otaTriggered_tick h he
    · intro s e _ h _ _
      unfold RadioManager.FreshPass
      split
      · exact fun hidle => absurd (hidle.symm.trans h) Bool.false_ne_true
      · trivial
  · exact meets_total_cons.mpr ⟨trivial, trivial⟩

theorem attempt_append :
    p.attempt ++ p.resumed = p.start :: p.during ++ otaEnd p.endMs :: p.resumed := by
  simp [attempt]

theorem ran_append (es fs : List ClockedEvent) :
    RadioManager.ran hmac (es ++ fs) = fs.foldl (RadioManager.tick hmac) (.ran hmac es) :=
  List.foldl_append

theorem distinct_ran (es : List ClockedEvent) : DistinctTags (RadioManager.ran hmac es).tags := by
  induction es using List.reverseRecOn with
  | nil =>
    intro i j hi
    cases hi
  | append_singleton es e ih =>
    rw [ran_append]
    exact RadioManager.distinct_after ih e.clocked

/-- The entry is kept exactly when no check after the attempt is stale. -/
theorem kept_iff : Throughout (total (RadioManager.tick hmac))
    (fun s => entryOf tagId s.tags = some p.entry) p.startState (p.attempt ++ p.resumed) ↔
      p.NoStaleCheck := by
  have hquiet := p.unheard
  rw [← p.attempt_append] at hquiet
  have hiff : Throughout (total (RadioManager.tick hmac))
      (fun s => entryOf tagId s.tags = some p.entry) p.startState _ ↔
        Meets (total (RadioManager.tick hmac)) (RadioManager.FreshPass p.entry) p.startState _ :=
    throughout_iff_meets (A := fun s : RadioManager => DistinctTags s.tags)
      (fun s e s' hd _ hs => by
        cases hs
        exact RadioManager.distinct_after hd e.clocked)
      (fun s e s' hd ht hq hs => by
        cases hs
        exact RadioManager.entryOf_tick_iff hd ht hq)
      hquiet (distinct_ran p.before) p.active
  have hend : p.endState = p.attempt.foldl (RadioManager.tick hmac) p.startState :=
    ran_append p.before p.attempt
  unfold NoStaleCheck
  rw [hend]
  exact hiff.trans ⟨fun h => (meets_total_append.mp h).2,
    fun h => meets_total_append.mpr ⟨p.freshPass_attempt, h⟩⟩

theorem entryOf_lastState (h : Throughout (total (RadioManager.tick hmac))
    (fun s => entryOf tagId s.tags = some p.entry) p.startState (p.attempt ++ p.resumed)) :
    entryOf tagId p.lastState.tags = some p.entry := by
  apply h.last
  rw [run_total, lastState, List.append_assoc, ran_append]
  rfl

/-- In every run with an OTA attempt the tag keeps its entry exactly when no check between the end
of the attempt and the next advertisement is stale. -/
theorem keepsEntry_iff (hmac : Hmac) (tagId : UInt16) (p : OtaPause hmac tagId) :
    p.KeepsEntry ↔ p.NoStaleCheck := by
  refine ⟨fun h => p.kept_iff.mp h.kept, fun h => ?_⟩
  have hkept := p.kept_iff.mpr h
  refine ⟨hkept, ?_⟩
  have hheard := p.heard
  rw [List.append_assoc, ← p.attempt_append, ← List.append_assoc] at hheard
  exact RadioManager.entryOf_handle_own hheard (p.entryOf_lastState hkept)

end OtaPause

def tagOneAt (ms : ℕ) (sequence : UInt8) : ClockedEvent :=
  ⟨ms, .scanResult { (heardResult 1 sequence 0).result with nowUs := 1000 * ms }⟩

/-- Heard at 1 s, an OTA attempt from 2 s to 32 s, a check half a second after it, and heard again
half a second after that. -/
def longPause : OtaPause echoHmac 1 where
  before := [tagOneAt 1000 0]
  start := ⟨2000, .otaTrigger true⟩
  during := [⟨10000, .checkTimeouts 0⟩]
  endMs := 32000
  resumed := [⟨32500, .checkTimeouts 0⟩]
  nextMs := 33000
  next := { (heardResult 1 10 0).result with nowUs := 33000000 }
  entry := (entryOf 1 (RadioManager.ran echoHmac [tagOneAt 1000 0]).tags).get (by decide +kernel)
  clock := by decide
  idle := by decide +kernel
  started := by decide +kernel
  running := by simp
  active := (Option.some_get _).symm
  fresh := by decide +kernel
  unheard := by decide +kernel
  heard := by decide +kernel
  soon := by decide

/-- The entry is dropped, so the tag starts afresh. -/
theorem longPause_drops :
    ¬longPause.KeepsEntry ∧
      (entryOf 1 longPause.lastState.tags).isSome = false ∧
      (entryOf 1 longPause.nextState.tags).map TagEntry.totalReceived = some 1 := by
  have hdropped : (entryOf 1 longPause.lastState.tags).isSome = false := by decide +kernel
  refine ⟨?_, hdropped, by decide +kernel⟩
  intro h
  rw [longPause.entryOf_lastState h.kept] at hdropped
  cases hdropped

end BleMeshTracking.Scanner
