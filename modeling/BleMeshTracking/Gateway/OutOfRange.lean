import BleMeshTracking.Gateway.ThingsBoard
import BleMeshTracking.Library.Run

/-!
# Out-of-range notifications over whole runs

Reports, timeout passes, disconnects and reconnects of the gateway, each taken as one step, on a
millisecond clock of which the code sees the value modulo 2^32.
-/

namespace BleMeshTracking.Gateway

inductive MessageKind
  | telemetry
  | outOfRange
  deriving DecidableEq

/-- The gateway's tracks and connection, with what the server was last told about each tag and
when each tag was last reported. -/
structure Forwarder where
  tracks : TagTracks := fun _ => {}
  connected : Bool := false
  nowMs : ℕ := 0
  lastMessage : UInt16 → Option MessageKind := fun _ => none
  lastReportMs : UInt16 → Option ℕ := fun _ => none

def noteMessage (last : UInt16 → Option MessageKind) : TagMessage → UInt16 → Option MessageKind
  | .telemetry r => Function.update last r.tagId (some .telemetry)
  | .outOfRange tagId => Function.update last tagId (some .outOfRange)
  | .connect _ => last
  | .role _ => last

def handed (msgs : List TagMessage) (last : UInt16 → Option MessageKind) :
    UInt16 → Option MessageKind :=
  msgs.foldl noteMessage last

inductive ForwarderEvent
  | report (atMs : ℕ) (calls : ReportCalls) (r : TagReport)
  | timeoutPass (atMs : ℕ) (ok : Fin bmtMaxTrackedTags → Bool)
  | disconnect (atMs : ℕ)
  | reconnect (atMs : ℕ) (calls : Fin bmtMaxTrackedTags → ReportCalls)
      (ok : Fin bmtMaxTrackedTags → Bool)

def ForwarderEvent.atMs : ForwarderEvent → ℕ
  | .report atMs _ _ => atMs
  | .timeoutPass atMs _ => atMs
  | .disconnect atMs => atMs
  | .reconnect atMs _ _ => atMs

def Forwarder.perform (s : Forwarder) : ForwarderEvent → TagTracks × List TagMessage
  | .report atMs calls r => bmtTbPubTagReport s.connected calls r (UInt32.ofNat atMs) s.tracks
  | .timeoutPass atMs ok => zoneTimeoutPass s.connected ok (UInt32.ofNat atMs) s.tracks
  | .disconnect _ => (s.tracks, [])
  | .reconnect _ calls ok => bmtTbReconnectAllDevices true calls ok s.tracks

def ForwarderEvent.connectedAfter (connected : Bool) : ForwarderEvent → Bool
  | .report _ _ _ => connected
  | .timeoutPass _ _ => connected
  | .disconnect _ => false
  | .reconnect _ _ _ => true

def ForwarderEvent.reportsAfter (last : UInt16 → Option ℕ) : ForwarderEvent → UInt16 → Option ℕ
  | .report atMs _ r => Function.update last r.tagId (some atMs)
  | _ => last

/-- Time does not go back, and scanners report under the ids 1 to 8. -/
def ForwarderEvent.Enabled (s : Forwarder) (e : ForwarderEvent) : Prop :=
  s.nowMs ≤ e.atMs ∧
    match e with
    | .report _ _ r => 1 ≤ r.scannerId.toNat ∧ r.scannerId.toNat ≤ bmtMaxScanners
    | _ => True

instance (s : Forwarder) (e : ForwarderEvent) : Decidable (e.Enabled s) :=
  match e with
  | .report _ _ _ => inferInstanceAs (Decidable (_ ∧ _))
  | .timeoutPass _ _ => inferInstanceAs (Decidable (_ ∧ _))
  | .disconnect _ => inferInstanceAs (Decidable (_ ∧ _))
  | .reconnect _ _ _ => inferInstanceAs (Decidable (_ ∧ _))

def Forwarder.step (s : Forwarder) (e : ForwarderEvent) : Option Forwarder :=
  if e.Enabled s then
    some {
      tracks := (s.perform e).1
      connected := e.connectedAfter s.connected
      nowMs := e.atMs
      lastMessage := handed (s.perform e).2 s.lastMessage
      lastReportMs := e.reportsAfter s.lastReportMs }
  else none

/-- A tag whose zone is unknown while the server last heard telemetry has its update pending. -/
def Forwarder.NotLost (s : Forwarder) : Prop :=
  ∀ i, (s.tracks i).active = true → (s.tracks i).currentZoneId = bmtZoneUnknown →
    s.lastMessage (s.tracks i).tagId = some .telemetry → (s.tracks i).outOfRangePending = true

/-- An out-of-range message concerns a tag not reported in the last `BMT_TAG_OUT_OF_RANGE_MS`. -/
def Forwarder.NotStale (s : Forwarder) (e : ForwarderEvent) : Prop :=
  ∀ tagId, .outOfRange tagId ∈ (s.perform e).2 →
    ∀ r ∈ s.lastReportMs tagId, r + bmtTagOutOfRangeMs.toNat < e.atMs

structure Forwarder.Tracked (s : Forwarder) : Prop where
  unique : SlotTable.Distinct TagTrack.active TagTrack.tagId s.tracks
  reported : ∀ i, (s.tracks i).active = true →
    ∃ r, s.lastReportMs (s.tracks i).tagId = some r ∧
      (s.tracks i).lastAnyReportMs = UInt32.ofNat r ∧ r ≤ s.nowMs
  pending : ∀ i, (s.tracks i).active = true → (s.tracks i).outOfRangePending = true →
    ∀ r ∈ s.lastReportMs (s.tracks i).tagId, r + bmtTagOutOfRangeMs.toNat < s.nowMs
  notLost : s.NotLost

/-- The elapsed time the code computes modulo 2^32 is at most the real one. -/
theorem lt_of_elapsed {r now : ℕ} (hle : r ≤ now)
    (h : bmtTagOutOfRangeMs < UInt32.ofNat now - UInt32.ofNat r) :
    r + bmtTagOutOfRangeMs.toNat < now := by
  have hlt := UInt32.lt_iff_toNat_lt.mp h
  rw [UInt32.toNat_sub, UInt32.toNat_ofNat', UInt32.toNat_ofNat'] at hlt
  have hms : bmtTagOutOfRangeMs.toNat = 10000 := rfl
  omega

theorem handed_telemetry {msgs : List TagMessage} {last : UInt16 → Option MessageKind}
    {tagId : UInt16} (h : handed msgs last tagId = some .telemetry) :
    (∃ r, .telemetry r ∈ msgs ∧ r.tagId = tagId) ∨
      last tagId = some .telemetry ∧ .outOfRange tagId ∉ msgs := by
  induction msgs generalizing last with
  | nil => exact Or.inr ⟨h, by simp⟩
  | cons m msgs ih =>
    rcases ih h with hmem | ⟨hlast, hout⟩
    · rcases hmem with ⟨r, hr, htag⟩
      exact Or.inl ⟨r, List.mem_cons_of_mem _ hr, htag⟩
    · cases m with
      | connect t => exact Or.inr ⟨hlast, by simpa using hout⟩
      | role t => exact Or.inr ⟨hlast, by simpa using hout⟩
      | telemetry r =>
        by_cases htag : tagId = r.tagId
        · exact Or.inl ⟨r, by simp, htag.symm⟩
        · rw [noteMessage, Function.update_of_ne htag] at hlast
          exact Or.inr ⟨hlast, by simpa using hout⟩
      | outOfRange t =>
        -- a later out-of-range message of the tag would have replaced the telemetry
        by_cases htag : tagId = t
        · rw [noteMessage, htag, Function.update_self] at hlast
          cases hlast
        · rw [noteMessage, Function.update_of_ne htag] at hlast
          exact Or.inr ⟨hlast, by simpa [htag] using hout⟩

theorem active_reannounce (connected ok : Bool) (t : TagTrack) :
    (t.reannounce connected ok).active = t.active ∧
      (t.reannounce connected ok).tagId = t.tagId ∧
        (t.reannounce connected ok).lastAnyReportMs = t.lastAnyReportMs := by
  unfold TagTrack.reannounce
  split_ifs
  · exact ⟨rfl, rfl, rfl⟩
  · exact ⟨rfl, rfl, rfl⟩

structure TagTrack.JustReported (tagId : UInt16) (now : UInt32) (t : TagTrack) : Prop where
  active : t.active = true
  tag : t.tagId = tagId
  settled : t.outOfRangePending = false
  known : t.currentZoneId ≠ bmtZoneUnknown
  stamped : t.lastAnyReportMs = now

theorem justReported_noteReport {r : TagReport}
    (hid : 1 ≤ r.scannerId.toNat ∧ r.scannerId.toNat ≤ bmtMaxScanners) (now : UInt32)
    {t : TagTrack} (hact : t.active = true) (htag : t.tagId = r.tagId) :
    (t.noteReport r now).JustReported r.tagId now := by
  have hne : r.scannerId ≠ bmtZoneUnknown := by
    intro h
    have hle := hid.2
    rw [h] at hle
    exact absurd hle (by decide)
  unfold TagTrack.noteReport
  rw [dif_pos hid]
  dsimp only
  split_ifs with hz
  · exact ⟨hact, htag, rfl, hne, rfl⟩
  · exact ⟨hact, htag, rfl, hz, rfl⟩

/-- Where a report of a scanner leaves the tracks: the one of its tag is just reported, or the
table is full and the report is dropped. -/
theorem justReported_reportLocked {r : TagReport}
    (hid : 1 ≤ r.scannerId.toNat ∧ r.scannerId.toNat ≤ bmtMaxScanners) (now : UInt32)
    {tracks : TagTracks}
    (hunique : SlotTable.Distinct TagTrack.active TagTrack.tagId tracks) :
    (∃ i t wasNew, reportLocked r now tracks = (some wasNew, Function.update tracks i t) ∧
        t.JustReported r.tagId now ∧
        ∀ j, j ≠ i → (tracks j).active = true → (tracks j).tagId ≠ r.tagId) ∨
      reportLocked r now tracks = (none, tracks) ∧
        ∀ j, (tracks j).active = true → (tracks j).tagId ≠ r.tagId := by
  rcases reportLocked_cases r now tracks with hold | hnew | hfull
  · obtain ⟨i, hactive, htag, heq⟩ := hold
    refine Or.inl ⟨i, _, false, heq, justReported_noteReport hid now hactive htag, ?_⟩
    intro j hj hact hsame
    exact hj (hunique j i hact hactive (hsame.trans htag.symm))
  · -- a new tag takes a free slot
    obtain ⟨i, -, habsent, heq⟩ := hnew
    exact Or.inl ⟨i, _, true, heq, justReported_noteReport hid now rfl rfl, fun j _ => habsent j⟩
  · obtain ⟨-, habsent, heq⟩ := hfull
    exact Or.inr ⟨heq, habsent⟩

theorem mem_reportMessages {connected : Bool} {calls : ReportCalls} {wasNew : Bool}
    {r : TagReport} {m : TagMessage} (h : m ∈ reportMessages connected calls wasNew r) :
    m = .connect r.tagId ∨ m = .role r.tagId ∨ m = .telemetry r := by
  unfold reportMessages at h
  cases wasNew with
  | true =>
    simp only [if_true, List.mem_append, mem_publish_iff] at h
    rcases h with (⟨h, -⟩ | ⟨h, -⟩) | ⟨h, -⟩
    · exact Or.inl h
    · exact Or.inr (Or.inl h)
    · exact Or.inr (Or.inr h)
  | false =>
    simp at h
    exact Or.inr (Or.inr h.1)

theorem mem_bmtTbPubTagReport {connected : Bool} {calls : ReportCalls} {r : TagReport}
    {now : UInt32} {tracks : TagTracks} {m : TagMessage}
    (h : m ∈ (bmtTbPubTagReport connected calls r now tracks).2) :
    m = .connect r.tagId ∨ m = .role r.tagId ∨ m = .telemetry r := by
  unfold bmtTbPubTagReport at h
  dsimp only at h
  cases hwas : (reportLocked r now tracks).1 with
  | none =>
    rw [hwas] at h
    exact absurd h List.not_mem_nil
  | some wasNew =>
    rw [hwas] at h
    exact mem_reportMessages h

theorem telemetry_mem_report {connected : Bool} {calls : ReportCalls} {r r' : TagReport}
    {now : UInt32} {tracks : TagTracks}
    (h : .telemetry r' ∈ (bmtTbPubTagReport connected calls r now tracks).2) : r' = r := by
  rcases mem_bmtTbPubTagReport h with h' | h' | h'
  · cases h'
  · cases h'
  · cases h'
    rfl

theorem not_outOfRange_mem_report {connected : Bool} {calls : ReportCalls} {r : TagReport}
    {now : UInt32} {tracks : TagTracks} {tagId : UInt16} :
    .outOfRange tagId ∉ (bmtTbPubTagReport connected calls r now tracks).2 := by
  intro h
  rcases mem_bmtTbPubTagReport h with h' | h' | h'
  · cases h'
  · cases h'
  · cases h'

theorem active_of_timesOut {now : UInt32} {t : TagTrack} (h : t.timesOut now = true) :
    t.active = true := by
  simp only [TagTrack.timesOut, Bool.and_eq_true] at h
  exact h.1.1

theorem elapsed_of_timesOut {now : UInt32} {t : TagTrack} (h : t.timesOut now = true) :
    bmtTagOutOfRangeMs < now - t.lastAnyReportMs := by
  simp only [TagTrack.timesOut, Bool.and_eq_true, decide_eq_true_eq] at h
  exact h.1.2

theorem not_telemetry_mem_timeoutPass {connected : Bool} {ok : Fin bmtMaxTrackedTags → Bool}
    {now : UInt32} {tracks : TagTracks} {r : TagReport} :
    .telemetry r ∉ (zoneTimeoutPass connected ok now tracks).2 := by
  intro h
  simp only [zoneTimeoutPass, List.mem_flatMap, TagTrack.timeoutMessages] at h
  obtain ⟨i, -, hi⟩ := h
  split_ifs at hi
  · simp at hi
  · simp at hi

theorem not_telemetry_mem_reconnect {connected : Bool}
    {calls : Fin bmtMaxTrackedTags → ReportCalls} {ok : Fin bmtMaxTrackedTags → Bool}
    {tracks : TagTracks} {r : TagReport} :
    .telemetry r ∉ (bmtTbReconnectAllDevices connected calls ok tracks).2 := by
  intro h
  simp only [bmtTbReconnectAllDevices, List.mem_flatMap, TagTrack.reannounceMessages] at h
  obtain ⟨i, -, hi⟩ := h
  split_ifs at hi
  · simp at hi
  · simp at hi
  · simp at hi

theorem pending_of_reannounce {connected ok : Bool} {t : TagTrack}
    (h : (t.reannounce connected ok).outOfRangePending = true) : t.outOfRangePending = true := by
  unfold TagTrack.reannounce at h
  split_ifs at h
  exact h

theorem zone_reannounce (connected ok : Bool) (t : TagTrack) :
    (t.reannounce connected ok).currentZoneId = t.currentZoneId := by
  unfold TagTrack.reannounce
  split_ifs
  · rfl
  · rfl

theorem step_eq_some {s s' : Forwarder} {e : ForwarderEvent} (h : s.step e = some s') :
    e.Enabled s ∧ s'.tracks = (s.perform e).1 ∧ s'.nowMs = e.atMs ∧
      s'.lastMessage = handed (s.perform e).2 s.lastMessage ∧
        s'.lastReportMs = e.reportsAfter s.lastReportMs := by
  unfold Forwarder.step at h
  split_ifs at h with henabled
  cases h
  exact ⟨henabled, rfl, rfl, rfl, rfl⟩

/-- An event that reports no tag keeps the tracks accounted for, if what it leaves pending is out
of range and nothing is lost. -/
theorem Forwarder.Tracked.of_no_report {s s' : Forwarder} (h : s.Tracked)
    (hnow : s.nowMs ≤ s'.nowMs) (hreport : s'.lastReportMs = s.lastReportMs)
    (hsame : ∀ i, (s'.tracks i).active = (s.tracks i).active ∧
      (s'.tracks i).tagId = (s.tracks i).tagId ∧
        (s'.tracks i).lastAnyReportMs = (s.tracks i).lastAnyReportMs)
    (hpending : ∀ i, (s.tracks i).active = true → (s'.tracks i).outOfRangePending = true →
      (s.tracks i).outOfRangePending = true ∨
        bmtTagOutOfRangeMs < UInt32.ofNat s'.nowMs - (s.tracks i).lastAnyReportMs)
    (hlost : s'.NotLost) : s'.Tracked := by
  refine ⟨h.unique.congr (fun i => (hsame i).1) (fun i => (hsame i).2.1), ?_, ?_, hlost⟩
  · intro i hi
    rw [(hsame i).1] at hi
    obtain ⟨r, hr, hstamp, hle⟩ := h.reported i hi
    rw [hreport, (hsame i).2.1, (hsame i).2.2]
    exact ⟨r, hr, hstamp, hle.trans hnow⟩
  · intro i hi hp r hr
    rw [(hsame i).1] at hi
    rw [hreport, (hsame i).2.1] at hr
    rcases hpending i hi hp with hold | helapsed
    · exact (h.pending i hi hold r hr).trans_le hnow
    · obtain ⟨r', hr', hstamp, hle⟩ := h.reported i hi
      cases hr.symm.trans hr'
      rw [hstamp] at helapsed
      exact lt_of_elapsed (hle.trans hnow) helapsed

/-- A report keeps the tracks accounted for: every slot is just reported or belongs to another tag
and is left alone. -/
theorem Forwarder.Tracked.of_report {s s' : Forwarder} (h : s.Tracked) {tagId : UInt16}
    (hnow : s.nowMs ≤ s'.nowMs) (hstamp : s'.lastReportMs tagId = some s'.nowMs)
    (hother : ∀ t, t ≠ tagId → s'.lastReportMs t = s.lastReportMs t ∧
      (s'.lastMessage t = some .telemetry → s.lastMessage t = some .telemetry))
    (hunique : SlotTable.Distinct TagTrack.active TagTrack.tagId s'.tracks)
    (hslots : ∀ j, (s'.tracks j).JustReported tagId (UInt32.ofNat s'.nowMs) ∨
      s'.tracks j = s.tracks j ∧ ((s.tracks j).active = true → (s.tracks j).tagId ≠ tagId)) :
    s'.Tracked := by
  refine ⟨hunique, ?_, ?_, ?_⟩
  · intro j hact
    rcases hslots j with hrep | hsame
    · refine ⟨s'.nowMs, ?_, hrep.stamped, le_rfl⟩
      rw [hrep.tag]
      exact hstamp
    · rw [hsame.1] at hact ⊢
      obtain ⟨r, hr, hlast, hbefore⟩ := h.reported j hact
      have hkept := (hother _ (hsame.2 hact)).1
      exact ⟨r, hkept.trans hr, hlast, hbefore.trans hnow⟩
  · intro j hact hp r hr
    rcases hslots j with hrep | hsame
    · -- the fresh report has cleared what was pending
      rw [hrep.settled] at hp
      cases hp
    · rw [hsame.1] at hact hp hr
      rw [(hother _ (hsame.2 hact)).1] at hr
      exact (h.pending j hact hp r hr).trans_le hnow
  · intro j hact hz htel
    rcases hslots j with hrep | hsame
    · exact absurd hz hrep.known
    · rw [hsame.1] at hact hz htel ⊢
      exact h.notLost j hact hz ((hother _ (hsame.2 hact)).2 htel)

theorem tracked_report {s s' : Forwarder} (h : s.Tracked) {atMs : ℕ} {calls : ReportCalls}
    {r : TagReport} (hs : s.step (.report atMs calls r) = some s') : s'.Tracked := by
  obtain ⟨⟨hle, hid'⟩, htracks, hnow, hlast, hreport⟩ := step_eq_some hs
  have hid : 1 ≤ r.scannerId.toNat ∧ r.scannerId.toNat ≤ bmtMaxScanners := hid'
  have hat : s'.nowMs = atMs := hnow
  have hstamp : s'.lastReportMs r.tagId = some s'.nowMs := by
    rw [hreport, hat]
    exact Function.update_self _ _ _
  have hother : ∀ t, t ≠ r.tagId → s'.lastReportMs t = s.lastReportMs t ∧
      (s'.lastMessage t = some .telemetry → s.lastMessage t = some .telemetry) := by
    intro t hne
    refine ⟨?_, ?_⟩
    · rw [hreport]
      exact Function.update_of_ne hne _ _
    · intro htel
      rw [hlast] at htel
      rcases handed_telemetry htel with hmem | hold
      · rcases hmem with ⟨r', hr', htag⟩
        rw [telemetry_mem_report hr'] at htag
        exact absurd htag.symm hne
      · exact hold.1
  have htable : s'.tracks = (reportLocked r (UInt32.ofNat s'.nowMs) s.tracks).2 := by
    rw [htracks, hat]
    exact fst_bmtTbPubTagReport
  rcases justReported_reportLocked hid (UInt32.ofNat s'.nowMs) h.unique with hfound | hfull
  · rcases hfound with ⟨i, t, wasNew, hlocked, hrep, hne⟩
    have hupdate : s'.tracks = Function.update s.tracks i t := by rw [htable, hlocked]
    apply h.of_report (hat ▸ hle) hstamp hother
    · rw [hupdate]
      apply h.unique.update
      intro _ j hji hact
      rw [hrep.tag]
      exact hne j hji hact
    · intro j
      rw [hupdate]
      by_cases hji : j = i
      · left
        rw [hji, Function.update_self]
        exact hrep
      · right
        rw [Function.update_of_ne hji]
        exact ⟨rfl, hne j hji⟩
  · -- the table is full: nothing is tracked of this tag, and nothing changes
    rcases hfull with ⟨hlocked, hne⟩
    have hkept : s'.tracks = s.tracks := by rw [htable, hlocked]
    apply h.of_report (hat ▸ hle) hstamp hother
    · rw [hkept]
      exact h.unique
    · intro j
      rw [hkept]
      exact Or.inr ⟨rfl, hne j⟩

/-- A timeout pass leaves an update pending unless the client took the message. -/
theorem tracked_timeoutPass {s s' : Forwarder} (h : s.Tracked) {atMs : ℕ}
    {ok : Fin bmtMaxTrackedTags → Bool} (hs : s.step (.timeoutPass atMs ok) = some s') :
    s'.Tracked := by
  obtain ⟨⟨hle, -⟩, htracks, hnow, hlast, hreport⟩ := step_eq_some hs
  have htrack : ∀ i, s'.tracks i =
      (s.tracks i).timeout s.connected (ok i) (UInt32.ofNat s'.nowMs) := by
    intro i
    rw [htracks, hnow]
    rfl
  apply h.of_no_report (hnow ▸ hle) hreport
  · intro i
    rw [htrack i]
    exact active_timeout _ _ _ _
  · intro i hact hp
    rw [htrack i] at hp
    by_cases ht : (s.tracks i).timesOut (UInt32.ofNat s'.nowMs) = true
    · exact Or.inr (elapsed_of_timesOut ht)
    · rw [TagTrack.timeout, if_neg ht] at hp
      exact Or.inl hp
  · intro i hact hz htel
    rw [htrack i] at hact hz htel ⊢
    rw [(active_timeout _ _ _ _).1] at hact
    rw [(active_timeout _ _ _ _).2.1, hlast] at htel
    rcases handed_telemetry htel with hmem | hold
    · rcases hmem with ⟨r, hr, -⟩
      exact absurd hr not_telemetry_mem_timeoutPass
    · rcases hold with ⟨htel', hout⟩
      by_cases ht : (s.tracks i).timesOut (UInt32.ofNat s'.nowMs) = true
      · -- a taken message would have replaced the telemetry as the last one
        have hnot : ¬(s.connected = true ∧ ok i = true) := by
          intro hpub
          apply hout
          rw [hnow] at ht
          exact outOfRange_mem_timeoutPass_iff.mpr ⟨i, ht, rfl, hpub⟩
        rw [← Bool.and_eq_true, Bool.not_eq_true] at hnot
        rw [TagTrack.timeout, if_pos ht]
        simp only [hnot, Bool.not_false]
      · rw [TagTrack.timeout, if_neg ht] at hz ⊢
        exact h.notLost i hact hz htel'

theorem tracked_disconnect {s s' : Forwarder} (h : s.Tracked) {atMs : ℕ}
    (hs : s.step (.disconnect atMs) = some s') : s'.Tracked := by
  obtain ⟨⟨hle, -⟩, htracks, hnow, hlast, hreport⟩ := step_eq_some hs
  have htable : s'.tracks = s.tracks := htracks
  have hmessage : s'.lastMessage = s.lastMessage := hlast
  apply h.of_no_report (hnow ▸ hle) hreport
  · intro i
    rw [htable]
    exact ⟨rfl, rfl, rfl⟩
  · intro i hact hp
    rw [htable] at hp
    exact Or.inl hp
  · intro i hact hz htel
    rw [htable] at hact hz htel ⊢
    rw [hmessage] at htel
    exact h.notLost i hact hz htel

/-- A reconnect clears a pending update only with the message that carries it. -/
theorem tracked_reconnect {s s' : Forwarder} (h : s.Tracked) {atMs : ℕ}
    {calls : Fin bmtMaxTrackedTags → ReportCalls} {ok : Fin bmtMaxTrackedTags → Bool}
    (hs : s.step (.reconnect atMs calls ok) = some s') : s'.Tracked := by
  obtain ⟨⟨hle, -⟩, htracks, hnow, hlast, hreport⟩ := step_eq_some hs
  have htrack : ∀ i, s'.tracks i = (s.tracks i).reannounce true (ok i) := by
    intro i
    rw [htracks]
    rfl
  apply h.of_no_report (hnow ▸ hle) hreport
  · intro i
    rw [htrack i]
    exact active_reannounce _ _ _
  · intro i hact hp
    rw [htrack i] at hp
    exact Or.inl (pending_of_reannounce hp)
  · intro i hact hz htel
    rw [htrack i] at hact hz htel ⊢
    rw [(active_reannounce _ _ _).1] at hact
    rw [(active_reannounce _ _ _).2.1, hlast] at htel
    rw [zone_reannounce] at hz
    rcases handed_telemetry htel with hmem | hold
    · rcases hmem with ⟨r, hr, -⟩
      exact absurd hr not_telemetry_mem_reconnect
    · rcases hold with ⟨htel', hout⟩
      -- it was pending, and still is, since its message was not taken
      have hp := h.notLost i hact hz htel'
      have hnot : ¬ok i = true := by
        intro hok
        exact hout (outOfRange_mem_reconnect_iff.mpr ⟨i, hact, hp, rfl, rfl, hok⟩)
      rw [TagTrack.reannounce, if_neg (by simpa [hact, hp] using hnot)]
      exact hp

theorem tracked_step (s : Forwarder) (e : ForwarderEvent) (s' : Forwarder) (h : s.Tracked)
    (hs : s.step e = some s') : s'.Tracked := by
  cases e with
  | report atMs calls r => exact tracked_report h hs
  | timeoutPass atMs ok => exact tracked_timeoutPass h hs
  | disconnect atMs => exact tracked_disconnect h hs
  | reconnect atMs calls ok => exact tracked_reconnect h hs

theorem tracked_start : Forwarder.Tracked {} := by
  refine ⟨?_, ?_, ?_, ?_⟩
  · intro i j hi
    cases hi
  · intro i hi
    cases hi
  · intro i hi
    cases hi
  · intro i hi
    cases hi

/-- The message of a track that times out, or that is pending, is due. -/
theorem notStale_step (s : Forwarder) (e : ForwarderEvent) (s' : Forwarder) (h : s.Tracked)
    (hs : s.step e = some s') : s.NotStale e := by
  obtain ⟨⟨hle, -⟩, -⟩ := step_eq_some hs
  intro tagId hmem r hr
  cases e with
  | report atMs calls r' => exact absurd hmem not_outOfRange_mem_report
  | timeoutPass atMs ok =>
    obtain ⟨i, ht, htag, -⟩ := outOfRange_mem_timeoutPass_iff.mp hmem
    obtain ⟨r', hr', hstamp, hbefore⟩ := h.reported i (active_of_timesOut ht)
    have helapsed := elapsed_of_timesOut ht
    rw [htag, hr] at hr'
    cases hr'
    rw [hstamp] at helapsed
    exact lt_of_elapsed (hbefore.trans hle) helapsed
  | disconnect atMs => exact absurd hmem List.not_mem_nil
  | reconnect atMs calls ok =>
    obtain ⟨i, hact, hp, htag, -⟩ := outOfRange_mem_reconnect_iff.mp hmem
    exact (h.pending i hact hp r (htag ▸ hr)).trans_le hle

/-- In every run, whatever is published, fails or disconnects: no transition to out of range is
lost, and none is reported of a tag that was heard in the last `BMT_TAG_OUT_OF_RANGE_MS`. -/
theorem out_of_range_never_lost_nor_stale (es : List ForwarderEvent) :
    Run.Throughout Forwarder.step Forwarder.NotLost {} es ∧
      Run.Meets Forwarder.step Forwarder.NotStale {} es := by
  have htracked := Run.throughout_of_forall tracked_step es tracked_start
  refine ⟨?_, ?_⟩
  · exact htracked.mono fun s h => h.notLost
  · exact Run.meets_of_invariant tracked_step notStale_step es tracked_start

end BleMeshTracking.Gateway
