import BleMeshTracking.Library.SlotTable
import Mathlib.Data.UInt

/-!
# The gateway: tracked tags and what is published about them

`bmt_zone.c` and the tag part of `bmt_thingsboard.c`.  Every call of the MQTT client may succeed
or fail; a function returns the tracks it leaves and the messages the client took.
-/

namespace BleMeshTracking.Gateway

def bmtMaxScanners : ℕ := 8

def bmtMaxTrackedTags : ℕ := 16

def bmtTagOutOfRangeMs : UInt32 := 10000

def bmtZoneUnknown : UInt8 := 0xFF

structure TagTrack where
  active : Bool := false
  tagId : UInt16 := 0
  battery : UInt8 := 0
  rssiByScanner : Fin bmtMaxScanners → Int8 := fun _ => 0
  tsByScanner : Fin bmtMaxScanners → UInt32 := fun _ => 0
  validByScanner : Fin bmtMaxScanners → Bool := fun _ => false
  currentZoneId : UInt8 := 0
  outOfRangePending : Bool := false
  lastZoneChangeMs : UInt32 := 0
  lastAnyReportMs : UInt32 := 0

abbrev TagTracks := Fin bmtMaxTrackedTags → TagTrack

def TagTrack.isOf (tagId : UInt16) (t : TagTrack) : Bool := t.active && t.tagId == tagId

def bmtZoneTrackFind (tagId : UInt16) (tracks : TagTracks) : Option (Fin bmtMaxTrackedTags) :=
  SlotTable.find (TagTrack.isOf tagId) tracks

def TagTrack.fresh (tagId : UInt16) (battery : UInt8) : TagTrack :=
  { active := true, tagId := tagId, battery := battery, currentZoneId := bmtZoneUnknown }

/-- `bmt_zone_track_get_or_add`: the slot of the tag, with its battery refreshed. -/
def bmtZoneTrackGetOrAdd (tagId : UInt16) (battery : UInt8) (tracks : TagTracks) :
    Option (Fin bmtMaxTrackedTags) × TagTracks :=
  match bmtZoneTrackFind tagId tracks with
  | some i => (some i, Function.update tracks i { tracks i with battery := battery })
  | none =>
    match SlotTable.find (fun t => !t.active) tracks with
    | some i => (some i, Function.update tracks i (TagTrack.fresh tagId battery))
    | none => (none, tracks)

structure TagReport where
  scannerId : UInt8
  battery : UInt8
  tagId : UInt16
  rssi : Int8
  distanceDm : Int16
  lossPct : UInt8

/-- A message about a tag, as handed to the MQTT client. -/
inductive TagMessage
  | connect (tagId : UInt16)
  | role (tagId : UInt16)
  | telemetry (report : TagReport)
  | outOfRange (tagId : UInt16)

/-- `esp_mqtt_client_publish`, reached only while connected; `ok` says whether the client takes
the message. -/
def publish (connected ok : Bool) (m : TagMessage) : List TagMessage :=
  if connected && ok then [m] else []

/-- The part of `bmt_tb_pub_tag_report` on one track: the report is stamped, the zone is known
again, nothing is pending any more. -/
def TagTrack.noteReport (r : TagReport) (now : UInt32) (t : TagTrack) : TagTrack :=
  let t := { t with outOfRangePending := false }
  if h : 1 ≤ r.scannerId.toNat ∧ r.scannerId.toNat ≤ bmtMaxScanners then
    let sidx : Fin bmtMaxScanners := ⟨r.scannerId.toNat - 1, by omega⟩
    let t := { t with
      rssiByScanner := Function.update t.rssiByScanner sidx r.rssi
      tsByScanner := Function.update t.tsByScanner sidx now
      validByScanner := Function.update t.validByScanner sidx true
      lastAnyReportMs := now }
    if t.currentZoneId = bmtZoneUnknown then
      { t with currentZoneId := r.scannerId, lastZoneChangeMs := now }
    else t
  else t

/-- The locked section of `bmt_tb_pub_tag_report`: whether the tag was new, `none` when the table
is full, and the tracks. -/
def reportLocked (r : TagReport) (now : UInt32) (tracks : TagTracks) : Option Bool × TagTracks :=
  let wasNew := (bmtZoneTrackFind r.tagId tracks).isNone
  let slot := bmtZoneTrackGetOrAdd r.tagId r.battery tracks
  match slot.1 with
  | none => (none, slot.2)
  | some i => (some wasNew, Function.update slot.2 i ((slot.2 i).noteReport r now))

structure ReportCalls where
  connect : Bool := true
  role : Bool := true
  telemetry : Bool := true

def reportMessages (connected : Bool) (calls : ReportCalls) (wasNew : Bool) (r : TagReport) :
    List TagMessage :=
  (if wasNew then
    publish connected calls.connect (.connect r.tagId) ++
      publish connected calls.role (.role r.tagId)
  else []) ++ publish connected calls.telemetry (.telemetry r)

def bmtTbPubTagReport (connected : Bool) (calls : ReportCalls) (r : TagReport) (now : UInt32)
    (tracks : TagTracks) : TagTracks × List TagMessage :=
  let res := reportLocked r now tracks
  match res.1 with
  | none => (res.2, [])
  | some wasNew => (res.2, reportMessages connected calls wasNew r)

def TagTrack.timesOut (now : UInt32) (t : TagTrack) : Bool :=
  t.active && decide (bmtTagOutOfRangeMs < now - t.lastAnyReportMs) &&
    t.currentZoneId != bmtZoneUnknown

def TagTrack.timeout (connected ok : Bool) (now : UInt32) (t : TagTrack) : TagTrack :=
  if t.timesOut now then
    { t with
      currentZoneId := bmtZoneUnknown
      outOfRangePending := !(connected && ok)
      lastZoneChangeMs := now
      validByScanner := fun _ => false }
  else t

def TagTrack.timeoutMessages (connected ok : Bool) (now : UInt32) (t : TagTrack) :
    List TagMessage :=
  if t.timesOut now then publish connected ok (.outOfRange t.tagId) else []

/-- One pass of `zone_timeout_task`; `ok i` is the outcome of publishing for slot `i`. -/
def zoneTimeoutPass (connected : Bool) (ok : Fin bmtMaxTrackedTags → Bool) (now : UInt32)
    (tracks : TagTracks) : TagTracks × List TagMessage :=
  (fun i => (tracks i).timeout connected (ok i) now,
    (List.finRange bmtMaxTrackedTags).flatMap fun i =>
      (tracks i).timeoutMessages connected (ok i) now)

/-- The tag part of the loop body of `bmt_tb_reconnect_all_devices`. -/
def TagTrack.reannounce (connected ok : Bool) (t : TagTrack) : TagTrack :=
  if t.active && t.outOfRangePending && (connected && ok) then
    { t with outOfRangePending := false }
  else t

def TagTrack.reannounceMessages (connected : Bool) (calls : ReportCalls) (ok : Bool)
    (t : TagTrack) : List TagMessage :=
  if t.active then
    publish connected calls.connect (.connect t.tagId) ++
      publish connected calls.role (.role t.tagId) ++
      (if t.outOfRangePending then publish connected ok (.outOfRange t.tagId) else [])
  else []

/-- The tags of `bmt_tb_reconnect_all_devices`. -/
def bmtTbReconnectAllDevices (connected : Bool) (calls : Fin bmtMaxTrackedTags → ReportCalls)
    (ok : Fin bmtMaxTrackedTags → Bool) (tracks : TagTracks) : TagTracks × List TagMessage :=
  (fun i => (tracks i).reannounce connected (ok i),
    (List.finRange bmtMaxTrackedTags).flatMap fun i =>
      (tracks i).reannounceMessages connected (calls i) (ok i))

@[simp]
theorem mem_publish_iff {connected ok : Bool} {m m' : TagMessage} :
    m ∈ publish connected ok m' ↔ m = m' ∧ connected = true ∧ ok = true := by
  unfold publish
  by_cases h : (connected && ok) = true
  · rw [if_pos h]
    simpa using fun _ => Bool.and_eq_true_iff.mp h
  · rw [if_neg h]
    simp only [Bool.and_eq_true] at h
    simp [h]

theorem isOf_iff {tagId : UInt16} {t : TagTrack} :
    t.isOf tagId = true ↔ t.active = true ∧ t.tagId = tagId := by
  simp [TagTrack.isOf]

theorem noteReport_tag (r : TagReport) (now : UInt32) (t : TagTrack) :
    (t.noteReport r now).active = t.active ∧ (t.noteReport r now).tagId = t.tagId := by
  unfold TagTrack.noteReport
  dsimp only
  split_ifs
  · exact ⟨rfl, rfl⟩
  · exact ⟨rfl, rfl⟩
  · exact ⟨rfl, rfl⟩

theorem active_timeout (connected ok : Bool) (now : UInt32) (t : TagTrack) :
    (t.timeout connected ok now).active = t.active ∧
      (t.timeout connected ok now).tagId = t.tagId ∧
        (t.timeout connected ok now).lastAnyReportMs = t.lastAnyReportMs := by
  unfold TagTrack.timeout
  split_ifs
  · exact ⟨rfl, rfl, rfl⟩
  · exact ⟨rfl, rfl, rfl⟩

/-- The locked section notes the report in the track of the tag, or in a free one if the tag has
none, or drops it because no track is free. -/
theorem reportLocked_cases (r : TagReport) (now : UInt32) (tracks : TagTracks) :
    (∃ i, (tracks i).active = true ∧ (tracks i).tagId = r.tagId ∧
        reportLocked r now tracks = (some false, Function.update tracks i
          (TagTrack.noteReport r now { tracks i with battery := r.battery }))) ∨
      (∃ i, (tracks i).active = false ∧
        (∀ j, (tracks j).active = true → (tracks j).tagId ≠ r.tagId) ∧
        reportLocked r now tracks = (some true, Function.update tracks i
          ((TagTrack.fresh r.tagId r.battery).noteReport r now))) ∨
      (∀ j, (tracks j).active = true) ∧
        (∀ j, (tracks j).active = true → (tracks j).tagId ≠ r.tagId) ∧
        reportLocked r now tracks = (none, tracks) := by
  unfold reportLocked bmtZoneTrackGetOrAdd bmtZoneTrackFind
  cases hfind : SlotTable.find (TagTrack.isOf r.tagId) tracks with
  | some i =>
    obtain ⟨hactive, htag⟩ := isOf_iff.mp (SlotTable.find_sat hfind)
    refine Or.inl ⟨i, hactive, htag, ?_⟩
    dsimp only
    rw [Function.update_idem, Function.update_self]
    rfl
  | none =>
    have habsent : ∀ j, (tracks j).active = true → (tracks j).tagId ≠ r.tagId :=
      fun _ => SlotTable.key_ne_of_find (fun _ => isOf_iff) hfind
    cases hfree : SlotTable.find (fun t : TagTrack => !t.active) tracks with
    | some i =>
      refine Or.inr (Or.inl ⟨i, by simpa using SlotTable.find_sat hfree, habsent, ?_⟩)
      dsimp only
      rw [Function.update_idem, Function.update_self]
      rfl
    | none =>
      refine Or.inr (Or.inr ⟨?_, habsent, rfl⟩)
      intro j
      simpa using SlotTable.find_eq_none_iff.mp hfree j

theorem fst_bmtTbPubTagReport {connected : Bool} {calls : ReportCalls} {r : TagReport}
    {now : UInt32} {tracks : TagTracks} :
    (bmtTbPubTagReport connected calls r now tracks).1 = (reportLocked r now tracks).2 := by
  unfold bmtTbPubTagReport
  dsimp only
  cases (reportLocked r now tracks).1 with
  | none => rfl
  | some wasNew => rfl

/-- A pass sends an out-of-range message exactly for the tracks that time out while the client
takes it. -/
theorem outOfRange_mem_timeoutPass_iff {connected : Bool} {ok : Fin bmtMaxTrackedTags → Bool}
    {now : UInt32} {tracks : TagTracks} {tagId : UInt16} :
    .outOfRange tagId ∈ (zoneTimeoutPass connected ok now tracks).2 ↔
      ∃ i, (tracks i).timesOut now = true ∧ (tracks i).tagId = tagId ∧
        connected = true ∧ ok i = true := by
  simp only [zoneTimeoutPass, List.mem_flatMap, List.mem_finRange, true_and,
    TagTrack.timeoutMessages]
  apply exists_congr
  intro i
  have hcomm : tagId = (tracks i).tagId ↔ (tracks i).tagId = tagId := eq_comm
  by_cases h : (tracks i).timesOut now = true
  · simp [h, hcomm]
  · simp [h]

theorem outOfRange_mem_reconnect_iff {connected : Bool}
    {calls : Fin bmtMaxTrackedTags → ReportCalls} {ok : Fin bmtMaxTrackedTags → Bool}
    {tracks : TagTracks} {tagId : UInt16} :
    .outOfRange tagId ∈ (bmtTbReconnectAllDevices connected calls ok tracks).2 ↔
      ∃ i, (tracks i).active = true ∧ (tracks i).outOfRangePending = true ∧
        (tracks i).tagId = tagId ∧ connected = true ∧ ok i = true := by
  simp only [bmtTbReconnectAllDevices, List.mem_flatMap, List.mem_finRange, true_and,
    TagTrack.reannounceMessages]
  apply exists_congr
  intro i
  have hcomm : tagId = (tracks i).tagId ↔ (tracks i).tagId = tagId := eq_comm
  by_cases h : (tracks i).active = true
  · by_cases hp : (tracks i).outOfRangePending = true
    · simp [h, hp, hcomm]
    · simp [h, hp]
  · simp [h]

end BleMeshTracking.Gateway
