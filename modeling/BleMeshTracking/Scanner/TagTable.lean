import BleMeshTracking.Gateway.ThingsBoard

/-!
# The scanner: the tag table

`bmt_tag_table.c`, with its Kalman filters, and the reports that `bmt_mesh_publish_tags` makes of
it.  An entry holds a tag's slots of `s_tags` and of `s_kalman`.
-/

namespace BleMeshTracking.Scanner

open Gateway (TagReport)

def bmtMaxTags : ℕ := 20

def bmtTagTimeoutMs : UInt32 := 5000

def bmtPathLossN : Float32 := 2.5

def bmtLogRssiThresholdDbm : Int8 := 3

def bmtLogMinIntervalMs : UInt32 := 2000

def bmtMaxSeqJump : Int8 := 30

def bmtKalmanRAlpha : Float32 := 0.1

def bmtKalmanRMin : Float32 := 1.0

def bmtKalmanRMax : Float32 := 20.0

structure Kalman where
  q : Float32 := 0
  r : Float32 := 0
  x : Float32 := 0
  p : Float32 := 0
  k : Float32 := 0
  rVar : Float32 := 0

def kalmanInit (initialRssi : Float32) : Kalman :=
  { q := 0.1, r := 2.0, x := initialRssi, p := 1.0, k := 0.0, rVar := 2.0 }

def kalmanUpdate (kf : Kalman) (rssi : Float32) : Kalman :=
  let innovation := rssi - kf.x
  let rVar := (1.0 - bmtKalmanRAlpha) * kf.rVar + bmtKalmanRAlpha * (innovation * innovation)
  let r :=
    if rVar < bmtKalmanRMin then bmtKalmanRMin
    else if rVar > bmtKalmanRMax then bmtKalmanRMax
    else rVar
  let p := kf.p + kf.q
  let k := p / (p + r)
  { kf with r, rVar, k, x := kf.x + k * innovation, p := (1.0 - k) * p }

def calculateDistance (txPower : Int8) (rssiFiltered : Float32) : Float32 :=
  if rssiFiltered ≥ 0 then 0.0
  else Float32.pow 10.0 ((txPower.toFloat32 - rssiFiltered) / (10.0 * bmtPathLossN))

/-- `bmt_scan_tag_info_t` and the filter beside it. -/
structure TagEntry where
  active : Bool := false
  battery : UInt8 := 0
  tagId : UInt16 := 0
  txPower : Int8 := 0
  rssiRaw : Int8 := 0
  rssiFiltered : Float32 := 0
  distance : Float32 := 0
  lastSequence : UInt8 := 0
  totalReceived : UInt32 := 0
  totalMissed : UInt32 := 0
  lastSeenMs : UInt32 := 0
  mac : Fin 6 → UInt8 := fun _ => 0
  lastLoggedRssi : Int8 := 0
  lastLogMs : UInt32 := 0
  lockedEpoch : ℤ := 0
  kalman : Kalman := {}

/-- `s_tags` and `s_kalman`. -/
abbrev TagTable := Fin bmtMaxTags → TagEntry

def TagEntry.isOf (tagId : UInt16) (t : TagEntry) : Bool := t.active && t.tagId == tagId

def TagEntry.isFree (t : TagEntry) : Bool := !t.active

def TagEntry.fresh (tagId : UInt16) (battery : UInt8) (txPower rssi : Int8) (sequence : UInt8)
    (mac : Fin 6 → UInt8) (now : UInt32) : TagEntry where
  active := true
  battery := battery
  tagId := tagId
  txPower := txPower
  rssiRaw := rssi
  rssiFiltered := rssi.toFloat32
  distance := calculateDistance txPower rssi.toFloat32
  lastSequence := sequence
  totalReceived := 1
  lastSeenMs := now
  mac := mac
  lastLoggedRssi := rssi
  lastLogMs := now
  lockedEpoch := -1
  kalman := kalmanInit rssi.toFloat32

def TagEntry.measure (t : TagEntry) (kalman : Kalman) (rssi : Int8) (now : UInt32) : TagEntry :=
  { t with
    kalman
    rssiRaw := rssi
    rssiFiltered := kalman.x
    distance := calculateDistance t.txPower kalman.x
    totalReceived := t.totalReceived + 1
    lastSeenMs := now }

/-- The packets missed before `sequence`, when its distance from the last one is `diff`. -/
def TagEntry.missed (t : TagEntry) (sequence : UInt8) (diff : Int8) : UInt8 :=
  if sequence ≠ t.lastSequence + 1 ∧ diff > 1 then
    let missed := (diff - 1).toUInt8
    if missed > 0 ∧ missed < 200 then missed else 0
  else
    0

/-- The RSSI and the time of the last line logged about the tag. -/
def TagEntry.log (t : TagEntry) (rssi : Int8) (now : UInt32) : TagEntry :=
  let rd := Int8.ofInt |rssi.toInt - t.lastLoggedRssi.toInt|
  let td := now - t.lastLogMs
  if rd ≥ bmtLogRssiThresholdDbm ∨ td ≥ bmtLogMinIntervalMs then
    { t with lastLoggedRssi := rssi, lastLogMs := now }
  else
    t

/-- `bmt_tag_table_update` on the entry at its index. -/
def TagEntry.update (rssi : Int8) (sequence battery : UInt8) (now : UInt32) (t : TagEntry) :
    TagEntry :=
  let t := { t with battery }
  if sequence = t.lastSequence then
    t.measure (kalmanUpdate t.kalman rssi.toFloat32) rssi now
  else
    let diff := (sequence - t.lastSequence).toInt8
    if diff < 0 ∧ diff > -10 then
      t
    else if diff < -10 ∨ diff > bmtMaxSeqJump then
      { t.measure (kalmanInit rssi.toFloat32) rssi now with lastSequence := sequence }
    else
      let t := { t with totalMissed := t.totalMissed + (t.missed sequence diff).toUInt32 }
      let t := t.measure (kalmanUpdate t.kalman rssi.toFloat32) rssi now
      { t with lastSequence := sequence }.log rssi now

/-- `bmt_tag_table_check_timeouts` on one entry. -/
def TagEntry.checkTimeout (now : UInt32) (t : TagEntry) : TagEntry :=
  if t.active ∧ now - t.lastSeenMs > bmtTagTimeoutMs then
    { t with active := false, kalman := {} }
  else
    t

def bmtTagTableFind (tagId : UInt16) (tags : TagTable) : Option (Fin bmtMaxTags) :=
  SlotTable.find (TagEntry.isOf tagId) tags

/-- `bmt_tag_table_add`; `none` is a full table. -/
def bmtTagTableAdd (t : TagEntry) (tags : TagTable) : Option (Fin bmtMaxTags) × TagTable :=
  match SlotTable.find TagEntry.isFree tags with
  | some i => (some i, Function.update tags i t)
  | none => (none, tags)

def bmtTagTableUpdate (i : Fin bmtMaxTags) (rssi : Int8) (sequence battery : UInt8)
    (now : UInt32) (tags : TagTable) : TagTable :=
  Function.update tags i ((tags i).update rssi sequence battery now)

def bmtTagTableSetEpoch (i : Fin bmtMaxTags) (epoch : ℤ) (tags : TagTable) : TagTable :=
  if (tags i).active then Function.update tags i { tags i with lockedEpoch := epoch } else tags

def bmtTagTableCheckTimeouts (now : UInt32) (tags : TagTable) : TagTable :=
  fun i => (tags i).checkTimeout now

def bmtTagTableAt (i : Fin bmtMaxTags) (tags : TagTable) : Option TagEntry :=
  if (tags i).active then some (tags i) else none

/-- The report of `bmt_mesh_publish_tags` about one entry. -/
def TagEntry.report (scannerId : UInt8) (t : TagEntry) : TagReport :=
  let total := t.totalReceived + t.totalMissed
  let distDm := (t.distance * 10.0).toInt16
  { scannerId
    battery := t.battery
    tagId := t.tagId
    rssi := t.rssiFiltered.toInt8
    distanceDm := if distDm < 0 then 0 else distDm
    lossPct := if total > 0 then (t.totalMissed * 100 / total).toUInt8 else 0 }

/-- `bmt_mesh_publish_tags`: the `TAG_STATUS` reports, in the order of the slots. -/
def bmtMeshPublishTags (isProvisioned : Bool) (appIdx : UInt16) (scannerId : UInt8)
    (tags : TagTable) : List TagReport :=
  if !isProvisioned || appIdx == 0xFFFF then []
  else (List.finRange bmtMaxTags).filterMap fun i =>
    (bmtTagTableAt i tags).map (TagEntry.report scannerId)

end BleMeshTracking.Scanner
