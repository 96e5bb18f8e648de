import BleMeshTracking.Library.Strongest
import Mathlib.Logic.Function.Basic

/-!
# The rule chain `ble_tag_zone_detection`

Every message of a tag device runs through Parse and map zone, Fetch tag state, Apply hysteresis,
Build attrs payload and Save tag state.  The nodes are linked by `Success`, and a script node
passes its output on along that link whatever `msgType` it returns, so a message marked `IGNORED`
or `INVALID` reaches Apply hysteresis like any other.
-/

namespace BleMeshTracking.RuleChain

inductive Zone
  | outOfRange | room1 | room2 | room3
  deriving DecidableEq, Repr

def Zone.IsRoom (z : Zone) : Prop := z ≠ .outOfRange

instance (z : Zone) : Decidable z.IsRoom := inferInstanceAs (Decidable (z ≠ .outOfRange))

/-- The entries of `SCANNERS`: `765ca3077000`, `125ba3077000`, `22458bdf948c`. -/
inductive Scanner
  | scan01 | scan02 | scan03
  deriving DecidableEq, Repr

/-- A `scanner_id`: one of `SCANNERS`, or a string that is no key of `ZONE_MAP`. -/
inductive ScannerId
  | known (s : Scanner)
  | foreign (id : String)
  deriving DecidableEq, Repr

def scanners : List Scanner := [.scan01, .scan02, .scan03]

def zoneMap : ScannerId → Option Zone
  | .known .scan01 => some .room1
  | .known .scan02 => some .room2
  | .known .scan03 => some .room3
  | .foreign _ => none

def zoneNumMap : Zone → ℕ
  | .outOfRange => 0
  | .room1 => 1
  | .room2 => 2
  | .room3 => 3

def roomLabelMap : Zone → String
  | .outOfRange => "Out of Range"
  | .room1 => "Room 1 (Bedroom 1)"
  | .room2 => "Room 2 (Bedroom 2)"
  | .room3 => "Room 3 (WC)"

inductive MsgType
  | postTelemetryRequest | postAttributesRequest | ignored | invalid
  deriving DecidableEq, Repr

/-- What the gateway sends for a tag: a report, or the attributes `role` and `current_zone`. -/
inductive Incoming
  | telemetry (scannerId : Option ScannerId) (rssi : Option Int8) (battery : Option ℕ)
  | attributes (role : Option String) (currentZone : Option Zone)
  deriving DecidableEq, Repr

structure Msg where
  scannerId : Option ScannerId := none
  rssi : Option Int8 := none
  battery : Option ℕ := none
  zone : Option Zone := none
  zoneNum : Option ℕ := none
  role : Option String := none
  currentZone : Option Zone := none
  error : Option String := none
  deriving DecidableEq, Repr

def parseAndMapZone : Incoming → Msg × MsgType
  | .attributes role currentZone => ({ role := role, currentZone := currentZone }, .ignored)
  | .telemetry (some scannerId) (some rssi) battery =>
    let zone := (zoneMap scannerId).getD .outOfRange
    ({ scannerId := some scannerId, rssi := some rssi, battery := battery,
       zone := some zone, zoneNum := some (zoneNumMap zone) }, .postTelemetryRequest)
  | .telemetry _ _ _ => ({ error := some "missing scanner_id or rssi" }, .invalid)

/-- The server attributes of a tag device.  An absent `current_scanner` and the empty string are
both `none`: the scripts read them the same way. -/
structure TagState where
  role : Option String := none
  currentZone : Option Zone := none
  currentZoneLabel : Option String := none
  currentRssi : Option ℤ := none
  currentScanner : Option Scanner := none
  lastSeen : Option ℤ := none
  candidateZone : Option Zone := none
  candidateCount : Option ℕ := none
  battery : Option ℕ := none
  rssiScan : Scanner → Option Int8 := fun _ => none
  tsScan : Scanner → Option ℤ := fun _ => none

/-- The attributes that Fetch tag state copies into the metadata. -/
structure Metadata where
  currentZone : Option Zone
  currentRssi : Option ℤ
  currentScanner : Option Scanner
  rssiScan : Scanner → Option Int8
  tsScan : Scanner → Option ℤ
  candidateZone : Option Zone
  candidateCount : Option ℕ

def fetchTagState (st : TagState) : Metadata where
  currentZone := st.currentZone
  currentRssi := st.currentRssi
  currentScanner := st.currentScanner
  rssiScan := st.rssiScan
  tsScan := st.tsScan
  candidateZone := st.candidateZone
  candidateCount := st.candidateCount

def hysteresisDbm : ℤ := 5
def debounceCount : ℕ := 2
def scannerValidMs : ℤ := 10000

structure Sample where
  rssi : Int8
  ts : ℤ
  deriving DecidableEq, Repr

/-- `snap`: the last sample of every scanner, the one in this message included.  A message
without `scanner_id` writes under a key that is never read. -/
def snapshot (metadata : Metadata) (msg : Msg) (now : ℤ) : ScannerId → Option Sample :=
  let saved : ScannerId → Option Sample
    | .known s =>
      match metadata.rssiScan s, metadata.tsScan s with
      | some rVal, some tVal => some ⟨rVal, tVal⟩
      | _, _ => none
    | .foreign _ => none
  match msg.scannerId, msg.rssi with
  | some newScannerId, some newRssi => Function.update saved newScannerId (some ⟨newRssi, now⟩)
  | _, _ => saved

def freshRssi (snap : ScannerId → Option Sample) (now : ℤ) (s : Scanner) : Option ℤ :=
  match snap (.known s) with
  | some sample => if now - sample.ts ≤ scannerValidMs then some sample.rssi.toInt else none
  | none => none

def strongestFresh (snap : ScannerId → Option Sample) (now : ℤ) : Option Scanner × ℤ :=
  Strongest.scan (freshRssi snap now) (-999) scanners

def strongestFreshIn (snap : ScannerId → Option Sample) (now : ℤ) (zone : Zone) :
    Option Scanner × ℤ :=
  Strongest.scan (fun s => if zoneMap (.known s) = some zone then freshRssi snap now s else none)
    (-999) scanners

structure Decision where
  finalZone : Zone
  finalRssi : ℤ
  finalScanner : Option Scanner
  newCandZone : Option Zone
  newCandCount : ℕ
  deriving DecidableEq, Repr

def passHysteresis (bestRssi : ℤ) (curZone : Option Scanner × ℤ) : Bool :=
  curZone.1.isNone || decide (hysteresisDbm ≤ bestRssi - curZone.2)

def challenge (metadata : Metadata) (curZone bestZone : Zone) (bestScanner : Scanner)
    (bestRssi : ℤ) (curBest : Option Scanner × ℤ) : Decision :=
  let candCount := metadata.candidateCount.getD 0
  let heldRssi := if curBest.1.isSome then curBest.2 else metadata.currentRssi.getD (-999)
  let heldScanner := if curBest.1.isSome then curBest.1 else metadata.currentScanner
  if passHysteresis bestRssi curBest then
    let newCandCount := if metadata.candidateZone = some bestZone then candCount + 1 else 1
    if debounceCount ≤ newCandCount then
      ⟨bestZone, bestRssi, some bestScanner, some bestZone, 0⟩
    else ⟨curZone, heldRssi, heldScanner, some bestZone, newCandCount⟩
  else
    -- leaky bucket: one step back, the candidate is kept while the count is positive
    match metadata.candidateZone with
    | some candZone =>
      if candZone ≠ curZone ∧ 0 < candCount then
        ⟨curZone, heldRssi, heldScanner,
          some (if 0 < candCount - 1 then candZone else curZone), candCount - 1⟩
      else ⟨curZone, heldRssi, heldScanner, some curZone, 0⟩
    | none => ⟨curZone, heldRssi, heldScanner, some curZone, 0⟩

def decideZone (metadata : Metadata) (snap : ScannerId → Option Sample) (now : ℤ) : Decision :=
  match strongestFresh snap now with
  | (none, _) => ⟨.outOfRange, -999, none, some .outOfRange, 0⟩
  | (some bestScanner, bestRssi) =>
    let bestZone := (zoneMap (.known bestScanner)).getD .outOfRange
    let first : Decision := ⟨bestZone, bestRssi, some bestScanner, some bestZone, 0⟩
    match metadata.currentZone with
    | none => first
    | some curZone =>
      if curZone = .outOfRange then first
      else if bestZone = curZone then ⟨curZone, bestRssi, some bestScanner, some curZone, 0⟩
      else
        challenge metadata curZone bestZone bestScanner bestRssi
          (strongestFreshIn snap now curZone)

/-- The message as Apply hysteresis returns it, for the fields that Build attrs payload reads. -/
structure Evaluated where
  battery : Option ℕ
  currentZone : Zone
  currentRssi : ℤ
  currentScanner : Option Scanner
  currentZoneNum : ℕ
  lastSeen : ℤ
  candidateZone : Option Zone
  candidateCount : ℕ
  rssiScan : Scanner → Option Int8
  tsScan : Scanner → Option ℤ

def applyHysteresis (msg : Msg) (metadata : Metadata) (now : ℤ) : Evaluated :=
  let snap := snapshot metadata msg now
  let d := decideZone metadata snap now
  { battery := msg.battery
    currentZone := d.finalZone
    currentRssi := d.finalRssi
    currentScanner := d.finalScanner
    currentZoneNum := zoneNumMap d.finalZone
    lastSeen := now
    candidateZone := d.newCandZone
    candidateCount := d.newCandCount
    rssiScan := fun s => (snap (.known s)).map Sample.rssi
    tsScan := fun s => (snap (.known s)).map Sample.ts }

structure AttrsPayload where
  role : String
  currentZone : Zone
  currentZoneLabel : String
  currentRssi : ℤ
  currentScanner : Option Scanner
  lastSeen : ℤ
  candidateZone : Option Zone
  candidateCount : ℕ
  battery : Option ℕ
  rssiScan : Scanner → Option Int8
  tsScan : Scanner → Option ℤ

def buildAttrsPayload (msg : Evaluated) : AttrsPayload where
  role := "tag"
  currentZone := msg.currentZone
  currentZoneLabel := roomLabelMap msg.currentZone
  currentRssi := msg.currentRssi
  currentScanner := msg.currentScanner
  lastSeen := msg.lastSeen
  candidateZone := msg.candidateZone
  candidateCount := msg.candidateCount
  battery := msg.battery
  rssiScan := msg.rssiScan
  tsScan := msg.tsScan

/-- Attributes present in the payload are overwritten, the others stay. -/
def saveTagState (st : TagState) (p : AttrsPayload) : TagState where
  role := some p.role
  currentZone := some p.currentZone
  currentZoneLabel := some p.currentZoneLabel
  currentRssi := some p.currentRssi
  currentScanner := p.currentScanner
  lastSeen := some p.lastSeen
  candidateZone := p.candidateZone.orElse fun _ => st.candidateZone
  candidateCount := some p.candidateCount
  battery := p.battery.orElse fun _ => st.battery
  rssiScan := fun s => (p.rssiScan s).orElse fun _ => st.rssiScan s
  tsScan := fun s => (p.tsScan s).orElse fun _ => st.tsScan s

structure Arrival where
  msg : Incoming
  now : ℤ
  deriving DecidableEq, Repr

def TagState.snap (st : TagState) (a : Arrival) : ScannerId → Option Sample :=
  snapshot (fetchTagState st) (parseAndMapZone a.msg).1 a.now

def TagState.process (st : TagState) (a : Arrival) : TagState :=
  saveTagState st
    (buildAttrsPayload (applyHysteresis (parseAndMapZone a.msg).1 (fetchTagState st) a.now))

def savedAfter (as : List Arrival) : TagState := as.foldl TagState.process {}

theorem savedAfter_concat (as : List Arrival) (a : Arrival) :
    savedAfter (as ++ [a]) = (savedAfter as).process a := by
  simp [savedAfter, List.foldl_append]

end BleMeshTracking.RuleChain
