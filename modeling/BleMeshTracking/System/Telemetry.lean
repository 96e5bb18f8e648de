import BleMeshTracking.Gateway.ReportQueue
import BleMeshTracking.Library.Hex
import BleMeshTracking.RuleChain.SavedState

/-!
# From a queued report to the rule chain

The texts with which `bmt_tb_pub_tag_report` names a tag and a scanner, and what the rule chain
makes of them: the device that gets the message, and the room of `ZONE_MAP`.
-/

namespace BleMeshTracking.System

open Gateway RuleChain

def tagDevice (tagId : UInt16) : String :=
  String.ofList ("bmt_tag_0x".toList ++ Hex.digits 4 tagId.toNat)

def macKey (mac : Mac) : String :=
  String.ofList (Hex.row 2 ((List.ofFn mac).map UInt8.toNat))

def scannerKey (item : TagReportItem) : String :=
  match item.scannerMac with
  | some mac => macKey mac
  | none => String.ofList ("id_0x".toList ++ Hex.digits 2 item.report.scannerId.toNat)

/-- A `scanner_id` as the rule chain looks it up. -/
def ScannerId.ofKey (key : String) : ScannerId :=
  if key = "765ca3077000" then .known .scan01
  else if key = "125ba3077000" then .known .scan02
  else if key = "22458bdf948c" then .known .scan03
  else .foreign key

def incoming (item : TagReportItem) : Incoming :=
  .telemetry (some (ScannerId.ofKey (scannerKey item))) (some item.report.rssi)
    (some item.report.battery.toNat)

/-- The Bluetooth MAC that `ZONE_MAP` has for a scanner. -/
def scannerMac : RuleChain.Scanner → Mac
  | .scan01 => ![0x76, 0x5c, 0xa3, 0x07, 0x70, 0x00]
  | .scan02 => ![0x12, 0x5b, 0xa3, 0x07, 0x70, 0x00]
  | .scan03 => ![0x22, 0x45, 0x8b, 0xdf, 0x94, 0x8c]

theorem tagDevice_inj {t t' : UInt16} (h : tagDevice t = tagDevice t') : t = t' := by
  have hdigits := List.append_cancel_left (String.ofList_injective h)
  have ht := t.toNat_lt
  have ht' := t'.toNat_lt
  exact UInt16.toNat_inj.mp (Hex.digits_inj (by omega) (by omega) hdigits)

theorem macKey_inj {mac mac' : Mac} (h : macKey mac = macKey mac') : mac = mac' := by
  have hbytes : ∀ (m : Mac), ∀ n ∈ (List.ofFn m).map UInt8.toNat, n < 16 ^ 2 := by
    intro m n hn
    obtain ⟨b, -, rfl⟩ := List.mem_map.mp hn
    exact b.toNat_lt
  have hrow := Hex.row_inj (by simp) (hbytes mac) (hbytes mac') (String.ofList_injective h)
  have hlist := List.map_injective_iff.mpr (fun _ _ => UInt8.toNat_inj.mp) hrow
  exact List.ofFn_injective hlist

theorem macKey_scannerMac (s : RuleChain.Scanner) :
    ScannerId.ofKey (macKey (scannerMac s)) = .known s := by
  cases s <;> decide

theorem ofKey_eq_known_iff {key : String} {s : RuleChain.Scanner} :
    ScannerId.ofKey key = .known s ↔ key = macKey (scannerMac s) := by
  refine ⟨?_, ?_⟩
  · intro h
    unfold ScannerId.ofKey at h
    split_ifs at h with h1 h2 h3
    · cases h
      exact h1
    · cases h
      exact h2
    · cases h
      exact h3
  · intro h
    rw [h, macKey_scannerMac]

/-- The chain takes a report for one of a scanner exactly when the MAC it came with is the
scanner's. -/
theorem scannerKey_known_iff {item : TagReportItem} {s : RuleChain.Scanner} :
    ScannerId.ofKey (scannerKey item) = .known s ↔ item.scannerMac = some (scannerMac s) := by
  rw [ofKey_eq_known_iff]
  unfold scannerKey
  cases hmac : item.scannerMac with
  | some mac =>
    refine ⟨fun h => congrArg some (macKey_inj h), ?_⟩
    intro h
    rw [Option.some.inj h]
  | none =>
    -- the fallback starts with a letter that is no digit
    refine ⟨?_, nofun⟩
    intro h
    have hfirst := congrArg List.head? (String.ofList_injective h)
    rw [show ("id_0x".toList ++ Hex.digits 2 item.report.scannerId.toNat).head? = some 'i' from rfl]
      at hfirst
    cases s <;> exact absurd hfirst (by decide)

theorem scannerMac_of_sample {item : TagReportItem} {s : RuleChain.Scanner} {x : Sample} {now : ℤ}
    (h : (incoming item).sample now s = some x) : item.scannerMac = some (scannerMac s) := by
  apply scannerKey_known_iff.mp
  unfold incoming Incoming.sample at h
  cases hid : ScannerId.ofKey (scannerKey item) with
  | foreign key =>
    rw [hid] at h
    cases h
  | known s' =>
    rw [hid] at h
    dsimp only at h
    split_ifs at h with hs
    rw [hs]

/-- Messages that the rule chain processes for the device of a tag: what the gateway sends besides
reports, and reports among those published, any of them and as often as they come. -/
def MessagesOf (telemetry : List TagReportItem) (tagId : UInt16) (as : List Arrival) : Prop :=
  ∀ a ∈ as, (∃ role zone, a.msg = .attributes role zone) ∨
    ∃ item ∈ telemetry, tagDevice item.report.tagId = tagDevice tagId ∧ a.msg = incoming item

/-- Behind a saved room is a published report of the tag, with the MAC of the room's scanner. -/
theorem report_of_room {telemetry : List TagReportItem} {tagId : UInt16} {as : List Arrival}
    (h : MessagesOf telemetry tagId as) {s : RuleChain.Scanner}
    (hzone : (savedAfter as).currentZone = some (zoneOf s)) :
    ∃ item ∈ telemetry, item.report.tagId = tagId ∧ item.scannerMac = some (scannerMac s) := by
  obtain ⟨x, a, ha, hsample⟩ := reported_of_room hzone
  rcases h a ha with ⟨role, zone, hmsg⟩ | ⟨item, hitem, hdevice, hmsg⟩
  · rw [hmsg] at hsample
    cases hsample
  · rw [hmsg] at hsample
    exact ⟨item, hitem, tagDevice_inj hdevice, scannerMac_of_sample hsample⟩

end BleMeshTracking.System
