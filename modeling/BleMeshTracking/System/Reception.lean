import BleMeshTracking.Scanner.EpochLock
import BleMeshTracking.Scanner.TagFields
import BleMeshTracking.Tag.Beaconing

/-!
# From a tag's radio into a scanner

What either firmware has on the air in any run, as `gap_event_handler` of any scanner takes it.
-/

namespace BleMeshTracking.System

open Protocol Scanner
open Tag (Carries EspEvent EspTag Firmware NrfEvent NrfTag)

/-- A number on the air, and the bytes that carry it: `s_adv_active` of the nRF52840 says so, and on
the ESP32 a Bluetooth task that has caught up and refused nothing. -/
inductive OnAir (hmac : Hmac) : Firmware → UInt8 → Bytes → Prop
  | nrf52840 {es : List NrfEvent} {s : NrfTag} {data : Bytes} {units : UInt16}
    (hrun : Run.run (NrfTag.step hmac) {} es = some s) (hactive : s.advActive = true)
    (hair : s.radio = some (data, units)) : OnAir hmac .nrf52840 s.sequence data
  | esp32 {es : List EspEvent} {s : EspTag} (hrun : Run.run (EspTag.step hmac) {} es = some s)
    (hstarted : s.started = true) (hclean : s.clean = true) (hcaughtUp : s.queue = []) :
    OnAir hmac .esp32 s.sequence s.airData

variable {hmac : Hmac} {fw : Firmware} {sequence : UInt8} {data : Bytes}

theorem OnAir.carries (h : OnAir hmac fw sequence data) : Carries hmac fw sequence data := by
  cases h with
  | @nrf52840 es s data units hrun hactive hair =>
    have hsound := (NrfTag.sound_throughout hmac es).last hrun
    obtain ⟨data', units', hair', hcarries⟩ := hsound.active hactive
    cases hair.symm.trans hair'
    exact hcarries
  | @esp32 es s hrun hstarted hclean hcaughtUp =>
    have hsound := (EspTag.sound_throughout hmac es).last hrun
    exact ((EspTag.steady_of_sound hsound).caughtUp hstarted hclean hcaughtUp).2.2

/-- The payload of the field is what the tag put into it. -/
theorem tagPayload_toBytes (p : TagAdvPayload) :
    tagPayload p.toBytes = ⟨p.battery.toUInt8, p.minor, p.txPower, p.sequence, p.mac16⟩ := by
  have hwhole : p.toBytes.take 24 = p.toBytes := List.take_of_length_le p.length_toBytes.le
  unfold tagPayload
  rw [hwhole, p.ofBytes_toBytes]

/-- A verification with the master key and a working crypto library accepts whatever was signed
under an epoch that it tries. -/
theorem verify_isSome_of_tried {calls : Attempt → TryCalls} (hcalls : ∀ a, calls a = {})
    {keys : AuthKeys} (hkeys : keys.tagMaster = some bmtTagMasterKey) {tagId epoch : UInt16}
    {nowUs : ℤ} {tbl : EpochTable} (htried : ∃ a ∈ attemptsFor tagId nowUs tbl, a.epoch = epoch)
    (signed : Bytes) :
    (bmtAuthVerifyTag hmac calls keys tagId signed (tagMac16 hmac epoch signed) nowUs
      tbl).1.isSome = true := by
  obtain ⟨a, ha, hepoch⟩ := htried
  rw [bmtAuthVerifyTag_fst, List.find?_isSome]
  refine ⟨a, ha, ?_⟩
  rw [hcalls a, tryEpoch_ok hmac hkeys, hepoch]
  exact beq_self_eq_true _

/-- A scan result is a tag's advertisement with the payload `p`: it is offered to verification once,
under the id of the tag, and changes nothing but the epoch table. -/
def HeardAs (hmac : Hmac) (p : TagPayload) (signed : Bytes) (r : ScanResult) : Prop :=
  ∀ s : AirState, acceptScanResult hmac r s =
    some (if !(s.otaTriggered || !r.phaseGapScan || !r.provComplete) then
        let verdict := bmtAuthVerifyTag hmac r.calls r.keys p.tagId signed p.mac16 r.nowUs s.epochs
        (if verdict.1.isSome then some p else none, { s with epochs := verdict.2 })
      else (none, s))

theorem heardAs_advData (fw : Firmware) {p : TagAdvPayload} (huuid : p.uuid = Tag.bmtSystemUuid)
    {r : ScanResult} (hadv : r.adv = Tag.advData fw p) :
    HeardAs hmac ⟨p.battery.toUInt8, p.minor, p.txPower, p.sequence, p.mac16⟩ p.signedBytes r := by
  have holds : HoldsTag r.adv p.toBytes := by
    rw [hadv]
    exact holdsTag_advData fw huuid
  intro s
  rw [TagResult.acceptScanResult_eq hmac ⟨r, p.toBytes, holds⟩ s]
  unfold TagResult.isParsed TagResult.verify TagResult.tagId
  dsimp only
  rw [tagPayload_toBytes, p.take_toBytes]

/-- The bytes as any scanner takes them: the payload `p` and what is signed of it. -/
structure ReceivedAs (hmac : Hmac) (sequence : UInt8) (data : Bytes) (p : TagPayload)
    (signed : Bytes) : Prop where
  tagId : p.tagId = Tag.bmtTagMinor
  txPower : p.txPower = Tag.bmtTagTxPower
  sequence : p.sequence = sequence
  battery : p.battery ≤ 100
  heard : ∀ r : ScanResult, r.adv = data → HeardAs hmac p signed r
  /-- Signed under one epoch, unless the crypto library of the tag failed. -/
  accepted : p.mac16 = 0 ∨ ∃ epoch : UInt16, ∀ (r : ScanResult) (epochs : EpochTable),
    (∀ a, r.calls a = {}) → r.keys.tagMaster = some bmtTagMasterKey →
    (∃ a ∈ attemptsFor p.tagId r.nowUs epochs, a.epoch = epoch) →
    (bmtAuthVerifyTag hmac r.calls r.keys p.tagId signed p.mac16 r.nowUs epochs).1.isSome = true

/-- Over every run of either firmware, a number on the air reaches any scanner that hears it as the
tag built it, and is accepted wherever the scanner tries the epoch in which it was signed. -/
theorem beacon_received (h : OnAir hmac fw sequence data) :
    ∃ p signed, ReceivedAs hmac sequence data p signed := by
  obtain ⟨battery, mac16, epoch, hdata, hbattery, hmac16⟩ := h.carries
  let fields : Tag.AdvFields := ⟨battery, Tag.bmtTagMinor, Tag.bmtTagTxPower, sequence⟩
  let p : TagAdvPayload := { Tag.unsignedPayload fields with mac16 }
  have hheard : ∀ r : ScanResult, r.adv = data →
      HeardAs hmac ⟨p.battery.toUInt8, p.minor, p.txPower, p.sequence, p.mac16⟩ p.signedBytes r :=
    fun r hadv => heardAs_advData fw rfl (hadv.trans hdata)
  have hbyte : p.battery.toUInt8 = battery := UInt8.toUInt8_toUInt16 battery
  refine ⟨_, _, rfl, rfl, rfl, ?_, hheard, ?_⟩
  · dsimp only
    rw [hbyte]
    exact hbattery
  · rcases hmac16 with hzero | hsigned
    · exact Or.inl hzero
    · refine Or.inr ⟨epoch, ?_⟩
      intro r epochs hcalls hkeys htried
      have hmac : p.mac16 = tagMac16 hmac epoch p.signedBytes := hsigned
      dsimp only
      rw [hmac]
      exact verify_isSome_of_tried hcalls hkeys htried p.signedBytes

/-- The ESP32 tag starts, and the second cycle gets on the air. -/
def secondCycle : List EspEvent :=
  [.start true true {} 1000000 true {}, .command true true, .command true true,
    .seqTimer true true { uptimeUs := 1500000 }, .command true true, .command true true,
    .command true true]

theorem beacon_received_secondCycle :
    ∃ data p signed, OnAir echoHmac .esp32 1 data ∧ ReceivedAs echoHmac 1 data p signed := by
  have hend : (Run.run (EspTag.step echoHmac) {} secondCycle).map (fun s =>
      (s.sequence, s.started, s.clean, s.queue.length)) = some (1, true, true, 0) := by
    decide +kernel
  obtain ⟨s, hrun, hs⟩ := Option.map_eq_some_iff.mp hend
  injection hs with hseq hrest
  injection hrest with hstarted hrest
  injection hrest with hclean hlength
  have hair := OnAir.esp32 hrun hstarted hclean (List.eq_nil_of_length_eq_zero hlength)
  rw [hseq] at hair
  obtain ⟨p, signed, hreceived⟩ := beacon_received hair
  exact ⟨s.airData, p, signed, hair, hreceived⟩

end BleMeshTracking.System
