import BleMeshTracking.Library.Run
import BleMeshTracking.Scanner.Beacons
import BleMeshTracking.Scanner.FailClosed
import BleMeshTracking.Scanner.TagFields

/-!
# The OTA beacon from the gateway to a scanner

`beacon_send` of the gateway's `bmt_ota.c` writes the field that `gap_event_handler` of the scanner
looks for, and the scanner remembers which beacon triggered it last, and when.
-/

namespace BleMeshTracking.Ota

open Protocol Scanner

def bmtOtaBeaconDurationUs : ℤ := 15000 * 1000

/-- `s_beacon_raw` with what was filled in before a send. -/
def beaconBytes (target macHi macLo : UInt8) : Bytes :=
  [0x02, 0x01, 0x06, 0x0A, 0xFF, 0xE5, 0x02, 0x42, 0x4D, 0x54, 0xFA, target, macHi, macLo]

def sBeaconRaw : Bytes := beaconBytes 0x01 0x00 0x00

def bmtOtaKeyHmac16 (hmac : Hmac) (ok : Bool) (key : Option Bytes) (data : Bytes) : UInt16 :=
  match psaMacCompute hmac ok key data with
  | none => 0
  | some mac => mac16OfDigest mac

/-- `beacon_send` up to `ble_gap_adv_set_data`: what is broadcast, and stays in `s_beacon_raw`. -/
def beaconSend (hmac : Hmac) (ok : Bool) (key : Option Bytes) (target : UInt8) (raw : Bytes) :
    Bytes :=
  let raw := raw.set 11 target
  let mac := bmtOtaKeyHmac16 hmac ok key ((raw.drop 7).take 5)
  (raw.set 12 (mac >>> 8).toUInt8).set 13 mac.toUInt8

/-- What decides about an OTA, and the advertisements that started one. -/
structure OtaScanner where
  inited : Bool := true
  otaTriggered : Bool := false
  beacon : OtaBeaconState := {}
  started : List Bytes := []

inductive OtaScannerEvent
  | scanResult (adv : Bytes) (nowUs : ℤ)
  | otaTriggerMsg
  | otaEnd

namespace OtaScanner

/-- The two tests of `bmt_ota_trigger`. -/
def canStart (s : OtaScanner) : Bool := s.inited && !s.otaTriggered

/-- `gap_event_handler`, as far as it is about OTA beacons. -/
def scanResult (hmac : Hmac) (keys : AuthKeys) (adv : Bytes) (nowUs : ℤ) (s : OtaScanner) :
    OtaScanner :=
  match otaBeacon hmac true keys s.otaTriggered adv nowUs s.beacon with
  | some (true, beacon) =>
    if s.canStart then { s with otaTriggered := true, beacon, started := s.started ++ [adv] }
    else { s with beacon }
  | some (false, beacon) => { s with beacon }
  | none => s

def after (hmac : Hmac) (keys : AuthKeys) (s : OtaScanner) : OtaScannerEvent → OtaScanner
  | .scanResult adv nowUs => s.scanResult hmac keys adv nowUs
  | .otaTriggerMsg => if s.canStart then { s with otaTriggered := true } else s
  -- `ota_wifi_task` ends without a reboot
  | .otaEnd => { s with otaTriggered := false }

def CoolingDown (s : OtaScanner) (mac : UInt16) (nowUs : ℤ) : Prop :=
  mac = s.beacon.lastMac ∧ nowUs - s.beacon.lastUs < bmtOtaBeaconCooldownUs

end OtaScanner

structure OtherField where
  type : UInt8
  data : Bytes
  fits : data.length < 255
  foreign : type ≠ 0xFF ∨ data.take 2 ≠ [0xE5, 0x02]

def OtherField.bytes (f : OtherField) : Bytes := adStructure f.type f.data

theorem getElem?_append_add (a b : Bytes) (i k : ℕ) : (a ++ b)[a.length + i + k]? = b[i + k]? := by
  rw [List.getElem?_append_right (by omega)]
  congr 1
  omega

theorem readBytes_append (a b : Bytes) (i k n : ℕ) :
    readBytes (a ++ b) (a.length + i + k) n = readBytes b (i + k) n := by
  have hpos : a.length + i + k = a.length + (i + k) := by omega
  have hfits : a.length + (i + k) + n ≤ (a ++ b).length ↔ i + k + n ≤ b.length := by
    rw [List.length_append]
    omega
  unfold readBytes
  rw [hpos, List.drop_append, List.drop_eq_nil_of_le (by omega), List.nil_append,
    Nat.add_sub_cancel_left]
  simp only [hfits]

/-- The walk over the fields depends on what is still ahead of it. -/
theorem otaFieldFrom_append (a b : Bytes) (i : ℕ) :
    otaFieldFrom (a ++ b) (a.length + i) = otaFieldFrom b i := by
  induction hn : b.length - i using Nat.strong_induction_on generalizing i with
  | _ n ih =>
    have hzero := getElem?_append_add a b i 0
    rw [Nat.add_zero, Nat.add_zero] at hzero
    conv_lhs => rw [otaFieldFrom]
    conv_rhs => rw [otaFieldFrom]
    by_cases hi : i + 10 < b.length
    · rw [if_pos hi, if_pos (by rw [List.length_append]; omega), hzero]
      have hfield : ∀ fieldLen, isOtaField (a ++ b) (a.length + i) fieldLen =
          isOtaField b i fieldLen := by
        intro fieldLen
        unfold isOtaField
        rw [getElem?_append_add, getElem?_append_add, readBytes_append]
      cases hlen : b[i]? with
      | none => rfl
      | some fieldLen =>
        simp only [Option.bind_eq_bind, Option.bind_some, hfield]
        have hmac : readBe (a ++ b) (a.length + i + 9) = readBe b (i + 9) := by
          unfold readBe
          rw [getElem?_append_add, Nat.add_assoc (a.length + i), getElem?_append_add]
        have hrest : otaFieldFrom (a ++ b) (a.length + i + fieldLen.toNat + 1) =
            otaFieldFrom b (i + fieldLen.toNat + 1) := by
          rw [show a.length + i + fieldLen.toNat + 1 = a.length + (i + fieldLen.toNat + 1) by omega]
          exact ih _ (by omega) _ rfl
        rw [hmac, readBytes_append, hrest]
    · rw [if_neg hi, if_neg (by rw [List.length_append]; omega)]

theorem otaFieldFrom_other (f : OtherField) {rest : Bytes} (hrest : 8 < rest.length) :
    otaFieldFrom (f.bytes ++ rest) 0 = otaFieldFrom rest 0 := by
  have hbytes : f.bytes ++ rest =
      UInt8.ofNat (f.data.length + 1) :: f.type :: (f.data ++ rest) := rfl
  have hlen : (UInt8.ofNat (f.data.length + 1)).toNat = f.data.length + 1 := by
    have := f.fits
    exact UInt8.toNat_ofNat_of_lt (show f.data.length + 1 < 256 by omega)
  have hne : UInt8.ofNat (f.data.length + 1) ≠ 0 := by
    intro h
    rw [h] at hlen
    cases hlen
  have hlong : 0 + 10 < (f.bytes ++ rest).length := by
    rw [hbytes, List.length_cons, List.length_cons, List.length_append]
    omega
  have hnot : isOtaField (f.bytes ++ rest) 0 (UInt8.ofNat (f.data.length + 1)) = some false := by
    have htarget : (f.bytes ++ rest)[0 + 8]? = some (f.bytes ++ rest)[0 + 8] :=
      List.getElem?_eq_getElem (by omega)
    have hhead : readBytes (f.bytes ++ rest) (0 + 2) 6 = some ((f.data ++ rest).take 6) :=
      readBytes_of_le _ _ _ (by omega)
    have htype : (f.bytes ++ rest)[0 + 1]? = some f.type := rfl
    unfold isOtaField
    rw [htype, hhead, htarget]
    simp only [Option.bind_eq_bind, Option.bind_some, Option.pure_def, hlen]
    refine congrArg some (decide_eq_false ?_)
    rintro ⟨htype, hsize, hmagic, -⟩
    rw [List.take_append_of_le_length (by omega)] at hmagic
    have hcid := congrArg (List.take 2) hmagic
    rw [List.take_take] at hcid
    exact f.foreign.elim (fun h => h htype) (fun h => h hcid)
  rw [otaFieldFrom_skip hlong rfl hne hnot, hlen]
  have hend : 0 + (f.data.length + 1) + 1 = f.bytes.length + 0 := by
    rw [OtherField.bytes, adStructure, List.length_cons, List.length_cons]
    omega
  rw [hend]
  exact otaFieldFrom_append f.bytes rest 0

theorem otaFieldFrom_others (fs : List OtherField) {rest : Bytes} (hrest : 8 < rest.length) :
    otaFieldFrom ((fs.map OtherField.bytes).flatten ++ rest) 0 = otaFieldFrom rest 0 := by
  induction fs with
  | nil => rfl
  | cons f fs ih =>
    rw [List.map_cons, List.flatten_cons, List.append_assoc, otaFieldFrom_other f, ih]
    rw [List.length_append]
    omega

def IsTarget (target : UInt8) : Prop := target = bmtNodeType ∨ target = 0xFF

instance (target : UInt8) : Decidable (IsTarget target) :=
  inferInstanceAs (Decidable (_ ∨ _))

def signedBytes (target : UInt8) : Bytes := [0x42, 0x4D, 0x54, 0xFA, target]

def flagsField : OtherField := ⟨0x01, [0x06], by decide, Or.inl (by decide)⟩

def beaconField (target macHi macLo : UInt8) : Bytes :=
  [0x0A, 0xFF, 0xE5, 0x02, 0x42, 0x4D, 0x54, 0xFA, target, macHi, macLo]

theorem isOtaField_beaconField (target macHi macLo : UInt8) :
    isOtaField (beaconField target macHi macLo) 0 0x0A = some (decide (IsTarget target)) := by
  have hhead : readBytes (beaconField target macHi macLo) (0 + 2) 6 =
      some [0xE5, 0x02, 0x42, 0x4D, 0x54, 0xFA] := rfl
  unfold isOtaField
  rw [hhead]
  refine congrArg some (decide_eq_decide.mpr ?_)
  simp [IsTarget]

theorem otaFieldFrom_hit {adv : Bytes} {i : ℕ} {fieldLen : UInt8} (hi : i + 10 < adv.length)
    (hlen : adv[i]? = some fieldLen) (hne : fieldLen ≠ 0)
    (h : isOtaField adv i fieldLen = some true) :
    otaFieldFrom adv i = do return some (← readBe adv (i + 9), ← readBytes adv (i + 4) 5) := by
  rw [otaFieldFrom, if_pos hi, hlen]
  simp only [Option.bind_eq_bind, Option.bind_some, h]
  rw [if_neg hne, if_true]

theorem otaFieldFrom_beaconField (target macHi macLo : UInt8) :
    otaFieldFrom (beaconField target macHi macLo) 0 =
      some (if IsTarget target then some (u16OfLe macLo macHi, signedBytes target) else none) := by
  have hfield := isOtaField_beaconField target macHi macLo
  have hlong : 0 + 10 < (beaconField target macHi macLo).length := by
    show 0 + 10 < 11
    omega
  by_cases ht : IsTarget target
  · rw [decide_eq_true ht] at hfield
    rw [otaFieldFrom_hit hlong rfl (by decide) hfield, if_pos ht]
    rfl
  · rw [decide_eq_false ht] at hfield
    rw [otaFieldFrom_skip hlong rfl (by decide) hfield, if_neg ht, otaFieldFrom, if_neg]
    exact (by decide : ¬0 + (0x0A : UInt8).toNat + 1 + 10 < 11)

/-- What the gateway broadcasts, whatever it broadcast before. -/
theorem beaconSend_eq (hmac : Hmac) (key : Bytes) (target t h l : UInt8) :
    beaconSend hmac true (some key) target (beaconBytes t h l) =
      beaconBytes target
        (hmac16 hmac true (some key) (signedBytes target) >>> 8).toUInt8
        (hmac16 hmac true (some key) (signedBytes target)).toUInt8 := rfl

/-- What the scanner finds, also behind fields of other vendors. -/
theorem otaFieldFrom_broadcast (fs : List OtherField) (target macHi macLo : UInt8) :
    otaFieldFrom ((fs.map OtherField.bytes).flatten ++ beaconBytes target macHi macLo) 0 =
      some (if IsTarget target then some (u16OfLe macLo macHi, signedBytes target) else none) := by
  have hbytes : beaconBytes target macHi macLo =
      flagsField.bytes ++ beaconField target macHi macLo := rfl
  have hlong : 8 < (beaconBytes target macHi macLo).length := (by decide : 8 < 14)
  have hlong' : 8 < (beaconField target macHi macLo).length := (by decide : 8 < 11)
  rw [otaFieldFrom_others fs hlong, hbytes, otaFieldFrom_other flagsField hlong']
  exact otaFieldFrom_beaconField target macHi macLo

namespace OtaScanner

section Answer

variable {hmac : Hmac} {keys : AuthKeys} {adv : Bytes} {nowUs : ℤ} {s : OtaScanner}
  {recvMac : UInt16}

def Answers (hmac : Hmac) (keys : AuthKeys) (adv : Bytes) (nowUs : ℤ) (s : OtaScanner)
    (recvMac : UInt16) : Prop :=
  s.otaTriggered = false ∧
    (∃ data, otaFieldFrom adv 0 = some (some (recvMac, data)) ∧
      recvMac = hmac16 hmac true keys.otaBeacon data) ∧ ¬s.CoolingDown recvMac nowUs

theorem answers_iff : s.Answers hmac keys adv nowUs recvMac ↔
    otaBeacon hmac true keys s.otaTriggered adv nowUs s.beacon = some (true, ⟨recvMac, nowUs⟩) := by
  rw [otaBeacon_triggers_iff]
  refine ⟨?_, ?_⟩
  · rintro ⟨hidle, ⟨data, hfield, hmacs⟩, hcool⟩
    exact ⟨hidle, recvMac, data, hfield, hmacs, hcool, rfl⟩
  · rintro ⟨hidle, recvMac', data, hfield, hmacs, hcool, hst⟩
    cases hst
    exact ⟨hidle, ⟨data, hfield, hmacs⟩, hcool⟩

theorem scanResult_of_answers (h : s.Answers hmac keys adv nowUs recvMac) :
    s.scanResult hmac keys adv nowUs =
      if s.inited then
        { s with
          otaTriggered := true
          beacon := ⟨recvMac, nowUs⟩
          started := s.started ++ [adv] }
      else { s with beacon := ⟨recvMac, nowUs⟩ } := by
  unfold scanResult
  rw [answers_iff.mp h]
  simp [canStart, h.1]

theorem scanResult_of_silent (h : ∀ recvMac, ¬s.Answers hmac keys adv nowUs recvMac) :
    s.scanResult hmac keys adv nowUs = s := by
  unfold scanResult
  cases hota : otaBeacon hmac true keys s.otaTriggered adv nowUs s.beacon with
  | none => rfl
  | some result =>
    obtain ⟨trigger, st⟩ := result
    cases trigger with
    | true =>
      obtain ⟨_, recvMac, _, _, _, _, rfl⟩ := (otaBeacon_triggers_iff ..).mp hota
      exact absurd (answers_iff.mpr hota) (h recvMac)
    | false =>
      have hst : st = s.beacon := by
        unfold otaBeacon at hota
        split_ifs at hota
        · cases hota
          rfl
        · obtain ⟨field, -, hfield⟩ := Option.bind_eq_some_iff.mp hota
          cases field with
          | none =>
            cases hfield
            rfl
          | some beacon =>
            dsimp only at hfield
            split_ifs at hfield
            · cases hfield
              rfl
            · cases hfield
              rfl
            · cases hfield
      rw [hst]

theorem scanResult_triggers_iff :
    s.otaTriggered = false ∧ (s.scanResult hmac keys adv nowUs).otaTriggered = true ↔
      s.inited = true ∧ ∃ recvMac, s.Answers hmac keys adv nowUs recvMac := by
  by_cases h : ∃ recvMac, s.Answers hmac keys adv nowUs recvMac
  · obtain ⟨recvMac, hanswers⟩ := h
    rw [scanResult_of_answers hanswers]
    refine ⟨?_, ?_⟩
    · rintro ⟨hidle, hafter⟩
      refine ⟨?_, recvMac, hanswers⟩
      by_contra hinit
      rw [if_neg hinit, hidle] at hafter
      cases hafter
    · rintro ⟨hinit, -⟩
      rw [if_pos hinit]
      exact ⟨hanswers.1, rfl⟩
  · rw [scanResult_of_silent (not_exists.mp h)]
    refine iff_of_false ?_ fun hr => h hr.2
    rintro ⟨hidle, hafter⟩
    rw [hidle] at hafter
    cases hafter

theorem scanResult_air {r : ScanResult} (hok : r.macOk = true) (hinit : s.inited = true)
    {air air' : AirState} {o : Option TagPayload} (htriggered : air.otaTriggered = s.otaTriggered)
    (hbeacon : air.ota = s.beacon) (h : acceptScanResult hmac r air = some (o, air')) :
    air'.otaTriggered = (s.scanResult hmac r.keys r.adv r.nowUs).otaTriggered ∧
      air'.ota = (s.scanResult hmac r.keys r.adv r.nowUs).beacon := by
  unfold acceptScanResult at h
  rw [hok, htriggered, hbeacon] at h
  obtain ⟨⟨trigger, ota⟩, hota, h⟩ := Option.bind_eq_some_iff.mp h
  have hair : air'.otaTriggered = (s.otaTriggered || trigger) ∧ air'.ota = ota := by
    dsimp only at h
    split_ifs at h
    · cases h
      exact ⟨rfl, rfl⟩
    · obtain ⟨⟨payload, epochs⟩, -, h⟩ := Option.bind_eq_some_iff.mp h
      cases h
      exact ⟨rfl, rfl⟩
  rw [hair.1, hair.2]
  unfold scanResult
  rw [hota]
  cases trigger with
  | true =>
    have hidle := ((otaBeacon_triggers_iff ..).mp hota).1
    simp [canStart, hinit, hidle]
  | false => simp

end Answer

end OtaScanner

def sharedKeys (master : Option Bytes) (key : Bytes) : AuthKeys :=
  { tagMaster := master, otaBeacon := some key }

def beaconMac (hmac : Hmac) (key : Bytes) (target : UInt8) : UInt16 :=
  hmac16 hmac true (some key) (signedBytes target)

def broadcast (hmac : Hmac) (key : Bytes) (target : UInt8) : Bytes :=
  beaconSend hmac true (some key) target sBeaconRaw

def Unverified (hmac : Hmac) (key adv : Bytes) : Prop :=
  ∀ recvMac data, otaFieldFrom adv 0 = some (some (recvMac, data)) →
    recvMac ≠ hmac16 hmac true (some key) data

/-- Receptions of one broadcast, all within its duration, among other advertisements, triggers
over the mesh and ends of OTA attempts. -/
structure BroadcastSchedule (hmac : Hmac) (key : Bytes) (target : UInt8) where
  events : List OtaScannerEvent
  firstUs : ℤ
  mixed : ∀ adv nowUs, .scanResult adv nowUs ∈ events →
    (adv = broadcast hmac key target ∧ firstUs ≤ nowUs ∧
      nowUs ≤ firstUs + bmtOtaBeaconDurationUs) ∨ Unverified hmac key adv

section Broadcast

variable {hmac : Hmac} {master : Option Bytes} {key : Bytes} {target : UInt8}

theorem otaFieldFrom_beaconSend (fs : List OtherField) (t h l : UInt8) :
    otaFieldFrom ((fs.map OtherField.bytes).flatten ++
        beaconSend hmac true (some key) target (beaconBytes t h l)) 0 =
      some (if IsTarget target then some (beaconMac hmac key target, signedBytes target)
        else none) := by
  rw [beaconSend_eq, otaFieldFrom_broadcast, u16OfLe_leBytes]
  rfl

/-- A broadcast is answered by the nodes it addresses, under its own MAC. -/
theorem answers_beaconSend_iff (fs : List OtherField) (t h l : UInt8) {nowUs : ℤ}
    {s : OtaScanner} {recvMac : UInt16} :
    s.Answers hmac (sharedKeys master key) ((fs.map OtherField.bytes).flatten ++
        beaconSend hmac true (some key) target (beaconBytes t h l)) nowUs recvMac ↔
      s.otaTriggered = false ∧ IsTarget target ∧ recvMac = beaconMac hmac key target ∧
        ¬s.CoolingDown recvMac nowUs := by
  unfold OtaScanner.Answers
  rw [otaFieldFrom_beaconSend]
  by_cases ht : IsTarget target
  · rw [if_pos ht]
    refine and_congr_right fun _ => ?_
    refine ⟨?_, ?_⟩
    · rintro ⟨⟨data, hfield, -⟩, hcool⟩
      cases hfield
      exact ⟨ht, rfl, hcool⟩
    · rintro ⟨-, rfl, hcool⟩
      exact ⟨⟨signedBytes target, rfl, rfl⟩, hcool⟩
  · rw [if_neg ht]
    refine iff_of_false ?_ fun h => ht h.2.1
    rintro ⟨-, ⟨data, hfield, -⟩, -⟩
    cases hfield

/-- Idle, initialised and not cooling down, a scanner is triggered by the broadcasts for it. -/
theorem triggered_by_beaconSend_iff (fs : List OtherField) (t h l : UInt8) (nowUs : ℤ)
    (s : OtaScanner) :
    s.otaTriggered = false ∧ (s.scanResult hmac (sharedKeys master key)
        ((fs.map OtherField.bytes).flatten ++
          beaconSend hmac true (some key) target (beaconBytes t h l)) nowUs).otaTriggered = true ↔
      (s.inited = true ∧ s.otaTriggered = false ∧
        ¬s.CoolingDown (beaconMac hmac key target) nowUs) ∧ IsTarget target := by
  rw [OtaScanner.scanResult_triggers_iff]
  simp only [answers_beaconSend_iff]
  refine ⟨?_, ?_⟩
  · rintro ⟨hinit, recvMac, hidle, ht, rfl, hcool⟩
    exact ⟨⟨hinit, hidle, hcool⟩, ht⟩
  · rintro ⟨⟨hinit, hidle, hcool⟩, ht⟩
    exact ⟨hinit, _, hidle, ht, rfl, hcool⟩

/-- No OTA started by the broadcast since there were `n`, or one, whose beacon is remembered. -/
def AtMostOnce (hmac : Hmac) (key : Bytes) (target : UInt8) (firstUs : ℤ) (n : ℕ)
    (s : OtaScanner) : Prop :=
  s.started.count (broadcast hmac key target) = n ∨
    s.started.count (broadcast hmac key target) = n + 1 ∧
      s.beacon.lastMac = beaconMac hmac key target ∧ firstUs ≤ s.beacon.lastUs

/-- The broadcast itself: what it started cools down longer than it lasts. -/
theorem AtMostOnce.heard {firstUs nowUs : ℤ} {n : ℕ} {s : OtaScanner}
    (h : AtMostOnce hmac key target firstUs n s) (hfirst : firstUs ≤ nowUs)
    (hlast : nowUs ≤ firstUs + bmtOtaBeaconDurationUs) :
    AtMostOnce hmac key target firstUs n (s.scanResult hmac (sharedKeys master key)
      (broadcast hmac key target) nowUs) := by
  by_cases ha : ∃ recvMac, s.Answers hmac (sharedKeys master key) (broadcast hmac key target) nowUs
      recvMac
  · obtain ⟨recvMac, hanswers⟩ := ha
    obtain ⟨hidle, ht, hmacs, hcool⟩ :=
      (answers_beaconSend_iff [] 0x01 0x00 0x00).mp hanswers
    have hnone : s.started.count (broadcast hmac key target) = n := by
      refine h.resolve_right ?_
      rintro ⟨-, hmac', hus⟩
      apply hcool
      refine ⟨hmacs.trans hmac'.symm, ?_⟩
      have hshort : bmtOtaBeaconDurationUs < bmtOtaBeaconCooldownUs := by decide
      omega
    rw [OtaScanner.scanResult_of_answers hanswers]
    by_cases hinit : s.inited = true
    · rw [if_pos hinit]
      refine Or.inr ⟨?_, hmacs, hfirst⟩
      dsimp only
      rw [List.count_append, hnone, List.count_singleton_self]
    · rw [if_neg hinit]
      exact Or.inl hnone
  · rw [OtaScanner.scanResult_of_silent (not_exists.mp ha)]
    exact h

theorem silent_of_unverified {adv : Bytes} (h : Unverified hmac key adv) (nowUs : ℤ)
    (s : OtaScanner) :
    s.scanResult hmac (sharedKeys master key) adv nowUs = s := by
  apply OtaScanner.scanResult_of_silent
  rintro recvMac ⟨-, ⟨data, hfield, hmacs⟩, -⟩
  exact h recvMac data hfield hmacs

theorem AtMostOnce.run {firstUs : ℤ} {n : ℕ} {es : List OtaScannerEvent} {s : OtaScanner}
    (h : AtMostOnce hmac key target firstUs n s)
    (hes : ∀ adv nowUs, .scanResult adv nowUs ∈ es →
      (adv = broadcast hmac key target ∧ firstUs ≤ nowUs ∧
        nowUs ≤ firstUs + bmtOtaBeaconDurationUs) ∨ Unverified hmac key adv) :
    AtMostOnce hmac key target firstUs n
      (es.foldl (OtaScanner.after hmac (sharedKeys master key)) s) := by
  induction es generalizing s with
  | nil => exact h
  | cons e es ih =>
    refine ih ?_ fun adv nowUs hmem => hes adv nowUs (List.mem_cons_of_mem e hmem)
    cases e with
    | scanResult adv nowUs =>
      unfold OtaScanner.after
      rcases hes adv nowUs List.mem_cons_self with ⟨rfl, hfirst, hlast⟩ | hun
      · exact h.heard hfirst hlast
      · dsimp only
        rw [silent_of_unverified hun nowUs s]
        exact h
    | otaTriggerMsg =>
      unfold OtaScanner.after
      dsimp only
      split_ifs
      · exact h
      · exact h
    | otaEnd => exact h

end Broadcast

/-- With a shared key, what the gateway broadcasts triggers an initialised idle scanner outside its
cool-down exactly when it is addressed, also behind fields of other vendors; and no schedule of
receptions of one broadcast starts more than one OTA by it. -/
theorem beacon_end_to_end (hmac : Hmac) (master : Option Bytes) (key : Bytes) (target : UInt8) :
    (∀ (fs : List OtherField) (t h l : UInt8) (nowUs : ℤ) (s : OtaScanner),
      s.otaTriggered = false ∧ (s.scanResult hmac (sharedKeys master key)
          ((fs.map OtherField.bytes).flatten ++
            beaconSend hmac true (some key) target (beaconBytes t h l)) nowUs).otaTriggered =
              true ↔
        (s.inited = true ∧ s.otaTriggered = false ∧
          ¬s.CoolingDown (beaconMac hmac key target) nowUs) ∧ IsTarget target) ∧
    ∀ (schedule : BroadcastSchedule hmac key target) (s : OtaScanner),
      (schedule.events.foldl (OtaScanner.after hmac (sharedKeys master key)) s).started.count
          (broadcast hmac key target) ≤ s.started.count (broadcast hmac key target) + 1 := by
  refine ⟨fun fs t h l nowUs s => triggered_by_beaconSend_iff fs t h l nowUs s, ?_⟩
  intro schedule s
  have honce : AtMostOnce hmac key target schedule.firstUs
      (s.started.count (broadcast hmac key target)) s := Or.inl rfl
  have hrun : AtMostOnce hmac key target schedule.firstUs
      (s.started.count (broadcast hmac key target))
      (schedule.events.foldl (OtaScanner.after hmac (sharedKeys master key)) s) :=
    honce.run schedule.mixed
  rcases hrun with hsame | ⟨hone, -, -⟩
  · exact hsame.le.trans (Nat.le_succ _)
  · exact hone.le

def beaconKey : Bytes := List.replicate 16 7

/-- A beacon for scanners with a MAC of zero, which is not what this key gives. -/
theorem unverified_zeroMac :
    Unverified echoHmac beaconKey (beaconBytes bmtNodeType 0x00 0x00) := by
  intro recvMac data hfield
  have hfound := otaFieldFrom_broadcast [] bmtNodeType 0x00 0x00
  rw [if_pos (by decide : IsTarget bmtNodeType)] at hfound
  cases hfield.symm.trans hfound
  decide +kernel

/-- A broadcast is received three times within its 15 s, with a forged beacon, a trigger over the mesh
and two ends of OTA attempts between. -/
def threeReceptions : BroadcastSchedule echoHmac beaconKey bmtNodeType where
  events :=
    [.scanResult (broadcast echoHmac beaconKey bmtNodeType) 100000000,
      .scanResult (beaconBytes bmtNodeType 0x00 0x00) 101000000, .otaEnd,
      .scanResult (broadcast echoHmac beaconKey bmtNodeType) 107000000, .otaTriggerMsg, .otaEnd,
      .scanResult (broadcast echoHmac beaconKey bmtNodeType) 114000000]
  firstUs := 100000000
  mixed := by
    intro adv nowUs hmem
    simp only [List.mem_cons, List.not_mem_nil, or_false, OtaScannerEvent.scanResult.injEq,
      reduceCtorEq, false_or] at hmem
    rcases hmem with ⟨rfl, rfl⟩ | ⟨rfl, -⟩ | ⟨rfl, rfl⟩ | ⟨rfl, rfl⟩
    · exact Or.inl ⟨rfl, by decide, by decide⟩
    · exact Or.inr unverified_zeroMac
    · exact Or.inl ⟨rfl, by decide, by decide⟩
    · exact Or.inl ⟨rfl, by decide, by decide⟩

theorem beacon_end_to_end_threeReceptions :
    (threeReceptions.events.foldl (OtaScanner.after echoHmac (sharedKeys none beaconKey))
        {}).started.count (broadcast echoHmac beaconKey bmtNodeType) ≤
      ({} : OtaScanner).started.count (broadcast echoHmac beaconKey bmtNodeType) + 1 :=
  (beacon_end_to_end echoHmac none beaconKey bmtNodeType).2 threeReceptions {}

/-- The first of them starts one. -/
example : (threeReceptions.events.foldl (OtaScanner.after echoHmac (sharedKeys none beaconKey))
    {}).started = [broadcast echoHmac beaconKey bmtNodeType] := by
  decide +kernel

end BleMeshTracking.Ota
