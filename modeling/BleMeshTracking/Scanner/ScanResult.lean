import BleMeshTracking.Scanner.EpochAuth
import BleMeshTracking.Tag.Signing

/-!
# The scanner: walking an advertisement

The two loops of `bmt_scan.c` over the AD structures of a scan result.  Every byte is read with a
bounds check, and a read outside the buffer makes the whole result `none`.
-/

namespace BleMeshTracking.Scanner

open Protocol

def bmtCidApple : UInt16 := 0x004C

def bmtTagMajorPerson : UInt16 := 0x0001

def bmtTagMajorAsset : UInt16 := 0x0002

def bmtPhoneTxPower1m : Int8 := -59

def bmtSystemUuidPrefix : Bytes := [0xAB, 0x00, 0x00, 0x00]

def bmtNodeType : UInt8 := 0x01

def bmtOtaBeaconCooldownUs : ℤ := 20 * 1000 * 1000

structure TagPayload where
  battery : UInt8
  tagId : UInt16
  txPower : Int8
  sequence : UInt8
  mac16 : UInt16
  deriving DecidableEq

def readBytes (adv : Bytes) (pos n : ℕ) : Option Bytes :=
  if pos + n ≤ adv.length then some ((adv.drop pos).take n) else none

def readBe (adv : Bytes) (pos : ℕ) : Option UInt16 := do
  let hi ← adv[pos]?
  let lo ← adv[pos + 1]?
  return u16OfLe lo hi

section Parse

variable {σ : Type} (verify : UInt16 → Bytes → UInt16 → σ → Bool × σ)

/-- An Espressif manufacturer field: the payload if it verifies. -/
def espressifField (adv : Bytes) (pos : ℕ) (s : σ) : Option (Option TagPayload × σ) := do
  let raw ← readBytes adv (pos + 4) 24
  let p := TagAdvPayload.ofBytes raw
  if raw.take 4 = bmtSystemUuidPrefix then
    let verdict := verify p.minor (raw.take 22) p.mac16 s
    if verdict.1 then
      return (some ⟨p.battery.toUInt8, p.minor, p.txPower, p.sequence, p.mac16⟩, verdict.2)
    else
      return (none, verdict.2)
  else
    return (none, s)

/-- An Apple iBeacon field, which carries no MAC. -/
def appleField (adv : Bytes) (pos : ℕ) : Option (Option TagPayload) := do
  let kind ← adv[pos + 4]?
  let size ← adv[pos + 5]?
  if kind = 0x02 ∧ size = 0x15 then
    let major ← readBe adv (pos + 22)
    let minor ← readBe adv (pos + 24)
    if major = bmtTagMajorPerson ∨ major = bmtTagMajorAsset then
      return some ⟨0, minor ||| 0x8000, bmtPhoneTxPower1m, 0, 0⟩
    else
      return none
  else
    return none

/-- The body of the loop for the field at `pos`; no payload means `next_field`. -/
def tagField (adv : Bytes) (pos : ℕ) (fieldLen : UInt8) (s : σ) :
    Option (Option TagPayload × σ) := do
  let fieldType ← adv[pos + 1]?
  if fieldType = 0xFF ∧ 3 ≤ fieldLen.toNat then
    let lo ← adv[pos + 2]?
    let hi ← adv[pos + 3]?
    if u16OfLe lo hi = bmtCidEspressif ∧ 1 + 2 + 24 ≤ fieldLen.toNat then
      espressifField verify adv pos s
    else if u16OfLe lo hi = bmtCidApple ∧ 26 ≤ fieldLen.toNat then
      return (← appleField adv pos, s)
    else
      return (none, s)
  else
    return (none, s)

def parseFrom (adv : Bytes) (pos : ℕ) (s : σ) : Option (Option TagPayload × σ) :=
  if pos < adv.length then do
    let fieldLen ← adv[pos]?
    if fieldLen = 0 ∨ adv.length ≤ pos + fieldLen.toNat then
      return (none, s)
    else
      match ← tagField verify adv pos fieldLen s with
      | (some p, s) => return (some p, s)
      | (none, s) => parseFrom adv (pos + fieldLen.toNat + 1) s
  else
    some (none, s)
termination_by adv.length - pos

def parseTagPayload (adv : Bytes) (s : σ) : Option (Option TagPayload × σ) :=
  if adv.length < 4 then some (none, s) else parseFrom verify adv 0 s

end Parse

section TagAdv

variable {σ : Type} (verify : UInt16 → Bytes → UInt16 → σ → Bool × σ)

theorem readBytes_of_eq {adv pre mid post : Bytes} (h : adv = pre ++ (mid ++ post)) :
    readBytes adv pre.length mid.length = some mid := by
  subst h
  simp [readBytes]

/-- An advertisement of one of our tags is offered to `verify` once, and accepted with exactly the
fields of its payload if that succeeds. -/
theorem parseTagPayload_tagAdv (p : TagAdvPayload) (huuid : p.uuid = Tag.bmtSystemUuid) (s : σ) :
    parseTagPayload verify ([0x02, 0x01, 0x06, 0x1B, 0xFF, 0xE5, 0x02] ++ p.toBytes) s =
      some (if (verify p.minor p.signedBytes p.mac16 s).1 then
          some ⟨p.battery.toUInt8, p.minor, p.txPower, p.sequence, p.mac16⟩ else none,
        (verify p.minor p.signedBytes p.mac16 s).2) := by
  generalize hadv : [0x02, 0x01, 0x06, 0x1B, 0xFF, 0xE5, 0x02] ++ p.toBytes = adv
  have hlen : adv.length = 31 := by simp [← hadv]
  have hraw : readBytes adv (3 + 4) 24 = some p.toBytes := by
    have h : adv = [0x02, 0x01, 0x06, 0x1B, 0xFF, 0xE5, 0x02] ++ (p.toBytes ++ []) := by
      rw [← hadv, List.append_nil]
    simpa using readBytes_of_eq h
  have hprefix : p.toBytes.take 4 = bmtSystemUuidPrefix := by
    simp [TagAdvPayload.toBytes, TagAdvPayload.signedBytes, huuid, Tag.bmtSystemUuid,
      bmtSystemUuidPrefix]
  have hfield : espressifField verify adv 3 s =
      some (if (verify p.minor p.signedBytes p.mac16 s).1 then
          some ⟨p.battery.toUInt8, p.minor, p.txPower, p.sequence, p.mac16⟩ else none,
        (verify p.minor p.signedBytes p.mac16 s).2) := by
    simp only [espressifField, hraw, Option.bind_eq_bind, Option.bind_some, hprefix,
      p.ofBytes_toBytes, p.take_toBytes, if_true]
    split_ifs
    · rfl
    · rfl
  have hget : ∀ i : ℕ, i < 7 → adv[i]? = [0x02, 0x01, 0x06, 0x1B, 0xFF, 0xE5, 0x02][i]? := by
    intro i hi
    rw [← hadv, List.getElem?_append_left (by simpa using hi)]
  -- the walk meets the flags at 0, the manufacturer data at 3 and the end at 31
  have hflags : tagField verify adv 0 2 s = some (none, s) := by
    simp [tagField, hget 1 (by omega)]
  have hfield' : tagField verify adv 3 27 s = espressifField verify adv 3 s := by
    have hcid : u16OfLe 0xE5 0x02 = bmtCidEspressif := by decide
    simp [tagField, hget 4 (by omega), hget 5 (by omega), hget 6 (by omega), hcid]
  have hend : ∀ s : σ, parseFrom verify adv 31 s = some (none, s) := by
    intro s
    rw [parseFrom, hlen, if_neg (by omega)]
  rw [parseTagPayload, hlen, if_neg (by omega), parseFrom, hlen, if_pos (by omega)]
  simp only [hget 0 (by omega), Option.bind_eq_bind, Option.bind_some, List.getElem?_cons_zero]
  rw [if_neg (by decide), hflags, Option.bind_some]
  simp only
  rw [show 0 + (2 : UInt8).toNat + 1 = 3 from rfl, parseFrom, hlen, if_pos (by omega)]
  simp only [hget 3 (by omega), Option.bind_eq_bind, Option.bind_some, List.getElem?_cons_succ,
    List.getElem?_cons_zero]
  rw [if_neg (by decide), hfield', hfield, Option.bind_some]
  split_ifs
  · rfl
  · exact hend _

end TagAdv

def isOtaField (adv : Bytes) (i : ℕ) (fieldLen : UInt8) : Option Bool := do
  let fieldType ← adv[i + 1]?
  let head ← readBytes adv (i + 2) 6
  let target ← adv[i + 8]?
  return fieldType = 0xFF ∧ 10 ≤ fieldLen.toNat ∧
    head = [0xE5, 0x02, 0x42, 0x4D, 0x54, 0xFA] ∧ (target = bmtNodeType ∨ target = 0xFF)

/-- The OTA-beacon loop of `gap_event_handler` from `i` on: the MAC and the five bytes it covers
in the first field addressed to this node. -/
def otaFieldFrom (adv : Bytes) (i : ℕ) : Option (Option (UInt16 × Bytes)) :=
  if i + 10 < adv.length then do
    let fieldLen ← adv[i]?
    if fieldLen = 0 then
      return none
    else if ← isOtaField adv i fieldLen then
      return some (← readBe adv (i + 9), ← readBytes adv (i + 4) 5)
    else
      otaFieldFrom adv (i + fieldLen.toNat + 1)
  else
    some none
termination_by adv.length - i

/-- `s_last_ota_beacon_mac` and `s_last_ota_beacon_us`. -/
structure OtaBeaconState where
  lastMac : UInt16 := 0
  lastUs : ℤ := -bmtOtaBeaconCooldownUs

/-- The OTA-beacon part of `gap_event_handler`: whether `bmt_ota_trigger` is called. -/
def otaBeacon (hmac : Hmac) (macOk : Bool) (keys : AuthKeys) (otaIsTriggered : Bool) (adv : Bytes)
    (nowUs : ℤ) (st : OtaBeaconState) : Option (Bool × OtaBeaconState) :=
  if otaIsTriggered then
    some (false, st)
  else do
    match ← otaFieldFrom adv 0 with
    | none => return (false, st)
    | some (recvMac, data) =>
      if recvMac ≠ bmtAuthOtaBeaconHmac16 hmac macOk keys data then
        return (false, st)
      else if recvMac = st.lastMac ∧ nowUs - st.lastUs < bmtOtaBeaconCooldownUs then
        return (false, st)
      else
        return (true, ⟨recvMac, nowUs⟩)

/-- An advertisement without an OTA beacon leaves the OTA alone. -/
theorem otaBeacon_of_noField {adv : Bytes} (h : otaFieldFrom adv 0 = some none) (hmac : Hmac)
    (macOk : Bool) (keys : AuthKeys) (otaIsTriggered : Bool) (nowUs : ℤ) (st : OtaBeaconState) :
    otaBeacon hmac macOk keys otaIsTriggered adv nowUs st = some (false, st) := by
  unfold otaBeacon
  rw [h]
  split_ifs
  · rfl
  · rfl

end BleMeshTracking.Scanner
