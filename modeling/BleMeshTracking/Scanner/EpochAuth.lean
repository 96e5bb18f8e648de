import BleMeshTracking.Library.SlotTable
import BleMeshTracking.Protocol.Payload

/-!
# The scanner: verifying tags and OTA beacons

`bmt_auth.c` of the scanner.  A key handle stands for the imported key, `none` for the null
handle; which calls of the crypto library succeed is a parameter of every function that makes
one.
-/

namespace BleMeshTracking.Scanner

open Protocol

def bmtTagMasterKey : Bytes :=
  [0x76, 0x9F, 0xD5, 0x0D, 0xDF, 0x25, 0xA7, 0x7B, 0x12, 0x7F, 0xDB, 0xC0, 0xCB, 0xFF, 0xF8, 0xB1]

/-- `BMT_OTA_BEACON_HMAC_KEY`, used until a rotation was received. -/
def bmtOtaBeaconHmacKey : Bytes :=
  [0x90, 0x01, 0x7F, 0xA8, 0x39, 0xF5, 0xC2, 0x3B, 0x02, 0xB2, 0xCA, 0xB3, 0xFD, 0x91, 0x2C, 0x9C]

def bmtEpochTickSec : ℤ := 3600

def bmtEpochTickUs : ℤ := 1000000 * bmtEpochTickSec

def bmtEpochWideMax : ℕ := 200

def bmtAuthMaxTags : ℕ := 20

/-- `s_tag_master_key_id` and `s_ota_beacon_key_id`. -/
structure AuthKeys where
  tagMaster : Option Bytes := none
  otaBeacon : Option Bytes := none

def importHmacKey (ok : Bool) (key : Bytes) : Option Bytes := if ok then some key else none

/-- Which calls of `bmt_auth_init` succeed, and the blob it reads from NVS, if any. -/
structure InitCalls where
  cryptoInit : Bool := true
  importMaster : Bool := true
  importOta : Bool := true
  nvsBlob : Option Bytes := none

def bmtAuthInit (calls : InitCalls) (keys : AuthKeys) : AuthKeys :=
  if calls.cryptoInit then
    { tagMaster := importHmacKey calls.importMaster bmtTagMasterKey
      otaBeacon := importHmacKey calls.importOta <|
        match calls.nvsBlob with
        | some blob => if blob.length = 16 then blob else bmtOtaBeaconHmacKey
        | none => bmtOtaBeaconHmacKey }
  else
    keys

/-- `hmac16`; failure is the value 0. -/
def hmac16 (hmac : Hmac) (ok : Bool) (key : Option Bytes) (data : Bytes) : UInt16 :=
  match psaMacCompute hmac ok key data with
  | none => 0
  | some mac => mac16OfDigest mac

def bmtAuthOtaBeaconHmac16 (hmac : Hmac) (ok : Bool) (keys : AuthKeys) (data : Bytes) : UInt16 :=
  hmac16 hmac ok keys.otaBeacon data

structure TryCalls where
  derive : Bool := true
  importKey : Bool := true
  mac : Bool := true

def tryEpoch (hmac : Hmac) (calls : TryCalls) (master : Option Bytes) (epoch : UInt16)
    (data : Bytes) (receivedMac : UInt16) : Bool :=
  match psaMacCompute hmac calls.derive master (leBytes epoch) with
  | none => false
  | some derived =>
    calls.importKey && hmac16 hmac calls.mac (some (keyOfDigest derived)) data == receivedMac

/-- `bmt_auth_epoch_state_t`; `lockedAtUs = 0` means never locked. -/
structure EpochState where
  valid : Bool := false
  tagId : UInt16 := 0
  lockedEpoch : UInt16 := 0
  lockedAtUs : ℤ := 0
  deriving DecidableEq

abbrev EpochTable := Fin bmtAuthMaxTags → EpochState

def EpochState.isOf (tagId : UInt16) (st : EpochState) : Bool := st.valid && st.tagId == tagId

def EpochState.isFree (st : EpochState) : Bool := !st.valid

def EpochState.fresh (tagId : UInt16) : EpochState := { valid := true, tagId := tagId }

/-- `find_or_alloc_epoch_state`; `none` is out of slots. -/
def findOrAllocEpochState (tagId : UInt16) (tbl : EpochTable) :
    Option (Fin bmtAuthMaxTags) × EpochTable :=
  SlotTable.acquire (EpochState.isOf tagId) EpochState.isFree (EpochState.fresh tagId) tbl

def bmtAuthGetLockedEpoch (tagId : UInt16) (tbl : EpochTable) : ℤ :=
  match SlotTable.find (fun st => st.isOf tagId && decide (0 < st.lockedAtUs)) tbl with
  | some i => (tbl i).lockedEpoch.toNat
  | none => -1

/-- One epoch tried: by the narrow loop or by the wide resync. -/
inductive Attempt
  | narrow (epoch : UInt16)
  | wide (epoch : UInt16)
  deriving DecidableEq

def Attempt.epoch : Attempt → UInt16
  | .narrow e => e
  | .wide e => e

def Attempt.isNarrow : Attempt → Bool
  | .narrow _ => true
  | .wide _ => false

/-- The epoch predicted from the last lock and the ticks elapsed since. -/
def EpochState.predicted (st : EpochState) (nowUs : ℤ) : UInt16 :=
  UInt16.ofInt (st.lockedEpoch.toNat + (nowUs - st.lockedAtUs).tdiv bmtEpochTickUs)

/-- The narrow loop, `d` from `-BMT_EPOCH_NARROW_WINDOW` to `BMT_EPOCH_NARROW_WINDOW`. -/
def EpochState.narrowAttempts (st : EpochState) (nowUs : ℤ) : List Attempt :=
  [-1, 0, 1].map fun d => .narrow (UInt16.ofInt ((st.predicted nowUs).toNat + d))

@[irreducible]
def wideAttempts : List Attempt :=
  (List.range (bmtEpochWideMax + 1)).map fun e => .wide (UInt16.ofNat e)

/-- The epochs `bmt_auth_verify_tag` tries, in order; the narrow ones only for a locked slot. -/
def attempts (st : Option EpochState) (nowUs : ℤ) : List Attempt :=
  match st with
  | some st => if st.lockedAtUs > 0 then st.narrowAttempts nowUs ++ wideAttempts else wideAttempts
  | none => wideAttempts

/-- Both loops of `bmt_auth_verify_tag` store the epoch that verified and the time, if the tag
has a slot. -/
def storeLock (slot : Option (Fin bmtAuthMaxTags)) (verified : Option Attempt) (nowUs : ℤ)
    (tbl : EpochTable) : EpochTable :=
  match slot, verified with
  | some i, some a =>
    Function.update tbl i { tbl i with lockedEpoch := a.epoch, lockedAtUs := nowUs }
  | _, _ => tbl

/-- `bmt_auth_verify_tag`: the attempt that verified, `none` for `false`, and the table after
the call. -/
def bmtAuthVerifyTag (hmac : Hmac) (calls : Attempt → TryCalls) (keys : AuthKeys)
    (tagId : UInt16) (data : Bytes) (receivedMac : UInt16) (nowUs : ℤ) (tbl : EpochTable) :
    Option Attempt × EpochTable :=
  let slot := findOrAllocEpochState tagId tbl
  let verified := (attempts (slot.1.map slot.2) nowUs).find? fun a =>
    tryEpoch hmac (calls a) keys.tagMaster a.epoch data receivedMac
  (verified, storeLock slot.1 verified nowUs slot.2)

def slotFor (tagId : UInt16) (tbl : EpochTable) : Option EpochState :=
  (findOrAllocEpochState tagId tbl).1.map (findOrAllocEpochState tagId tbl).2

def attemptsFor (tagId : UInt16) (nowUs : ℤ) (tbl : EpochTable) : List Attempt :=
  attempts (slotFor tagId tbl) nowUs

@[simp]
theorem isOf_eq_true_iff {tagId : UInt16} {st : EpochState} :
    st.isOf tagId = true ↔ st.valid = true ∧ st.tagId = tagId := by
  simp [EpochState.isOf]

theorem isOf_fresh (tagId : UInt16) : (EpochState.fresh tagId).isOf tagId = true := by
  simp [EpochState.fresh]

theorem isOf_other {tagId other : UInt16} (h : other ≠ tagId) {st : EpochState}
    (hst : st.isOf tagId = true) : st.isOf other = false := by
  rw [Bool.eq_false_iff]
  intro hother
  exact h ((isOf_eq_true_iff.mp hother).2.symm.trans (isOf_eq_true_iff.mp hst).2)

theorem isOf_of_isFree {tagId : UInt16} {st : EpochState} (h : st.isFree = true) :
    st.isOf tagId = false := by
  simp_all [EpochState.isFree, EpochState.isOf]

theorem slotFor_isSome_iff (tagId : UInt16) (tbl : EpochTable) :
    (slotFor tagId tbl).isSome ↔ ∃ i, (tbl i).isOf tagId ∨ (tbl i).isFree := by
  rw [slotFor, Option.isSome_map]
  exact SlotTable.acquire_isSome_iff

theorem slotFor_of_find {tagId : UInt16} {tbl : EpochTable} {i : Fin bmtAuthMaxTags}
    (h : SlotTable.find (EpochState.isOf tagId) tbl = some i) :
    slotFor tagId tbl = some (tbl i) := by
  rw [slotFor, findOrAllocEpochState, SlotTable.acquire_of_find h]
  rfl

theorem slotFor_eq_none_iff {tagId : UInt16} {tbl : EpochTable} :
    slotFor tagId tbl = none ↔
      ∀ i, (tbl i).isOf tagId = false ∧ (tbl i).isFree = false := by
  rw [← Option.not_isSome_iff_eq_none, slotFor_isSome_iff]
  simp only [not_exists, not_or, Bool.not_eq_true]

/-- What `find_or_alloc_epoch_state` leaves in the table: the slot it returns, under the tag. -/
theorem find_findOrAlloc {tagId : UInt16} {tbl : EpochTable} {i : Fin bmtAuthMaxTags}
    (h : (findOrAllocEpochState tagId tbl).1 = some i) :
    SlotTable.find (EpochState.isOf tagId) (findOrAllocEpochState tagId tbl).2 = some i :=
  SlotTable.find_acquire (isOf_fresh tagId) h

theorem findOrAlloc_of_none {tagId : UInt16} {tbl : EpochTable}
    (h : slotFor tagId tbl = none) : findOrAllocEpochState tagId tbl = (none, tbl) := by
  have hall := slotFor_eq_none_iff.mp h
  exact SlotTable.acquire_of_full (SlotTable.find_eq_none_iff.mpr fun i => (hall i).1)
    (SlotTable.find_eq_none_iff.mpr fun i => (hall i).2)

/-- A slot stores what verified, and keeps its tag. -/
theorem slotFor_storeLock (tagId : UInt16) (tbl : EpochTable) (verified : Option Attempt)
    (nowUs : ℤ) :
    slotFor tagId (storeLock (findOrAllocEpochState tagId tbl).1 verified nowUs
        (findOrAllocEpochState tagId tbl).2) =
      (slotFor tagId tbl).map fun st =>
        match verified with
        | some a => { st with lockedEpoch := a.epoch, lockedAtUs := nowUs }
        | none => st := by
  cases hslot : (findOrAllocEpochState tagId tbl).1 with
  | none =>
    -- the table is full of other tags
    have hnone : slotFor tagId tbl = none := by simp [slotFor, hslot]
    rw [findOrAlloc_of_none hnone, hnone]
    exact hnone
  | some i =>
    have hfind := find_findOrAlloc hslot
    have hst := SlotTable.find_sat hfind
    have hold : slotFor tagId tbl = some ((findOrAllocEpochState tagId tbl).2 i) := by
      rw [slotFor, hslot]
      rfl
    rw [hold]
    cases verified with
    | none => exact slotFor_of_find hfind
    | some a =>
      rw [storeLock, slotFor_of_find (SlotTable.find_update_self hfind _), Function.update_self]
      · rfl
      · simpa using hst

theorem bmtAuthGetLockedEpoch_of_find {tagId : UInt16} {tbl : EpochTable}
    {i : Fin bmtAuthMaxTags} (h : SlotTable.find (EpochState.isOf tagId) tbl = some i)
    (hlocked : 0 < (tbl i).lockedAtUs) :
    bmtAuthGetLockedEpoch tagId tbl = (tbl i).lockedEpoch.toNat := by
  obtain ⟨hi, hlt⟩ := SlotTable.find_eq_some_iff.mp h
  have hfind : SlotTable.find (fun st => st.isOf tagId && decide (0 < st.lockedAtUs)) tbl =
      some i := by
    have hp : (EpochState.isOf tagId (tbl i) && decide (0 < (tbl i).lockedAtUs)) = true := by
      rw [hi, decide_eq_true hlocked]
      rfl
    refine SlotTable.find_eq_some_iff.mpr ⟨hp, fun j hj => ?_⟩
    rw [hlt j hj, Bool.false_and]
  unfold bmtAuthGetLockedEpoch
  rw [hfind]

theorem storeLock_valid (slot : Option (Fin bmtAuthMaxTags)) (verified : Option Attempt)
    (nowUs : ℤ) (tbl : EpochTable) (j : Fin bmtAuthMaxTags) :
    (storeLock slot verified nowUs tbl j).valid = (tbl j).valid := by
  match slot, verified with
  | none, _ => rfl
  | some _, none => rfl
  | some i, some a =>
    by_cases hji : j = i
    · subst hji
      simp [storeLock]
    · simp [storeLock, Function.update_of_ne hji]

section Verify

variable (hmac : Hmac) (calls : Attempt → TryCalls) (keys : AuthKeys) (tagId : UInt16)
  (data : Bytes) (receivedMac : UInt16) (nowUs : ℤ) (tbl : EpochTable)

theorem bmtAuthVerifyTag_fst :
    (bmtAuthVerifyTag hmac calls keys tagId data receivedMac nowUs tbl).1 =
      (attemptsFor tagId nowUs tbl).find? fun a =>
        tryEpoch hmac (calls a) keys.tagMaster a.epoch data receivedMac := by
  simp only [bmtAuthVerifyTag, attemptsFor, slotFor]

theorem bmtAuthVerifyTag_snd :
    (bmtAuthVerifyTag hmac calls keys tagId data receivedMac nowUs tbl).2 =
      storeLock (findOrAllocEpochState tagId tbl).1
        (bmtAuthVerifyTag hmac calls keys tagId data receivedMac nowUs tbl).1 nowUs
        (findOrAllocEpochState tagId tbl).2 := by
  simp only [bmtAuthVerifyTag]

/-- After a verification the tag keeps its slot, with the lock that has just been stored. -/
theorem slotFor_verify :
    slotFor tagId (bmtAuthVerifyTag hmac calls keys tagId data receivedMac nowUs tbl).2 =
      (slotFor tagId tbl).map fun st =>
        match (bmtAuthVerifyTag hmac calls keys tagId data receivedMac nowUs tbl).1 with
        | some a => { st with lockedEpoch := a.epoch, lockedAtUs := nowUs }
        | none => st := by
  rw [bmtAuthVerifyTag_snd]
  exact slotFor_storeLock tagId tbl _ nowUs

/-- Verifying one tag does not touch the slot another one has. -/
theorem find_verify_other {other : UInt16} (h : other ≠ tagId) :
    SlotTable.find (EpochState.isOf other)
        (bmtAuthVerifyTag hmac calls keys tagId data receivedMac nowUs tbl).2 =
      SlotTable.find (EpochState.isOf other) tbl := by
  have halloc : SlotTable.find (EpochState.isOf other) (findOrAllocEpochState tagId tbl).2 =
      SlotTable.find (EpochState.isOf other) tbl :=
    SlotTable.find_acquire_other (isOf_other h (isOf_fresh tagId)) fun _ => isOf_of_isFree
  rw [bmtAuthVerifyTag_snd, ← halloc]
  unfold storeLock
  split
  · rename_i i a hslot _
    have hst := isOf_other h (SlotTable.find_sat (find_findOrAlloc hslot))
    exact SlotTable.find_update_other hst hst
  · rfl

theorem verify_apply_other {other : UInt16} (h : other ≠ tagId) {j : Fin bmtAuthMaxTags}
    (hj : (tbl j).isOf other = true) :
    (bmtAuthVerifyTag hmac calls keys tagId data receivedMac nowUs tbl).2 j = tbl j := by
  have hvalid : (tbl j).isFree = false := by
    simp [EpochState.isFree, (isOf_eq_true_iff.mp hj).1]
  have halloc : (findOrAllocEpochState tagId tbl).2 j = tbl j :=
    SlotTable.acquire_of_occupied hvalid
  rw [bmtAuthVerifyTag_snd]
  cases hslot : (findOrAllocEpochState tagId tbl).1 with
  | none => exact halloc
  | some i =>
    have hi := SlotTable.find_sat (find_findOrAlloc hslot)
    cases (bmtAuthVerifyTag hmac calls keys tagId data receivedMac nowUs tbl).1 with
    | none => exact halloc
    | some a =>
      refine (Function.update_of_ne (fun hji => ?_) _ _).trans halloc
      rw [← hji, halloc, isOf_other h.symm hj] at hi
      cases hi

theorem verify_valid {j : Fin bmtAuthMaxTags} (hj : (tbl j).valid = true) :
    ((bmtAuthVerifyTag hmac calls keys tagId data receivedMac nowUs tbl).2 j).valid = true := by
  have halloc : ((findOrAllocEpochState tagId tbl).2 j).valid = true := by
    have hfree : (tbl j).isFree = false := by simp [EpochState.isFree, hj]
    rw [findOrAllocEpochState, SlotTable.acquire_of_occupied hfree]
    exact hj
  rw [bmtAuthVerifyTag_snd, storeLock_valid]
  exact halloc

/-- Verifying one tag changes nothing for another that has a slot, or that found the table
full. -/
theorem slotFor_verify_other {other : UInt16} (h : other ≠ tagId)
    (hother : (SlotTable.find (EpochState.isOf other) tbl).isSome ∨ slotFor other tbl = none) :
    slotFor other (bmtAuthVerifyTag hmac calls keys tagId data receivedMac nowUs tbl).2 =
      slotFor other tbl := by
  have hfind := find_verify_other hmac calls keys tagId data receivedMac nowUs tbl h
  rcases hother with hsome | hnone
  · obtain ⟨i, hi⟩ := Option.isSome_iff_exists.mp hsome
    rw [slotFor_of_find (hfind.trans hi), slotFor_of_find hi,
      verify_apply_other hmac calls keys tagId data receivedMac nowUs tbl h
        (SlotTable.find_sat hi)]
  · have hall := slotFor_eq_none_iff.mp hnone
    have hnofind : SlotTable.find (EpochState.isOf other) tbl = none :=
      SlotTable.find_eq_none_iff.mpr fun i => (hall i).1
    rw [hnone, slotFor_eq_none_iff]
    refine fun i => ⟨SlotTable.find_eq_none_iff.mp (hfind.trans hnofind) i, ?_⟩
    have hvalid : (tbl i).valid = true := by simpa [EpochState.isFree] using (hall i).2
    simp [EpochState.isFree, verify_valid hmac calls keys tagId data receivedMac nowUs tbl hvalid]

/-- After a verification a tag has the slot it was given, or found the table full. -/
theorem find_verify :
    (SlotTable.find (EpochState.isOf tagId)
        (bmtAuthVerifyTag hmac calls keys tagId data receivedMac nowUs tbl).2).isSome ∨
      slotFor tagId (bmtAuthVerifyTag hmac calls keys tagId data receivedMac nowUs tbl).2 =
        none := by
  rw [slotFor_verify, bmtAuthVerifyTag_snd]
  cases hslot : (findOrAllocEpochState tagId tbl).1 with
  | none =>
    refine Or.inr ?_
    rw [slotFor, hslot]
    rfl
  | some i =>
    have hfind := find_findOrAlloc hslot
    refine Or.inl (Option.isSome_iff_exists.mpr ⟨i, ?_⟩)
    unfold storeLock
    split
    · rename_i j a hj _
      cases hj
      exact SlotTable.find_update_self hfind (by simpa using SlotTable.find_sat hfind)
    · exact hfind

theorem bmtAuthGetLockedEpoch_verify {st : EpochState}
    (hst : slotFor tagId
      (bmtAuthVerifyTag hmac calls keys tagId data receivedMac nowUs tbl).2 = some st)
    (hlocked : 0 < st.lockedAtUs) :
    bmtAuthGetLockedEpoch tagId
        (bmtAuthVerifyTag hmac calls keys tagId data receivedMac nowUs tbl).2 =
      st.lockedEpoch.toNat := by
  rcases find_verify hmac calls keys tagId data receivedMac nowUs tbl with hown | hnone
  · obtain ⟨i, hi⟩ := Option.isSome_iff_exists.mp hown
    have hsti := Option.some.inj ((slotFor_of_find hi).symm.trans hst)
    rw [bmtAuthGetLockedEpoch_of_find hi (by rw [hsti]; exact hlocked), hsti]
  · rw [hnone] at hst
    cases hst

end Verify

end BleMeshTracking.Scanner
