import BleMeshTracking.Protocol.Payload

/-!
# The tag: epoch keys and advertisements

`bmt_auth.c` and `build_adv_data` of both tag firmwares.  They differ in the unit of their uptime
clock and in how the advertisement is put together, not in what goes on the air.
-/

namespace BleMeshTracking.Tag

open Protocol

inductive Firmware
  | esp32
  | nrf52840
  deriving DecidableEq

def bmtEpochTickSec : ℕ := 3600

def bmtTagMasterKey : Bytes :=
  [0x76, 0x9F, 0xD5, 0x0D, 0xDF, 0x25, 0xA7, 0x7B, 0x12, 0x7F, 0xDB, 0xC0, 0xCB, 0xFF, 0xF8, 0xB1]

/-- `current_epoch`: `esp_timer_get_time` counts microseconds, `k_uptime_get` milliseconds. -/
def currentEpoch (fw : Firmware) (uptimeUs : ℕ) : UInt16 :=
  match fw with
  | .esp32 => UInt16.ofNat (uptimeUs / (1000000 * bmtEpochTickSec))
  | .nrf52840 => UInt16.ofNat (uptimeUs / 1000 / (1000 * bmtEpochTickSec))

/-- The two firmwares agree on the epoch. -/
theorem currentEpoch_eq (fw : Firmware) (uptimeUs : ℕ) :
    currentEpoch fw uptimeUs = UInt16.ofNat (uptimeUs / (1000000 * bmtEpochTickSec)) := by
  cases fw with
  | esp32 => rfl
  | nrf52840 =>
    have hdiv : uptimeUs / 1000 / (1000 * bmtEpochTickSec) =
        uptimeUs / (1000000 * bmtEpochTickSec) := by
      rw [Nat.div_div_eq_div_mul]
      rfl
    exact congrArg UInt16.ofNat hdiv

/-- The keys imported into the crypto library, by handle; handle 0 is never given out. -/
structure KeyStore where
  nextId : ℕ := 1
  live : ℕ → Option Bytes := fun _ => none

def KeyStore.importKey (ks : KeyStore) (ok : Bool) (key : Bytes) : Option (ℕ × KeyStore) :=
  if ok then
    some (ks.nextId, { nextId := ks.nextId + 1, live := Function.update ks.live ks.nextId key })
  else
    none

def KeyStore.destroyKey (ks : KeyStore) (id : ℕ) : KeyStore :=
  { ks with live := Function.update ks.live id none }

/-- The statics of `bmt_auth.c`; an id of 0 stands for no key. -/
structure Auth where
  keys : KeyStore := {}
  masterKeyId : ℕ := 0
  epochKeyId : ℕ := 0
  cachedEpoch : UInt16 := 0xFFFF

structure SignCalls where
  derive : Bool := true
  importKey : Bool := true
  mac : Bool := true

def Auth.ensureEpochKey (hmac : Hmac) (calls : SignCalls) (epoch : UInt16) (s : Auth) : Auth :=
  if epoch = s.cachedEpoch ∧ s.epochKeyId ≠ 0 then
    s
  else
    match psaMacCompute hmac calls.derive (s.keys.live s.masterKeyId) (leBytes epoch) with
    | none => s
    | some derived =>
      let keys := if s.epochKeyId ≠ 0 then s.keys.destroyKey s.epochKeyId else s.keys
      match keys.importKey calls.importKey (keyOfDigest derived) with
      | none => { s with keys := keys, epochKeyId := 0 }
      | some (id, keys) => { s with keys := keys, epochKeyId := id, cachedEpoch := epoch }

def Auth.bmtAuthInit (hmac : Hmac) (cryptoInit importMaster : Bool) (calls : SignCalls)
    (fw : Firmware) (uptimeUs : ℕ) (s : Auth) : Auth :=
  if cryptoInit then
    match s.keys.importKey importMaster bmtTagMasterKey with
    | none => s
    | some (id, keys) =>
      { s with keys := keys, masterKeyId := id }.ensureEpochKey hmac calls
        (currentEpoch fw uptimeUs)
  else
    s

/-- `bmt_auth_hmac16`; a failing MAC is the value 0. -/
def Auth.bmtAuthHmac16 (hmac : Hmac) (calls : SignCalls) (fw : Firmware) (uptimeUs : ℕ)
    (data : Bytes) (s : Auth) : UInt16 × Auth :=
  let s := s.ensureEpochKey hmac calls (currentEpoch fw uptimeUs)
  match psaMacCompute hmac calls.mac (s.keys.live s.epochKeyId) data with
  | none => (0, s)
  | some mac => (mac16OfDigest mac, s)

/-- The master key is imported, and a cached epoch key belongs to the cached epoch. -/
structure Auth.Ready (hmac : Hmac) (s : Auth) : Prop where
  masterLive : s.keys.live s.masterKeyId = some bmtTagMasterKey
  masterOld : s.masterKeyId < s.keys.nextId
  masterApart : s.masterKeyId ≠ s.epochKeyId
  epochLive : s.epochKeyId ≠ 0 →
    s.keys.live s.epochKeyId = some (epochKey hmac bmtTagMasterKey s.cachedEpoch)

theorem KeyStore.destroyKey_live_of_ne (ks : KeyStore) {id id' : ℕ} (h : id' ≠ id) :
    (ks.destroyKey id).live id' = ks.live id' := Function.update_of_ne h _ _

/-- With every call succeeding, the epoch key is the key of the epoch asked for. -/
theorem Auth.ready_ensureEpochKey {hmac : Hmac} {s : Auth} (h : s.Ready hmac)
    (epoch : UInt16) :
    (s.ensureEpochKey hmac {} epoch).Ready hmac ∧
      (s.ensureEpochKey hmac {} epoch).keys.live (s.ensureEpochKey hmac {} epoch).epochKeyId =
        some (epochKey hmac bmtTagMasterKey epoch) := by
  by_cases hcached : epoch = s.cachedEpoch ∧ s.epochKeyId ≠ 0
  · rw [Auth.ensureEpochKey, if_pos hcached]
    refine ⟨h, ?_⟩
    rw [h.epochLive hcached.2, hcached.1]
  · rw [Auth.ensureEpochKey, if_neg hcached, h.masterLive]
    generalize hks : (if s.epochKeyId ≠ 0 then s.keys.destroyKey s.epochKeyId else s.keys) = ks
    -- destroying the old epoch key leaves the master key alone
    have hlive : ks.live s.masterKeyId = some bmtTagMasterKey := by
      subst hks
      split_ifs
      · rw [s.keys.destroyKey_live_of_ne h.masterApart, h.masterLive]
      · exact h.masterLive
    have hnext : s.masterKeyId < ks.nextId := by
      subst hks
      split_ifs
      · exact h.masterOld
      · exact h.masterOld
    have hnew : (Function.update ks.live ks.nextId
        (some (epochKey hmac bmtTagMasterKey epoch))) ks.nextId =
          some (epochKey hmac bmtTagMasterKey epoch) := Function.update_self _ _ _
    refine ⟨⟨?_, ?_, hnext.ne, fun _ => hnew⟩, hnew⟩
    · exact (Function.update_of_ne hnext.ne _ _).trans hlive
    · exact Nat.lt_succ_of_lt hnext

theorem Auth.ready_bmtAuthInit (hmac : Hmac) (fw : Firmware) (uptimeUs : ℕ) :
    (Auth.bmtAuthInit hmac true true {} fw uptimeUs {}).Ready hmac := by
  have hlive : Function.update (fun _ => none : ℕ → Option Bytes) 1 (some bmtTagMasterKey) 1 =
      some bmtTagMasterKey := Function.update_self _ _ _
  exact (Auth.ready_ensureEpochKey ⟨hlive, Nat.lt_succ_self _, Nat.one_ne_zero,
    fun h => absurd rfl h⟩ _).1

/-- A signature is the MAC under the key of the epoch it is made in. -/
theorem Auth.bmtAuthHmac16_eq {hmac : Hmac} {s : Auth} (h : s.Ready hmac) (fw : Firmware)
    (uptimeUs : ℕ) (data : Bytes) :
    (s.bmtAuthHmac16 hmac {} fw uptimeUs data).1 =
        epochMac16 hmac bmtTagMasterKey (currentEpoch fw uptimeUs) data ∧
      (s.bmtAuthHmac16 hmac {} fw uptimeUs data).2.Ready hmac := by
  obtain ⟨hready, hlive⟩ := Auth.ready_ensureEpochKey h (currentEpoch fw uptimeUs)
  simp only [Auth.bmtAuthHmac16, hlive]
  exact ⟨rfl, hready⟩

def bmtSystemUuid (i : Fin 16) : UInt8 := if i = 0 then 0xAB else 0

/-- The values `build_adv_data` reads: battery, `BMT_TAG_MINOR`, `BMT_TAG_TX_POWER` and the
running sequence number. -/
structure AdvFields where
  battery : UInt8
  minor : UInt16
  txPower : Int8
  sequence : UInt8

/-- The bytes on the air: `s_adv_raw` on the ESP32, the two `bt_data` entries on the nRF52840. -/
def advData (fw : Firmware) (p : TagAdvPayload) : Bytes :=
  match fw with
  | .esp32 => [0x02, 0x01, 0x06, 0x1B, 0xFF, 0xE5, 0x02] ++ p.toBytes
  | .nrf52840 => adStructure 0x01 [0x06] ++ adStructure 0xFF (leBytes bmtCidEspressif ++ p.toBytes)

def unsignedPayload (f : AdvFields) : TagAdvPayload where
  uuid := bmtSystemUuid
  battery := f.battery.toUInt16
  minor := f.minor
  txPower := f.txPower
  sequence := f.sequence
  mac16 := 0

def buildAdvData (hmac : Hmac) (calls : SignCalls) (fw : Firmware) (f : AdvFields)
    (uptimeUs : ℕ) (s : Auth) : Bytes × Auth :=
  let signed := s.bmtAuthHmac16 hmac calls fw uptimeUs (unsignedPayload f).signedBytes
  (advData fw { unsignedPayload f with mac16 := signed.1 }, signed.2)

theorem advData_eq (fw : Firmware) (p : TagAdvPayload) :
    advData fw p = [0x02, 0x01, 0x06, 0x1B, 0xFF, 0xE5, 0x02] ++ p.toBytes := by
  cases fw with
  | esp32 => rfl
  | nrf52840 =>
    have hlen : (leBytes bmtCidEspressif ++ p.toBytes).length = 26 := by simp [leBytes]
    rw [advData, adStructure, adStructure, hlen]
    rfl

def signedPayload (hmac : Hmac) (epoch : UInt16) (f : AdvFields) : TagAdvPayload :=
  { unsignedPayload f with
    mac16 := epochMac16 hmac bmtTagMasterKey epoch (unsignedPayload f).signedBytes }

/-- What a tag sends is its payload signed under the epoch it is built in. -/
theorem buildAdvData_eq {hmac : Hmac} {s : Auth} (h : s.Ready hmac) (fw : Firmware)
    (f : AdvFields) (uptimeUs : ℕ) :
    (buildAdvData hmac {} fw f uptimeUs s).1 =
        [0x02, 0x01, 0x06, 0x1B, 0xFF, 0xE5, 0x02] ++
          (signedPayload hmac (currentEpoch fw uptimeUs) f).toBytes ∧
      (buildAdvData hmac {} fw f uptimeUs s).2.Ready hmac := by
  obtain ⟨hmacEq, hready⟩ :=
    Auth.bmtAuthHmac16_eq h fw uptimeUs (unsignedPayload f).signedBytes
  refine ⟨?_, hready⟩
  rw [buildAdvData, advData_eq, hmacEq]
  rfl

end BleMeshTracking.Tag
