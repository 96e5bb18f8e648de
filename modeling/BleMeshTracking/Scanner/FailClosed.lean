import BleMeshTracking.Scanner.ScanResult

/-!
# Failing crypto calls

`hmac16` reports a failure as the value 0, which the callers compare with the received MAC.  So
both acceptance paths are closed under failures exactly as long as a MAC of 0 never meets a
failing computation.
-/

namespace BleMeshTracking.Scanner

open Protocol

section Try

variable (hmac : Hmac) (calls : TryCalls) (master : Option Bytes) (epoch : UInt16) (data : Bytes)

def importedKey : Option Bytes :=
  (psaMacCompute hmac calls.derive master (leBytes epoch)).bind fun derived =>
    if calls.importKey then some (keyOfDigest derived) else none

/-- The MAC over the payload was computed under the key of the epoch, and is the received one. -/
def MacVerifies (receivedMac : UInt16) : Prop :=
  ∃ key mac, importedKey hmac calls master epoch = some key ∧
    psaMacCompute hmac calls.mac (some key) data = some mac ∧ mac16OfDigest mac = receivedMac

/-- The key of the epoch is there, but the MAC over the payload cannot be computed. -/
def MacFails : Prop :=
  ∃ key, importedKey hmac calls master epoch = some key ∧
    psaMacCompute hmac calls.mac (some key) data = none

/-- `hmac16` gives a value for a computed MAC and 0 for a failed one. -/
theorem hmac16_eq_iff (ok : Bool) (key : Option Bytes) (receivedMac : UInt16) :
    hmac16 hmac ok key data = receivedMac ↔
      (∃ mac, psaMacCompute hmac ok key data = some mac ∧ mac16OfDigest mac = receivedMac) ∨
        psaMacCompute hmac ok key data = none ∧ receivedMac = 0 := by
  unfold hmac16
  cases psaMacCompute hmac ok key data with
  | none => simp [eq_comm]
  | some mac => simp

theorem tryEpoch_iff (receivedMac : UInt16) :
    tryEpoch hmac calls master epoch data receivedMac = true ↔
      MacVerifies hmac calls master epoch data receivedMac ∨
        receivedMac = 0 ∧ MacFails hmac calls master epoch data := by
  unfold tryEpoch MacVerifies MacFails importedKey
  cases psaMacCompute hmac calls.derive master (leBytes epoch) with
  | none => simp
  | some derived =>
    cases calls.importKey with
    | false => simp
    | true =>
      simp only [Bool.true_and, beq_iff_eq, hmac16_eq_iff]
      simp [and_comm]

theorem not_macFails_of_macVerifies {receivedMac : UInt16}
    (h : MacVerifies hmac calls master epoch data receivedMac) :
    ¬ MacFails hmac calls master epoch data := by
  intro hfail
  rcases h with ⟨key, mac, hkey, hmacs, -⟩
  rcases hfail with ⟨key', hkey', hnone⟩
  cases hkey.symm.trans hkey'
  rw [hmacs] at hnone
  cases hnone

end Try

section Tag

variable (hmac : Hmac) (calls : Attempt → TryCalls) (keys : AuthKeys) (tagId : UInt16)
  (data : Bytes) (receivedMac : UInt16) (nowUs : ℤ) (tbl : EpochTable)

/-- A tag is accepted only by an attempt that computed its MAC and found it equal. -/
def TagFailsClosed : Prop :=
  ∀ a, (bmtAuthVerifyTag hmac calls keys tagId data receivedMac nowUs tbl).1 = some a →
    MacVerifies hmac (calls a) keys.tagMaster a.epoch data receivedMac

/-- The received MAC is 0, and some attempt cannot compute the MAC before any attempt verifies. -/
def ZeroMeetsFailure : Prop :=
  receivedMac = 0 ∧ ∃ pre a post, attemptsFor tagId nowUs tbl = pre ++ a :: post ∧
    MacFails hmac (calls a) keys.tagMaster a.epoch data ∧
      ∀ b ∈ pre, ¬ MacVerifies hmac (calls b) keys.tagMaster b.epoch data receivedMac

theorem tagFailsClosed_iff :
    TagFailsClosed hmac calls keys tagId data receivedMac nowUs tbl ↔
      ¬ ZeroMeetsFailure hmac calls keys tagId data receivedMac nowUs tbl := by
  unfold TagFailsClosed ZeroMeetsFailure
  rw [bmtAuthVerifyTag_fst]
  refine ⟨?_, ?_⟩
  · intro h hzero
    rcases hzero with ⟨hzero, pre, a, post, hsplit, hfail, hpre⟩
    have htry : tryEpoch hmac (calls a) keys.tagMaster a.epoch data receivedMac = true :=
      (tryEpoch_iff ..).mpr (Or.inr ⟨hzero, hfail⟩)
    simp only [hsplit, List.find?_append, List.find?_cons, htry] at h
    -- the attempt that accepts is one of `pre`, or the failing one
    cases hfirst : pre.find? fun b =>
        tryEpoch hmac (calls b) keys.tagMaster b.epoch data receivedMac with
    | some b =>
      rw [hfirst] at h
      exact hpre b (List.mem_of_find?_eq_some hfirst) (h b rfl)
    | none =>
      rw [hfirst] at h
      exact not_macFails_of_macVerifies _ _ _ _ _ (h a rfl) hfail
  · intro h a ha
    obtain ⟨htry, pre, post, hsplit, hpre⟩ := List.find?_eq_some_iff_append.mp ha
    rcases (tryEpoch_iff ..).mp htry with hver | ⟨hzero, hfail⟩
    · exact hver
    · refine absurd ⟨hzero, pre, a, post, hsplit, hfail, fun b hb hver => ?_⟩ h
      have hfalse := hpre b hb
      rw [(tryEpoch_iff ..).mpr (Or.inl hver)] at hfalse
      cases hfalse

end Tag

section Ota

variable (hmac : Hmac) (macOk : Bool) (keys : AuthKeys) (otaIsTriggered : Bool) (adv : Bytes)
  (nowUs : ℤ) (st : OtaBeaconState)

/-- An OTA is triggered only by a field whose MAC was computed and found equal. -/
def OtaFailsClosed : Prop :=
  ∀ st', otaBeacon hmac macOk keys otaIsTriggered adv nowUs st = some (true, st') →
    ∃ recvMac data mac, otaFieldFrom adv 0 = some (some (recvMac, data)) ∧
      psaMacCompute hmac macOk keys.otaBeacon data = some mac ∧ mac16OfDigest mac = recvMac

/-- A beacon with MAC 0 arrives, outside the cool-down, while its MAC cannot be computed. -/
def ZeroBeaconMeetsFailure : Prop :=
  otaIsTriggered = false ∧ ∃ data, otaFieldFrom adv 0 = some (some (0, data)) ∧
    psaMacCompute hmac macOk keys.otaBeacon data = none ∧
      ¬ (st.lastMac = 0 ∧ nowUs - st.lastUs < bmtOtaBeaconCooldownUs)

/-- When `bmt_ota_trigger` is called. -/
theorem otaBeacon_triggers_iff {st' : OtaBeaconState} :
    otaBeacon hmac macOk keys otaIsTriggered adv nowUs st = some (true, st') ↔
      otaIsTriggered = false ∧ ∃ recvMac data, otaFieldFrom adv 0 = some (some (recvMac, data)) ∧
        recvMac = hmac16 hmac macOk keys.otaBeacon data ∧
          ¬ (recvMac = st.lastMac ∧ nowUs - st.lastUs < bmtOtaBeaconCooldownUs) ∧
            st' = ⟨recvMac, nowUs⟩ := by
  unfold otaBeacon bmtAuthOtaBeaconHmac16
  cases otaIsTriggered with
  | true => simp
  | false =>
    cases otaFieldFrom adv 0 with
    | none => simp
    | some field =>
      cases field with
      | none => simp
      | some beacon =>
        obtain ⟨recvMac, data⟩ := beacon
        by_cases hmacEq : recvMac = hmac16 hmac macOk keys.otaBeacon data
        · by_cases hcool : recvMac = st.lastMac ∧ nowUs - st.lastUs < bmtOtaBeaconCooldownUs
          · simp [← hmacEq, hcool.1, hcool.2]
          · have hlate : recvMac = st.lastMac → bmtOtaBeaconCooldownUs ≤ nowUs - st.lastUs :=
              fun hlast => not_lt.mp fun hlt => hcool ⟨hlast, hlt⟩
            simpa [← hmacEq, hcool, eq_comm] using fun _ => hlate
        · simp [hmacEq]

theorem otaFailsClosed_iff :
    OtaFailsClosed hmac macOk keys otaIsTriggered adv nowUs st ↔
      ¬ ZeroBeaconMeetsFailure hmac macOk keys otaIsTriggered adv nowUs st := by
  unfold OtaFailsClosed ZeroBeaconMeetsFailure
  simp only [otaBeacon_triggers_iff]
  refine ⟨?_, ?_⟩
  · intro h hzero
    rcases hzero with ⟨hidle, data, hfield, hnone, hcool⟩
    have hzero : 0 = hmac16 hmac macOk keys.otaBeacon data :=
      ((hmac16_eq_iff ..).mpr (Or.inr ⟨hnone, rfl⟩)).symm
    obtain ⟨recvMac', data', mac, hfield', hmacs, -⟩ :=
      h ⟨0, nowUs⟩ ⟨hidle, 0, data, hfield, hzero, fun hc => hcool ⟨hc.1.symm, hc.2⟩, rfl⟩
    cases hfield.symm.trans hfield'
    rw [hnone] at hmacs
    cases hmacs
  · intro h st' htrigger
    rcases htrigger with ⟨hidle, recvMac, data, hfield, hmacEq, hcool, -⟩
    rcases (hmac16_eq_iff ..).mp hmacEq.symm with ⟨mac, hmacs, heq⟩ | ⟨hnone, hzero⟩
    · exact ⟨recvMac, data, mac, hfield, hmacs, heq⟩
    · subst hzero
      exact absurd ⟨hidle, data, hfield, hnone, fun hc => hcool ⟨hc.1.symm, hc.2⟩⟩ h

end Ota

/-- Authentication fails closed exactly when no MAC of 0 meets a computation that fails: for a
tag, before any epoch verifies; for an OTA beacon, outside the cool-down. -/
theorem fails_closed_iff (hmac : Hmac) (keys : AuthKeys) (nowUs : ℤ) :
    (∀ calls tagId data receivedMac tbl,
      TagFailsClosed hmac calls keys tagId data receivedMac nowUs tbl ↔
        ¬ ZeroMeetsFailure hmac calls keys tagId data receivedMac nowUs tbl) ∧
    ∀ macOk otaIsTriggered adv st,
      OtaFailsClosed hmac macOk keys otaIsTriggered adv nowUs st ↔
        ¬ ZeroBeaconMeetsFailure hmac macOk keys otaIsTriggered adv nowUs st :=
  ⟨fun calls tagId data receivedMac tbl =>
    tagFailsClosed_iff hmac calls keys tagId data receivedMac nowUs tbl,
    fun macOk otaIsTriggered adv st =>
      otaFailsClosed_iff hmac macOk keys otaIsTriggered adv nowUs st⟩

def forgedBeacon : Bytes :=
  [0x0A, 0xFF, 0xE5, 0x02, 0x42, 0x4D, 0x54, 0xFA, 0x01, 0x00, 0x00]

theorem otaFieldFrom_forgedBeacon :
    otaFieldFrom forgedBeacon 0 = some (some (0, [0x42, 0x4D, 0x54, 0xFA, 0x01])) := by
  rw [otaFieldFrom]
  decide

/-- A tag whose MAC cannot be computed is accepted with MAC 0; a scanner whose OTA-beacon key was
not imported is triggered by a beacon with MAC 0. -/
theorem failing_calls_accept_zero :
    ¬ TagFailsClosed (fun _ _ _ => 1) (fun _ => { mac := false }) (bmtAuthInit {} {}) 1
        (List.replicate 22 0) 0 1 (fun _ => {}) ∧
      ¬ OtaFailsClosed (fun _ _ _ => 1) true (bmtAuthInit { importOta := false } {}) false
        forgedBeacon 1 {} := by
  refine ⟨fun h => ?_, fun h => ?_⟩
  · obtain ⟨key, mac, -, hmacs, -⟩ := h (.wide 0) (by decide +kernel)
    cases hmacs
  · obtain ⟨recvMac, data, mac, -, hmacs, -⟩ := h ⟨0, 1⟩ ((otaBeacon_triggers_iff ..).mpr
      ⟨rfl, 0, _, otaFieldFrom_forgedBeacon, rfl, by decide, rfl⟩)
    cases hmacs

end BleMeshTracking.Scanner
