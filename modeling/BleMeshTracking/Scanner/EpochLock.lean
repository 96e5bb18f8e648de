import BleMeshTracking.Library.TickClock
import BleMeshTracking.Scanner.EpochAuth
import Mathlib.Data.List.Find

/-!
# The epoch lock of a tag

Which epochs a verification tries, as a window around the last lock plus the low epochs of the
wide resync; and what it does with an advertisement signed under a known epoch when the MACs of
the epochs it tries do not collide.
-/

namespace BleMeshTracking.Scanner

open Protocol TickClock

theorem bmtEpochTickUs_pos : 0 < bmtEpochTickUs := by decide

def EpochState.anchor (st : EpochState) : Anchor where
  count := st.lockedEpoch
  time := st.lockedAtUs

def Tries (st : Option EpochState) (nowUs : ℤ) (epoch : UInt16) : Prop :=
  ∃ a ∈ attempts st nowUs, a.epoch = epoch

theorem mem_narrowAttempts_iff {st : EpochState} {nowUs : ℤ} (h : st.lockedAtUs ≤ nowUs)
    {epoch : UInt16} :
    (∃ a ∈ st.narrowAttempts nowUs, a.epoch = epoch) ↔
      st.anchor.Covers bmtEpochTickUs nowUs epoch := by
  have hpred : st.predicted nowUs = st.anchor.predicted bmtEpochTickUs nowUs := by
    rw [EpochState.predicted, Int.tdiv_eq_ediv_of_nonneg (by omega)]
    rfl
  simp only [EpochState.narrowAttempts, Anchor.Covers, hpred, List.mem_map]
  refine ⟨?_, ?_⟩
  · intro h
    rcases h with ⟨a, ⟨d, hd, ha⟩, he⟩
    refine ⟨d, hd, ?_⟩
    rw [← he, ← ha]
    rfl
  · intro h
    rcases h with ⟨d, hd, he⟩
    exact ⟨_, ⟨d, hd, rfl⟩, he.symm⟩

theorem mem_wideAttempts_iff {epoch : UInt16} :
    (∃ a ∈ wideAttempts, a.epoch = epoch) ↔ epoch.toNat ≤ bmtEpochWideMax := by
  unfold wideAttempts
  simp only [List.mem_map, List.mem_range]
  refine ⟨?_, ?_⟩
  · intro h
    rcases h with ⟨a, ⟨e, he, ha⟩, hepoch⟩
    have hepoch' : UInt16.ofNat e = epoch := by
      rw [← hepoch, ← ha]
      rfl
    have hmod : (UInt16.ofNat e).toNat ≤ e := by
      rw [UInt16.toNat_ofNat']
      exact Nat.mod_le _ _
    rw [← hepoch']
    omega
  · intro h
    exact ⟨.wide epoch, ⟨epoch.toNat, by omega, by rw [UInt16.ofNat_toNat]⟩, rfl⟩

/-- A locked slot tries the window around its prediction and the low epochs. -/
theorem tries_iff {st : EpochState} {nowUs : ℤ} (h : st.lockedAtUs ≤ nowUs) {epoch : UInt16} :
    Tries (some st) nowUs epoch ↔
      0 < st.lockedAtUs ∧ st.anchor.Covers bmtEpochTickUs nowUs epoch ∨
        epoch.toNat ≤ bmtEpochWideMax := by
  unfold Tries attempts
  by_cases hlocked : st.lockedAtUs > 0
  · simp only [hlocked, if_true, List.mem_append, or_and_right, exists_or]
    rw [mem_narrowAttempts_iff h, mem_wideAttempts_iff]
    simp
  · simp only [hlocked, if_false]
    rw [mem_wideAttempts_iff]
    simp

theorem tries_none_iff {nowUs : ℤ} {epoch : UInt16} :
    Tries none nowUs epoch ↔ epoch.toNat ≤ bmtEpochWideMax := mem_wideAttempts_iff

theorem tries_of_low {st : Option EpochState} {nowUs : ℤ} {epoch : UInt16}
    (h : epoch.toNat ≤ bmtEpochWideMax) : Tries st nowUs epoch := by
  obtain ⟨a, ha, he⟩ := mem_wideAttempts_iff.mpr h
  refine ⟨a, ?_, he⟩
  unfold attempts
  split
  · split_ifs
    · exact List.mem_append_right _ ha
    · exact ha
  · exact ha

abbrev tagMac16 (hmac : Hmac) (epoch : UInt16) (data : Bytes) : UInt16 :=
  epochMac16 hmac bmtTagMasterKey epoch data

/-- None of the epochs the verification tries gives `data` the MAC of another epoch. -/
def CollisionFree (hmac : Hmac) (tagId : UInt16) (data : Bytes) (epoch : UInt16) (nowUs : ℤ)
    (tbl : EpochTable) : Prop :=
  ∀ a ∈ attemptsFor tagId nowUs tbl,
    tagMac16 hmac a.epoch data = tagMac16 hmac epoch data → a.epoch = epoch

theorem tryEpoch_ok (hmac : Hmac) {keys : AuthKeys} (hkeys : keys.tagMaster = some bmtTagMasterKey)
    (epoch : UInt16) (data : Bytes) (receivedMac : UInt16) :
    tryEpoch hmac {} keys.tagMaster epoch data receivedMac =
      (tagMac16 hmac epoch data == receivedMac) := by
  rw [hkeys]
  rfl

section Signed

variable {hmac : Hmac} {keys : AuthKeys} (hkeys : keys.tagMaster = some bmtTagMasterKey)
  {tagId : UInt16} {data : Bytes} {epoch : UInt16} {nowUs : ℤ} {tbl : EpochTable}
  (hcf : CollisionFree hmac tagId data epoch nowUs tbl)

include hkeys hcf

/-- Without collisions the attempt that verifies is the first one under the signing epoch. -/
theorem verify_signed_fst :
    (bmtAuthVerifyTag hmac (fun _ => {}) keys tagId data (tagMac16 hmac epoch data) nowUs tbl).1 =
      (attemptsFor tagId nowUs tbl).find? fun a => decide (a.epoch = epoch) := by
  rw [bmtAuthVerifyTag_fst]
  apply List.find?_congr
  intro a ha
  rw [tryEpoch_ok hmac hkeys]
  by_cases he : a.epoch = epoch
  · simp [he]
  · have hne : tagMac16 hmac a.epoch data ≠ tagMac16 hmac epoch data :=
      fun h => he (hcf a ha h)
    simp [he, hne]

theorem verify_signed_isSome_iff :
    (bmtAuthVerifyTag hmac (fun _ => {}) keys tagId data (tagMac16 hmac epoch data) nowUs
        tbl).1.isSome ↔ Tries (slotFor tagId tbl) nowUs epoch := by
  rw [verify_signed_fst hkeys hcf, List.find?_isSome]
  simp [Tries, attemptsFor]

theorem verify_signed_epoch {a : Attempt}
    (h : (bmtAuthVerifyTag hmac (fun _ => {}) keys tagId data (tagMac16 hmac epoch data) nowUs
      tbl).1 = some a) : a.epoch = epoch := by
  rw [verify_signed_fst hkeys hcf] at h
  simpa using List.find?_some h

/-- An epoch in the window of a locked slot is found by the narrow loop. -/
theorem verify_signed_narrow {st : EpochState} (hst : slotFor tagId tbl = some st)
    (hlocked : 0 < st.lockedAtUs) (hle : st.lockedAtUs ≤ nowUs)
    (hcov : st.anchor.Covers bmtEpochTickUs nowUs epoch) :
    ∃ a, (bmtAuthVerifyTag hmac (fun _ => {}) keys tagId data (tagMac16 hmac epoch data) nowUs
      tbl).1 = some a ∧ a.isNarrow = true := by
  obtain ⟨b, hb, hbe⟩ := (mem_narrowAttempts_iff hle).mpr hcov
  have hsome : ((st.narrowAttempts nowUs).find? fun a => decide (a.epoch = epoch)).isSome :=
    List.find?_isSome.mpr ⟨b, hb, decide_eq_true hbe⟩
  obtain ⟨a, ha⟩ := Option.isSome_iff_exists.mp hsome
  refine ⟨a, ?_, ?_⟩
  · rw [verify_signed_fst hkeys hcf, attemptsFor, hst, attempts, if_pos hlocked,
      List.find?_append, ha]
    rfl
  · obtain ⟨d, -, hd⟩ := List.mem_map.mp (List.mem_of_find?_eq_some ha)
    rw [← hd]
    rfl

/-- The slot afterwards holds the signing epoch if it was tried, and is unchanged otherwise. -/
theorem slotFor_verify_signed [Decidable (Tries (slotFor tagId tbl) nowUs epoch)] :
    slotFor tagId (bmtAuthVerifyTag hmac (fun _ => {}) keys tagId data
        (tagMac16 hmac epoch data) nowUs tbl).2 =
      (slotFor tagId tbl).map fun st =>
        if Tries (slotFor tagId tbl) nowUs epoch then
          { st with lockedEpoch := epoch, lockedAtUs := nowUs }
        else st := by
  rw [slotFor_verify]
  have hiff := verify_signed_isSome_iff hkeys hcf
  cases hv : (bmtAuthVerifyTag hmac (fun _ => {}) keys tagId data (tagMac16 hmac epoch data)
      nowUs tbl).1 with
  | none =>
    rw [hv] at hiff
    simp [show ¬ Tries (slotFor tagId tbl) nowUs epoch from fun h => by simpa using hiff.mpr h]
  | some a =>
    rw [hv] at hiff
    have hepoch := verify_signed_epoch hkeys hcf hv
    simp [hiff.mp rfl, hepoch]

end Signed

end BleMeshTracking.Scanner
