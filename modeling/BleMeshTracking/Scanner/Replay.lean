import BleMeshTracking.Library.Run
import BleMeshTracking.Scanner.EpochLock
import BleMeshTracking.Tag.Signing

/-!
# Replayed advertisements

A scanner hears a tag it has locked, retransmissions of advertisements the tag once sent, and
other tags.  Whether it goes on accepting the tag is decided by the epochs of the replays it
accepts.
-/

namespace BleMeshTracking.Scanner

open Protocol TickClock

/-- The epoch of a tag that booted at `boot`, both times taken on the scanner's clock. -/
def tagEpoch (fw : Tag.Firmware) (boot atUs : ℤ) : UInt16 :=
  Tag.currentEpoch fw (atUs - boot).toNat

theorem tagEpoch_eq_sent (fw : Tag.Firmware) {boot atUs : ℤ} (h : boot ≤ atUs) :
    tagEpoch fw boot atUs = sent bmtEpochTickUs boot atUs := by
  have hnat : (((atUs - boot).toNat / (1000000 * Tag.bmtEpochTickSec) : ℕ) : ℤ) =
      ticks bmtEpochTickUs boot atUs := by
    rw [Int.natCast_ediv, Int.toNat_of_nonneg (by omega)]
    rfl
  rw [tagEpoch, Tag.currentEpoch_eq, sent, ← hnat, ofInt_natCast]

structure Radio where
  table : EpochTable
  nowUs : ℤ

/-- An advertisement handed to `bmt_auth_verify_tag`: the tag's own, received as it is signed; a
copy of one it signed in `epoch`; or one under another tag id. -/
inductive Reception
  | genuine (atUs : ℤ) (data : Bytes)
  | replay (atUs : ℤ) (epoch : UInt16) (data : Bytes)
  | other (atUs : ℤ) (tagId : UInt16) (data : Bytes) (receivedMac : UInt16)

def Reception.atUs : Reception → ℤ
  | .genuine atUs _ => atUs
  | .replay atUs _ _ => atUs
  | .other atUs _ _ _ => atUs

/-- The tag under attack, on a scanner initialised without failures. -/
structure Target where
  hmac : Hmac
  nvsBlob : Option Bytes
  fw : Tag.Firmware
  tagId : UInt16
  boot : ℤ

namespace Target

variable (T : Target)

def keys : AuthKeys := bmtAuthInit { nvsBlob := T.nvsBlob } {}

theorem tagMaster_keys : T.keys.tagMaster = some bmtTagMasterKey := rfl

def verify (epoch : UInt16) (data : Bytes) (atUs : ℤ) (tbl : EpochTable) :
    Option Attempt × EpochTable :=
  bmtAuthVerifyTag T.hmac (fun _ => {}) T.keys T.tagId data
    (epochMac16 T.hmac Tag.bmtTagMasterKey epoch data) atUs tbl

def accepts (atUs : ℤ) (data : Bytes) (tbl : EpochTable) : Bool :=
  (T.verify (tagEpoch T.fw T.boot atUs) data atUs tbl).1.isSome

/-- One reception; time does not go back, and other tags have other ids. -/
def receive (s : Radio) (r : Reception) : Option Radio :=
  if s.nowUs ≤ r.atUs then
    match r with
    | .genuine atUs data =>
      some ⟨(T.verify (tagEpoch T.fw T.boot atUs) data atUs s.table).2, atUs⟩
    | .replay atUs epoch data => some ⟨(T.verify epoch data atUs s.table).2, atUs⟩
    | .other atUs tagId data receivedMac =>
      if tagId = T.tagId then none
      else some ⟨(bmtAuthVerifyTag T.hmac (fun _ => {}) T.keys tagId data receivedMac atUs
        s.table).2, atUs⟩
  else none

/-- The MACs of the epochs tried for an advertisement of the tag do not collide. -/
def NoCollision (s : Radio) : Reception → Prop
  | .genuine atUs data =>
    CollisionFree T.hmac T.tagId data (tagEpoch T.fw T.boot atUs) atUs s.table
  | .replay atUs epoch data => CollisionFree T.hmac T.tagId data epoch atUs s.table
  | .other _ _ _ _ => True

/-- From now on the tag's own advertisements are accepted, whenever the next one is heard. -/
def AcceptsGenuine (s : Radio) : Prop := ∀ atUs data, s.nowUs ≤ atUs → T.accepts atUs data s.table

/-- A replay does no harm when no epoch tried accepts it, or when it carries the tag's present
epoch or the next one, or on a tick boundary the one before. -/
def Harmless (s : Radio) : Reception → Prop
  | .replay atUs epoch _ =>
    Tries (slotFor T.tagId s.table) atUs epoch →
      (⟨epoch, atUs⟩ : Anchor).InStep bmtEpochTickUs T.boot
  | _ => True

theorem accepts_of_tries {atUs : ℤ} {data : Bytes} {tbl : EpochTable}
    (h : Tries (slotFor T.tagId tbl) atUs (tagEpoch T.fw T.boot atUs)) :
    T.accepts atUs data tbl = true := by
  obtain ⟨a, ha, he⟩ := h
  refine List.find?_isSome.mpr ⟨a, ha, ?_⟩
  rw [tryEpoch_ok T.hmac T.tagMaster_keys, he]
  exact beq_self_eq_true _

theorem accepts_iff {atUs : ℤ} {data : Bytes} {tbl : EpochTable}
    (hcf : CollisionFree T.hmac T.tagId data (tagEpoch T.fw T.boot atUs) atUs tbl) :
    T.accepts atUs data tbl = true ↔
      Tries (slotFor T.tagId tbl) atUs (tagEpoch T.fw T.boot atUs) :=
  verify_signed_isSome_iff T.tagMaster_keys hcf

theorem slot_after {epoch : UInt16} {data : Bytes} {atUs : ℤ} {tbl : EpochTable}
    (hcf : CollisionFree T.hmac T.tagId data epoch atUs tbl) :
    (Tries (slotFor T.tagId tbl) atUs epoch →
      slotFor T.tagId (T.verify epoch data atUs tbl).2 =
        (slotFor T.tagId tbl).map fun st => { st with lockedEpoch := epoch, lockedAtUs := atUs }) ∧
    (¬ Tries (slotFor T.tagId tbl) atUs epoch →
      slotFor T.tagId (T.verify epoch data atUs tbl).2 = slotFor T.tagId tbl) := by
  classical
  have h : slotFor T.tagId (T.verify epoch data atUs tbl).2 =
      (slotFor T.tagId tbl).map fun st =>
        if Tries (slotFor T.tagId tbl) atUs epoch then
          { st with lockedEpoch := epoch, lockedAtUs := atUs }
        else st := slotFor_verify_signed T.tagMaster_keys hcf
  refine ⟨fun ht => ?_, fun ht => ?_⟩
  · simpa only [ht, if_true] using h
  · simpa only [ht, if_false, Option.map_id'] using h

/-- The tag has been heard: it is locked in its slot, or the table was full of other tags. -/
structure Heard (s : Radio) : Prop where
  up : T.boot ≤ s.nowUs
  positive : 0 < s.nowUs
  slot : (SlotTable.find (EpochState.isOf T.tagId) s.table).isSome ∨
    slotFor T.tagId s.table = none
  locked : ∀ st, slotFor T.tagId s.table = some st →
    0 < st.lockedAtUs ∧ st.lockedAtUs ≤ s.nowUs

def Kept (s : Radio) : Prop :=
  ∃ st, slotFor T.tagId s.table = some st ∧ st.anchor.InStep bmtEpochTickUs T.boot

variable {T}

/-- Being accepted for ever is being locked in step. -/
theorem acceptsGenuine_iff_kept {s : Radio} (hs : T.Heard s)
    (hfresh : ∀ tbl atUs, ∃ data,
      CollisionFree T.hmac T.tagId data (tagEpoch T.fw T.boot atUs) atUs tbl) :
    T.AcceptsGenuine s ↔ T.Kept s := by
  have hboot := hs.up
  refine ⟨?_, ?_⟩
  · intro h
    have htries : ∀ atUs, s.nowUs ≤ atUs →
        Tries (slotFor T.tagId s.table) atUs (sent bmtEpochTickUs T.boot atUs) := by
      intro atUs hat
      obtain ⟨data, hcf⟩ := hfresh s.table atUs
      rw [← tagEpoch_eq_sent T.fw (by omega)]
      exact (T.accepts_iff hcf).mp (h atUs data hat)
    -- at the tick counts 201 modulo 2^16 the wide resync does not help
    have hhigh : ∀ atUs, ticks bmtEpochTickUs T.boot atUs % 2 ^ 16 = 201 % 2 ^ 16 →
        ¬ (sent bmtEpochTickUs T.boot atUs).toNat ≤ bmtEpochWideMax := by
      intro atUs hmod
      rw [sent, ofInt_eq_ofInt_iff.mpr hmod]
      decide
    rcases hslot : slotFor T.tagId s.table with _ | st
    · rw [hslot] at htries
      obtain ⟨m, -, hnow, hmod⟩ :=
        exists_late_ticks bmtEpochTickUs_pos T.boot s.nowUs s.nowUs 201
      obtain ⟨htick, -⟩ := ticks_add_mul bmtEpochTickUs_pos T.boot s.nowUs m
      exact absurd (tries_none_iff.mp (htries _ hnow)) (hhigh _ (htick ▸ hmod))
    · rw [hslot] at htries
      refine ⟨st, hslot, Anchor.inStep_of_covers bmtEpochTickUs_pos s.nowUs 201
        fun t hnow hat hmod => ?_⟩
      rcases (tries_iff hat).mp (htries t hnow) with hcov | hlow
      · exact hcov.2
      · exact absurd hlow (hhigh t hmod)
  · intro h atUs data hat
    rcases h with ⟨st, hst, hstep⟩
    have hlock := hs.locked st hst
    apply T.accepts_of_tries
    rw [hst, tagEpoch_eq_sent T.fw (by omega)]
    exact (tries_iff (by omega)).mpr (Or.inl ⟨hlock.1, hstep.covers bmtEpochTickUs_pos atUs⟩)

/-- Whatever is received, a tag that was heard stays heard. -/
theorem heard_verify {s : Radio} (hs : T.Heard s) {epoch : UInt16} {data : Bytes} {atUs : ℤ}
    (hat : s.nowUs ≤ atUs) : T.Heard ⟨(T.verify epoch data atUs s.table).2, atUs⟩ := by
  have hup := hs.up
  have hpos := hs.positive
  refine ⟨hup.trans hat, hpos.trans_le hat, find_verify _ _ _ _ _ _ _ _, fun st hst => ?_⟩
  have hslot := slotFor_verify T.hmac (fun _ => {}) T.keys T.tagId data
    (epochMac16 T.hmac Tag.bmtTagMasterKey epoch data) atUs s.table
  obtain ⟨st', hst', he⟩ := Option.map_eq_some_iff.mp (hslot.symm.trans hst)
  obtain ⟨hlock, hle⟩ := hs.locked st' hst'
  rw [← he]
  split
  · exact ⟨hpos.trans_le hat, le_rfl⟩
  · exact ⟨hlock, hle.trans hat⟩

theorem receive_cases {s s' : Radio} {r : Reception} (h : T.receive s r = some s') :
    s.nowUs ≤ r.atUs ∧
      ((∃ atUs data, r = .genuine atUs data ∧
          s' = ⟨(T.verify (tagEpoch T.fw T.boot atUs) data atUs s.table).2, atUs⟩) ∨
        (∃ atUs epoch data, r = .replay atUs epoch data ∧
          s' = ⟨(T.verify epoch data atUs s.table).2, atUs⟩) ∨
        ∃ atUs tagId data receivedMac, r = .other atUs tagId data receivedMac ∧
          T.tagId ≠ tagId ∧
          s' = ⟨(bmtAuthVerifyTag T.hmac (fun _ => {}) T.keys tagId data receivedMac atUs
            s.table).2, atUs⟩) := by
  unfold receive at h
  split_ifs at h with hat
  refine ⟨hat, ?_⟩
  cases r with
  | genuine atUs data => exact Or.inl ⟨atUs, data, rfl, (Option.some.inj h).symm⟩
  | replay atUs epoch data =>
    exact Or.inr (Or.inl ⟨atUs, epoch, data, rfl, (Option.some.inj h).symm⟩)
  | other atUs tagId data receivedMac =>
    dsimp only at h
    split_ifs at h with htag
    exact Or.inr (Or.inr
      ⟨atUs, tagId, data, receivedMac, rfl, Ne.symm htag, (Option.some.inj h).symm⟩)

theorem heard_receive {s s' : Radio} {r : Reception} (hs : T.Heard s)
    (h : T.receive s r = some s') : T.Heard s' := by
  obtain ⟨hat, ⟨atUs, data, rfl, rfl⟩ | ⟨atUs, epoch, data, rfl, rfl⟩ |
    ⟨atUs, tagId, data, receivedMac, rfl, hne, rfl⟩⟩ := receive_cases h
  · exact heard_verify hs hat
  · exact heard_verify hs hat
  · have hslot := slotFor_verify_other T.hmac (fun _ => {}) T.keys tagId data receivedMac atUs
      s.table hne hs.slot
    refine ⟨hs.up.trans hat, hs.positive.trans_le hat, ?_, fun st hst => ?_⟩
    · rw [find_verify_other _ _ _ _ _ _ _ _ hne, hslot]
      exact hs.slot
    · obtain ⟨hlock, hle⟩ := hs.locked st (hslot.symm.trans hst)
      exact ⟨hlock, hle.trans hat⟩

/-- A lock that is overwritten is in step when the new one is. -/
theorem kept_verify_iff {s : Radio} {epoch : UInt16} {data : Bytes} {atUs : ℤ}
    (hk : T.Kept s) (hcf : CollisionFree T.hmac T.tagId data epoch atUs s.table) :
    T.Kept ⟨(T.verify epoch data atUs s.table).2, atUs⟩ ↔
      (Tries (slotFor T.tagId s.table) atUs epoch →
        (⟨epoch, atUs⟩ : Anchor).InStep bmtEpochTickUs T.boot) := by
  obtain ⟨st, hst, hstep⟩ := hk
  obtain ⟨hnew, hold⟩ := T.slot_after hcf
  by_cases ht : Tries (slotFor T.tagId s.table) atUs epoch
  · have hslot := hnew ht
    rw [hst, Option.map_some] at hslot
    refine ⟨?_, fun h => ⟨_, hslot, h ht⟩⟩
    intro h _
    rcases h with ⟨st', hst', hstep'⟩
    cases hslot.symm.trans hst'
    exact hstep'
  · exact ⟨fun _ h => absurd h ht, fun _ => ⟨st, (hold ht).trans hst, hstep⟩⟩

/-- One reception keeps the lock in step exactly when it is harmless. -/
theorem kept_receive_iff {s s' : Radio} {r : Reception} (hs : T.Heard s) (hk : T.Kept s)
    (hcf : T.NoCollision s r) (h : T.receive s r = some s') :
    T.Kept s' ↔ T.Harmless s r := by
  obtain ⟨hat, ⟨atUs, data, rfl, rfl⟩ | ⟨atUs, epoch, data, rfl, rfl⟩ |
    ⟨atUs, tagId, data, receivedMac, rfl, hne, rfl⟩⟩ := receive_cases h
  · have hup : T.boot ≤ atUs := hs.up.trans hat
    refine ⟨fun _ => trivial, fun _ => (kept_verify_iff hk hcf).mpr fun _ => Or.inl ?_⟩
    exact tagEpoch_eq_sent T.fw hup
  · exact kept_verify_iff hk hcf
  · obtain ⟨st, hst, hstep⟩ := hk
    have hslot := slotFor_verify_other T.hmac (fun _ => {}) T.keys tagId data receivedMac atUs
      s.table hne hs.slot
    exact ⟨fun _ => trivial, fun _ => ⟨st, hslot.trans hst, hstep⟩⟩

/-- The first advertisement accepted leaves the tag heard, and locked in step if it has a
slot. -/
theorem heard_first {tbl : EpochTable} {atUs : ℤ} {data : Bytes} (hup : T.boot ≤ atUs)
    (hpos : 0 < atUs)
    (hcf : CollisionFree T.hmac T.tagId data (tagEpoch T.fw T.boot atUs) atUs tbl)
    (hacc : T.accepts atUs data tbl = true) :
    T.Heard ⟨(T.verify (tagEpoch T.fw T.boot atUs) data atUs tbl).2, atUs⟩ ∧
      (T.Kept ⟨(T.verify (tagEpoch T.fw T.boot atUs) data atUs tbl).2, atUs⟩ ↔
        ∃ i, (tbl i).isOf T.tagId ∨ (tbl i).isFree) := by
  have hslot := (T.slot_after hcf).1 ((T.accepts_iff hcf).mp hacc)
  rw [← slotFor_isSome_iff]
  refine ⟨⟨hup, hpos, find_verify _ _ _ _ _ _ _ _, fun st hst => ?_⟩, ?_, fun h => ?_⟩
  · obtain ⟨st', -, he⟩ := Option.map_eq_some_iff.mp (hslot.symm.trans hst)
    rw [← he]
    exact ⟨hpos, le_rfl⟩
  · intro h
    rcases h with ⟨st, hst, -⟩
    obtain ⟨st', hst', -⟩ := Option.map_eq_some_iff.mp (hslot.symm.trans hst)
    exact Option.isSome_iff_exists.mpr ⟨st', hst'⟩
  · obtain ⟨st, hst⟩ := Option.isSome_iff_exists.mp h
    rw [hst, Option.map_some] at hslot
    exact ⟨_, hslot, Or.inl (tagEpoch_eq_sent T.fw hup)⟩

/-- After the tag was accepted once, its own advertisements go on being accepted, at every time
and whatever else is received in between, exactly when the tag got an epoch slot and every replay
is harmless. -/
theorem genuine_accepted_iff_replays_harmless (T : Target) (tbl : EpochTable) (atUs : ℤ)
    (data : Bytes) (rs : List Reception) (hup : T.boot ≤ atUs) (hpos : 0 < atUs)
    (hcf : CollisionFree T.hmac T.tagId data (tagEpoch T.fw T.boot atUs) atUs tbl)
    (hacc : T.accepts atUs data tbl = true)
    (hfresh : ∀ tbl atUs, ∃ data,
      CollisionFree T.hmac T.tagId data (tagEpoch T.fw T.boot atUs) atUs tbl)
    (hrun : Run.Meets T.receive T.NoCollision
      ⟨(T.verify (tagEpoch T.fw T.boot atUs) data atUs tbl).2, atUs⟩ rs) :
    Run.Throughout T.receive T.AcceptsGenuine
        ⟨(T.verify (tagEpoch T.fw T.boot atUs) data atUs tbl).2, atUs⟩ rs ↔
      (∃ i, (tbl i).isOf T.tagId ∨ (tbl i).isFree) ∧
        Run.Meets T.receive T.Harmless
          ⟨(T.verify (tagEpoch T.fw T.boot atUs) data atUs tbl).2, atUs⟩ rs := by
  obtain ⟨hheard, hslot⟩ := heard_first hup hpos hcf hacc
  -- one reception keeps the tag acceptable exactly when it is harmless; the run rule does the rest
  have hstep : ∀ s r s', T.Heard s → T.AcceptsGenuine s → T.NoCollision s r →
      T.receive s r = some s' → (T.AcceptsGenuine s' ↔ T.Harmless s r) := by
    intro s r s' hs hacc hcf h
    rw [acceptsGenuine_iff_kept (heard_receive hs h) hfresh]
    exact kept_receive_iff hs ((acceptsGenuine_iff_kept hs hfresh).mp hacc) hcf h
  have hiff := Run.throughout_iff_meets (A := T.Heard) (P := T.AcceptsGenuine)
    (fun s r s' hs _ h => heard_receive hs h) hstep hrun hheard
  refine ⟨?_, ?_⟩
  · intro h
    have hfirst := (acceptsGenuine_iff_kept hheard hfresh).mp h.first
    exact ⟨hslot.mp hfirst, (hiff h.first).mp h⟩
  · intro h
    exact (hiff ((acceptsGenuine_iff_kept hheard hfresh).mpr (hslot.mpr h.1))).mpr h.2

end Target

def echoHmac : Hmac := fun key data i =>
  if data.length = 2 then data.getD (1 - i) 0 else key.getD i 0

theorem epochMac16_echoHmac (master : Bytes) (epoch : UInt16) {data : Bytes}
    (h : data.length ≠ 2) : epochMac16 echoHmac master epoch data = epoch := by
  have hmac : mac16OfDigest (echoHmac (epochKey echoHmac master epoch) data) =
      ((epoch >>> 8).toUInt8.toUInt16 <<< 8) ||| epoch.toUInt8.toUInt16 := by
    simp [mac16OfDigest, echoHmac, h, epochKey, keyOfDigest, leBytes]
  rw [epochMac16, hmac, UInt16.or_comm]
  exact u16OfLe_leBytes epoch

theorem collisionFree_echoHmac (tagId : UInt16) {data : Bytes} (h : data.length ≠ 2)
    (epoch : UInt16) (nowUs : ℤ) (tbl : EpochTable) :
    CollisionFree echoHmac tagId data epoch nowUs tbl := by
  intro a _ hmac
  rwa [tagMac16, tagMac16, epochMac16_echoHmac _ _ h, epochMac16_echoHmac _ _ h] at hmac

def tagOne : Target where
  hmac := echoHmac
  nvsBlob := none
  fw := .esp32
  tagId := 1
  boot := 0

def tagOneData : Bytes := (Tag.unsignedPayload ⟨100, 1, -53, 0⟩).signedBytes

/-- Replaying the tag's very first advertisement in its present epoch is harmless. -/
theorem genuine_accepted_iff_replays_harmless_tagOne :
    Run.Throughout tagOne.receive tagOne.AcceptsGenuine
      ⟨(tagOne.verify (tagEpoch tagOne.fw tagOne.boot 1) tagOneData 1 fun _ => {}).2, 1⟩
      [.replay 2 0 tagOneData] := by
  have hlen : tagOneData.length ≠ 2 := by decide
  refine (Target.genuine_accepted_iff_replays_harmless tagOne (fun _ => {}) 1 tagOneData _
    (by decide) (by decide) (collisionFree_echoHmac _ hlen _ _ _) (by decide +kernel)
    (fun tbl atUs => ⟨tagOneData, collisionFree_echoHmac _ hlen _ _ _⟩) ?_).mpr
    ⟨⟨⟨0, by decide⟩, Or.inr rfl⟩, ?_⟩
  · exact fun s' _ => ⟨collisionFree_echoHmac _ hlen _ _ _, trivial⟩
  · exact fun s' _ => ⟨fun _ => Or.inl (by decide), trivial⟩

/-- The tag is heard in epoch 0 and in epoch 201; then its first advertisement is replayed, and
the tag is rejected. -/
theorem replay_locks_out_tagOne :
    tagOne.accepts 1 tagOneData (fun _ => {}) = true ∧
      ((Run.run tagOne.receive ⟨fun _ => {}, 0⟩
        [.genuine 1 tagOneData]).map fun s =>
          tagOne.accepts (201 * bmtEpochTickUs + 1) tagOneData s.table) = some true ∧
      ((Run.run tagOne.receive ⟨fun _ => {}, 0⟩
        [.genuine 1 tagOneData, .genuine (201 * bmtEpochTickUs + 1) tagOneData]).map fun s =>
          tagOne.accepts (201 * bmtEpochTickUs + 2) tagOneData s.table) = some true ∧
      ((Run.run tagOne.receive ⟨fun _ => {}, 0⟩
        [.genuine 1 tagOneData, .genuine (201 * bmtEpochTickUs + 1) tagOneData,
          .replay (201 * bmtEpochTickUs + 2) (tagEpoch .esp32 0 1) tagOneData]).map fun s =>
          tagOne.accepts (201 * bmtEpochTickUs + 3) tagOneData s.table) = some false := by
  decide +kernel

end BleMeshTracking.Scanner
