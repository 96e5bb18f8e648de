import BleMeshTracking.Scanner.Replay
import BleMeshTracking.Scanner.ScanResult

/-!
# One tag heard by one scanner

Every advertisement of a power cycle is built by the tag; the scanner hears some of them.  The
lock of the tag follows its epoch counter from the first one heard on.
-/

namespace BleMeshTracking.Scanner

open Protocol TickClock

/-- A tag and a scanner whose clocks start at two instants of the same time. -/
structure Link where
  hmac : Hmac
  fw : Tag.Firmware
  nvsBlob : Option Bytes
  tagBoot : ℤ
  scannerStart : ℤ
  minor : UInt16

/-- One advertisement: when it is built, its own values, and whether the scanner hears it. -/
structure Adv where
  atUs : ℤ
  battery : UInt8
  txPower : Int8
  sequence : UInt8
  heard : Bool

structure Session where
  tag : Tag.Auth
  table : EpochTable

namespace Link

variable (L : Link)

def keys : AuthKeys := bmtAuthInit { nvsBlob := L.nvsBlob } {}

def now (a : Adv) : ℤ := a.atUs - L.scannerStart

def epoch (a : Adv) : UInt16 := Tag.currentEpoch L.fw (a.atUs - L.tagBoot).toNat

def fields (a : Adv) : Tag.AdvFields := ⟨a.battery, L.minor, a.txPower, a.sequence⟩

def transmit (s : Session) (a : Adv) : Bytes × Tag.Auth :=
  Tag.buildAdvData L.hmac {} L.fw (L.fields a) (a.atUs - L.tagBoot).toNat s.tag

def onAir (s : Session) (a : Adv) : TagAdvPayload :=
  TagAdvPayload.ofBytes ((L.transmit s a).1.drop 7)

def verifyAt (nowUs : ℤ) (tagId : UInt16) (data : Bytes) (mac : UInt16) (tbl : EpochTable) :
    Option Attempt × EpochTable :=
  bmtAuthVerifyTag L.hmac (fun _ => {}) L.keys tagId data mac nowUs tbl

def scan (s : Session) (a : Adv) : Option (Option TagPayload × EpochTable) :=
  parseTagPayload (fun tagId data mac tbl =>
    ((L.verifyAt (L.now a) tagId data mac tbl).1.isSome,
      (L.verifyAt (L.now a) tagId data mac tbl).2)) (L.transmit s a).1 s.table

def step (s : Session) (a : Adv) : Session where
  tag := (L.transmit s a).2
  table := if a.heard then ((L.scan s a).map Prod.snd).getD s.table else s.table

abbrev data (a : Adv) : Bytes := (Tag.unsignedPayload (L.fields a)).signedBytes

/-- The MACs of the epochs tried for a heard advertisement do not collide. -/
def NoCollision (s : Session) (a : Adv) : Prop :=
  a.heard → CollisionFree L.hmac L.minor (L.data a) (L.epoch a) (L.now a) s.table

def boot : ℤ := L.tagBoot - L.scannerStart

theorem now_sub_boot (a : Adv) : L.now a - L.boot = a.atUs - L.tagBoot := by
  unfold now boot
  omega

theorem epoch_eq_tagEpoch (a : Adv) : L.epoch a = tagEpoch L.fw L.boot (L.now a) := by
  rw [tagEpoch, now_sub_boot]
  rfl

def verified (s : Session) (a : Adv) : Option Attempt × EpochTable :=
  L.verifyAt (L.now a) L.minor (L.data a) (tagMac16 L.hmac (L.epoch a) (L.data a)) s.table

variable {L} {s : Session} {a : Adv}

theorem onAir_eq (h : s.tag.Ready L.hmac) :
    L.onAir s a = Tag.signedPayload L.hmac (L.epoch a) (L.fields a) := by
  have hbytes := (Tag.buildAdvData_eq h L.fw (L.fields a) (a.atUs - L.tagBoot).toNat).1
  rw [onAir, transmit, hbytes]
  exact TagAdvPayload.ofBytes_toBytes _

theorem scan_eq (h : s.tag.Ready L.hmac) :
    L.scan s a =
      some (if (L.verified s a).1.isSome then
          some ⟨a.battery, L.minor, a.txPower, a.sequence, (L.onAir s a).mac16⟩ else none,
        (L.verified s a).2) := by
  have hbytes := (Tag.buildAdvData_eq h L.fw (L.fields a) (a.atUs - L.tagBoot).toNat).1
  have hbattery : a.battery.toUInt16.toUInt8 = a.battery := by simp
  rw [scan, transmit, hbytes, parseTagPayload_tagAdv _ _ rfl, onAir_eq h]
  simp only [Tag.signedPayload, Tag.unsignedPayload, fields, hbattery]
  rfl

/-- After the advertisements `pre`: the tag can sign, it has a slot, and once it was heard its
slot is locked in step since one of them. -/
structure Follows (L : Link) (pre : List Adv) (s : Session) : Prop where
  ready : s.tag.Ready L.hmac
  slot : (slotFor L.minor s.table).isSome
  locked : (∃ b ∈ pre, b.heard) → ∃ st, slotFor L.minor s.table = some st ∧
    st.anchor.InStep bmtEpochTickUs L.boot ∧ ∃ b ∈ pre, b.heard ∧ st.lockedAtUs = L.now b

structure Timely (L : Link) (pre : List Adv) (a : Adv) : Prop where
  up : L.tagBoot ≤ a.atUs
  ordered : ∀ b ∈ pre, b.atUs ≤ a.atUs
  positive : ∀ b ∈ pre ++ [a], b.heard → 0 < L.now b
  first : a.heard → (∀ b ∈ pre, ¬ b.heard) → (L.epoch a).toNat ≤ bmtEpochWideMax

variable {pre : List Adv}

theorem epoch_eq_sent (ht : L.Timely pre a) :
    L.epoch a = sent bmtEpochTickUs L.boot (L.now a) := by
  have hup := ht.up
  have hsub := L.now_sub_boot a
  exact (L.epoch_eq_tagEpoch a).trans (tagEpoch_eq_sent L.fw (by omega))

/-- Once the tag was heard, its epoch is in the narrow window. -/
theorem covers_of_heard (hf : L.Follows pre s) (ht : L.Timely pre a)
    (hheard : ∃ b ∈ pre, b.heard) :
    ∃ st, slotFor L.minor s.table = some st ∧ 0 < st.lockedAtUs ∧ st.lockedAtUs ≤ L.now a ∧
      st.anchor.Covers bmtEpochTickUs (L.now a) (L.epoch a) := by
  obtain ⟨st, hst, hstep, b, hb, hbheard, hlock⟩ := hf.locked hheard
  have hpos := ht.positive b (List.mem_append_left _ hb) hbheard
  have hle := ht.ordered b hb
  refine ⟨st, hst, hlock ▸ hpos, ?_, ?_⟩
  · rw [hlock]
    unfold now
    omega
  · rw [epoch_eq_sent ht]
    exact hstep.covers bmtEpochTickUs_pos _

theorem tries_of_follows (hf : L.Follows pre s) (ht : L.Timely pre a) (ha : a.heard) :
    Tries (slotFor L.minor s.table) (L.now a) (L.epoch a) := by
  by_cases hheard : ∃ b ∈ pre, b.heard
  · obtain ⟨st, hst, hpos, hle, hcov⟩ := covers_of_heard hf ht hheard
    rw [hst]
    exact (tries_iff hle).mpr (Or.inl ⟨hpos, hcov⟩)
  · exact tries_of_low (ht.first ha fun b hb hbheard => hheard ⟨b, hb, hbheard⟩)

/-- A heard advertisement is verified, and its epoch stored. -/
theorem verified_of_follows (hf : L.Follows pre s) (ht : L.Timely pre a) (ha : a.heard)
    (hcf : L.NoCollision s a) :
    (L.verified s a).1.isSome ∧
      ∃ st, slotFor L.minor (L.verified s a).2 = some st ∧ st.lockedEpoch = L.epoch a ∧
        st.lockedAtUs = L.now a := by
  classical
  have htries := tries_of_follows hf ht ha
  have hkeys : L.keys.tagMaster = some bmtTagMasterKey := rfl
  obtain ⟨st, hst⟩ := Option.isSome_iff_exists.mp hf.slot
  have hslot := slotFor_verify_signed hkeys (hcf ha)
  simp only [htries, if_true] at hslot
  rw [hst, Option.map_some] at hslot
  exact ⟨(verify_signed_isSome_iff hkeys (hcf ha)).mpr htries, _, hslot, rfl, rfl⟩

theorem step_table (hf : L.Follows pre s) :
    (L.step s a).table = if a.heard then (L.verified s a).2 else s.table := by
  rw [step, scan_eq hf.ready]
  rfl

/-- The lock follows the tag through one more advertisement. -/
theorem follows_step (hf : L.Follows pre s) (ht : L.Timely pre a) (hcf : L.NoCollision s a) :
    L.Follows (pre ++ [a]) (L.step s a) := by
  have hready := (Tag.buildAdvData_eq hf.ready L.fw (L.fields a) (a.atUs - L.tagBoot).toNat).2
  by_cases ha : a.heard
  · -- heard: the lock moves to the epoch of this advertisement
    obtain ⟨-, st, hst, hepoch, hat⟩ := verified_of_follows hf ht ha hcf
    have hslot : slotFor L.minor (L.step s a).table = some st := by
      rw [step_table hf, if_pos ha, hst]
    refine ⟨hready, Option.isSome_iff_exists.mpr ⟨st, hslot⟩, fun _ => ⟨st, hslot, Or.inl ?_,
      a, by simp, ha, hat⟩⟩
    change st.lockedEpoch = UInt16.ofInt (ticks bmtEpochTickUs L.boot st.lockedAtUs)
    rw [hepoch, hat]
    exact epoch_eq_sent ht
  · -- missed: only the tag's clock goes on
    have htable : (L.step s a).table = s.table := by rw [step_table hf, if_neg ha]
    refine ⟨hready, by rw [htable]; exact hf.slot, ?_⟩
    intro h
    rcases h with ⟨b, hb, hbheard⟩
    rcases List.mem_append.mp hb with hb | hb
    · obtain ⟨st, hst, hstep, c, hc, hcheard, hlock⟩ := hf.locked ⟨b, hb, hbheard⟩
      exact ⟨st, by rw [htable, hst], hstep, c, List.mem_append_left _ hc, hcheard, hlock⟩
    · rw [List.mem_singleton] at hb
      exact absurd (hb ▸ hbheard) ha

/-- The state at power-up of both: the tag initialised at uptime `initUs`, the scanner with any
epoch table. -/
def start (L : Link) (initUs : ℕ) (tbl : EpochTable) : Session where
  tag := Tag.Auth.bmtAuthInit L.hmac true true {} L.fw initUs {}
  table := tbl

theorem follows_start (initUs : ℕ) {tbl : EpochTable}
    (hslot : ∃ i, (tbl i).isOf L.minor ∨ (tbl i).isFree) :
    L.Follows [] (L.start initUs tbl) := by
  refine ⟨Tag.Auth.ready_bmtAuthInit L.hmac L.fw initUs,
    (slotFor_isSome_iff L.minor tbl).mpr hslot, ?_⟩
  intro h
  simp at h

structure Schedule (L : Link) (as : List Adv) : Prop where
  up : ∀ a ∈ as, L.tagBoot ≤ a.atUs
  ordered : as.Pairwise fun a b => a.atUs ≤ b.atUs
  positive : ∀ a ∈ as, a.heard → 0 < L.now a
  first : ∀ a, as.find? (·.heard) = some a → (L.epoch a).toNat ≤ bmtEpochWideMax

theorem Schedule.timely {as : List Adv} (h : L.Schedule as) (hpre : pre ++ [a] <+: as) :
    L.Timely pre a := by
  obtain ⟨post, rfl⟩ := hpre
  have hordered := (List.pairwise_append.mp (List.pairwise_append.mp h.ordered).1).2.2
  refine ⟨h.up a (by simp), fun b hb => hordered b hb a (by simp),
    fun b hb => h.positive b (List.mem_append_left _ hb), fun ha hnone => h.first a ?_⟩
  have hpre : pre.find? (·.heard) = none := List.find?_eq_none.mpr fun b hb => hnone b hb
  simp [List.find?_append, hpre, ha]

theorem follows_prefix {as : List Adv} {initUs : ℕ} {tbl : EpochTable} (h : L.Schedule as)
    (hslot : ∃ i, (tbl i).isOf L.minor ∨ (tbl i).isFree)
    (hcf : Run.Meets (Run.total L.step) L.NoCollision (L.start initUs tbl) as) :
    ∀ pre, pre <+: as → L.Follows pre (pre.foldl L.step (L.start initUs tbl)) := by
  intro pre
  induction pre using List.reverseRecOn with
  | nil => exact fun _ => follows_start initUs hslot
  | append_singleton pre a ih =>
    intro hpre
    rw [List.foldl_append]
    exact follows_step (ih ((List.prefix_append pre [a]).trans hpre)) (h.timely hpre)
      (Run.meets_total_iff.mp hcf pre a hpre)

/-- Every advertisement the scanner hears of a power cycle is accepted, decodes to what the tag
encoded and locks the tag's epoch; every one but the first is accepted in the narrow window. -/
theorem heard_decoded_and_locked (L : Link) (initUs : ℕ) (tbl : EpochTable) (as : List Adv)
    (h : L.Schedule as) (hslot : ∃ i, (tbl i).isOf L.minor ∨ (tbl i).isFree)
    (hcf : Run.Meets (Run.total L.step) L.NoCollision (L.start initUs tbl) as)
    (pre : List Adv) (a : Adv) (hpre : pre ++ [a] <+: as) (ha : a.heard) :
    let s := pre.foldl L.step (L.start initUs tbl)
    ∃ tbl', L.scan s a = some (some ⟨a.battery, L.minor, a.txPower, a.sequence,
        (L.onAir s a).mac16⟩, tbl') ∧
      bmtAuthGetLockedEpoch L.minor tbl' =
        (a.atUs - L.tagBoot) / bmtEpochTickUs % 2 ^ 16 ∧
      ((∃ b ∈ pre, b.heard) → ∃ e, L.verifyAt (L.now a) (L.onAir s a).minor
        (L.onAir s a).signedBytes (L.onAir s a).mac16 s.table = (some (.narrow e), tbl')) := by
  have hf := follows_prefix h hslot hcf pre ((List.prefix_append pre [a]).trans hpre)
  have ht := h.timely hpre
  have hcfa := Run.meets_total_iff.mp hcf pre a hpre
  generalize pre.foldl L.step (L.start initUs tbl) = s at hf hcfa
  obtain ⟨hsome, st, hst, hepoch, hat⟩ := verified_of_follows hf ht ha hcfa
  have hpos := ht.positive a (by simp) ha
  refine ⟨(L.verified s a).2, ?_, ?_, fun hheard => ?_⟩
  · rw [scan_eq hf.ready, if_pos hsome]
  · have hget : bmtAuthGetLockedEpoch L.minor (L.verified s a).2 = st.lockedEpoch.toNat :=
      bmtAuthGetLockedEpoch_verify _ _ _ _ _ _ _ _ hst (hat ▸ hpos)
    rw [hget, hepoch, epoch_eq_sent ht, sent, toNat_ofInt, ticks, now_sub_boot]
  · obtain ⟨st', hst', hpos', hle, hcov⟩ := covers_of_heard hf ht hheard
    have hkeys : L.keys.tagMaster = some bmtTagMasterKey := rfl
    obtain ⟨v, hv, hnarrow⟩ := verify_signed_narrow hkeys (hcfa ha) hst' hpos' hle hcov
    rw [onAir_eq hf.ready]
    cases v with
    | narrow e => exact ⟨e, Prod.ext hv rfl⟩
    | wide e => cases hnarrow

/-- Tag 1 heard in its first epoch, missed, and heard again after 300 ticks. -/
def tagOneAdvs : List Adv :=
  [⟨1, 100, -53, 0, true⟩, ⟨1000000, 100, -53, 1, false⟩, ⟨300 * bmtEpochTickUs, 99, -53, 2, true⟩]

theorem heard_decoded_and_locked_tagOne :
    let L : Link := ⟨echoHmac, .nrf52840, none, 0, 0, 1⟩
    let s := (tagOneAdvs.take 2).foldl L.step (L.start 0 fun _ => {})
    let a : Adv := ⟨300 * bmtEpochTickUs, 99, -53, 2, true⟩
    ∃ tbl', L.scan s a = some (some ⟨99, 1, -53, 2, (L.onAir s a).mac16⟩, tbl') ∧
      bmtAuthGetLockedEpoch 1 tbl' = 300 := by
  intro L s a
  have hschedule : L.Schedule tagOneAdvs := by
    refine ⟨by decide, by decide, by decide, fun b hb => ?_⟩
    cases hb
    decide
  have hcf : Run.Meets (Run.total L.step) L.NoCollision (L.start 0 fun _ => {}) tagOneAdvs :=
    Run.meets_of_forall (fun s b _ => collisionFree_echoHmac _ (by simp [data]) _ _ _) _ _
  obtain ⟨tbl', hscan, hlock, -⟩ := heard_decoded_and_locked L 0 (fun _ => {}) tagOneAdvs hschedule
    ⟨⟨0, by decide⟩, Or.inr rfl⟩ hcf (tagOneAdvs.take 2) a ⟨[], rfl⟩ rfl
  exact ⟨tbl', hscan, hlock⟩

end Link

end BleMeshTracking.Scanner
