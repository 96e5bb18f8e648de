import BleMeshTracking.Scanner.TagFields

/-!
# The scanner: tags beside each other

The slots of a tag, in the tag table and in the epoch table, depend on the other tags; what they
hold does not, as long as there are no more tags than slots.
-/

namespace BleMeshTracking.Scanner

open Protocol
open Gateway (TagReport)

def epochOf (tagId : UInt16) (tbl : EpochTable) : Option EpochState :=
  SlotTable.lookup (EpochState.isOf tagId) tbl

abbrev DistinctEpochs (tbl : EpochTable) : Prop :=
  SlotTable.Distinct EpochState.valid EpochState.tagId tbl

def lockedEpochOf : Option EpochState → ℤ
  | some st => if 0 < st.lockedAtUs then st.lockedEpoch.toNat else -1
  | none => -1

theorem EpochState.isOf_iff (tagId : UInt16) (st : EpochState) :
    st.isOf tagId = true ↔ st.valid = true ∧ st.tagId = tagId := isOf_eq_true_iff

theorem bmtAuthGetLockedEpoch_eq {tbl : EpochTable} (h : DistinctEpochs tbl) (tagId : UInt16) :
    bmtAuthGetLockedEpoch tagId tbl = lockedEpochOf (epochOf tagId tbl) := by
  cases hfind : SlotTable.find (EpochState.isOf tagId) tbl with
  | none =>
    have hnone := SlotTable.find_eq_none_iff.mp hfind
    have hlocked : SlotTable.find (fun st => st.isOf tagId && decide (0 < st.lockedAtUs)) tbl =
        none := by
      apply SlotTable.find_eq_none_iff.mpr
      intro i
      rw [hnone i, Bool.false_and]
    unfold bmtAuthGetLockedEpoch epochOf SlotTable.lookup
    rw [hlocked, hfind]
    rfl
  | some i =>
    rw [epochOf, SlotTable.lookup_of_find hfind, lockedEpochOf]
    split_ifs with hlocked
    · exact bmtAuthGetLockedEpoch_of_find hfind hlocked
    · -- no other slot is the tag's
      obtain ⟨hi, hid⟩ := isOf_eq_true_iff.mp (SlotTable.find_sat hfind)
      have hnone : SlotTable.find (fun st => st.isOf tagId && decide (0 < st.lockedAtUs)) tbl =
          none := by
        apply SlotTable.find_eq_none_iff.mpr
        intro j
        apply Bool.eq_false_iff.mpr
        intro hj
        obtain ⟨hj, hlt⟩ := Bool.and_eq_true_iff.mp hj
        obtain ⟨hj, hjd⟩ := isOf_eq_true_iff.mp hj
        rw [h j i hj hi (hjd.trans hid.symm)] at hlt
        exact hlocked (of_decide_eq_true hlt)
      unfold bmtAuthGetLockedEpoch
      rw [hnone]

theorem epochOf_of_find {tagId : UInt16} {tbl : EpochTable}
    (h : SlotTable.find (EpochState.isOf tagId) tbl = none) : epochOf tagId tbl = none := by
  rw [epochOf, SlotTable.lookup, h]
  rfl

theorem slotFor_of_free {tagId : UInt16} {tbl : EpochTable} {i : Fin bmtAuthMaxTags}
    (h : SlotTable.find (EpochState.isOf tagId) tbl = none)
    (hfree : SlotTable.find EpochState.isFree tbl = some i) :
    slotFor tagId tbl = some (.fresh tagId) := by
  rw [slotFor, findOrAllocEpochState, SlotTable.acquire_of_free h hfree]
  exact congrArg some (Function.update_self ..)

/-- A tag without a slot tries what a tag with a new slot tries. -/
theorem attemptsFor_eq (tagId : UInt16) (nowUs : ℤ) (tbl : EpochTable) :
    attemptsFor tagId nowUs tbl = attempts (epochOf tagId tbl) nowUs := by
  cases hfind : SlotTable.find (EpochState.isOf tagId) tbl with
  | some i => rw [attemptsFor, slotFor_of_find hfind, epochOf, SlotTable.lookup_of_find hfind]
  | none =>
    rw [attemptsFor, epochOf_of_find hfind]
    -- a new slot was never locked, so there is no window around its epoch
    cases hfree : SlotTable.find EpochState.isFree tbl with
    | some i =>
      rw [slotFor_of_free hfind hfree]
      rfl
    | none =>
      rw [slotFor, findOrAllocEpochState, SlotTable.acquire_of_full hfind hfree]
      rfl

/-- The slot a verification finds, where there is room. -/
theorem slotFor_eq {tagId : UInt16} {tbl : EpochTable}
    (hroom : epochOf tagId tbl = none → ∃ i, (tbl i).isFree = true) :
    slotFor tagId tbl = some ((epochOf tagId tbl).getD (.fresh tagId)) := by
  cases hfind : SlotTable.find (EpochState.isOf tagId) tbl with
  | some i =>
    rw [slotFor_of_find hfind, epochOf, SlotTable.lookup_of_find hfind]
    rfl
  | none =>
    have hnone := epochOf_of_find hfind
    obtain ⟨i, hi⟩ := Option.isSome_iff_exists.mp (SlotTable.find_isSome_iff.mpr (hroom hnone))
    rw [hnone, slotFor_of_free hfind hi]
    rfl

def lockAfter (verified : Option Attempt) (nowUs : ℤ) (st : EpochState) : EpochState :=
  match verified with
  | some a => { st with lockedEpoch := a.epoch, lockedAtUs := nowUs }
  | none => st

theorem lockAfter_key (verified : Option Attempt) (nowUs : ℤ) (st : EpochState) :
    (lockAfter verified nowUs st).valid = st.valid ∧
      (lockAfter verified nowUs st).tagId = st.tagId := by
  cases verified with
  | none => exact ⟨rfl, rfl⟩
  | some a => exact ⟨rfl, rfl⟩

theorem storeLock_some (i : Fin bmtAuthMaxTags) (verified : Option Attempt) (nowUs : ℤ)
    (tbl : EpochTable) :
    storeLock (some i) verified nowUs tbl =
      Function.update tbl i (lockAfter verified nowUs (tbl i)) := by
  cases verified with
  | none => exact (Function.update_eq_self i tbl).symm
  | some a => rfl

section Verify

variable (hmac : Hmac) (calls : Attempt → TryCalls) (keys : AuthKeys) (tagId : UInt16)
  (data : Bytes) (receivedMac : UInt16) (nowUs : ℤ) (tbl : EpochTable)

theorem epochOf_verify (hroom : epochOf tagId tbl = none → ∃ i, (tbl i).isFree = true) :
    epochOf tagId (bmtAuthVerifyTag hmac calls keys tagId data receivedMac nowUs tbl).2 =
      some (lockAfter (bmtAuthVerifyTag hmac calls keys tagId data receivedMac nowUs tbl).1 nowUs
        ((epochOf tagId tbl).getD (.fresh tagId))) := by
  have hslot := slotFor_verify hmac calls keys tagId data receivedMac nowUs tbl
  rw [slotFor_eq hroom, Option.map_some] at hslot
  rcases find_verify hmac calls keys tagId data receivedMac nowUs tbl with hown | hnone
  · obtain ⟨i, hi⟩ := Option.isSome_iff_exists.mp hown
    rw [slotFor_of_find hi] at hslot
    rw [epochOf, SlotTable.lookup_of_find hi, hslot]
    rfl
  · rw [hnone] at hslot
    cases hslot

/-- A verification writes the slot of its tag, or finds the table full. -/
theorem verify_writes :
    SlotTable.WritesFor EpochState.valid EpochState.tagId tagId tbl
      (bmtAuthVerifyTag hmac calls keys tagId data receivedMac nowUs tbl).2 := by
  rw [bmtAuthVerifyTag_snd]
  generalize (bmtAuthVerifyTag hmac calls keys tagId data receivedMac nowUs tbl).1 = verified
  unfold findOrAllocEpochState
  rcases SlotTable.acquire_cases (EpochState.isOf tagId) EpochState.isFree (.fresh tagId) tbl with
    ⟨i, hi, he⟩ | ⟨i, hi, hfree, he⟩ | ⟨-, -, he⟩
  · obtain ⟨hvalid, hid⟩ := isOf_eq_true_iff.mp (SlotTable.find_sat hi)
    obtain ⟨hvalid', hid'⟩ := lockAfter_key verified nowUs (tbl i)
    rw [he, storeLock_some]
    exact Or.inr ⟨i, _, rfl, hvalid'.trans hvalid, hid'.trans hid, Or.inl ⟨hvalid, hid⟩⟩
  · have hinvalid : (tbl i).valid = false := by
      simpa [EpochState.isFree] using SlotTable.find_sat hfree
    have habsent : ∀ j, (tbl j).valid = true → (tbl j).tagId ≠ tagId :=
      fun _ => SlotTable.key_ne_of_find (fun _ => isOf_eq_true_iff) hi
    obtain ⟨hvalid', hid'⟩ := lockAfter_key verified nowUs (.fresh tagId)
    rw [he, storeLock_some]
    dsimp only
    rw [Function.update_self, Function.update_idem]
    exact Or.inr ⟨i, _, rfl, hvalid', hid', Or.inr ⟨hinvalid, habsent⟩⟩
  · rw [he]
    exact Or.inl rfl

end Verify

theorem trackedEntry_of_room {p : TagPayload} {tags : TagTable}
    (hroom : entryOf p.tagId tags = none → hasFree tags = true) (r : ScanResult) (epoch : ℤ) :
    trackedEntry p r epoch (hasFree tags) (entryOf p.tagId tags) =
      trackedEntry p r epoch true (entryOf p.tagId tags) := by
  cases hentry : entryOf p.tagId tags with
  | some t => rfl
  | none => rw [hroom hentry]

namespace TagScanner

variable (hmac : Hmac) (s : TagScanner) (a : TagResult)

def accepts : Bool := a.isParsed s.air && (a.verify hmac s.air.epochs).1.isSome

/-- What `gap_event_handler` does with it, in one of three ways: not parsed, rejected, accepted. -/
theorem scanResult_eq :
    ((acceptScanResult hmac a.result s.air).bind Prod.fst).isSome = s.accepts hmac a ∧
      (s.after hmac (.scanResult a.result)).air =
        (if a.isParsed s.air then { s.air with epochs := (a.verify hmac s.air.epochs).2 }
        else s.air) ∧
      (s.after hmac (.scanResult a.result)).tags =
        if s.accepts hmac a then
          trackTag (tagPayload a.data) a.result
            (bmtAuthGetLockedEpoch a.tagId (a.verify hmac s.air.epochs).2) s.tags
        else s.tags := by
  unfold accepts after
  simp only [a.acceptScanResult_eq]
  cases a.isParsed s.air with
  | false => exact ⟨rfl, rfl, rfl⟩
  | true =>
    cases (a.verify hmac s.air.epochs).1 with
    | none => exact ⟨rfl, rfl, rfl⟩
    | some attempt => exact ⟨rfl, rfl, rfl⟩

theorem acceptScanResult_isSome :
    ((acceptScanResult hmac a.result s.air).bind Prod.fst).isSome = s.accepts hmac a :=
  (s.scanResult_eq hmac a).1

theorem air_scanResult :
    (s.after hmac (.scanResult a.result)).air =
      if a.isParsed s.air then { s.air with epochs := (a.verify hmac s.air.epochs).2 }
      else s.air := (s.scanResult_eq hmac a).2.1

theorem tags_scanResult :
    (s.after hmac (.scanResult a.result)).tags =
      if s.accepts hmac a then
        trackTag (tagPayload a.data) a.result
          (bmtAuthGetLockedEpoch a.tagId (a.verify hmac s.air.epochs).2) s.tags
      else s.tags := (s.scanResult_eq hmac a).2.2

/-- With room, the entry after a scan result is made of the one before it. -/
theorem entryOf_scanResult (hroom : entryOf a.tagId s.tags = none → hasFree s.tags = true) :
    entryOf a.tagId (s.after hmac (.scanResult a.result)).tags =
      if s.accepts hmac a then
        trackedEntry (tagPayload a.data) a.result
          (bmtAuthGetLockedEpoch a.tagId (a.verify hmac s.air.epochs).2) true
          (entryOf a.tagId s.tags)
      else entryOf a.tagId s.tags := by
  rw [tags_scanResult]
  split_ifs
  · have hentry := entryOf_trackTag (tagPayload a.data) a.result
      (bmtAuthGetLockedEpoch a.tagId (a.verify hmac s.air.epochs).2) s.tags
      (tagPayload a.data).tagId
    rw [if_pos rfl, trackedEntry_of_room hroom] at hentry
    exact hentry
  · rfl

theorem epochs_scanResult_writes :
    SlotTable.WritesFor EpochState.valid EpochState.tagId a.tagId s.air.epochs
      (s.after hmac (.scanResult a.result)).air.epochs := by
  rw [air_scanResult]
  split_ifs
  · exact verify_writes ..
  · exact Or.inl rfl

theorem tags_scanResult_writes :
    SlotTable.WritesFor TagEntry.active TagEntry.tagId a.tagId s.tags
      (s.after hmac (.scanResult a.result)).tags := by
  rw [tags_scanResult]
  split_ifs
  · exact trackTag_writes ..
  · exact Or.inl rfl

variable {hmac s a}

structure Within (ids : Finset UInt16) (s : TagScanner) : Prop where
  tags : DistinctTags s.tags
  epochs : DistinctEpochs s.air.epochs
  tagIds : ∀ i, (s.tags i).active = true → (s.tags i).tagId ∈ ids
  epochIds : ∀ i, (s.air.epochs i).valid = true → (s.air.epochs i).tagId ∈ ids

variable {ids : Finset UInt16} {tagId : UInt16}

theorem Within.tagRoom (h : Within ids s) (hcard : ids.card ≤ bmtMaxTags) (hid : tagId ∈ ids)
    (hnone : entryOf tagId s.tags = none) : hasFree s.tags = true := by
  have habsent : ∀ i, (s.tags i).active = true → (s.tags i).tagId ≠ tagId := by
    intro i hi hk
    have hnot := SlotTable.lookup_eq_none_iff.mp hnone i
    rw [(TagEntry.isOf_iff _ _).mpr ⟨hi, hk⟩] at hnot
    cases hnot
  obtain ⟨i, hi⟩ := h.tags.exists_free_of_absent h.tagIds hcard hid habsent
  exact SlotTable.find_isSome_iff.mpr ⟨i, by rw [TagEntry.isFree, hi]; rfl⟩

theorem Within.epochRoom (h : Within ids s) (hcard : ids.card ≤ bmtMaxTags) (hid : tagId ∈ ids)
    (hnone : epochOf tagId s.air.epochs = none) : ∃ i, (s.air.epochs i).isFree = true := by
  have habsent : ∀ i, (s.air.epochs i).valid = true → (s.air.epochs i).tagId ≠ tagId := by
    intro i hi hk
    have hnot := SlotTable.lookup_eq_none_iff.mp hnone i
    rw [isOf_eq_true_iff.mpr ⟨hi, hk⟩] at hnot
    cases hnot
  obtain ⟨i, hi⟩ := h.epochs.exists_free_of_absent h.epochIds hcard hid habsent
  exact ⟨i, by rw [EpochState.isFree, hi]; rfl⟩

theorem within_start (ids : Finset UInt16) : Within ids {} := by
  refine ⟨?_, ?_, ?_, ?_⟩
  · intro i j hi
    cases hi
  · intro i j hi
    cases hi
  · intro i hi
    cases hi
  · intro i hi
    cases hi

theorem Within.scanResult (h : Within ids s) (hid : a.tagId ∈ ids) :
    Within ids (s.after hmac (.scanResult a.result)) := by
  have htags := s.tags_scanResult_writes hmac a
  have hepochs := s.epochs_scanResult_writes hmac a
  refine ⟨?_, ?_, ?_, ?_⟩
  · exact h.tags.writesFor htags
  · exact h.epochs.writesFor hepochs
  · exact htags.mem_keys h.tagIds hid
  · exact hepochs.mem_keys h.epochIds hid

theorem Within.timeouts (h : Within ids s) (nowMs : UInt32) :
    Within ids { s with tags := bmtTagTableCheckTimeouts nowMs s.tags } := by
  refine ⟨distinct_checkTimeouts h.tags nowMs, h.epochs, ?_, h.epochIds⟩
  intro i hi
  obtain ⟨hactive, hkey⟩ := (s.tags i).checkTimeout_key nowMs
  have hold := h.tagIds i (hactive hi)
  rw [← hkey] at hold
  exact hold

theorem Within.checkTimeouts (h : Within ids s) (hmac : Hmac) (nowMs : UInt32) :
    Within ids (s.after hmac (.checkTimeouts nowMs)) := by
  unfold after
  dsimp only
  split_ifs
  · exact h
  · exact h.timeouts nowMs

end TagScanner

/-- What a scanner goes through among tags: their advertisements, timeout checks, changes of the OTA
trigger made elsewhere, and the publishing of reports. -/
inductive TrackingEvent
  | adv (a : TagResult)
  | checkTimeouts (nowMs : UInt32)
  | otaTrigger (triggered : Bool)
  | publish (isProvisioned : Bool) (appIdx : UInt16) (scannerId : UInt8)

def TrackingEvent.tagId : TrackingEvent → Option UInt16
  | .adv a => some a.tagId
  | _ => none

def TrackingEvent.isOfOther (tagId : UInt16) : TrackingEvent → Bool
  | .adv a => a.tagId != tagId
  | _ => false

def tagIds (es : List TrackingEvent) : Finset UInt16 := (es.filterMap TrackingEvent.tagId).toFinset

/-- The scanner, with the advertisements heard, by tag and whether they were accepted, and the
reports published. -/
structure Tracking where
  scanner : TagScanner := {}
  verdicts : List (UInt16 × Bool) := []
  reports : List TagReport := []

namespace Tracking

def after (hmac : Hmac) (s : Tracking) : TrackingEvent → Tracking
  | .adv a =>
    { s with
      scanner := s.scanner.after hmac (.scanResult a.result)
      verdicts :=
        (a.tagId, ((acceptScanResult hmac a.result s.scanner.air).bind Prod.fst).isSome) ::
          s.verdicts }
  | .checkTimeouts nowMs => { s with scanner := s.scanner.after hmac (.checkTimeouts nowMs) }
  | .otaTrigger triggered => { s with scanner := s.scanner.after hmac (.otaTrigger triggered) }
  | .publish isProvisioned appIdx scannerId =>
    { s with
      reports := s.reports ++
        bmtMeshPublishTags isProvisioned appIdx scannerId s.scanner.tags }

/-- The same of a tag: its entry, its epoch slot and the epoch reported for it, what it would be
verified by, which of its advertisements were accepted, and the reports about it. -/
structure SameTag (tagId : UInt16) (s t : Tracking) : Prop where
  entry : entryOf tagId s.scanner.tags = entryOf tagId t.scanner.tags
  epoch : epochOf tagId s.scanner.air.epochs = epochOf tagId t.scanner.air.epochs
  lockedEpoch : bmtAuthGetLockedEpoch tagId s.scanner.air.epochs =
    bmtAuthGetLockedEpoch tagId t.scanner.air.epochs
  verified : ∀ hmac calls keys data receivedMac nowUs,
    (bmtAuthVerifyTag hmac calls keys tagId data receivedMac nowUs s.scanner.air.epochs).1 =
      (bmtAuthVerifyTag hmac calls keys tagId data receivedMac nowUs t.scanner.air.epochs).1
  verdicts : s.verdicts.filter (fun v => v.1 == tagId) = t.verdicts.filter (fun v => v.1 == tagId)
  reports : s.reports.filter (fun r => r.tagId == tagId) =
    t.reports.filter (fun r => r.tagId == tagId)

/-- An advertisement finds an epoch slot for its tag, and an entry if it is accepted. -/
def FindsRoom (hmac : Hmac) (s : Tracking) : TrackingEvent → Prop
  | .adv a =>
    (slotFor a.tagId s.scanner.air.epochs).isSome = true ∧
      (((acceptScanResult hmac a.result s.scanner.air).bind Prod.fst).isSome = true →
        (entryOf a.tagId (s.after hmac (.adv a)).scanner.tags).isSome = true)
  | _ => True

structure Alike (ids : Finset UInt16) (tagId : UInt16) (s t : Tracking) : Prop where
  within : s.scanner.Within ids
  within' : t.scanner.Within ids
  otaTriggered : s.scanner.air.otaTriggered = t.scanner.air.otaTriggered
  entry : entryOf tagId s.scanner.tags = entryOf tagId t.scanner.tags
  epoch : epochOf tagId s.scanner.air.epochs = epochOf tagId t.scanner.air.epochs
  verdicts : s.verdicts.filter (fun v => v.1 == tagId) = t.verdicts.filter (fun v => v.1 == tagId)
  reports : s.reports.filter (fun r => r.tagId == tagId) =
    t.reports.filter (fun r => r.tagId == tagId)

variable {hmac : Hmac} {ids : Finset UInt16} {tagId : UInt16} {s t : Tracking}

theorem Alike.sameTag (h : Alike ids tagId s t) : SameTag tagId s t := by
  refine ⟨h.entry, h.epoch, ?_, ?_, h.verdicts, h.reports⟩
  · rw [bmtAuthGetLockedEpoch_eq h.within.epochs, bmtAuthGetLockedEpoch_eq h.within'.epochs,
      h.epoch]
  · intro hmac calls keys data receivedMac nowUs
    rw [bmtAuthVerifyTag_fst, bmtAuthVerifyTag_fst, attemptsFor_eq, attemptsFor_eq, h.epoch]

theorem Alike.other (h : Alike ids tagId s t) {a : TagResult} (ha : a.tagId ≠ tagId)
    (hid : a.tagId ∈ ids) : Alike ids tagId (s.after hmac (.adv a)) t := by
  have htags := s.scanner.tags_scanResult_writes hmac a
  have hepochs := s.scanner.epochs_scanResult_writes hmac a
  refine ⟨h.within.scanResult hid, h.within', ?_, ?_, ?_, ?_, h.reports⟩
  · rw [← h.otaTriggered]
    unfold after
    rw [TagScanner.air_scanResult]
    split_ifs
    · rfl
    · rfl
  · exact (htags.lookup_other TagEntry.isOf_iff ha.symm).trans h.entry
  · exact (hepochs.lookup_other EpochState.isOf_iff ha.symm).trans h.epoch
  · unfold after
    rw [List.filter_cons_of_neg (by simpa using ha)]
    exact h.verdicts

section Own

variable {a : TagResult} (hcard : ids.card ≤ bmtMaxTags) (hid : a.tagId ∈ ids)

include hcard hid

theorem Alike.verify (h : Alike ids a.tagId s t) (hmac : Hmac) :
    (a.verify hmac s.scanner.air.epochs).1 = (a.verify hmac t.scanner.air.epochs).1 ∧
      epochOf a.tagId (a.verify hmac s.scanner.air.epochs).2 =
        epochOf a.tagId (a.verify hmac t.scanner.air.epochs).2 := by
  have hverified : (a.verify hmac s.scanner.air.epochs).1 =
      (a.verify hmac t.scanner.air.epochs).1 := h.sameTag.verified ..
  have hs := epochOf_verify hmac a.result.calls a.result.keys a.tagId (a.data.take 22)
    (tagPayload a.data).mac16 a.result.nowUs s.scanner.air.epochs (h.within.epochRoom hcard hid)
  have ht := epochOf_verify hmac a.result.calls a.result.keys a.tagId (a.data.take 22)
    (tagPayload a.data).mac16 a.result.nowUs t.scanner.air.epochs (h.within'.epochRoom hcard hid)
  refine ⟨hverified, hs.trans (Eq.trans ?_ ht.symm)⟩
  unfold TagResult.verify at hverified
  rw [hverified, h.epoch]

theorem Alike.own (h : Alike ids a.tagId s t) :
    Alike ids a.tagId (s.after hmac (.adv a)) (t.after hmac (.adv a)) := by
  obtain ⟨hverified, hepoch⟩ := h.verify hcard hid hmac
  have hparsed : a.isParsed s.scanner.air = a.isParsed t.scanner.air := by
    unfold TagResult.isParsed
    rw [h.otaTriggered]
  have haccepts : s.scanner.accepts hmac a = t.scanner.accepts hmac a := by
    unfold TagScanner.accepts
    rw [hparsed, hverified]
  have hlocked : bmtAuthGetLockedEpoch a.tagId (a.verify hmac s.scanner.air.epochs).2 =
      bmtAuthGetLockedEpoch a.tagId (a.verify hmac t.scanner.air.epochs).2 := by
    have hs : DistinctEpochs (a.verify hmac s.scanner.air.epochs).2 :=
      h.within.epochs.writesFor (verify_writes ..)
    have ht : DistinctEpochs (a.verify hmac t.scanner.air.epochs).2 :=
      h.within'.epochs.writesFor (verify_writes ..)
    rw [bmtAuthGetLockedEpoch_eq hs, bmtAuthGetLockedEpoch_eq ht, hepoch]
  refine ⟨h.within.scanResult hid, h.within'.scanResult hid, ?_, ?_, ?_, ?_, h.reports⟩
  · unfold after
    rw [TagScanner.air_scanResult, TagScanner.air_scanResult, hparsed]
    split_ifs
    · exact h.otaTriggered
    · exact h.otaTriggered
  · -- the slot differs, but both tables have one
    unfold after
    dsimp only
    rw [TagScanner.entryOf_scanResult _ _ _ (h.within.tagRoom hcard hid),
      TagScanner.entryOf_scanResult _ _ _ (h.within'.tagRoom hcard hid), haccepts, hlocked, h.entry]
  · unfold after
    rw [TagScanner.air_scanResult, TagScanner.air_scanResult, hparsed]
    split_ifs
    · exact hepoch
    · exact h.epoch
  · have hheard : ∀ u : Tracking, (u.after hmac (.adv a)).verdicts =
        (a.tagId, u.scanner.accepts hmac a) :: u.verdicts := by
      intro u
      unfold after
      dsimp only
      rw [TagScanner.acceptScanResult_isSome]
    rw [hheard, hheard, haccepts, List.filter_cons, List.filter_cons, h.verdicts]

end Own

theorem Alike.checkTimeouts (h : Alike ids tagId s t) (nowMs : UInt32) :
    Alike ids tagId (s.after hmac (.checkTimeouts nowMs))
      (t.after hmac (.checkTimeouts nowMs)) := by
  unfold after TagScanner.after
  dsimp only
  rw [← h.otaTriggered]
  split_ifs
  · exact h
  · refine ⟨h.within.timeouts nowMs, h.within'.timeouts nowMs, h.otaTriggered, ?_, h.epoch,
      h.verdicts, h.reports⟩
    dsimp only
    rw [entryOf_checkTimeouts h.within.tags, entryOf_checkTimeouts h.within'.tags, h.entry]

theorem Alike.after (h : Alike ids tagId s t) (hcard : ids.card ≤ bmtMaxTags) {e : TrackingEvent}
    (he : e.isOfOther tagId = false) (hid : ∀ id ∈ e.tagId, id ∈ ids) :
    Alike ids tagId (s.after hmac e) (t.after hmac e) := by
  cases e with
  | adv a =>
    have ha : a.tagId = tagId := by simpa [TrackingEvent.isOfOther] using he
    subst ha
    exact h.own hcard (hid a.tagId rfl)
  | checkTimeouts nowMs => exact h.checkTimeouts nowMs
  | otaTrigger triggered =>
    refine ⟨?_, ?_, rfl, h.entry, h.epoch, h.verdicts, h.reports⟩
    · exact ⟨h.within.tags, h.within.epochs, h.within.tagIds, h.within.epochIds⟩
    · exact ⟨h.within'.tags, h.within'.epochs, h.within'.tagIds, h.within'.epochIds⟩
  | publish isProvisioned appIdx scannerId =>
    refine ⟨h.within, h.within', h.otaTriggered, h.entry, h.epoch, h.verdicts, ?_⟩
    unfold Tracking.after
    dsimp only
    rw [List.filter_append, List.filter_append, h.reports, published_filter h.within.tags,
      published_filter h.within'.tags, h.entry]

theorem within_after (h : s.scanner.Within ids) {e : TrackingEvent}
    (hid : ∀ id ∈ e.tagId, id ∈ ids) : (s.after hmac e).scanner.Within ids := by
  cases e with
  | adv a => exact h.scanResult (hid a.tagId rfl)
  | checkTimeouts nowMs => exact h.checkTimeouts hmac nowMs
  | otaTrigger triggered => exact ⟨h.tags, h.epochs, h.tagIds, h.epochIds⟩
  | publish isProvisioned appIdx scannerId => exact h

theorem findsRoom_of_within (h : s.scanner.Within ids) (hcard : ids.card ≤ bmtMaxTags)
    {e : TrackingEvent} (hid : ∀ id ∈ e.tagId, id ∈ ids) : FindsRoom hmac s e := by
  cases e with
  | adv a =>
    have hown : a.tagId ∈ ids := hid a.tagId rfl
    refine ⟨?_, ?_⟩
    · rw [slotFor_eq (h.epochRoom hcard hown)]
      rfl
    · rw [TagScanner.acceptScanResult_isSome]
      intro haccepts
      unfold after
      dsimp only
      rw [TagScanner.entryOf_scanResult _ _ _ (h.tagRoom hcard hown), if_pos haccepts]
      cases entryOf a.tagId s.scanner.tags with
      | none => rfl
      | some t => rfl
  | checkTimeouts nowMs => trivial
  | otaTrigger triggered => trivial
  | publish isProvisioned appIdx scannerId => trivial

end Tracking

theorem mem_tagIds {es : List TrackingEvent} {e : TrackingEvent} (he : e ∈ es) {id : UInt16}
    (hid : id ∈ e.tagId) : id ∈ tagIds es :=
  List.mem_toFinset.mpr (List.mem_filterMap.mpr ⟨e, he, hid⟩)

/-- In every run with at most `BMT_MAX_TAGS` tags, each advertisement finds room for its tag, no two
active entries have one id, and everything about a tag is at every point as in the run without the
advertisements of the other tags. -/
theorem tags_independent (hmac : Hmac) (es : List TrackingEvent)
    (hcard : (tagIds es).card ≤ bmtMaxTags) :
    Run.Meets (Run.total (Tracking.after hmac)) (Tracking.FindsRoom hmac) {} es ∧
      Run.Throughout (Run.total (Tracking.after hmac)) (fun s => DistinctTags s.scanner.tags) {}
        es ∧
      ∀ pre, pre <+: es → ∀ tagId,
        Tracking.SameTag tagId (pre.foldl (Tracking.after hmac) {})
          ((Unwinding.visible (TrackingEvent.isOfOther tagId) pre).foldl
            (Tracking.after hmac) {}) := by
  have hknown : Run.Meets (Run.total (Tracking.after hmac))
      (fun _ e => ∀ id ∈ e.tagId, id ∈ tagIds es) {} es :=
    Run.meets_of_mem (fun e he _ _ hid => mem_tagIds he hid) _
  have hstart : (Tracking.scanner {}).Within (tagIds es) := TagScanner.within_start _
  have hstep : ∀ s e s', Tracking.scanner s |>.Within (tagIds es) →
      (∀ id ∈ TrackingEvent.tagId e, id ∈ tagIds es) →
      Run.total (Tracking.after hmac) s e = some s' → s'.scanner.Within (tagIds es) := by
    rintro s e s' hs hid ⟨⟩
    exact Tracking.within_after hs hid
  refine ⟨?_, ?_, ?_⟩
  · apply Run.meets_of_meets hstep _ hstart hknown
    intro s e s' hs hid _
    exact Tracking.findsRoom_of_within hs hcard hid
  · apply (Run.throughout_of_meets hstep hstart hknown).mono
    intro s hs
    exact hs.tags
  · intro pre hpre tagId
    have halike : Tracking.Alike (tagIds es) tagId {} {} :=
      ⟨hstart, hstart, rfl, rfl, rfl, rfl, rfl⟩
    -- a step of another tag alone, and a step of both runs
    refine (Unwinding.related_prefix ?_ ?_ halike hknown hpre).sameTag
    · intro s t e h hother hid
      cases e with
      | adv a => exact h.other (by simpa [TrackingEvent.isOfOther] using hother) (hid a.tagId rfl)
      | checkTimeouts nowMs => cases hother
      | otaTrigger triggered => cases hother
      | publish isProvisioned appIdx scannerId => cases hother
    · intro s t e h hother hid
      exact h.after hcard hother hid

def heardResult (minor : UInt16) (sequence : UInt8) (epoch : UInt16) : TagResult :=
  let p := Tag.signedPayload echoHmac epoch ⟨100, minor, -53, sequence⟩
  { result :=
      { adv := Tag.advData .esp32 p
        rssi := -60
        bda := fun _ => 0
        nowMs := 1
        nowUs := 1
        keys := tagOne.keys }
    data := p.toBytes
    holds := holdsTag_advData .esp32 rfl }

def twoTags : List TrackingEvent :=
  [.adv (heardResult 2 0 0), .adv (heardResult 1 0 0), .publish true 0 1,
    .adv (heardResult 1 1 0x8000), .adv (heardResult 2 1 0), .checkTimeouts 3000]

theorem tags_independent_twoTags :
    entryOf 1 (twoTags.foldl (Tracking.after echoHmac) {}).scanner.tags =
      entryOf 1 ((Unwinding.visible (TrackingEvent.isOfOther 1) twoTags).foldl
        (Tracking.after echoHmac) {}).scanner.tags :=
  ((tags_independent echoHmac twoTags (by decide +kernel)).2.2 _ (List.prefix_refl _) 1).entry

end BleMeshTracking.Scanner
