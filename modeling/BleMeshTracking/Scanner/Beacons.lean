import BleMeshTracking.Library.Unwinding
import BleMeshTracking.Scanner.Replay
import BleMeshTracking.Scanner.ScanResult
import BleMeshTracking.Scanner.TagTable

/-!
# iBeacons beside authenticated tags

`gap_event_handler` accepts an Apple iBeacon without a MAC, under its minor with the top bit set,
and keeps it in the table of the tags.  What a deletion of all iBeacons leaves unchanged is decided
by the ids and by the room in that table.
-/

namespace BleMeshTracking.Scanner

open Protocol

/-- A scan result: what was received and when, the calls of the crypto library, the keys, the phase
of the radio and `BMT_PROV_COMPLETE_BIT`. -/
structure ScanResult where
  adv : Bytes
  rssi : Int8
  bda : Fin 6 → UInt8
  nowMs : UInt32
  nowUs : ℤ
  macOk : Bool := true
  calls : Attempt → TryCalls := fun _ => {}
  keys : AuthKeys
  phaseGapScan : Bool := true
  provComplete : Bool := true

/-- What the handler keeps besides the tag table. -/
structure AirState where
  epochs : EpochTable := fun _ => {}
  otaTriggered : Bool := false
  ota : OtaBeaconState := {}

/-- The part of `gap_event_handler` before the tag table: the payload that `parse_tag_payload`
accepts, if it is called. -/
def acceptScanResult (hmac : Hmac) (r : ScanResult) (s : AirState) :
    Option (Option TagPayload × AirState) := do
  let (trigger, ota) ← otaBeacon hmac r.macOk r.keys s.otaTriggered r.adv r.nowUs s.ota
  let s := { s with otaTriggered := s.otaTriggered || trigger, ota }
  if s.otaTriggered || !r.phaseGapScan || !r.provComplete then
    return (none, s)
  else
    let verify tagId data receivedMac epochs :=
      let result := bmtAuthVerifyTag hmac r.calls r.keys tagId data receivedMac r.nowUs epochs
      (result.1.isSome, result.2)
    let (payload, epochs) ← parseTagPayload verify r.adv s.epochs
    return (payload, { s with epochs })

/-- The rest of `gap_event_handler`; `epoch` is that of `bmt_auth_get_locked_epoch`. -/
def trackTag (p : TagPayload) (r : ScanResult) (epoch : ℤ) (tags : TagTable) : TagTable :=
  match bmtTagTableFind p.tagId tags with
  | some i =>
    bmtTagTableSetEpoch i epoch
      (bmtTagTableUpdate i r.rssi p.sequence p.battery r.nowMs tags)
  | none =>
    match bmtTagTableAdd (.fresh p.tagId p.battery p.txPower r.rssi p.sequence r.bda r.nowMs)
        tags with
    | (some i, tags) => bmtTagTableSetEpoch i epoch tags
    | (none, tags) => tags

/-- A verification that always fails, and leaves `false` for having been called. -/
def neverVerifies (_ : UInt16) (_ : Bytes) (_ : UInt16) (_ : Bool) : Bool × Bool := (false, false)

def unsignedPayload (adv : Bytes) : Option (Option TagPayload) :=
  match parseTagPayload neverVerifies adv true with
  | some (payload, true) => some payload
  | _ => none

/-- An Apple iBeacon: manufacturer data with its header, and nothing beside it that carries a
MAC. -/
def isIBeacon (adv : Bytes) : Bool :=
  decide ([0xFF, 0x4C, 0x00, 0x02, 0x15] <:+: adv) && (unsignedPayload adv).isSome &&
    decide (otaFieldFrom adv 0 = some none)

section Walk

variable {σ : Type} (verify : UInt16 → Bytes → UInt16 → σ → Bool × σ) {adv : Bytes}

theorem espressifField_unverified {pos : ℕ} {o : Option TagPayload}
    (h : espressifField neverVerifies adv pos true = some (o, true)) (s : σ) :
    espressifField verify adv pos s = some (o, s) := by
  unfold espressifField at h ⊢
  cases hraw : readBytes adv (pos + 4) 24 with
  | none => simp [hraw] at h
  | some raw =>
    by_cases huuid : raw.take 4 = bmtSystemUuidPrefix
    · simp [hraw, huuid, neverVerifies] at h
    · simpa [hraw, huuid] using h

/-- A field for which nothing is verified gives the same payload whatever verification does. -/
theorem tagField_unverified {pos : ℕ} {fieldLen : UInt8} {o : Option TagPayload}
    (h : tagField neverVerifies adv pos fieldLen true = some (o, true)) (s : σ) :
    tagField verify adv pos fieldLen s = some (o, s) := by
  unfold tagField at h ⊢
  simp only [Option.bind_eq_bind, Option.bind_eq_some_iff] at h ⊢
  obtain ⟨fieldType, htype, h⟩ := h
  refine ⟨fieldType, htype, ?_⟩
  split_ifs at h ⊢ with hff
  · simp only [Option.bind_eq_some_iff] at h ⊢
    obtain ⟨lo, hlo, hi, hhi, h⟩ := h
    refine ⟨lo, hlo, hi, hhi, ?_⟩
    split_ifs at h ⊢ with hesp happle
    · exact espressifField_unverified verify h s
    · cases hfield : appleField adv pos with
      | none => simp [hfield] at h
      | some p => simpa [hfield] using h
    · simpa using h
  · simpa using h

theorem tagField_attempted {pos : ℕ} {fieldLen : UInt8} {o : Option TagPayload} {b : Bool}
    (h : tagField neverVerifies adv pos fieldLen false = some (o, b)) : b = false := by
  unfold tagField espressifField at h
  simp only [Option.bind_eq_bind, Option.bind_eq_some_iff] at h
  obtain ⟨fieldType, -, h⟩ := h
  split_ifs at h with hff
  · simp only [Option.bind_eq_some_iff] at h
    obtain ⟨lo, -, hi, -, h⟩ := h
    split_ifs at h with hesp happle
    · obtain ⟨raw, -, h⟩ := Option.bind_eq_some_iff.mp h
      simp only [neverVerifies] at h
      split_ifs at h <;> simp_all
    · obtain ⟨p, -, h⟩ := Option.bind_eq_some_iff.mp h
      simp_all
    · simp_all
  · simp_all

theorem parseFrom_attempted {pos : ℕ} {o : Option TagPayload} {b : Bool}
    (h : parseFrom neverVerifies adv pos false = some (o, b)) : b = false := by
  induction hn : adv.length - pos using Nat.strong_induction_on generalizing pos with
  | _ n ih =>
    rw [parseFrom] at h
    by_cases hpos : pos < adv.length
    · rw [if_pos hpos] at h
      obtain ⟨fieldLen, hlen, h⟩ := Option.bind_eq_some_iff.mp h
      by_cases hend : fieldLen = 0 ∨ adv.length ≤ pos + fieldLen.toNat
      · rw [if_pos hend] at h
        cases h
        rfl
      · rw [if_neg hend] at h
        obtain ⟨field, hfield, h⟩ := Option.bind_eq_some_iff.mp h
        obtain ⟨payload, flag⟩ := field
        have hflag := tagField_attempted hfield
        subst hflag
        cases payload with
        | some p =>
          cases h
          rfl
        | none => exact ih _ (by omega) h rfl
    · rw [if_neg hpos] at h
      cases h
      rfl

theorem parseFrom_unverified {pos : ℕ} {o : Option TagPayload}
    (h : parseFrom neverVerifies adv pos true = some (o, true)) (s : σ) :
    parseFrom verify adv pos s = some (o, s) := by
  induction hn : adv.length - pos using Nat.strong_induction_on generalizing pos with
  | _ n ih =>
    rw [parseFrom] at h ⊢
    by_cases hpos : pos < adv.length
    · rw [if_pos hpos] at h ⊢
      obtain ⟨fieldLen, hlen, h⟩ := Option.bind_eq_some_iff.mp h
      refine Option.bind_eq_some_iff.mpr ⟨fieldLen, hlen, ?_⟩
      by_cases hend : fieldLen = 0 ∨ adv.length ≤ pos + fieldLen.toNat
      · rw [if_pos hend] at h ⊢
        cases h
        rfl
      · rw [if_neg hend] at h ⊢
        obtain ⟨field, hfield, h⟩ := Option.bind_eq_some_iff.mp h
        obtain ⟨payload, flag⟩ := field
        cases flag with
        | true =>
          have hfield' := tagField_unverified verify hfield s
          refine Option.bind_eq_some_iff.mpr ⟨_, hfield', ?_⟩
          cases payload with
          | some q =>
            cases h
            rfl
          | none => exact ih _ (by omega) h rfl
        | false =>
          cases payload with
          | some q => cases h
          | none => cases parseFrom_attempted h
    · rw [if_neg hpos] at h ⊢
      cases h
      rfl

end Walk

/-- What carries no MAC is accepted, or not, whatever verification does and without it. -/
theorem parseTagPayload_unsigned {adv : Bytes} {o : Option TagPayload}
    (h : unsignedPayload adv = some o) {σ : Type}
    (verify : UInt16 → Bytes → UInt16 → σ → Bool × σ) (s : σ) :
    parseTagPayload verify adv s = some (o, s) := by
  have hprobe : parseTagPayload neverVerifies adv true = some (o, true) := by
    unfold unsignedPayload at h
    split at h
    · rename_i q hq
      cases h
      exact hq
    · cases h
  unfold parseTagPayload at hprobe ⊢
  split_ifs at hprobe ⊢ with hshort
  · cases hprobe
    rfl
  · exact parseFrom_unverified verify hprobe s

/-- An iBeacon changes nothing but the tag table. -/
theorem acceptScanResult_iBeacon (hmac : Hmac) {r : ScanResult} (h : isIBeacon r.adv = true)
    (s : AirState) : ∃ o, acceptScanResult hmac r s = some (o, s) := by
  obtain ⟨hunsigned, hota⟩ := Bool.and_eq_true_iff.mp h
  obtain ⟨o, ho⟩ := Option.isSome_iff_exists.mp (Bool.and_eq_true_iff.mp hunsigned).2
  unfold acceptScanResult
  rw [otaBeacon_of_noField (of_decide_eq_true hota)]
  simp only [Option.bind_eq_bind, Option.bind_some, Bool.or_false]
  split_ifs
  · exact ⟨none, rfl⟩
  · rw [parseTagPayload_unsigned ho]
    exact ⟨o, rfl⟩

def entryOf (tagId : UInt16) (tags : TagTable) : Option TagEntry :=
  SlotTable.lookup (TagEntry.isOf tagId) tags

theorem TagEntry.isOf_iff (tagId : UInt16) (t : TagEntry) :
    t.isOf tagId = true ↔ t.active = true ∧ t.tagId = tagId := by
  simp [TagEntry.isOf]

theorem TagEntry.isOf_other {tagId other : UInt16} (h : other ≠ tagId) {t : TagEntry}
    (ht : t.isOf tagId = true) : t.isOf other = false := by
  apply Bool.eq_false_iff.mpr
  intro hother
  exact h (((isOf_iff _ _).mp hother).2.symm.trans ((isOf_iff _ _).mp ht).2)

theorem TagEntry.update_key (rssi : Int8) (sequence battery : UInt8) (now : UInt32)
    (t : TagEntry) : (t.update rssi sequence battery now).active = t.active ∧
      (t.update rssi sequence battery now).tagId = t.tagId := by
  unfold TagEntry.update TagEntry.log
  dsimp only
  split_ifs
  all_goals exact ⟨rfl, rfl⟩

theorem TagEntry.checkTimeout_key (now : UInt32) (t : TagEntry) :
    ((t.checkTimeout now).active = true → t.active = true) ∧
      (t.checkTimeout now).tagId = t.tagId := by
  unfold TagEntry.checkTimeout
  split_ifs with h
  · exact ⟨fun _ => h.1, rfl⟩
  · exact ⟨id, rfl⟩

/-- The entry of an accepted tag, from the one it had and whether there is a free slot. -/
def trackedEntry (p : TagPayload) (r : ScanResult) (epoch : ℤ) (free : Bool) :
    Option TagEntry → Option TagEntry
  | some t => some { t.update r.rssi p.sequence p.battery r.nowMs with lockedEpoch := epoch }
  | none =>
    if free then
      some { TagEntry.fresh p.tagId p.battery p.txPower r.rssi p.sequence r.bda r.nowMs with
        lockedEpoch := epoch }
    else
      none

def hasFree (tags : TagTable) : Bool := (SlotTable.find TagEntry.isFree tags).isSome

theorem setEpoch_update {i : Fin bmtMaxTags} {t : TagEntry} (ht : t.active = true) (epoch : ℤ)
    (tags : TagTable) :
    bmtTagTableSetEpoch i epoch (Function.update tags i t) =
      Function.update tags i { t with lockedEpoch := epoch } := by
  unfold bmtTagTableSetEpoch
  rw [Function.update_self, if_pos ht, Function.update_idem]

/-- `gap_event_handler` writes one slot, of the tag's own or free, or finds the table full. -/
theorem trackTag_cases (p : TagPayload) (r : ScanResult) (epoch : ℤ) (tags : TagTable) :
    (∃ i t, SlotTable.find (TagEntry.isOf p.tagId) tags = some i ∧
        trackedEntry p r epoch (hasFree tags) (entryOf p.tagId tags) = some t ∧
        t.isOf p.tagId = true ∧ trackTag p r epoch tags = Function.update tags i t) ∨
      (∃ i t, entryOf p.tagId tags = none ∧ (tags i).isFree = true ∧
        trackedEntry p r epoch (hasFree tags) (entryOf p.tagId tags) = some t ∧
        t.isOf p.tagId = true ∧ trackTag p r epoch tags = Function.update tags i t) ∨
      trackedEntry p r epoch (hasFree tags) (entryOf p.tagId tags) = none ∧
        trackTag p r epoch tags = tags := by
  unfold trackTag bmtTagTableFind
  cases hfind : SlotTable.find (TagEntry.isOf p.tagId) tags with
  | some i =>
    obtain ⟨hactive, hid⟩ := (TagEntry.isOf_iff _ _).mp (SlotTable.find_sat hfind)
    obtain ⟨hactive', hid'⟩ := (tags i).update_key r.rssi p.sequence p.battery r.nowMs
    refine Or.inl ⟨i, { (tags i).update r.rssi p.sequence p.battery r.nowMs with
      lockedEpoch := epoch }, rfl, ?_, ?_, ?_⟩
    · rw [entryOf, SlotTable.lookup_of_find hfind]
      rfl
    · exact (TagEntry.isOf_iff _ _).mpr ⟨hactive'.trans hactive, hid'.trans hid⟩
    · exact setEpoch_update (hactive'.trans hactive) epoch tags
  | none =>
    have hentry : entryOf p.tagId tags = none := by
      rw [entryOf, SlotTable.lookup, hfind]
      rfl
    rw [hentry]
    unfold bmtTagTableAdd hasFree
    cases hfree : SlotTable.find TagEntry.isFree tags with
    | some i =>
      refine Or.inr (Or.inl ⟨i, _, rfl, SlotTable.find_sat hfree, rfl, ?_, ?_⟩)
      · exact (TagEntry.isOf_iff _ _).mpr ⟨rfl, rfl⟩
      · exact setEpoch_update rfl epoch tags
    | none => exact Or.inr (Or.inr ⟨rfl, rfl⟩)

/-- The entries after a tag was accepted: only its own may change. -/
theorem entryOf_trackTag (p : TagPayload) (r : ScanResult) (epoch : ℤ) (tags : TagTable)
    (tagId : UInt16) :
    entryOf tagId (trackTag p r epoch tags) =
      if tagId = p.tagId then trackedEntry p r epoch (hasFree tags) (entryOf p.tagId tags)
      else entryOf tagId tags := by
  rcases trackTag_cases p r epoch tags with hown | hnew | hfull
  · obtain ⟨i, t, hfind, htracked, ht, heq⟩ := hown
    rw [heq, htracked]
    by_cases hid : tagId = p.tagId
    · rw [if_pos hid, hid]
      exact SlotTable.lookup_update_self hfind ht
    · rw [if_neg hid]
      exact SlotTable.lookup_update_other (TagEntry.isOf_other hid (SlotTable.find_sat hfind))
        (TagEntry.isOf_other hid ht)
  · -- a free slot was no tag's
    obtain ⟨i, t, hnone, hfree, htracked, ht, heq⟩ := hnew
    rw [heq, htracked]
    by_cases hid : tagId = p.tagId
    · rw [if_pos hid, hid]
      exact SlotTable.lookup_update_absent hnone ht
    · rw [if_neg hid]
      have hi : (tags i).isOf tagId = false := by
        have hinactive : (tags i).active = false := by simpa [TagEntry.isFree] using hfree
        rw [TagEntry.isOf, hinactive, Bool.false_and]
      exact SlotTable.lookup_update_other hi (TagEntry.isOf_other hid ht)
  · obtain ⟨htracked, heq⟩ := hfull
    rw [heq, htracked]
    by_cases hid : tagId = p.tagId
    · rw [if_pos hid, hid]
      cases hentry : entryOf p.tagId tags with
      | none => rfl
      | some t =>
        rw [hentry] at htracked
        cases htracked
    · rw [if_neg hid]

abbrev DistinctTags (tags : TagTable) : Prop :=
  SlotTable.Distinct TagEntry.active TagEntry.tagId tags

theorem trackTag_writes (p : TagPayload) (r : ScanResult) (epoch : ℤ) (tags : TagTable) :
    SlotTable.WritesFor TagEntry.active TagEntry.tagId p.tagId tags
      (trackTag p r epoch tags) := by
  rcases trackTag_cases p r epoch tags with hown | hnew | hfull
  · obtain ⟨i, t, hfind, -, ht, heq⟩ := hown
    obtain ⟨hactive, hid⟩ := (TagEntry.isOf_iff _ _).mp ht
    have hi := (TagEntry.isOf_iff _ _).mp (SlotTable.find_sat hfind)
    exact Or.inr ⟨i, t, heq, hactive, hid, Or.inl hi⟩
  · obtain ⟨i, t, hnone, hfree, -, ht, heq⟩ := hnew
    obtain ⟨hactive, hid⟩ := (TagEntry.isOf_iff _ _).mp ht
    have hinactive : (tags i).active = false := by simpa [TagEntry.isFree] using hfree
    have habsent : ∀ j, (tags j).active = true → (tags j).tagId ≠ p.tagId := by
      intro j hj hjd
      have hnot := SlotTable.lookup_eq_none_iff.mp hnone j
      rw [(TagEntry.isOf_iff _ _).mpr ⟨hj, hjd⟩] at hnot
      cases hnot
    exact Or.inr ⟨i, t, heq, hactive, hid, Or.inr ⟨hinactive, habsent⟩⟩
  · exact Or.inl hfull.2

theorem distinct_trackTag {tags : TagTable} (h : DistinctTags tags) (p : TagPayload)
    (r : ScanResult) (epoch : ℤ) : DistinctTags (trackTag p r epoch tags) :=
  h.writesFor (trackTag_writes p r epoch tags)

theorem distinct_checkTimeouts {tags : TagTable} (h : DistinctTags tags) (now : UInt32) :
    DistinctTags (bmtTagTableCheckTimeouts now tags) := by
  intro i j hi hj hij
  have hkey := fun k => (tags k).checkTimeout_key now
  exact h i j ((hkey i).1 hi) ((hkey j).1 hj) ((hkey i).2.symm.trans (hij.trans (hkey j).2))

theorem entryOf_checkTimeouts {tags : TagTable} (h : DistinctTags tags) (now : UInt32)
    (tagId : UInt16) :
    entryOf tagId (bmtTagTableCheckTimeouts now tags) =
      ((entryOf tagId tags).map (TagEntry.checkTimeout now)).filter TagEntry.active :=
  h.lookup_comp TagEntry.isOf_iff (fun t => (t.checkTimeout_key now).1)
    (fun t => (t.checkTimeout_key now).2) tagId

theorem entryOf_of_active {tags : TagTable} (h : DistinctTags tags) {i : Fin bmtMaxTags}
    (hi : (tags i).active = true) : entryOf (tags i).tagId tags = some (tags i) :=
  h.lookup_eq TagEntry.isOf_iff hi

theorem active_of_entryOf {tags : TagTable} {tagId : UInt16} {t : TagEntry}
    (h : entryOf tagId tags = some t) : ∃ i, (tags i).active = true ∧ (tags i).tagId = tagId := by
  obtain ⟨i, hi, -⟩ := Option.map_eq_some_iff.mp h
  exact ⟨i, (TagEntry.isOf_iff _ _).mp (SlotTable.find_sat hi)⟩

/-- A table whose ids all occur in another one has a free slot if that one has. -/
theorem hasFree_of_entries {tags tags' : TagTable} (h : DistinctTags tags')
    (hsub : ∀ id, entryOf id tags = none → entryOf id tags' = none)
    (hfree : hasFree tags = true) : hasFree tags' = true := by
  obtain ⟨i, hi⟩ := SlotTable.find_isSome_iff.mp hfree
  have hinactive : (tags i).active = false := by simpa [TagEntry.isFree] using hi
  have hcover : ∀ j, (tags' j).active = true →
      ∃ i, (tags i).active = true ∧ (tags i).tagId = (tags' j).tagId := by
    intro j hj
    cases hentry : entryOf (tags' j).tagId tags with
    | some t => exact active_of_entryOf hentry
    | none =>
      have hnone := hsub _ hentry
      rw [entryOf_of_active h hj] at hnone
      cases hnone
  obtain ⟨j, hj⟩ := h.exists_free hcover ⟨i, hinactive⟩
  exact SlotTable.find_isSome_iff.mpr ⟨j, by simp [TagEntry.isFree, hj]⟩

/-- What a scanner goes through: scan results, timeout checks, and changes of the OTA trigger made
elsewhere. -/
inductive ScanEvent
  | scanResult (r : ScanResult)
  | checkTimeouts (nowMs : UInt32)
  | otaTrigger (triggered : Bool)

def ScanEvent.isIBeacon : ScanEvent → Bool
  | .scanResult r => Scanner.isIBeacon r.adv
  | _ => false

/-- The scanner, with the ids under which iBeacons were accepted, up to the next tag accepted under
the same, and the ids accepted from other advertisements, which carry a MAC. -/
structure TagScanner where
  air : AirState := {}
  tags : TagTable := fun _ => {}
  phones : List UInt16 := []
  signed : List UInt16 := []

namespace TagScanner

def accept (s : TagScanner) (r : ScanResult) (p : TagPayload) (air : AirState) : TagScanner where
  air := air
  tags := trackTag p r (bmtAuthGetLockedEpoch p.tagId air.epochs) s.tags
  phones := if isIBeacon r.adv then p.tagId :: s.phones else s.phones.filter (· ≠ p.tagId)
  signed := if isIBeacon r.adv then s.signed else p.tagId :: s.signed

def after (hmac : Hmac) (s : TagScanner) : ScanEvent → TagScanner
  | .scanResult r =>
    match acceptScanResult hmac r s.air with
    | some (some p, air) => s.accept r p air
    | some (none, air) => { s with air }
    | none => s
  | .checkTimeouts nowMs =>
    if s.air.otaTriggered then s else { s with tags := bmtTagTableCheckTimeouts nowMs s.tags }
  | .otaTrigger triggered => { s with air := { s.air with otaTriggered := triggered } }

theorem accept_iBeacon {r : ScanResult} (h : isIBeacon r.adv = true) (s : TagScanner)
    (p : TagPayload) (air : AirState) :
    s.accept r p air =
      ⟨air, trackTag p r (bmtAuthGetLockedEpoch p.tagId air.epochs) s.tags, p.tagId :: s.phones,
        s.signed⟩ := by
  rw [accept, h, if_pos rfl, if_pos rfl]

theorem accept_tag {r : ScanResult} (h : isIBeacon r.adv = false) (s : TagScanner)
    (p : TagPayload) (air : AirState) :
    s.accept r p air =
      ⟨air, trackTag p r (bmtAuthGetLockedEpoch p.tagId air.epochs) s.tags,
        s.phones.filter (· ≠ p.tagId), p.tagId :: s.signed⟩ := by
  rw [accept, h, if_neg Bool.false_ne_true, if_neg Bool.false_ne_true]

/-- An iBeacon takes no id of a tag, and a tag meets no iBeacon's entry: not under its own id, and
not in the last slot it could have taken. -/
def Apart (hmac : Hmac) (s : TagScanner) : ScanEvent → Prop
  | .scanResult r =>
    ∀ p ∈ (acceptScanResult hmac r s.air).bind Prod.fst,
      if isIBeacon r.adv then p.tagId ∉ s.signed
      else (p.tagId ∈ s.phones → entryOf p.tagId s.tags = none) ∧
        (entryOf p.tagId s.tags = none →
          hasFree s.tags = true ∨ ∀ id ∈ s.phones, entryOf id s.tags = none)
  | _ => True

instance (hmac : Hmac) (s : TagScanner) (e : ScanEvent) : Decidable (Apart hmac s e) :=
  match e with
  | .scanResult r =>
    inferInstanceAs (Decidable (∀ p ∈ (acceptScanResult hmac r s.air).bind Prod.fst, _))
  | .checkTimeouts _ => isTrue trivial
  | .otaTrigger _ => isTrue trivial

/-- `t` is `s` without the entries of iBeacons, whose ids are no tag's. -/
structure Purged (s t : TagScanner) : Prop where
  air : s.air = t.air
  distinct : DistinctTags s.tags
  distinct' : DistinctTags t.tags
  entries : ∀ id, entryOf id t.tags = if id ∈ s.phones then none else entryOf id s.tags
  phones : ∀ id ∈ s.phones, id ∈ s.signed → entryOf id s.tags = none
  owned : ∀ id, entryOf id s.tags ≠ none → id ∈ s.phones ∨ id ∈ s.signed

theorem Purged.entryOf_signed {s t : TagScanner} (h : Purged s t) {id : UInt16}
    (hid : id ∈ s.signed) : entryOf id s.tags = entryOf id t.tags := by
  rw [h.entries]
  split_ifs with hphone
  · exact h.phones id hphone hid
  · rfl

/-- An iBeacon that takes no tag's id stays in the entries of iBeacons. -/
theorem Purged.iBeacon {s t : TagScanner} (h : Purged s t) {r : ScanResult} {p : TagPayload}
    (hbeacon : isIBeacon r.adv = true) (hid : p.tagId ∉ s.signed) :
    Purged (s.accept r p s.air) t := by
  have hentry := entryOf_trackTag p r (bmtAuthGetLockedEpoch p.tagId s.air.epochs) s.tags
  rw [accept_iBeacon hbeacon]
  refine ⟨h.air, distinct_trackTag h.distinct _ _ _, h.distinct', ?_, ?_, ?_⟩
  · intro id
    simp only [List.mem_cons]
    rw [h.entries, hentry]
    by_cases hp : id = p.tagId
    · -- an entry that was there already was an iBeacon's
      rw [if_pos (Or.inl hp), hp]
      split_ifs with hphone
      · rfl
      · by_contra hne
        rcases h.owned _ hne with hown | hown
        · exact hphone hown
        · exact hid hown
    · simp only [hp, false_or, if_false]
  · intro id hphone hsigned
    have hp : id ≠ p.tagId := by
      intro hp
      rw [hp] at hsigned
      exact hid hsigned
    simp only
    rw [hentry, if_neg hp]
    exact h.phones id ((List.mem_cons.mp hphone).resolve_left hp) hsigned
  · intro id hne
    simp only [List.mem_cons] at hne ⊢
    rw [hentry] at hne
    by_cases hp : id = p.tagId
    · exact Or.inl (Or.inl hp)
    · rw [if_neg hp] at hne
      rcases h.owned id hne with hown | hown
      · exact Or.inl (Or.inr hown)
      · exact Or.inr hown

/-- A tag that finds no iBeacon in its way is tracked alike on both sides. -/
theorem Purged.tag {s t : TagScanner} (h : Purged s t) {r : ScanResult} {p : TagPayload}
    {air : AirState} (hbeacon : isIBeacon r.adv = false)
    (hid : p.tagId ∈ s.phones → entryOf p.tagId s.tags = none)
    (hroom : entryOf p.tagId s.tags = none →
      hasFree s.tags = true ∨ ∀ id ∈ s.phones, entryOf id s.tags = none) :
    Purged (s.accept r p air) (t.accept r p air) := by
  have hsame : entryOf p.tagId t.tags = entryOf p.tagId s.tags := by
    rw [h.entries]
    split_ifs with hphone
    · exact (hid hphone).symm
    · rfl
  have htracked : ∀ epoch,
      trackedEntry p r epoch (hasFree t.tags) (entryOf p.tagId t.tags) =
        trackedEntry p r epoch (hasFree s.tags) (entryOf p.tagId s.tags) := by
    intro epoch
    rw [hsame]
    cases hentry : entryOf p.tagId s.tags with
    | some e => simp only [trackedEntry]
    | none =>
      -- a new entry: both tables have room, or neither has
      have hst : hasFree s.tags = true → hasFree t.tags = true := by
        apply hasFree_of_entries h.distinct'
        intro id hnone
        rw [h.entries, hnone, ite_self]
      have hts : hasFree t.tags = true → hasFree s.tags = true := by
        intro hfree
        rcases hroom hentry with hfree' | hnophone
        · exact hfree'
        · refine hasFree_of_entries h.distinct ?_ hfree
          intro id hnone
          rw [h.entries] at hnone
          split_ifs at hnone with hphone
          · exact hnophone id hphone
          · exact hnone
      rw [Bool.eq_iff_iff.mpr ⟨hts, hst⟩]
  have hentry := entryOf_trackTag p r (bmtAuthGetLockedEpoch p.tagId air.epochs)
  rw [accept_tag hbeacon, accept_tag hbeacon]
  refine ⟨rfl, distinct_trackTag h.distinct _ _ _, distinct_trackTag h.distinct' _ _ _, ?_, ?_, ?_⟩
  · intro id
    simp only [List.mem_filter, decide_eq_true_eq]
    rw [hentry, hentry, htracked]
    by_cases hp : id = p.tagId
    · rw [if_pos hp, if_pos hp, if_neg (fun hmem => hmem.2 hp)]
    · rw [if_neg hp, if_neg hp, h.entries]
      simp only [ne_eq, hp, not_false_eq_true, and_true]
  · intro id hphone hsigned
    simp only [List.mem_filter, decide_eq_true_eq, List.mem_cons] at hphone hsigned ⊢
    rw [hentry, if_neg hphone.2]
    exact h.phones id hphone.1 (hsigned.resolve_left hphone.2)
  · intro id hne
    simp only [List.mem_filter, decide_eq_true_eq, List.mem_cons] at hne ⊢
    rw [hentry] at hne
    by_cases hp : id = p.tagId
    · exact Or.inr (Or.inl hp)
    · rw [if_neg hp] at hne
      rcases h.owned id hne with hown | hown
      · exact Or.inl ⟨hown, hp⟩
      · exact Or.inr (Or.inr hown)

theorem Purged.checkTimeouts {s t : TagScanner} (h : Purged s t) (now : UInt32) :
    Purged { s with tags := bmtTagTableCheckTimeouts now s.tags }
      { t with tags := bmtTagTableCheckTimeouts now t.tags } := by
  have hentry := entryOf_checkTimeouts h.distinct now
  refine ⟨h.air, distinct_checkTimeouts h.distinct now, distinct_checkTimeouts h.distinct' now,
    ?_, ?_, ?_⟩
  · intro id
    simp only
    rw [entryOf_checkTimeouts h.distinct', hentry, h.entries]
    split_ifs
    · rfl
    · rfl
  · intro id hphone hsigned
    simp only
    rw [hentry, h.phones id hphone hsigned]
    rfl
  · intro id hne
    simp only at hne
    apply h.owned
    intro hnone
    rw [hentry, hnone] at hne
    exact hne rfl

theorem purged_hidden {hmac : Hmac} {s t : TagScanner} {e : ScanEvent} (h : Purged s t)
    (hbeacon : e.isIBeacon = true) (hok : Apart hmac s e) : Purged (s.after hmac e) t := by
  cases e with
  | checkTimeouts now => cases hbeacon
  | otaTrigger triggered => cases hbeacon
  | scanResult r =>
    obtain ⟨o, ho⟩ := acceptScanResult_iBeacon hmac hbeacon s.air
    cases o with
    | none =>
      have hstep : s.after hmac (.scanResult r) = s := by simp only [after, ho]
      rw [hstep]
      exact h
    | some p =>
      have hstep : s.after hmac (.scanResult r) = s.accept r p s.air := by simp only [after, ho]
      have hhidden : isIBeacon r.adv = true := hbeacon
      have hid := hok p (by rw [ho]; rfl)
      rw [if_pos hhidden] at hid
      rw [hstep]
      exact h.iBeacon hhidden hid

theorem purged_visible {hmac : Hmac} {s t : TagScanner} {e : ScanEvent} (h : Purged s t)
    (hbeacon : e.isIBeacon = false) (hok : Apart hmac s e) :
    Purged (s.after hmac e) (t.after hmac e) := by
  have hair := h.air
  cases e with
  | checkTimeouts now =>
    simp only [after, ← hair]
    split_ifs
    · exact h
    · have hchecked := h.checkTimeouts now
      rw [← hair] at hchecked
      exact hchecked
  | otaTrigger triggered =>
    exact ⟨by simp only [after, hair], h.distinct, h.distinct', h.entries, h.phones, h.owned⟩
  | scanResult r =>
    simp only [after, ← hair]
    cases haccept : acceptScanResult hmac r s.air with
    | none => exact h
    | some result =>
      obtain ⟨o, air⟩ := result
      cases o with
      | none => exact ⟨rfl, h.distinct, h.distinct', h.entries, h.phones, h.owned⟩
      | some p =>
        have hvisible : isIBeacon r.adv = false := hbeacon
        have hboth := hok p (by rw [haccept]; rfl)
        rw [hvisible, if_neg Bool.false_ne_true] at hboth
        exact h.tag hvisible hboth.1 hboth.2

theorem purged_start : Purged {} {} := by
  have hempty : DistinctTags fun _ => {} := by
    intro i j hi
    cases hi
  refine ⟨rfl, hempty, hempty, ?_, ?_, ?_⟩
  · intro id
    rfl
  · intro id hphone
    cases hphone
  · intro id hne
    refine absurd (SlotTable.lookup_eq_none_iff.mpr ?_) hne
    intro i
    rfl

end TagScanner

/-- What is published about one tag depends on its entry alone. -/
theorem published_filter {tags : TagTable} (h : DistinctTags tags) (isProvisioned : Bool)
    (appIdx : UInt16) (scannerId : UInt8) (tagId : UInt16) :
    (bmtMeshPublishTags isProvisioned appIdx scannerId tags).filter (fun r => r.tagId == tagId) =
      if !isProvisioned || appIdx == 0xFFFF then []
      else ((entryOf tagId tags).map (TagEntry.report scannerId)).toList := by
  unfold bmtMeshPublishTags
  split_ifs
  · rfl
  · rw [List.filter_filterMap, entryOf, ← SlotTable.filterMap_finRange]
    · apply List.filterMap_congr
      intro i _
      unfold bmtTagTableAt TagEntry.isOf
      cases hactive : (tags i).active with
      | false => rfl
      | true =>
        by_cases hid : (tags i).tagId = tagId
        · simp [hid, TagEntry.report]
        · simp [hid, TagEntry.report]
    · intro i j hi hj
      obtain ⟨hi, hid⟩ := (TagEntry.isOf_iff _ _).mp hi
      obtain ⟨hj, hjd⟩ := (TagEntry.isOf_iff _ _).mp hj
      exact h i j hi hj (hid.trans hjd.symm)

/-- In every run in which iBeacons and tags stay apart, deleting the iBeacons leaves, at every
point, the entry of every tag accepted so far and the reports about it. -/
theorem iBeacons_leave_tags_alone (hmac : Hmac) (es : List ScanEvent)
    (hapart : Run.Meets (Run.total (TagScanner.after hmac)) (TagScanner.Apart hmac) {} es) :
    ∀ pre, pre <+: es →
      let s := pre.foldl (TagScanner.after hmac) {}
      let t := (Unwinding.visible ScanEvent.isIBeacon pre).foldl (TagScanner.after hmac) {}
      ∀ tagId ∈ s.signed, entryOf tagId s.tags = entryOf tagId t.tags ∧
        ∀ isProvisioned appIdx scannerId,
          (bmtMeshPublishTags isProvisioned appIdx scannerId s.tags).filter
              (fun r => r.tagId == tagId) =
            (bmtMeshPublishTags isProvisioned appIdx scannerId t.tags).filter
              (fun r => r.tagId == tagId) := by
  intro pre hpre
  have h : TagScanner.Purged (pre.foldl (TagScanner.after hmac) {})
      ((Unwinding.visible ScanEvent.isIBeacon pre).foldl (TagScanner.after hmac) {}) :=
    Unwinding.related_prefix (fun _ _ _ h => TagScanner.purged_hidden h)
      (fun _ _ _ h => TagScanner.purged_visible h) TagScanner.purged_start hapart hpre
  dsimp only
  intro tagId hsigned
  have hentry := h.entryOf_signed hsigned
  refine ⟨hentry, ?_⟩
  intro isProvisioned appIdx scannerId
  rw [published_filter h.distinct, published_filter h.distinct', hentry]

def tagAdv (minor : UInt16) : Bytes :=
  let p := Tag.unsignedPayload ⟨100, minor, -53, 0⟩
  [0x02, 0x01, 0x06, 0x1B, 0xFF, 0xE5, 0x02] ++ p.signedBytes ++
    leBytes (tagMac16 echoHmac 0 p.signedBytes)

def phoneAdv (minor : UInt8) : Bytes :=
  [0x02, 0x01, 0x1A, 0x1A, 0xFF, 0x4C, 0x00, 0x02, 0x15] ++ List.replicate 16 0xAB ++
    [0x00, 0x01, 0x00, minor, 0xC5]

def heardAdv (adv : Bytes) : ScanEvent :=
  .scanResult { adv, rssi := -60, bda := fun _ => 0, nowMs := 1, nowUs := 1, keys := tagOne.keys }

def tagsAfter (es : List ScanEvent) : TagTable :=
  (es.foldl (TagScanner.after echoHmac) {}).tags

def tagsWithout (es : List ScanEvent) : TagTable :=
  ((Unwinding.visible ScanEvent.isIBeacon es).foldl (TagScanner.after echoHmac) {}).tags

def tagOneAndPhone : List ScanEvent :=
  [heardAdv (tagAdv 1), heardAdv (phoneAdv 2), heardAdv (tagAdv 1), .checkTimeouts 3000]

def phoneUnderTagId : List ScanEvent := [heardAdv (tagAdv 0x8001), heardAdv (phoneAdv 1)]

def phonesBeforeTag : List ScanEvent :=
  ((List.range bmtMaxTags).map fun k => heardAdv (phoneAdv (UInt8.ofNat k))) ++
    [heardAdv (tagAdv 1)]

theorem iBeacons_leave_tags_alone_tagOne :
    entryOf 1 (tagsAfter tagOneAndPhone) = entryOf 1 (tagsWithout tagOneAndPhone) :=
  (iBeacons_leave_tags_alone echoHmac tagOneAndPhone (by decide +kernel) _ (List.prefix_refl _) 1
    (by decide +kernel)).1

/-- An iBeacon empties the battery of a tag, and iBeacons leave no entry for another. -/
theorem iBeacons_disturb_tags :
    (0x8001 ∈ (phoneUnderTagId.foldl (TagScanner.after echoHmac) {}).signed ∧
      (entryOf 0x8001 (tagsAfter phoneUnderTagId)).map TagEntry.battery = some 0 ∧
      (entryOf 0x8001 (tagsWithout phoneUnderTagId)).map TagEntry.battery = some 100) ∧
    1 ∈ (phonesBeforeTag.foldl (TagScanner.after echoHmac) {}).signed ∧
      (entryOf 1 (tagsAfter phonesBeforeTag)).isSome = false ∧
      (entryOf 1 (tagsWithout phonesBeforeTag)).isSome = true := by
  decide +kernel

end BleMeshTracking.Scanner
