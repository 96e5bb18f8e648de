import BleMeshTracking.Scanner.OwnAdvertisements

/-!
# The scanner: advertisements with one tag field

The system's own format, with whatever else an advertisement may hold beside the tag field, and what
`gap_event_handler` makes of it before the tag table.
-/

namespace BleMeshTracking.Scanner

open Protocol

/-- Manufacturer data of Espressif that begins with the system UUID. -/
def IsTagField (data ad : Bytes) : Prop :=
  ∃ lo hi, ad = 0xFF :: lo :: hi :: data ∧ u16OfLe lo hi = bmtCidEspressif ∧
    24 ≤ data.length ∧ data.take 4 = bmtSystemUuidPrefix

/-- Neither a tag field nor an iBeacon. -/
def IsForeignField (ad : Bytes) : Prop :=
  (∀ data, ¬ IsTagField data ad) ∧ ∀ uuid, ¬ IsIBeaconOf uuid ad

/-- One tag field, and no iBeacon or OTA beacon beside it. -/
structure HoldsTag (adv data : Bytes) : Prop where
  single : ∃ pre ad post, adStructures adv = pre ++ ad :: post ∧ IsTagField data ad ∧
    (∀ other ∈ pre, IsForeignField other) ∧ ∀ other ∈ post, IsForeignField other
  noBeacon : otaFieldFrom adv 0 = some none

section Accept

variable {σ : Type} (verify : UInt16 → Bytes → UInt16 → σ → Bool × σ) {adv ad data : Bytes}

def tagPayload (data : Bytes) : TagPayload :=
  let p := TagAdvPayload.ofBytes (data.take 24)
  ⟨p.battery.toUInt8, p.minor, p.txPower, p.sequence, p.mac16⟩

def verifyTagField (data : Bytes) (s : σ) : Bool × σ :=
  verify (tagPayload data).tagId (data.take 22) (tagPayload data).mac16 s

theorem acceptStructure_tag (h : IsTagField data ad) (s : σ) :
    acceptStructure verify ad s =
      (if (verifyTagField verify data s).1 then some (tagPayload data) else none,
        (verifyTagField verify data s).2) := by
  obtain ⟨lo, hi, rfl, hcid, h24, huuid⟩ := h
  unfold acceptStructure acceptEspressif
  dsimp only
  rw [if_pos rfl, if_pos ⟨hcid, h24⟩, if_pos huuid]
  rfl

theorem acceptStructure_foreign (h : IsForeignField ad) (s : σ) :
    acceptStructure verify ad s = (none, s) := by
  obtain ⟨htag, hbeacon⟩ := h
  rcases ad with _ | ⟨type, _ | ⟨lo, _ | ⟨hi, data⟩⟩⟩
  · rfl
  · rfl
  · rfl
  · unfold acceptStructure
    dsimp only
    split_ifs with hff hesp happle
    · -- Espressif's, under another UUID
      have huuid : data.take 4 ≠ bmtSystemUuidPrefix := by
        intro huuid
        rw [hff] at htag
        exact htag data ⟨lo, hi, rfl, hesp.1, hesp.2, huuid⟩
      unfold acceptEspressif
      exact if_neg huuid
    · -- Apple's, but no iBeacon of a person or an asset
      cases haccept : acceptApple data with
      | none => rfl
      | some p =>
        have hsome : (acceptApple data).isSome = true := by
          rw [haccept]
          rfl
        obtain ⟨uuid, huuid⟩ :=
          exists_isIBeaconOf_cons_iff.mpr ⟨hff, happle.1, happle.2, hsome⟩
        exact absurd huuid (hbeacon uuid)
    · rfl
    · rfl

/-- An advertisement with one tag field is offered to `verify` once. -/
theorem HoldsTag.parseTagPayload (h : HoldsTag adv data) (s : σ) :
    parseTagPayload verify adv s =
      some (if (verifyTagField verify data s).1 then some (tagPayload data) else none,
        (verifyTagField verify data s).2) := by
  obtain ⟨pre, ad, post, hsplit, htag, hpre, hpost⟩ := h.single
  rw [parseTagPayload_eq, acceptAdv, hsplit, Fields.first_of_only]
  · rw [acceptStructure_tag verify htag]
  · intro other hother
    exact acceptStructure_foreign verify (hpre other hother)
  · intro other hother
    exact acceptStructure_foreign verify (hpost other hother)

end Accept

structure TagResult where
  result : ScanResult
  data : Bytes
  holds : HoldsTag result.adv data

namespace TagResult

def tagId (a : TagResult) : UInt16 := (tagPayload a.data).tagId

def verify (hmac : Hmac) (a : TagResult) (tbl : EpochTable) : Option Attempt × EpochTable :=
  bmtAuthVerifyTag hmac a.result.calls a.result.keys a.tagId (a.data.take 22)
    (tagPayload a.data).mac16 a.result.nowUs tbl

def isParsed (a : TagResult) (s : AirState) : Bool :=
  !(s.otaTriggered || !a.result.phaseGapScan || !a.result.provComplete)

/-- A tag is accepted if it verifies, and changes nothing but the epoch table. -/
theorem acceptScanResult_eq (hmac : Hmac) (a : TagResult) (s : AirState) :
    acceptScanResult hmac a.result s =
      some (if a.isParsed s then
          (if (a.verify hmac s.epochs).1.isSome then some (tagPayload a.data) else none,
            { s with epochs := (a.verify hmac s.epochs).2 })
        else (none, s)) := by
  unfold acceptScanResult
  rw [otaBeacon_of_noField a.holds.noBeacon]
  simp only [Option.bind_eq_bind, Option.bind_some, Bool.or_false]
  unfold isParsed
  cases s.otaTriggered || !a.result.phaseGapScan || !a.result.provComplete with
  | true => rfl
  | false =>
    rw [a.holds.parseTagPayload]
    rfl

end TagResult

theorem adStructures_advData (fw : Tag.Firmware) (p : TagAdvPayload) :
    adStructures (Tag.advData fw p) = [[0x01, 0x06], 0xFF :: 0xE5 :: 0x02 :: p.toBytes] := by
  have hflags : Tag.advData fw p =
      0x02 :: ([0x01, 0x06] ++ 0x1B :: ((0xFF :: 0xE5 :: 0x02 :: p.toBytes) ++ [])) := by
    rw [Tag.advData_eq, List.append_nil]
    rfl
  have hsize : (0x1B : UInt8).toNat = (0xFF :: 0xE5 :: 0x02 :: p.toBytes).length := by
    simp only [List.length_cons, p.length_toBytes]
    rfl
  have hsize' : (0x02 : UInt8).toNat = ([0x01, 0x06] : Bytes).length := rfl
  unfold adStructures
  rw [hflags, Fields.split_field hsize' (List.cons_ne_nil _ _),
    Fields.split_field hsize (List.cons_ne_nil _ _), Fields.split_nil]

theorem take_uuid {p : TagAdvPayload} (huuid : p.uuid = Tag.bmtSystemUuid) :
    p.toBytes.take 4 = bmtSystemUuidPrefix := by
  simp [TagAdvPayload.toBytes, TagAdvPayload.signedBytes, huuid, Tag.bmtSystemUuid,
    bmtSystemUuidPrefix]

theorem isOtaField_eq_false {adv : Bytes} {i : ℕ} (hi : i + 10 < adv.length)
    (h : adv[i + 1]? ≠ some 0xFF ∨ adv[i + 4]? ≠ some 0x42) (fieldLen : UInt8) :
    isOtaField adv i fieldLen = some false := by
  have htype : adv[i + 1]? = some adv[i + 1] := List.getElem?_eq_getElem (by omega)
  have htarget : adv[i + 8]? = some adv[i + 8] := List.getElem?_eq_getElem (by omega)
  have hhead := readBytes_of_le adv (i + 2) 6 (by omega)
  have hnot : ¬ (adv[i + 1] = 0xFF ∧ 10 ≤ fieldLen.toNat ∧
      (adv.drop (i + 2)).take 6 = [0xE5, 0x02, 0x42, 0x4D, 0x54, 0xFA] ∧
        (adv[i + 8] = bmtNodeType ∨ adv[i + 8] = 0xFF)) := by
    rintro ⟨hff, -, hmagic, -⟩
    rcases h with h | h
    · rw [htype, hff] at h
      exact h rfl
    · have hthird := congrArg (fun l => l[2]?) hmagic
      simp only [List.getElem?_take, List.getElem?_drop] at hthird
      exact h hthird
  unfold isOtaField
  rw [htype, hhead, htarget]
  simp only [Option.bind_eq_bind, Option.bind_some, Option.pure_def, hnot, decide_false]

theorem otaFieldFrom_skip {adv : Bytes} {i : ℕ} {fieldLen : UInt8} (hi : i + 10 < adv.length)
    (hlen : adv[i]? = some fieldLen) (hne : fieldLen ≠ 0)
    (h : isOtaField adv i fieldLen = some false) :
    otaFieldFrom adv i = otaFieldFrom adv (i + fieldLen.toNat + 1) := by
  rw [otaFieldFrom, if_pos hi, hlen]
  simp only [Option.bind_eq_bind, Option.bind_some, h]
  rw [if_neg hne, if_neg Bool.false_ne_true]

theorem otaFieldFrom_advData (fw : Tag.Firmware) {p : TagAdvPayload}
    (huuid : p.uuid = Tag.bmtSystemUuid) : otaFieldFrom (Tag.advData fw p) 0 = some none := by
  rw [Tag.advData_eq]
  generalize hadv : [0x02, 0x01, 0x06, 0x1B, 0xFF, 0xE5, 0x02] ++ p.toBytes = adv
  have hlen : adv.length = 31 := by simp [← hadv]
  have hget : ∀ k : ℕ, k < 7 → adv[k]? = [0x02, 0x01, 0x06, 0x1B, 0xFF, 0xE5, 0x02][k]? := by
    intro k hk
    rw [← hadv]
    exact List.getElem?_append_left hk
  have huuid : adv[3 + 4]? = some 0xAB := by
    have hfirst := congrArg (fun l => l[0]?) (take_uuid huuid)
    simp only [List.getElem?_take] at hfirst
    rw [← hadv]
    exact hfirst
  have hflags : isOtaField adv 0 0x02 = some false := by
    apply isOtaField_eq_false (by omega)
    left
    rw [hget 1 (by omega)]
    decide
  have htag : isOtaField adv 3 0x1B = some false := by
    apply isOtaField_eq_false (by omega)
    right
    rw [huuid]
    decide
  -- the loop meets the flags at 0, the payload at 3 and the end at 31
  have hend : otaFieldFrom adv 31 = some none := by
    rw [otaFieldFrom, if_neg (by omega)]
  rw [otaFieldFrom_skip (by omega) (hget 0 (by omega)) (by decide) hflags]
  exact (otaFieldFrom_skip (by omega) (hget 3 (by omega)) (by decide) htag).trans hend

theorem holdsTag_advData (fw : Tag.Firmware) {p : TagAdvPayload}
    (huuid : p.uuid = Tag.bmtSystemUuid) : HoldsTag (Tag.advData fw p) p.toBytes := by
  refine ⟨⟨[[0x01, 0x06]], _, [], adStructures_advData fw p, ?_, ?_, ?_⟩,
    otaFieldFrom_advData fw huuid⟩
  · exact ⟨0xE5, 0x02, rfl, by decide, p.length_toBytes.ge, take_uuid huuid⟩
  · intro other hother
    rw [List.mem_singleton.mp hother]
    refine ⟨?_, ?_⟩
    · rintro data ⟨lo, hi, had, -⟩
      cases had
    · rintro uuid ⟨lo, hi, data, major, had, -⟩
      cases had
  · intro other hother
    cases hother

end BleMeshTracking.Scanner
