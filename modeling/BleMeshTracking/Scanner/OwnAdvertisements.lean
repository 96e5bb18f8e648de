import BleMeshTracking.Scanner.AdvWalk

/-!
# The scanner: whose advertisements are tracked

What `parse_tag_payload` accepts, against the two kinds of advertisement that are the system's own:
tag payloads with the system UUID and a MAC that verifies, and iBeacons with the system UUID and the
major of a person or an asset.
-/

namespace BleMeshTracking.Scanner

open Protocol

section Own

variable {σ : Type} (verify : UInt16 → Bytes → UInt16 → σ → Bool × σ)

def IsOwnTag (ad : Bytes) (s : σ) : Prop :=
  ∃ lo hi data, ad = 0xFF :: lo :: hi :: data ∧ u16OfLe lo hi = bmtCidEspressif ∧
    24 ≤ data.length ∧ data.take 4 = bmtSystemUuidPrefix ∧
    (verify (TagAdvPayload.ofBytes (data.take 24)).minor (data.take 22)
      (TagAdvPayload.ofBytes (data.take 24)).mac16 s).1 = true

/-- An iBeacon with this proximity UUID and the major of a person or an asset. -/
def IsIBeaconOf (uuid ad : Bytes) : Prop :=
  ∃ lo hi data major, ad = 0xFF :: lo :: hi :: data ∧ u16OfLe lo hi = bmtCidApple ∧
    23 ≤ data.length ∧ data.take 2 = [0x02, 0x15] ∧ uuid = (data.drop 2).take 16 ∧
    iBeaconMajor data = some major ∧ (major = bmtTagMajorPerson ∨ major = bmtTagMajorAsset)

def IsOwnIBeacon (ad : Bytes) : Prop :=
  ∃ uuid, IsIBeaconOf uuid ad ∧ uuid.take 4 = bmtSystemUuidPrefix

/-- An iBeacon of somebody else, though with one of the two majors. -/
def IsForeignIBeacon (ad : Bytes) : Prop :=
  ∃ uuid, IsIBeaconOf uuid ad ∧ uuid.take 4 ≠ bmtSystemUuidPrefix

/-- `parse_tag_payload` accepts this structure of an advertisement, when the state is `s'` there. -/
def AcceptedAt (adv : Bytes) (s : σ) (ad : Bytes) (s' : σ) : Prop :=
  ∃ pre post, adStructures adv = pre ++ ad :: post ∧
    Fields.first (acceptStructure verify) pre s = (none, s') ∧
    (acceptStructure verify ad s').1.isSome = true

/-- Each foreign iBeacon comes behind a structure that is accepted. -/
def ForeignBehind (adv : Bytes) (s : σ) : Prop :=
  ∀ pre ad post, adStructures adv = pre ++ ad :: post → IsForeignIBeacon ad →
    (Fields.first (acceptStructure verify) pre s).1.isSome = true

variable {verify} {adv ad : Bytes} {s s' : σ} {uuid : Bytes}

theorem acceptEspressif_isSome_iff {data : Bytes} :
    (acceptEspressif verify data s).1.isSome = true ↔
      data.take 4 = bmtSystemUuidPrefix ∧
        (verify (TagAdvPayload.ofBytes (data.take 24)).minor (data.take 22)
          (TagAdvPayload.ofBytes (data.take 24)).mac16 s).1 = true := by
  unfold acceptEspressif
  dsimp only
  split_ifs with huuid hverify
  · simp [huuid, hverify]
  · simp [huuid, hverify]
  · simp [huuid]

theorem acceptApple_isSome_iff {data : Bytes} (h23 : 23 ≤ data.length) :
    (acceptApple data).isSome = true ↔
      data.take 2 = [0x02, 0x15] ∧
        ∃ major, iBeaconMajor data = some major ∧
          (major = bmtTagMajorPerson ∨ major = bmtTagMajorAsset) := by
  obtain ⟨major, hmajor⟩ := readBe_of_lt data 18 (by omega)
  obtain ⟨minor, hminor⟩ := readBe_of_lt data 20 (by omega)
  unfold acceptApple iBeaconMajor iBeaconMinor
  rw [hmajor, hminor]
  by_cases hkind : data.take 2 = [0x02, 0x15]
  · by_cases hm : major = bmtTagMajorPerson ∨ major = bmtTagMajorAsset
    · simp [hkind, hm]
    · simp [hkind, hm]
  · simp [hkind]

theorem isOwnTag_cons_iff {type lo hi : UInt8} {data : Bytes} :
    IsOwnTag verify (type :: lo :: hi :: data) s ↔
      type = 0xFF ∧ u16OfLe lo hi = bmtCidEspressif ∧ 24 ≤ data.length ∧
        (acceptEspressif verify data s).1.isSome = true := by
  rw [acceptEspressif_isSome_iff]
  refine ⟨?_, ?_⟩
  · rintro ⟨lo, hi, data, had, hrest⟩
    cases had
    exact ⟨rfl, hrest⟩
  · rintro ⟨rfl, hrest⟩
    exact ⟨lo, hi, data, rfl, hrest⟩

theorem exists_isIBeaconOf_cons_iff {type lo hi : UInt8} {data : Bytes} :
    (∃ uuid, IsIBeaconOf uuid (type :: lo :: hi :: data)) ↔
      type = 0xFF ∧ u16OfLe lo hi = bmtCidApple ∧ 23 ≤ data.length ∧
        (acceptApple data).isSome = true := by
  refine ⟨?_, ?_⟩
  · rintro ⟨uuid, lo, hi, data, major, had, hcid, h23, hkind, -, hmajor⟩
    cases had
    exact ⟨rfl, hcid, h23, (acceptApple_isSome_iff h23).mpr ⟨hkind, major, hmajor⟩⟩
  · rintro ⟨rfl, hcid, h23, haccept⟩
    obtain ⟨hkind, major, hmajor⟩ := (acceptApple_isSome_iff h23).mp haccept
    exact ⟨_, lo, hi, data, major, rfl, hcid, h23, hkind, rfl, hmajor⟩

theorem not_own_of_short (h : ad.length < 3) :
    ¬ (IsOwnTag verify ad s ∨ ∃ uuid, IsIBeaconOf uuid ad) := by
  rintro (⟨lo, hi, data, rfl, -⟩ | ⟨uuid, lo, hi, data, major, rfl, -⟩)
  · simp only [List.length_cons] at h
    omega
  · simp only [List.length_cons] at h
    omega

theorem acceptStructure_isSome_iff :
    (acceptStructure verify ad s).1.isSome = true ↔
      IsOwnTag verify ad s ∨ ∃ uuid, IsIBeaconOf uuid ad := by
  by_cases hshort : ad.length < 3
  · rw [acceptStructure_of_short verify hshort]
    exact iff_of_false Bool.false_ne_true (not_own_of_short hshort)
  · rcases ad with _ | ⟨type, _ | ⟨lo, _ | ⟨hi, data⟩⟩⟩
    · simp at hshort
    · simp at hshort
    · simp at hshort
    · rw [isOwnTag_cons_iff, exists_isIBeaconOf_cons_iff]
      have hcids : bmtCidEspressif ≠ bmtCidApple := by decide
      unfold acceptStructure
      dsimp only
      split_ifs with hff hesp happle
      · simp [hff, hesp, hcids]
      · simp [hff, happle, hcids.symm]
      · have hnot : ¬ (u16OfLe lo hi = bmtCidEspressif ∧ 24 ≤ data.length ∧
            (acceptEspressif verify data s).1.isSome = true) := fun h => hesp ⟨h.1, h.2.1⟩
        have hnot' : ¬ (u16OfLe lo hi = bmtCidApple ∧ 23 ≤ data.length ∧
            (acceptApple data).isSome = true) := fun h => happle ⟨h.1, h.2.1⟩
        simp [hff, hnot, hnot']
      · simp [hff]

theorem foreign_not_own (h : IsForeignIBeacon ad) : ¬ (IsOwnTag verify ad s ∨ IsOwnIBeacon ad) := by
  obtain ⟨uuid, ⟨lo, hi, data, major, rfl, hcid, -, -, huuid, -⟩, hforeign⟩ := h
  rintro (⟨lo', hi', data', had, hcid', -⟩ | ⟨uuid', hbeacon, hown⟩)
  · cases had
    rw [hcid] at hcid'
    exact absurd hcid' (by decide)
  · obtain ⟨lo', hi', data', major', had, -, -, -, huuid', -⟩ := hbeacon
    cases had
    rw [huuid', ← huuid] at hown
    exact hforeign hown

/-- What is accepted is the system's own, or an iBeacon of somebody else. -/
theorem accepted_cases (h : (acceptStructure verify ad s).1.isSome = true) :
    (IsOwnTag verify ad s ∨ IsOwnIBeacon ad) ∨ IsForeignIBeacon ad := by
  rcases acceptStructure_isSome_iff.mp h with htag | ⟨uuid, hbeacon⟩
  · exact Or.inl (Or.inl htag)
  · by_cases huuid : uuid.take 4 = bmtSystemUuidPrefix
    · exact Or.inl (Or.inr ⟨uuid, hbeacon, huuid⟩)
    · exact Or.inr ⟨uuid, hbeacon, huuid⟩

/-- Only what is the system's own is accepted, exactly if every foreign iBeacon comes too late. -/
theorem accepted_own_iff :
    (∀ ad s', AcceptedAt verify adv s ad s' → IsOwnTag verify ad s' ∨ IsOwnIBeacon ad) ↔
      ForeignBehind verify adv s := by
  refine ⟨?_, ?_⟩
  · -- where nothing before it is accepted, a foreign iBeacon is
    intro hown pre ad post hsplit hforeign
    rcases hfirst : Fields.first (acceptStructure verify) pre s with ⟨_ | p, s'⟩
    · have hnot : ¬ (IsOwnTag verify ad s' ∨ IsOwnIBeacon ad) := foreign_not_own hforeign
      obtain ⟨uuid, hbeacon, -⟩ := hforeign
      have haccept : (acceptStructure verify ad s').1.isSome = true :=
        acceptStructure_isSome_iff.mpr (Or.inr ⟨uuid, hbeacon⟩)
      exact absurd (hown ad s' ⟨pre, post, hsplit, hfirst, haccept⟩) hnot
    · rfl
  · rintro hbehind ad s' ⟨pre, post, hsplit, hfirst, haccept⟩
    refine (accepted_cases haccept).resolve_right ?_
    intro hforeign
    have hsome := hbehind pre ad post hsplit hforeign
    rw [hfirst] at hsome
    cases hsome

theorem exists_acceptedAt {p : TagPayload} {t : σ}
    (h : parseTagPayload verify adv s = some (some p, t)) :
    ∃ ad s', AcceptedAt verify adv s ad s' := by
  rw [parseTagPayload_eq] at h
  obtain ⟨pre, ad, post, s', hsplit, hpre, had⟩ := Fields.first_eq_some_iff.mp (Option.some.inj h)
  exact ⟨ad, s', pre, post, hsplit, hpre, by rw [had]; rfl⟩

end Own

def ScanResult.verify (hmac : Hmac) (r : ScanResult) (tagId : UInt16) (data : Bytes)
    (receivedMac : UInt16) (epochs : EpochTable) : Bool × EpochTable :=
  let result := bmtAuthVerifyTag hmac r.calls r.keys tagId data receivedMac r.nowUs epochs
  (result.1.isSome, result.2)

/-- A scan result is accepted for a structure of the system's own only, and changes no entry but by
one. -/
structure OnlyOwn (hmac : Hmac) (s : TagScanner) (r : ScanResult) : Prop where
  accepted : ∀ ad epochs, AcceptedAt (r.verify hmac) r.adv s.air.epochs ad epochs →
    IsOwnTag (r.verify hmac) ad epochs ∨ IsOwnIBeacon ad
  tracked : ∀ tagId, entryOf tagId (s.after hmac (.scanResult r)).tags ≠ entryOf tagId s.tags →
    ∃ ad epochs, AcceptedAt (r.verify hmac) r.adv s.air.epochs ad epochs ∧
      (IsOwnTag (r.verify hmac) ad epochs ∨ IsOwnIBeacon ad)

theorem parsed_of_acceptScanResult {hmac : Hmac} {r : ScanResult} {air air' : AirState}
    {p : TagPayload} (h : acceptScanResult hmac r air = some (some p, air')) :
    parseTagPayload (r.verify hmac) r.adv air.epochs = some (some p, air'.epochs) := by
  unfold acceptScanResult at h
  obtain ⟨⟨trigger, ota⟩, -, h⟩ := Option.bind_eq_some_iff.mp h
  dsimp only at h
  split_ifs at h
  · cases h
  · obtain ⟨⟨payload, epochs⟩, hparse, h⟩ := Option.bind_eq_some_iff.mp h
    cases h
    exact hparse

/-- The scanner tracks only what is the system's own, exactly if every foreign iBeacon of an
advertisement comes behind a structure that is accepted. -/
theorem only_own_tracked (hmac : Hmac) (s : TagScanner) (r : ScanResult) :
    OnlyOwn hmac s r ↔ ForeignBehind (r.verify hmac) r.adv s.air.epochs := by
  rw [← accepted_own_iff]
  refine ⟨OnlyOwn.accepted, fun hown => ⟨hown, ?_⟩⟩
  intro tagId hchanged
  have haccepted : ∃ ad epochs, AcceptedAt (r.verify hmac) r.adv s.air.epochs ad epochs := by
    unfold TagScanner.after at hchanged
    dsimp only at hchanged
    rcases haccept : acceptScanResult hmac r s.air with _ | ⟨_ | p, air⟩
    · rw [haccept] at hchanged
      exact absurd rfl hchanged
    · rw [haccept] at hchanged
      exact absurd rfl hchanged
    · exact exists_acceptedAt (parsed_of_acceptScanResult haccept)
  obtain ⟨ad, epochs, had⟩ := haccepted
  exact ⟨ad, epochs, had, hown ad epochs had⟩

def foreignResult : ScanResult :=
  { adv := phoneAdv 2, rssi := -60, bda := fun _ => 0, nowMs := 1, nowUs := 1, keys := tagOne.keys }

/-- An iBeacon with a foreign proximity UUID is accepted, and makes an entry. -/
theorem foreign_iBeacon_tracked :
    ¬ OnlyOwn echoHmac {} foreignResult ∧
      (entryOf 0x8002 (TagScanner.after echoHmac {} (.scanResult foreignResult)).tags).isSome =
        true := by
  refine ⟨?_, by decide +kernel⟩
  rw [only_own_tracked]
  intro hbehind
  have hforeign : IsForeignIBeacon ([0xFF, 0x4C, 0x00, 0x02, 0x15] ++ List.replicate 16 0xAB ++
      [0x00, 0x01, 0x00, 0x02, 0xC5]) :=
    ⟨_, ⟨0x4C, 0x00, _, 0x0001, rfl, by decide, by decide, by decide, rfl, by decide, by decide⟩,
      by decide⟩
  have hsome := hbehind [[0x01, 0x1A]] _ [] (by decide +kernel) hforeign
  exact absurd hsome (by decide)

end BleMeshTracking.Scanner
