import BleMeshTracking.Library.Fields
import BleMeshTracking.Scanner.Beacons

/-!
# The scanner: what an advertisement is taken for

The loops of `bmt_scan.c` against the AD structures of an advertisement: the bytes are cut up first,
and the structures are tried in their order.
-/

namespace BleMeshTracking.Scanner

open Protocol

/-- The AD structures, each with its type and its data, up to the first one of length zero or
beyond the end. -/
def adStructures (adv : Bytes) : List Bytes := Fields.split UInt8.toNat adv

section Accept

variable {σ : Type} (verify : UInt16 → Bytes → UInt16 → σ → Bool × σ)

/-- A manufacturer field of a tag: accepted if it has the system UUID and its MAC verifies. -/
def acceptEspressif (data : Bytes) (s : σ) : Option TagPayload × σ :=
  let p := TagAdvPayload.ofBytes (data.take 24)
  if data.take 4 = bmtSystemUuidPrefix then
    let verdict := verify p.minor (data.take 22) p.mac16 s
    (if verdict.1 then some ⟨p.battery.toUInt8, p.minor, p.txPower, p.sequence, p.mac16⟩ else none,
      verdict.2)
  else
    (none, s)

/-- The major of an iBeacon: its type and size, the proximity UUID, the major and the minor. -/
def iBeaconMajor (data : Bytes) : Option UInt16 := readBe data 18

def iBeaconMinor (data : Bytes) : Option UInt16 := readBe data 20

def acceptApple (data : Bytes) : Option TagPayload := do
  guard (data.take 2 = [0x02, 0x15])
  let major ← iBeaconMajor data
  let minor ← iBeaconMinor data
  guard (major = bmtTagMajorPerson ∨ major = bmtTagMajorAsset)
  return ⟨0, minor ||| 0x8000, bmtPhoneTxPower1m, 0, 0⟩

/-- One AD structure: manufacturer data with the company that gives its format. -/
def acceptStructure (ad : Bytes) (s : σ) : Option TagPayload × σ :=
  match ad with
  | type :: lo :: hi :: data =>
    if type = 0xFF then
      if u16OfLe lo hi = bmtCidEspressif ∧ 24 ≤ data.length then acceptEspressif verify data s
      else if u16OfLe lo hi = bmtCidApple ∧ 23 ≤ data.length then (acceptApple data, s)
      else (none, s)
    else
      (none, s)
  | _ => (none, s)

def acceptAdv (adv : Bytes) (s : σ) : Option TagPayload × σ :=
  Fields.first (acceptStructure verify) (adStructures adv) s

end Accept

section Walk

variable {σ : Type} (verify : UInt16 → Bytes → UInt16 → σ → Bool × σ) {adv ad : Bytes} {pos n : ℕ}
  {s : σ}

theorem readBytes_of_le (adv : Bytes) (pos n : ℕ) (h : pos + n ≤ adv.length) :
    readBytes adv pos n = some ((adv.drop pos).take n) := if_pos h

theorem readBe_of_lt (adv : Bytes) (pos : ℕ) (h : pos + 1 < adv.length) :
    ∃ x, readBe adv pos = some x := by
  unfold readBe
  rw [List.getElem?_eq_getElem (Nat.lt_of_succ_lt h), List.getElem?_eq_getElem h]
  exact ⟨_, rfl⟩

theorem getElem?_part (had : ad = (adv.drop pos).take n) {k : ℕ} (hk : k < n) :
    ad[k]? = adv[pos + k]? := by
  rw [had, List.getElem?_take_of_lt hk, List.getElem?_drop]

theorem length_part (had : ad = (adv.drop pos).take n) (hfits : pos + n ≤ adv.length) :
    ad.length = n := by
  rw [had, List.length_take, List.length_drop]
  omega

theorem readBe_part (had : ad = (adv.drop pos).take n) {k : ℕ} (hk : k + 1 < n) :
    readBe ad k = readBe adv (pos + k) := by
  unfold readBe
  rw [getElem?_part had (Nat.lt_of_succ_lt hk), getElem?_part had hk]
  rfl

theorem espressifField_eq {data : Bytes} (hdata : data = (adv.drop (pos + 4)).take n)
    (h24 : 24 ≤ n) (hfits : pos + 4 + n ≤ adv.length) :
    espressifField verify adv pos s = some (acceptEspressif verify data s) := by
  have hraw : readBytes adv (pos + 4) 24 = some (data.take 24) := by
    rw [readBytes_of_le _ _ _ (by omega), hdata, List.take_take, Nat.min_eq_left h24]
  have htake : ∀ k, k ≤ 24 → (data.take 24).take k = data.take k := by
    intro k hk
    rw [List.take_take, Nat.min_eq_left hk]
  unfold espressifField acceptEspressif
  rw [hraw]
  simp only [Option.bind_eq_bind, Option.bind_some, htake 4 (by omega), htake 22 (by omega)]
  split_ifs
  all_goals rfl

theorem appleField_eq {data : Bytes} (hdata : data = (adv.drop (pos + 4)).take n)
    (h23 : 23 ≤ n) (hfits : pos + 4 + n ≤ adv.length) :
    appleField adv pos = some (acceptApple data) := by
  have hlen := length_part hdata hfits
  have hmajor : readBe adv (pos + 22) = iBeaconMajor data :=
    (readBe_part (k := 18) hdata (by omega)).symm
  have hminor : readBe adv (pos + 24) = iBeaconMinor data :=
    (readBe_part (k := 20) hdata (by omega)).symm
  obtain ⟨major, hmajor'⟩ := readBe_of_lt data 18 (by omega)
  obtain ⟨minor, hminor'⟩ := readBe_of_lt data 20 (by omega)
  have hkind : adv[pos + 4]? = data[0]? := (getElem?_part (k := 0) hdata (by omega)).symm
  have hsize : adv[pos + 5]? = data[1]? := (getElem?_part (k := 1) hdata (by omega)).symm
  unfold appleField acceptApple
  rw [hkind, hsize, hmajor, hminor]
  unfold iBeaconMajor iBeaconMinor
  rw [hmajor', hminor']
  cases data with
  | nil => simp at hlen; omega
  | cons kind data =>
    cases data with
    | nil => simp at hlen; omega
    | cons size rest =>
      simp only [List.getElem?_cons_zero, List.getElem?_cons_succ, Option.bind_eq_bind,
        Option.bind_some, List.take_succ_cons, List.take_zero, List.cons.injEq, and_true]
      by_cases hbeacon : kind = 0x02 ∧ size = 0x15
      · by_cases hm : major = bmtTagMajorPerson ∨ major = bmtTagMajorAsset
        · simp [hbeacon, hm]
        · simp [hbeacon, hm]
      · simp [hbeacon]

theorem tagField_eq {fieldLen : UInt8} (had : ad = (adv.drop (pos + 1)).take fieldLen.toNat)
    (hne : fieldLen ≠ 0) (hfits : pos + fieldLen.toNat < adv.length) :
    tagField verify adv pos fieldLen s = some (acceptStructure verify ad s) := by
  have hpos : 0 < fieldLen.toNat := by
    apply Nat.pos_of_ne_zero
    intro h0
    exact hne (UInt8.toNat_inj.mp h0)
  have hlen := length_part had (by omega)
  have hbyte : ∀ k, k < fieldLen.toNat → adv[pos + 1 + k]? = ad[k]? :=
    fun k hk => (getElem?_part had hk).symm
  have htype : adv[pos + 1]? = ad[0]? := hbyte 0 hpos
  unfold tagField
  rw [htype]
  rcases ad with _ | ⟨type, _ | ⟨lo, _ | ⟨hi, data⟩⟩⟩
  · rw [List.length_nil] at hlen
    omega
  · -- no room for a company id
    have hshort : ¬ (type = 0xFF ∧ 3 ≤ fieldLen.toNat) := by
      rw [List.length_singleton] at hlen
      omega
    simp only [List.getElem?_cons_zero, Option.bind_eq_bind, Option.bind_some, if_neg hshort]
    rfl
  · have hshort : ¬ (type = 0xFF ∧ 3 ≤ fieldLen.toNat) := by
      rw [List.length_cons, List.length_singleton] at hlen
      omega
    simp only [List.getElem?_cons_zero, Option.bind_eq_bind, Option.bind_some, if_neg hshort]
    rfl
  · simp only [List.length_cons] at hlen
    have hlo : adv[pos + 2]? = some lo := hbyte 1 (by omega)
    have hhi : adv[pos + 3]? = some hi := hbyte 2 (by omega)
    have hdata : data = (adv.drop (pos + 4)).take (fieldLen.toNat - 3) := by
      have htail := congrArg (List.drop 3) had
      rw [List.drop_take, List.drop_drop] at htail
      exact htail
    have h27 : 1 + 2 + 24 ≤ fieldLen.toNat ↔ 24 ≤ data.length := by omega
    have h26 : 26 ≤ fieldLen.toNat ↔ 23 ≤ data.length := by omega
    simp only [List.getElem?_cons_zero, Option.bind_eq_bind, Option.bind_some, hlo, hhi, h27, h26]
    unfold acceptStructure
    dsimp only
    by_cases hff : type = 0xFF
    · rw [if_pos ⟨hff, by omega⟩, if_pos hff]
      split_ifs with hesp happle
      · exact espressifField_eq verify hdata (by omega) (by omega)
      · rw [appleField_eq hdata (by omega) (by omega)]
        rfl
      · rfl
    · rw [if_neg fun h => hff h.1, if_neg hff]
      rfl

/-- The loop from `pos` on tries the structures that are left. -/
theorem parseFrom_eq (hpos : pos ≤ adv.length) :
    parseFrom verify adv pos s =
      some (Fields.first (acceptStructure verify) (adStructures (adv.drop pos)) s) := by
  induction hn : adv.length - pos using Nat.strong_induction_on generalizing pos s with
  | _ n ih =>
    rw [parseFrom]
    by_cases hend : pos < adv.length
    · rw [if_pos hend]
      have hlen : adv[pos]? = some adv[pos] := List.getElem?_eq_getElem hend
      rw [hlen, Option.bind_eq_bind, Option.bind_some]
      unfold adStructures
      rw [Fields.split_drop hlen]
      have hzero : adv[pos] = 0 ↔ adv[pos].toNat = 0 := by
        rw [← UInt8.toNat_inj]
        rfl
      -- both end at a structure of length 0, or beyond the end
      by_cases hstop : adv[pos] = 0 ∨ adv.length ≤ pos + adv[pos].toNat
      · rw [if_pos hstop, if_pos (by rwa [← hzero])]
        rfl
      · rw [if_neg hstop, if_neg (by rwa [← hzero])]
        obtain ⟨hne, hfits⟩ := not_or.mp hstop
        rw [tagField_eq verify rfl hne (by omega), Option.bind_eq_bind, Option.bind_some]
        rcases haccept : acceptStructure verify ((adv.drop (pos + 1)).take adv[pos].toNat) s with
          ⟨_ | p, t⟩
        · rw [Fields.first_cons_none haccept]
          exact ih _ (by omega) (by omega) rfl
        · rw [Fields.first_cons_some haccept]
          rfl
    · rw [if_neg hend]
      unfold adStructures
      rw [Fields.split_drop_end (by omega)]
      rfl

theorem acceptStructure_of_short (h : ad.length < 3) (s : σ) :
    acceptStructure verify ad s = (none, s) := by
  rcases ad with _ | ⟨type, _ | ⟨lo, _ | ⟨hi, data⟩⟩⟩
  · rfl
  · rfl
  · rfl
  · simp only [List.length_cons] at h
    omega

theorem parseTagPayload_eq (adv : Bytes) (s : σ) :
    parseTagPayload verify adv s = some (acceptAdv verify adv s) := by
  unfold parseTagPayload
  split_ifs with hshort
  · unfold acceptAdv
    rw [Fields.first_of_refused]
    intro ad had t
    have hlen := Fields.length_lt_of_mem_split had
    exact acceptStructure_of_short verify (by omega) t
  · exact parseFrom_eq verify (Nat.zero_le _)

end Walk

/-- No read of the OTA-beacon loop is out of bounds. -/
theorem otaFieldFrom_isSome (adv : Bytes) (i : ℕ) : (otaFieldFrom adv i).isSome = true := by
  induction hn : adv.length - i using Nat.strong_induction_on generalizing i with
  | _ n ih =>
    rw [otaFieldFrom]
    split_ifs with hi
    · have hlen : adv[i]? = some adv[i] := List.getElem?_eq_getElem (by omega)
      have htype : adv[i + 1]? = some adv[i + 1] := List.getElem?_eq_getElem (by omega)
      have htarget : adv[i + 8]? = some adv[i + 8] := List.getElem?_eq_getElem (by omega)
      have hhead := readBytes_of_le adv (i + 2) 6 (by omega)
      have hdata := readBytes_of_le adv (i + 4) 5 (by omega)
      obtain ⟨mac, hmac⟩ := readBe_of_lt adv (i + 9) (by omega)
      unfold isOtaField
      simp only [hlen, htype, htarget, hhead, hdata, hmac, Option.bind_eq_bind, Option.bind_some,
        Option.pure_def]
      split_ifs
      · rfl
      · rfl
      · exact ih _ (by omega) _ rfl
    · rfl

/-- Both loops end without a read beyond the `adv_len` bytes of an advertisement, and
`parse_tag_payload` gives the first AD structure that is accepted, with the same attempts to
verify. -/
theorem walks_in_bounds {σ : Type} (verify : UInt16 → Bytes → UInt16 → σ → Bool × σ) (adv : Bytes)
    (s : σ) :
    (otaFieldFrom adv 0).isSome = true ∧
      parseTagPayload verify adv s = some (acceptAdv verify adv s) :=
  ⟨otaFieldFrom_isSome adv 0, parseTagPayload_eq verify adv s⟩

end BleMeshTracking.Scanner
