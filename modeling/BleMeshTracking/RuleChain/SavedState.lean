import BleMeshTracking.RuleChain.Hysteresis
import BleMeshTracking.RuleChain.StaleSamples

/-!
# What the saved attributes say together

The zone, the scanner and the RSSI that the chain saves for a tag come from one sample, which is
among the samples it saves; and a room is saved only after its scanner has reported the tag.
-/

namespace BleMeshTracking.RuleChain

/-- The decision rests on the sample of one scanner, or on none. -/
def Decision.RestsOn (d : Decision) (snap : ScannerId → Option Sample) : Prop :=
  (d.finalScanner = none ∧ d.finalZone = .outOfRange ∧ d.finalRssi = -999) ∨
    ∃ s x, d.finalScanner = some s ∧ d.finalZone = zoneOf s ∧ snap (.known s) = some x ∧
      d.finalRssi = x.rssi.toInt

/-- A saved room that has no fresh sample rests on a sample that the snapshot still has. -/
def Metadata.HeldBy (metadata : Metadata) (snap : ScannerId → Option Sample) (now : ℤ) : Prop :=
  ∀ A, metadata.currentZone = some A → A.IsRoom → (strongestFreshIn snap now A).1 = none →
    ∃ s x, metadata.currentScanner = some s ∧ zoneOf s = A ∧ snap (.known s) = some x ∧
      metadata.currentRssi = some x.rssi.toInt

variable {snap : ScannerId → Option Sample} {now : ℤ} {metadata : Metadata}

theorem strongestFresh_sample {s : Scanner} (h : (strongestFresh snap now).1 = some s) :
    ∃ x : Sample, snap (.known s) = some x ∧ x.rssi.toInt = (strongestFresh snap now).2 := by
  obtain ⟨x, -, hsnap, hrssi⟩ :=
    freshRssi_eq_some_iff.mp (Strongest.scan_snd (l := scanners) freshRssi_gt h)
  exact ⟨x, hsnap, hrssi⟩

theorem strongestFreshIn_sample {A : Zone} {s : Scanner}
    (h : (strongestFreshIn snap now A).1 = some s) :
    zoneOf s = A ∧ ∃ x : Sample, snap (.known s) = some x ∧
      x.rssi.toInt = (strongestFreshIn snap now A).2 := by
  have hvalue := Strongest.scan_snd (l := scanners) (freshRssiIn_gt A) h
  split_ifs at hvalue with hzone
  rw [zoneMap_known] at hzone
  obtain ⟨x, -, hsnap, hrssi⟩ := freshRssi_eq_some_iff.mp hvalue
  exact ⟨Option.some.inj hzone, x, hsnap, hrssi⟩

/-- The scanner and the RSSI that stand for the current room while another one challenges it. -/
theorem held_restsOn (h : metadata.HeldBy snap now) {A : Zone}
    (hzone : metadata.currentZone = some A) (hroom : A.IsRoom) :
    ∃ s x, (if (strongestFreshIn snap now A).1.isSome then (strongestFreshIn snap now A).1
        else metadata.currentScanner) = some s ∧ A = zoneOf s ∧ snap (.known s) = some x ∧
      (if (strongestFreshIn snap now A).1.isSome then (strongestFreshIn snap now A).2
        else metadata.currentRssi.getD (-999)) = x.rssi.toInt := by
  cases hbest : (strongestFreshIn snap now A).1 with
  | some s =>
    obtain ⟨hA, x, hsnap, hrssi⟩ := strongestFreshIn_sample hbest
    exact ⟨s, x, rfl, hA.symm, hsnap, hrssi.symm⟩
  | none =>
    obtain ⟨s, x, hscanner, hA, hsnap, hrssi⟩ := h A hzone hroom hbest
    refine ⟨s, x, hscanner, hA.symm, hsnap, ?_⟩
    rw [hrssi]
    rfl

/-- A challenge is won by the strongest scanner, or leaves zone, scanner and RSSI with the current
room. -/
theorem challenge_cases (metadata : Metadata) (A B : Zone) (b : Scanner) (r : ℤ)
    (curBest : Option Scanner × ℤ) :
    let d := challenge metadata A B b r curBest
    (d.finalZone = B ∧ d.finalRssi = r ∧ d.finalScanner = some b) ∨
      d.finalZone = A ∧
        d.finalRssi = (if curBest.1.isSome then curBest.2
          else metadata.currentRssi.getD (-999)) ∧
        d.finalScanner = if curBest.1.isSome then curBest.1 else metadata.currentScanner := by
  unfold challenge
  dsimp only
  by_cases hpass : passHysteresis r curBest = true
  · rw [if_pos hpass]
    generalize (if metadata.candidateZone = some B then _ else 1) = newCandCount
    by_cases hcount : debounceCount ≤ newCandCount
    · rw [if_pos hcount]
      exact Or.inl ⟨rfl, rfl, rfl⟩
    · rw [if_neg hcount]
      exact Or.inr ⟨rfl, rfl, rfl⟩
  · rw [if_neg hpass]
    right
    cases metadata.candidateZone with
    | none => exact ⟨rfl, rfl, rfl⟩
    | some candZone =>
      by_cases hkeep : candZone ≠ A ∧ 0 < metadata.candidateCount.getD 0
      · simp only [if_pos hkeep, and_self]
      · simp only [if_neg hkeep, and_self]

theorem decideZone_restsOn (h : metadata.HeldBy snap now) :
    (decideZone metadata snap now).RestsOn snap := by
  unfold decideZone
  cases hbest : (strongestFresh snap now).1 with
  | none =>
    have hpair : strongestFresh snap now = (none, (strongestFresh snap now).2) := by rw [← hbest]
    rw [hpair]
    exact Or.inl ⟨rfl, rfl, rfl⟩
  | some b =>
    have hpair : strongestFresh snap now = (some b, (strongestFresh snap now).2) := by
      rw [← hbest]
    obtain ⟨x, hsnap, hrssi⟩ := strongestFresh_sample hbest
    rw [hpair]
    simp only [zoneMap_known, Option.getD_some]
    have hfirst : (Decision.mk (zoneOf b) (strongestFresh snap now).2 (some b) (some (zoneOf b))
        0).RestsOn snap := Or.inr ⟨b, x, rfl, rfl, hsnap, hrssi.symm⟩
    cases hzone : metadata.currentZone with
    | none => exact hfirst
    | some curZone =>
      dsimp only
      by_cases hout : curZone = .outOfRange
      · rw [if_pos hout]
        exact hfirst
      · rw [if_neg hout]
        by_cases hsame : zoneOf b = curZone
        · rw [if_pos hsame]
          exact Or.inr ⟨b, x, rfl, hsame.symm, hsnap, hrssi.symm⟩
        · rw [if_neg hsame]
          rcases challenge_cases metadata curZone (zoneOf b) b (strongestFresh snap now).2
            (strongestFreshIn snap now curZone) with hwon | hheld
          · obtain ⟨hfinal, hfinalRssi, hscanner⟩ := hwon
            exact Or.inr ⟨b, x, hscanner, hfinal, hsnap, hfinalRssi.trans hrssi.symm⟩
          · obtain ⟨hfinal, hfinalRssi, hscanner⟩ := hheld
            obtain ⟨s, y, hheldBy, hA, hheldSnap, hheldRssi⟩ := held_restsOn h hzone hout
            exact Or.inr ⟨s, y, hscanner.trans hheldBy, hfinal.trans hA, hheldSnap,
              hfinalRssi.trans hheldRssi⟩

/-- What the attributes of a tag say together once a message has been saved. -/
structure TagState.Coherent (st : TagState) : Prop where
  role : st.role = some "tag"
  label : st.currentZoneLabel = st.currentZone.map roomLabelMap
  restsOn : (st.currentScanner = none ∧ st.currentZone = some .outOfRange ∧
      st.currentRssi = some (-999)) ∨
    ∃ s x, st.currentScanner = some s ∧ st.currentZone = some (zoneOf s) ∧ st.pair s = some x ∧
      st.currentRssi = some x.rssi.toInt

def TagState.CoherentIfSaved (st : TagState) : Prop := st.currentZone = none ∨ st.Coherent

theorem sample_ts {msg : Incoming} {s : Scanner} {x : Sample} (h : msg.sample now s = some x) :
    x.ts = now := by
  unfold Incoming.sample at h
  split at h
  · split_ifs at h
    cases h
    rfl
  · cases h

theorem TagState.CoherentIfSaved.heldBy {st : TagState} (h : st.CoherentIfSaved) (a : Arrival) :
    (fetchTagState st).HeldBy (st.snap a) a.now := by
  intro A hzone hroom hnone
  rcases h with hno | hcoherent
  · cases hno.symm.trans hzone
  rcases hcoherent.restsOn with ⟨-, hout, -⟩ | ⟨s, x, hscanner, hcur, hpair, hrssi⟩
  · cases hout.symm.trans hzone
    exact absurd rfl hroom
  · have hA : zoneOf s = A := Option.some.inj (hcur.symm.trans hzone)
    refine ⟨s, x, hscanner, hA, ?_, hrssi⟩
    -- a sample of the message itself would be fresh
    have hstale : freshRssi (st.snap a) a.now s = none := by
      have hall := (Strongest.scan_eq_none (freshRssiIn_gt A)).mp hnone s (mem_scanners s)
      rwa [if_pos (by rw [zoneMap_known, hA])] at hall
    unfold TagState.snap at hstale ⊢
    rw [snapshot_known]
    unfold Incoming.written
    cases hsample : a.msg.sample a.now s with
    | none =>
      rw [Option.none_or]
      exact hpair
    | some y =>
      have hfresh : freshRssi (snapshot (fetchTagState st) (parseAndMapZone a.msg).1 a.now) a.now
          s = some y.rssi.toInt := by
        apply freshRssi_eq_some_iff.mpr
        refine ⟨y, ?_, ?_, rfl⟩
        · have hnow := sample_ts hsample
          unfold Sample.Fresh scannerValidMs
          omega
        · rw [snapshot_known, Incoming.written, hsample, Option.some_or]
      rw [hfresh] at hstale
      cases hstale

theorem TagState.CoherentIfSaved.process {st : TagState} (h : st.CoherentIfSaved) (a : Arrival) :
    (st.process a).Coherent := by
  have hrests := decideZone_restsOn (h.heldBy a)
  refine ⟨rfl, rfl, ?_⟩
  rcases hrests with ⟨hscanner, hzone, hrssi⟩ | ⟨s, x, hscanner, hzone, hsnap, hrssi⟩
  · exact Or.inl ⟨hscanner, congrArg some hzone, congrArg some hrssi⟩
  · refine Or.inr ⟨s, x, hscanner, congrArg some hzone, ?_, congrArg some hrssi⟩
    rw [pair_process, ← hsnap]
    exact (snapshot_known (fetchTagState st) a.msg a.now s).symm

theorem coherentIfSaved_savedAfter (as : List Arrival) : (savedAfter as).CoherentIfSaved := by
  induction as using List.reverseRecOn with
  | nil => exact Or.inl rfl
  | append_singleton as a ih =>
    rw [savedAfter_concat]
    exact Or.inr (ih.process a)

def Reported (as : List Arrival) (s : Scanner) (x : Sample) : Prop :=
  ∃ a ∈ as, a.msg.sample a.now s = some x

theorem Reported.concat {as : List Arrival} {s : Scanner} {x : Sample} (h : Reported as s x)
    (a : Arrival) : Reported (as ++ [a]) s x := by
  obtain ⟨b, hb, hsample⟩ := h
  exact ⟨b, List.mem_append_left [a] hb, hsample⟩

theorem pair_reported (as : List Arrival) (s : Scanner) (x : Sample)
    (h : (savedAfter as).pair s = some x) : Reported as s x := by
  induction as using List.reverseRecOn with
  | nil => cases h
  | append_singleton as a ih =>
    rw [savedAfter_concat, pair_process] at h
    unfold Incoming.written at h
    cases hsample : a.msg.sample a.now s with
    | some y =>
      rw [hsample, Option.some_or] at h
      exact ⟨a, List.mem_append_right as List.mem_cons_self, hsample.trans h⟩
    | none =>
      rw [hsample, Option.none_or] at h
      exact (ih h).concat a

theorem coherent_savedAfter (as : List Arrival) (a : Arrival) :
    (savedAfter (as ++ [a])).Coherent := by
  rw [savedAfter_concat]
  exact (coherentIfSaved_savedAfter as).process a

theorem TagState.Coherent.sample_of_room {st : TagState} (h : st.Coherent) {s : Scanner}
    (hs : st.currentZone = some (zoneOf s)) :
    ∃ x, st.pair s = some x ∧ st.currentRssi = some x.rssi.toInt := by
  rcases h.restsOn with ⟨-, hout, -⟩ | ⟨s', x, -, hzone, hpair, hrssi⟩
  · have hroom := zoneOf_isRoom s
    rw [← Option.some.inj (hout.symm.trans hs)] at hroom
    exact absurd rfl hroom
  · have hss : s' = s := zoneOf_injective (Option.some.inj (hzone.symm.trans hs))
    rw [hss] at hpair
    exact ⟨x, hpair, hrssi⟩

/-- A room is saved only after a report of its scanner. -/
theorem reported_of_room {as : List Arrival} {s : Scanner}
    (h : (savedAfter as).currentZone = some (zoneOf s)) : ∃ x, Reported as s x := by
  rcases List.eq_nil_or_concat as with rfl | ⟨as, a, rfl⟩
  · cases h
  · rw [List.concat_eq_append] at h ⊢
    obtain ⟨x, hpair, -⟩ := (coherent_savedAfter as a).sample_of_room h
    exact ⟨x, pair_reported _ s x hpair⟩

/-- The saved zone, label, scanner and RSSI always belong to one saved sample of the zone's own
scanner, which a message reported; without one the tag is out of range. -/
theorem saved_state_coherent (as : List Arrival) (a : Arrival) :
    (savedAfter (as ++ [a])).Coherent ∧
      ∀ s, (savedAfter (as ++ [a])).currentZone = some (zoneOf s) →
        ∃ x, (savedAfter (as ++ [a])).pair s = some x ∧
          (savedAfter (as ++ [a])).currentRssi = some x.rssi.toInt ∧
          Reported (as ++ [a]) s x := by
  have hcoherent := coherent_savedAfter as a
  refine ⟨hcoherent, ?_⟩
  intro s hs
  obtain ⟨x, hpair, hrssi⟩ := hcoherent.sample_of_room hs
  exact ⟨x, hpair, hrssi, pair_reported _ s x hpair⟩

end BleMeshTracking.RuleChain
