import BleMeshTracking.Gateway.ThingsBoard
import BleMeshTracking.Library.FirstCome
import BleMeshTracking.Library.Run

/-!
# How many tags the gateway forwards

Reports and passes of `zone_timeout_task` while MQTT is connected and takes every message.  A track
is taken at the first report of its tag and stays taken when the tag goes out of range, so the
gateway forwards the first sixteen tags it ever heard.
-/

namespace BleMeshTracking.Gateway

inductive TrackEvent
  | report (atMs : ℕ) (r : TagReport)
  | timeoutPass (atMs : ℕ)

def TrackEvent.atMs : TrackEvent → ℕ
  | .report atMs _ => atMs
  | .timeoutPass atMs => atMs

def TrackEvent.tagId? : TrackEvent → Option UInt16
  | .report _ r => some r.tagId
  | .timeoutPass _ => none

def tracksAfter (tracks : TagTracks) : TrackEvent → TagTracks
  | .report atMs r => (bmtTbPubTagReport true {} r (UInt32.ofNat atMs) tracks).1
  | .timeoutPass atMs => (zoneTimeoutPass true (fun _ => true) (UInt32.ofNat atMs) tracks).1

def Forwarded (tracks : TagTracks) : TrackEvent → Prop
  | .report atMs r =>
    .telemetry r ∈ (bmtTbPubTagReport true {} r (UInt32.ofNat atMs) tracks).2
  | .timeoutPass _ => True

def reportedTags (es : List TrackEvent) : List UInt16 := es.filterMap TrackEvent.tagId?

/-- The tags reported in the last `BMT_TAG_OUT_OF_RANGE_MS` before the last event. -/
def inRangeTags (es : List TrackEvent) : Finset UInt16 :=
  let nowMs := (es.getLast?.map TrackEvent.atMs).getD 0
  (reportedTags (es.filter fun e => nowMs ≤ e.atMs + bmtTagOutOfRangeMs.toNat)).toFinset

/-- At every moment at most `BMT_MAX_TRACKED_TAGS` tags are in range. -/
def FewInRange (es : List TrackEvent) : Prop :=
  ∀ pre ∈ es.inits, (inRangeTags pre).card ≤ bmtMaxTrackedTags

instance (es : List TrackEvent) : Decidable (FewInRange es) :=
  inferInstanceAs (Decidable (∀ pre ∈ es.inits, _))

def trackedTags (tracks : TagTracks) : Finset UInt16 :=
  FirstCome.keys TagTrack.active TagTrack.tagId tracks

/-- What the locked section does: it writes the track of the tag, or a free one, or drops the
report because the table is full. -/
theorem reportLocked_writes (r : TagReport) (now : UInt32) (tracks : TagTracks) :
    ((reportLocked r now tracks).1.isSome ∧ ∃ i t, (reportLocked r now tracks).2 =
        Function.update tracks i t ∧ t.active = true ∧ t.tagId = r.tagId ∧
        ((tracks i).active = true ∧ (tracks i).tagId = r.tagId ∨
          (tracks i).active = false ∧
            ∀ j, (tracks j).active = true → (tracks j).tagId ≠ r.tagId)) ∨
      (reportLocked r now tracks).1 = none ∧ (reportLocked r now tracks).2 = tracks ∧
        (∀ i, (tracks i).active = true) ∧ r.tagId ∉ trackedTags tracks := by
  rcases reportLocked_cases r now tracks with hold | hnew | hfull
  · obtain ⟨i, hi, htag, heq⟩ := hold
    obtain ⟨hactive, hid⟩ := noteReport_tag r now { tracks i with battery := r.battery }
    rw [heq]
    exact Or.inl ⟨rfl, i, _, rfl, hactive.trans hi, hid.trans htag, Or.inl ⟨hi, htag⟩⟩
  · obtain ⟨i, hi, habsent, heq⟩ := hnew
    obtain ⟨hactive, hid⟩ := noteReport_tag r now (TagTrack.fresh r.tagId r.battery)
    rw [heq]
    exact Or.inl ⟨rfl, i, _, rfl, hactive, hid, Or.inr ⟨hi, habsent⟩⟩
  · obtain ⟨hall, habsent, heq⟩ := hfull
    rw [heq]
    refine Or.inr ⟨rfl, rfl, hall, ?_⟩
    intro hmem
    obtain ⟨j, hj, htag⟩ := FirstCome.mem_keys_iff.mp hmem
    exact habsent j hj htag

/-- A report is a key given to the table, and published if the key is in it then. -/
theorem pubTagReport_spec (r : TagReport) (now : UInt32) (tracks : TagTracks) :
    FirstCome.Gives TagTrack.active TagTrack.tagId r.tagId tracks (reportLocked r now tracks).2 ∧
      (.telemetry r ∈ (bmtTbPubTagReport true {} r now tracks).2 ↔
        r.tagId ∈ trackedTags (reportLocked r now tracks).2) := by
  rcases reportLocked_writes r now tracks with hwritten | hfull
  · obtain ⟨hsome, i, t, heq, hactive, htag, hslot⟩ := hwritten
    have hmem : r.tagId ∈ trackedTags (reportLocked r now tracks).2 := by
      rw [heq]
      exact FirstCome.mem_keys_iff.mpr ⟨i, by rw [Function.update_self]; exact ⟨hactive, htag⟩⟩
    refine ⟨⟨?_, Or.inl hmem⟩, iff_of_true ?_ hmem⟩
    · rw [heq]
      exact Or.inr ⟨i, t, rfl, hactive, htag, hslot⟩
    · obtain ⟨wasNew, hnew⟩ := Option.isSome_iff_exists.mp hsome
      unfold bmtTbPubTagReport
      dsimp only
      rw [hnew]
      simp [reportMessages]
  · obtain ⟨hnone, heq, hall, habsent⟩ := hfull
    rw [heq]
    refine ⟨⟨Or.inl rfl, Or.inr hall⟩, iff_of_false ?_ habsent⟩
    unfold bmtTbPubTagReport
    dsimp only
    rw [hnone]
    exact List.not_mem_nil

theorem trackedTags_timeoutPass (connected : Bool) (ok : Fin bmtMaxTrackedTags → Bool)
    (now : UInt32) (tracks : TagTracks) :
    trackedTags (zoneTimeoutPass connected ok now tracks).1 = trackedTags tracks := by
  apply FirstCome.keys_congr
  · intro i
    exact (active_timeout ..).1
  · intro i
    exact (active_timeout ..).2.1

theorem reportedTags_append (es : List TrackEvent) (e : TrackEvent) :
    reportedTags (es ++ [e]) = reportedTags es ++ e.tagId?.toList := by
  unfold reportedTags
  rw [List.filterMap_append]
  cases e with
  | report atMs r => rfl
  | timeoutPass atMs => rfl

/-- After any events the tracks are those of the first sixteen tags reported. -/
theorem tracks_spec (es : List TrackEvent) :
    SlotTable.Distinct TagTrack.active TagTrack.tagId (es.foldl tracksAfter fun _ => {}) ∧
      trackedTags (es.foldl tracksAfter fun _ => {}) =
        FirstCome.kept bmtMaxTrackedTags (reportedTags es) := by
  induction es using List.reverseRecOn with
  | nil =>
    refine ⟨?_, FirstCome.keys_of_unused fun _ => rfl⟩
    intro i j hi
    cases hi
  | append_singleton es e ih =>
    obtain ⟨hdistinct, htracked⟩ := ih
    rw [List.foldl_append, List.foldl_cons, List.foldl_nil, reportedTags_append]
    generalize es.foldl tracksAfter (fun _ => {}) = tracks at hdistinct htracked ⊢
    cases e with
    | report atMs r =>
      have hgives := (pubTagReport_spec r (UInt32.ofNat atMs) tracks).1
      unfold tracksAfter
      dsimp only
      rw [fst_bmtTbPubTagReport]
      refine ⟨hdistinct.writesFor hgives.1, ?_⟩
      rw [trackedTags, hgives.keys_eq hdistinct, ← trackedTags, htracked]
      exact FirstCome.kept_append_singleton.symm
    | timeoutPass atMs =>
      unfold tracksAfter
      dsimp only
      refine ⟨?_, ?_⟩
      · apply hdistinct.congr
        · intro i
          exact (active_timeout ..).1
        · intro i
          exact (active_timeout ..).2.1
      · rw [trackedTags_timeoutPass, htracked]
        exact congrArg _ (List.append_nil _).symm

theorem forwarded_iff (es : List TrackEvent) (atMs : ℕ) (r : TagReport) :
    Forwarded (es.foldl tracksAfter fun _ => {}) (.report atMs r) ↔
      r.tagId ∈ FirstCome.kept bmtMaxTrackedTags (reportedTags (es ++ [.report atMs r])) := by
  have hafter := (tracks_spec (es ++ [.report atMs r])).2
  rw [List.foldl_append, List.foldl_cons, List.foldl_nil] at hafter
  rw [← hafter, Forwarded, (pubTagReport_spec r (UInt32.ofNat atMs) _).2, tracksAfter,
    fst_bmtTbPubTagReport]

/-- Every report of a run is published just if no more than sixteen tags were ever reported. -/
theorem forwards_all_iff (es : List TrackEvent) :
    Run.Meets (Run.total tracksAfter) Forwarded (fun _ => {}) es ↔
      (reportedTags es).toFinset.card ≤ bmtMaxTrackedTags := by
  rw [Run.meets_total_iff]
  refine ⟨?_, ?_⟩
  · intro h
    have hkept : (FirstCome.kept bmtMaxTrackedTags (reportedTags es)).card ≤ bmtMaxTrackedTags :=
      FirstCome.card_kept_le
    refine (Finset.card_le_card ?_).trans hkept
    intro tagId htag
    obtain ⟨e, he, hid⟩ := List.mem_filterMap.mp (List.mem_toFinset.mp htag)
    obtain ⟨pre, post, rfl⟩ := List.append_of_mem he
    cases e with
    | report atMs r =>
      cases hid
      have hreport := h pre (.report atMs r) ⟨post, (List.append_cons pre _ post).symm⟩
      rw [List.append_cons, reportedTags, List.filterMap_append]
      exact FirstCome.kept_subset_append _ ((forwarded_iff pre atMs r).mp hreport)
    | timeoutPass atMs => cases hid
  · intro hcard pre e hpre
    cases e with
    | report atMs r =>
      rw [forwarded_iff]
      have hsub : (reportedTags (pre ++ [.report atMs r])).toFinset ⊆
          (reportedTags es).toFinset := by
        intro tagId htag
        exact List.mem_toFinset.mpr ((hpre.filterMap _).subset (List.mem_toFinset.mp htag))
      rw [FirstCome.kept_eq_iff.mpr ((Finset.card_le_card hsub).trans hcard)]
      simp [reportedTags, TrackEvent.tagId?]
    | timeoutPass atMs => trivial

/-- One tag after another, each for one report; it has timed out before the next one comes. -/
def oneAfterAnother (n : ℕ) : List TrackEvent :=
  (List.range n).flatMap fun i =>
    [.report (20000 * i) ⟨1, 100, UInt16.ofNat i, -60, 20, 0⟩, .timeoutPass (20000 * i + 15000)]

/-- The reports of the seventeenth tag are dropped, with one tag in range at a time. -/
theorem seventeenth_not_forwarded :
    FewInRange (oneAfterAnother 17) ∧
      ¬Run.Meets (Run.total tracksAfter) Forwarded (fun _ => {}) (oneAfterAnother 17) := by
  refine ⟨by decide +kernel, ?_⟩
  intro h
  rw [Run.meets_total_iff] at h
  have hlast := h (oneAfterAnother 16) (.report 320000 ⟨1, 100, 16, -60, 20, 0⟩)
    ⟨[.timeoutPass 335000], rfl⟩
  rw [forwarded_iff] at hlast
  exact absurd hlast (by decide +kernel)

end BleMeshTracking.Gateway
