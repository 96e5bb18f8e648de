import BleMeshTracking.Library.Newest
import BleMeshTracking.Library.Run
import BleMeshTracking.RuleChain.ZoneDetection

/-!
# Messages that interleave in the rule chain

Fetch tag state reads the whole saved state and Save tag state writes all of its pairs back, and
other messages of the tag may be fetched, evaluated and saved in between.
-/

namespace BleMeshTracking.RuleChain

def TagState.pair (st : TagState) (s : Scanner) : Option Sample :=
  match st.rssiScan s, st.tsScan s with
  | some rssi, some ts => some ⟨rssi, ts⟩
  | _, _ => none

def Metadata.pair (metadata : Metadata) (s : Scanner) : Option Sample :=
  match metadata.rssiScan s, metadata.tsScan s with
  | some rVal, some tVal => some ⟨rVal, tVal⟩
  | _, _ => none

def Incoming.sample (msg : Incoming) (now : ℤ) (s : Scanner) : Option Sample :=
  match msg with
  | .telemetry (some (.known s')) (some rssi) _ => if s = s' then some ⟨rssi, now⟩ else none
  | _ => none

/-- What the chain writes for a scanner: the sample of the message, or else what was fetched. -/
def Incoming.written (msg : Incoming) (metadata : Metadata) (now : ℤ) (s : Scanner) :
    Option Sample :=
  (msg.sample now s).or (metadata.pair s)

theorem snapshot_known (metadata : Metadata) (msg : Incoming) (now : ℤ) (s : Scanner) :
    snapshot metadata (parseAndMapZone msg).1 now (.known s) = msg.written metadata now s := by
  unfold Incoming.written Incoming.sample
  cases msg with
  | attributes role currentZone => rfl
  | telemetry scannerId rssi battery =>
    cases scannerId with
    | none => rfl
    | some id =>
      cases rssi with
      | none =>
        cases id with
        | known s' => rfl
        | foreign id => rfl
      | some rssi =>
        unfold snapshot parseAndMapZone
        dsimp only
        cases id with
        | foreign id =>
          rw [Function.update_of_ne (fun hid => by cases hid)]
          rfl
        | known s' =>
          dsimp only
          by_cases hs : s = s'
          · rw [if_pos hs, hs, Function.update_self]
            rfl
          · rw [if_neg hs, Function.update_of_ne (fun hid => hs (ScannerId.known.inj hid))]
            rfl

/-- Save tag state replaces the pairs that are written and keeps the others. -/
theorem pair_saveTagState (st : TagState) (msg : Incoming) (metadata : Metadata) (now : ℤ)
    (s : Scanner) :
    (saveTagState st (buildAttrsPayload
      (applyHysteresis (parseAndMapZone msg).1 metadata now))).pair s =
      (msg.written metadata now s).or (st.pair s) := by
  rw [← snapshot_known]
  unfold TagState.pair saveTagState buildAttrsPayload applyHysteresis
  dsimp only
  cases snapshot metadata (parseAndMapZone msg).1 now (.known s) with
  | none => rfl
  | some w => rfl

inductive Stage
  | queued
  | fetched (metadata : Metadata)
  | evaluated (metadata : Metadata) (now : ℤ)
  | processed (now : ℤ)

def Stage.metadata : Stage → Option Metadata
  | .fetched metadata => some metadata
  | .evaluated metadata _ => some metadata
  | _ => none

/-- The saved attributes of the tag and its messages. -/
structure Chain (ι : Type*) where
  saved : TagState
  stage : ι → Stage

inductive ChainEvent (ι : Type*)
  | fetch (i : ι)
  | evaluate (i : ι) (now : ℤ)
  | save (i : ι)

namespace Chain

variable {ι : Type*} [DecidableEq ι] (msgs : ι → Incoming) (init : TagState)

def step (c : Chain ι) : ChainEvent ι → Option (Chain ι)
  | .fetch i =>
    match c.stage i with
    | .queued =>
      some { c with stage := Function.update c.stage i (.fetched (fetchTagState c.saved)) }
    | _ => none
  | .evaluate i now =>
    match c.stage i with
    | .fetched metadata =>
      some { c with stage := Function.update c.stage i (.evaluated metadata now) }
    | _ => none
  | .save i =>
    match c.stage i with
    -- decided on what was fetched, whatever was saved since
    | .evaluated metadata now =>
      some {
        saved := saveTagState c.saved (buildAttrsPayload
          (applyHysteresis (parseAndMapZone (msgs i)).1 metadata now))
        stage := Function.update c.stage i (.processed now) }
    | _ => none

def start : Chain ι := { saved := init, stage := fun _ => .queued }

/-- A message that is not interleaved with others runs through the chain as `TagState.process`. -/
theorem run_alone (c : Chain ι) {i : ι} (h : c.stage i = .queued) (now : ℤ) :
    (Run.run (step msgs) c [.fetch i, .evaluate i now, .save i]).map saved =
      some (c.saved.process ⟨msgs i, now⟩) := by
  simp [Run.run, step, h, TagState.process]

def samples (c : Chain ι) (s : Scanner) : Set Sample :=
  { x | init.pair s = some x ∨
    ∃ i now, c.stage i = .processed now ∧ (msgs i).sample now s = some x }

/-- Every scanner's saved pair is its newest sample. -/
def NoLost (c : Chain ι) : Prop :=
  ∀ s, Newest.IsNewest Sample.ts (c.samples msgs init s) (c.saved.pair s)

/-- A message that is saved writes no pair that is older than the saved one: its own sample is the
newest of its scanner, and no other scanner has a newer pair than the one it fetched. -/
def KeepsNewest (c : Chain ι) : ChainEvent ι → Prop
  | .save i =>
    match c.stage i with
    | .evaluated metadata now =>
      ∀ s, ∀ w ∈ (msgs i).written metadata now s, ∀ x ∈ c.saved.pair s, x.ts ≤ w.ts
    | _ => True
  | _ => True

inductive Move (c : Chain ι) : ChainEvent ι → Chain ι → Prop
  | fetch {i : ι} (hi : c.stage i = .queued) :
      Move c (.fetch i)
        { c with stage := Function.update c.stage i (.fetched (fetchTagState c.saved)) }
  | evaluate {i : ι} {metadata : Metadata} (now : ℤ) (hi : c.stage i = .fetched metadata) :
      Move c (.evaluate i now)
        { c with stage := Function.update c.stage i (.evaluated metadata now) }
  | save {i : ι} {metadata : Metadata} {now : ℤ} (hi : c.stage i = .evaluated metadata now) :
      Move c (.save i) {
        saved := saveTagState c.saved (buildAttrsPayload
          (applyHysteresis (parseAndMapZone (msgs i)).1 metadata now))
        stage := Function.update c.stage i (.processed now) }

theorem step_move {msgs : ι → Incoming} {c c' : Chain ι} {e : ChainEvent ι}
    (hs : c.step msgs e = some c') : c.Move msgs e c' := by
  unfold step at hs
  cases e with
  | fetch i =>
    cases hi : c.stage i with
    | queued =>
      simp only [hi] at hs
      cases hs
      exact .fetch hi
    | _ => simp [hi] at hs
  | evaluate i now =>
    cases hi : c.stage i with
    | fetched metadata =>
      simp only [hi] at hs
      cases hs
      exact .evaluate now hi
    | _ => simp [hi] at hs
  | save i =>
    cases hi : c.stage i with
    | evaluated metadata now =>
      simp only [hi] at hs
      cases hs
      exact .save hi
    | _ => simp [hi] at hs

structure Sound (c : Chain ι) : Prop where
  saved : ∀ s, ∀ x ∈ c.saved.pair s, x ∈ c.samples msgs init s
  fetched : ∀ i, ∀ metadata ∈ (c.stage i).metadata, ∀ s, ∀ x ∈ metadata.pair s,
    x ∈ c.samples msgs init s

variable {msgs init} {c c' : Chain ι}

theorem samples_move {i : ι} {stage : Stage} (hold : ∀ now, c.stage i ≠ .processed now)
    (hnew : ∀ now, stage ≠ .processed now) (saved : TagState) (s : Scanner) :
    samples msgs init { saved := saved, stage := Function.update c.stage i stage } s =
      c.samples msgs init s := by
  ext x
  unfold samples
  apply or_congr Iff.rfl
  apply exists_congr
  intro j
  by_cases hji : j = i
  · rw [hji]
    dsimp only
    rw [Function.update_self]
    refine ⟨?_, ?_⟩
    · intro h
      obtain ⟨now, hnow, -⟩ := h
      exact absurd hnow (hnew now)
    · intro h
      obtain ⟨now, hnow, -⟩ := h
      exact absurd hnow (hold now)
  · dsimp only
    rw [Function.update_of_ne hji]

theorem mem_samples_save {i : ι} (hold : ∀ now, c.stage i ≠ .processed now) (saved : TagState)
    (now : ℤ) (s : Scanner) (x : Sample) :
    x ∈ samples msgs init
        { saved := saved, stage := Function.update c.stage i (.processed now) } s ↔
      x ∈ c.samples msgs init s ∨ (msgs i).sample now s = some x := by
  unfold samples
  refine ⟨?_, ?_⟩
  · intro h
    rcases h with hinit | hmsg
    · exact Or.inl (Or.inl hinit)
    · obtain ⟨j, now', hstage, hsample⟩ := hmsg
      by_cases hji : j = i
      · rw [hji] at hstage hsample
        dsimp only at hstage
        rw [Function.update_self] at hstage
        cases hstage
        exact Or.inr hsample
      · dsimp only at hstage
        rw [Function.update_of_ne hji] at hstage
        exact Or.inl (Or.inr ⟨j, now', hstage, hsample⟩)
  · intro h
    rcases h with hold' | hown
    · rcases hold' with hinit | hmsg
      · exact Or.inl hinit
      · obtain ⟨j, now', hstage, hsample⟩ := hmsg
        refine Or.inr ⟨j, now', ?_, hsample⟩
        dsimp only
        rw [Function.update_of_ne]
        · exact hstage
        · intro hji
          rw [hji] at hstage
          exact hold now' hstage
    · refine Or.inr ⟨i, now, ?_, hown⟩
      exact Function.update_self _ _ _

/-- Everything a message writes is a sample once it is saved. -/
theorem written_mem_samples (h : c.Sound msgs init) {i : ι} {metadata : Metadata} {now : ℤ}
    (hi : c.stage i = .evaluated metadata now) (saved : TagState) {s : Scanner} {w : Sample}
    (hw : w ∈ (msgs i).written metadata now s) :
    w ∈ samples msgs init
      { saved := saved, stage := Function.update c.stage i (.processed now) } s := by
  rw [mem_samples_save (fun now' hnow => by rw [hi] at hnow; cases hnow)]
  rcases Option.or_eq_some_iff.mp hw with hown | hfetched
  · exact Or.inr hown
  · refine Or.inl (h.fetched i metadata ?_ s w hfetched.2)
    rw [hi]
    rfl

/-- A message moves on before it is saved, with metadata that are samples. -/
theorem Sound.move (h : c.Sound msgs init) {i : ι} {stage : Stage}
    (hold : ∀ now, c.stage i ≠ .processed now) (hnew : ∀ now, stage ≠ .processed now)
    (hfetched : ∀ metadata ∈ stage.metadata, ∀ s, ∀ x ∈ metadata.pair s,
      x ∈ c.samples msgs init s) :
    Sound msgs init { c with stage := Function.update c.stage i stage } := by
  refine ⟨?_, ?_⟩
  · intro s x hx
    rw [samples_move hold hnew]
    exact h.saved s x hx
  · intro j metadata hmd s x hx
    rw [samples_move hold hnew]
    dsimp only at hmd
    by_cases hji : j = i
    · rw [hji, Function.update_self] at hmd
      exact hfetched metadata hmd s x hx
    · rw [Function.update_of_ne hji] at hmd
      exact h.fetched j metadata hmd s x hx

/-- A message that is saved writes samples, and no message has fetched anything new. -/
theorem Sound.save (h : c.Sound msgs init) {i : ι} {metadata : Metadata} {now : ℤ}
    (hi : c.stage i = .evaluated metadata now) :
    Sound msgs init {
      saved := saveTagState c.saved (buildAttrsPayload
        (applyHysteresis (parseAndMapZone (msgs i)).1 metadata now))
      stage := Function.update c.stage i (.processed now) } := by
  have hold : ∀ now', c.stage i ≠ .processed now' := by
    intro now' hnow
    rw [hi] at hnow
    cases hnow
  refine ⟨?_, ?_⟩
  · intro s x hx
    dsimp only at hx
    rw [pair_saveTagState] at hx
    rcases Option.or_eq_some_iff.mp hx with hw | hkept
    · exact written_mem_samples h hi _ hw
    · rw [mem_samples_save hold]
      exact Or.inl (h.saved s x hkept.2)
  · intro j metadata' hmd s x hx
    rw [mem_samples_save hold]
    dsimp only at hmd
    by_cases hji : j = i
    · rw [hji, Function.update_self] at hmd
      cases hmd
    · rw [Function.update_of_ne hji] at hmd
      exact Or.inl (h.fetched j metadata' hmd s x hx)

theorem sound_step (h : c.Sound msgs init) {e : ChainEvent ι} (hs : c.step msgs e = some c') :
    c'.Sound msgs init := by
  cases step_move hs with
  | fetch hi =>
    apply h.move (fun now hnow => by rw [hi] at hnow; cases hnow) (fun now hnow => by cases hnow)
    intro metadata hmd
    cases hmd
    exact h.saved
  | @evaluate i metadata now hi =>
    apply h.move (fun now hnow => by rw [hi] at hnow; cases hnow) (fun now hnow => by cases hnow)
    intro metadata' hmd
    cases hmd
    apply h.fetched i metadata
    rw [hi]
    rfl
  | save hi => exact h.save hi

theorem isNewest_save_iff (h : c.Sound msgs init) {i : ι} {metadata : Metadata} {now : ℤ}
    (hi : c.stage i = .evaluated metadata now) (saved : TagState) {s : Scanner}
    (hnewest : Newest.IsNewest Sample.ts (c.samples msgs init s) (c.saved.pair s)) :
    Newest.IsNewest Sample.ts
        (samples msgs init
          { saved := saved, stage := Function.update c.stage i (.processed now) } s)
        (((msgs i).written metadata now s).or (c.saved.pair s)) ↔
      ∀ w ∈ (msgs i).written metadata now s, ∀ x ∈ c.saved.pair s, x.ts ≤ w.ts := by
  have hsamples : ∀ x, x ∈ samples msgs init
      { saved := saved, stage := Function.update c.stage i (.processed now) } s ↔
      x ∈ c.samples msgs init s ∨ (msgs i).sample now s = some x :=
    mem_samples_save (fun now' hnow => by rw [hi] at hnow; cases hnow) saved now s
  cases hwritten : (msgs i).written metadata now s with
  | none =>
    have hown : (msgs i).sample now s = none := (Option.or_eq_none_iff.mp hwritten).1
    have hsame : samples msgs init
        { saved := saved, stage := Function.update c.stage i (.processed now) } s =
        c.samples msgs init s := by
      ext x
      rw [hsamples, hown]
      simp
    rw [hsame]
    exact ⟨(fun _ w hw => by cases hw), fun _ => hnewest⟩
  | some w =>
    rw [Option.some_or, Newest.isNewest_write_iff hnewest]
    · refine ⟨?_, fun hall => hall w rfl⟩
      intro hle w' hw'
      cases hw'
      exact hle
    · exact written_mem_samples h hi saved hwritten
    · intro x hx
      exact (hsamples x).mpr (Or.inl hx)
    · intro x hx
      rcases (hsamples x).mp hx with hold | hown
      · exact Or.inl hold
      · -- the message's own sample is what it writes
        have hw : (msgs i).written metadata now s = some x := by
          rw [Incoming.written, hown]
          rfl
        rw [hwritten] at hw
        cases hw
        exact Or.inr rfl

/-- Exactly the saves that write back nothing older lose no sample. -/
theorem noLost_step_iff (h : c.Sound msgs init) (hno : c.NoLost msgs init) {e : ChainEvent ι}
    (hs : c.step msgs e = some c') : c'.NoLost msgs init ↔ c.KeepsNewest msgs e := by
  cases step_move hs with
  | fetch hi =>
    refine ⟨fun _ => trivial, ?_⟩
    intro _ s
    rw [samples_move (fun now hnow => by rw [hi] at hnow; cases hnow)
      (fun now hnow => by cases hnow)]
    exact hno s
  | evaluate now hi =>
    refine ⟨fun _ => trivial, ?_⟩
    intro _ s
    rw [samples_move (fun now hnow => by rw [hi] at hnow; cases hnow)
      (fun now hnow => by cases hnow)]
    exact hno s
  | @save i metadata now hi =>
    unfold KeepsNewest
    simp only [hi]
    apply forall_congr'
    intro s
    rw [← isNewest_save_iff h hi (saveTagState c.saved (buildAttrsPayload
      (applyHysteresis (parseAndMapZone (msgs i)).1 metadata now))) (hno s)]
    dsimp only
    rw [pair_saveTagState]

omit [DecidableEq ι] in
theorem sound_start (msgs : ι → Incoming) (init : TagState) : (start init).Sound msgs init := by
  refine ⟨?_, ?_⟩
  · intro s x hx
    exact Or.inl hx
  · intro i metadata hmd
    cases hmd

omit [DecidableEq ι] in
theorem noLost_start (msgs : ι → Incoming) (init : TagState) : (start init).NoLost msgs init := by
  intro s
  have hsamples : (start init : Chain ι).samples msgs init s = { x | init.pair s = some x } := by
    ext x
    refine ⟨?_, fun hx => Or.inl hx⟩
    intro hx
    rcases hx with hinit | hmsg
    · exact hinit
    · obtain ⟨i, now, hstage, -⟩ := hmsg
      cases hstage
  rw [hsamples]
  unfold start
  dsimp only
  cases init.pair s with
  | none =>
    ext x
    simp
  | some x =>
    refine ⟨rfl, ?_⟩
    intro d hd
    cases hd
    exact le_rfl

theorem noLost_iff_keepsNewest (msgs : ι → Incoming) (init : TagState)
    (es : List (ChainEvent ι)) :
    Run.Throughout (step msgs) (NoLost msgs init) (start init) es ↔
      Run.Meets (step msgs) (KeepsNewest msgs) (start init) es := by
  refine Run.throughout_iff_meets_of_invariant ?_ ?_ (sound_start msgs init)
    (noLost_start msgs init)
  · intro c e c' h hs
    exact sound_step h hs
  · intro c e c' h hno hs
    exact noLost_step_iff h hno hs

/-- For any messages, whatever was saved before and however their nodes interleave: no scanner's
newest sample is ever lost just when no message writes back a pair older than the saved one. -/
theorem no_lost_sample_iff (msgs : ι → Incoming) (init : TagState) (es : List (ChainEvent ι)) :
    Run.Throughout (step msgs) (NoLost msgs init) (start init) es ↔
      Run.Meets (step msgs) (KeepsNewest msgs) (start init) es :=
  noLost_iff_keepsNewest msgs init es

/-- Messages with their times, none fetched before the one ahead of it is saved. -/
def serial (as : List (ι × ℤ)) : List (ChainEvent ι) :=
  as.flatMap fun a => [.fetch a.1, .evaluate a.1 a.2, .save a.1]

def SavedBy (st : TagState) (clock : ℤ) : Prop := ∀ s, ∀ x ∈ st.pair s, x.ts ≤ clock

theorem written_ts_le {msg : Incoming} {st : TagState} {clock now : ℤ} (h : SavedBy st clock)
    (hnow : clock ≤ now) {s : Scanner} {w : Sample}
    (hw : w ∈ msg.written (fetchTagState st) now s) :
    w.ts ≤ now ∧ ∀ x ∈ st.pair s, x.ts ≤ w.ts := by
  rcases Option.or_eq_some_iff.mp hw with hown | hfetched
  · have hts : w.ts = now := by
      unfold Incoming.sample at hown
      split at hown
      · obtain ⟨-, hown⟩ := Option.ite_none_right_eq_some.mp hown
        cases hown
        rfl
      · cases hown
    refine ⟨hts.le, ?_⟩
    intro x hx
    rw [hts]
    exact (h s x hx).trans hnow
  · have hsaved : st.pair s = some w := hfetched.2
    refine ⟨(h s w hsaved).trans hnow, ?_⟩
    intro x hx
    rw [hsaved] at hx
    cases hx
    exact le_rfl

theorem keepsNewest_serial {as : List (ι × ℤ)} {clock : ℤ} (h : SavedBy c.saved clock)
    (has : (clock :: as.map Prod.snd).IsChain (· ≤ ·)) :
    Run.Meets (step msgs) (KeepsNewest msgs) c (serial as) := by
  induction as generalizing c clock with
  | nil => trivial
  | cons a as ih =>
    obtain ⟨i, now⟩ := a
    obtain ⟨hnow, hrest⟩ := List.isChain_cons_cons.mp has
    intro c₁ h₁
    refine ⟨trivial, ?_⟩
    intro c₂ h₂
    refine ⟨trivial, ?_⟩
    have hc₁ : c₁ = { c with
        stage := Function.update c.stage i (.fetched (fetchTagState c.saved)) } := by
      cases step_move h₁ with
      | fetch _ => rfl
    rw [hc₁] at h₂
    have hc₂ : c₂.saved = c.saved ∧ c₂.stage i = .evaluated (fetchTagState c.saved) now := by
      simp only [step, Function.update_self] at h₂
      cases h₂
      exact ⟨rfl, Function.update_self _ _ _⟩
    intro c₃ h₃
    refine ⟨?_, ?_⟩
    · unfold KeepsNewest
      dsimp only
      rw [hc₂.1, hc₂.2]
      intro s w hw x hx
      exact (written_ts_le h hnow hw).2 x hx
    · apply ih _ hrest
      intro s x hx
      simp only [step, hc₂.2] at h₃
      cases h₃
      dsimp only at hx
      rw [pair_saveTagState, hc₂.1] at hx
      rcases Option.or_eq_some_iff.mp hx with hw | hkept
      · exact (written_ts_le h hnow hw).1
      · exact (h s x hkept.2).trans hnow

/-- Messages that do not overlap lose nothing when the clock does not go back. -/
theorem no_lost_sample_serial (msgs : ι → Incoming) {init : TagState} {clock : ℤ}
    (h : SavedBy init clock) {as : List (ι × ℤ)}
    (has : (clock :: as.map Prod.snd).IsChain (· ≤ ·)) :
    Run.Throughout (step msgs) (NoLost msgs init) (start init) (serial as) :=
  (noLost_iff_keepsNewest msgs init (serial as)).mpr (keepsNewest_serial h has)

end Chain

inductive NearReport
  | first
  | second
  | other
  deriving DecidableEq

def nearReports : NearReport → Incoming
  | .first => .telemetry (some (.known .scan01)) (some (-60)) none
  | .second => .telemetry (some (.known .scan01)) (some (-50)) none
  | .other => .telemetry (some (.known .scan02)) (some (-70)) none

/-- The report of scanner 2 is fetched before the second one of scanner 1 is saved. -/
def overlapping : List (ChainEvent NearReport) :=
  [.fetch .first, .evaluate .first 1000, .save .first, .fetch .second, .fetch .other,
    .evaluate .second 2000, .evaluate .other 2010, .save .second, .save .other]

/-- All three are processed, and scanner 1 has its first sample again. -/
theorem second_sample_lost :
    ∃ c, Run.run (Chain.step nearReports) (Chain.start {}) overlapping = some c ∧
      (∀ i, ∃ now, c.stage i = .processed now) ∧ ¬c.NoLost nearReports {} := by
  refine ⟨_, rfl, ?_, ?_⟩
  · intro i
    cases i with
    | first => exact ⟨1000, rfl⟩
    | second => exact ⟨2000, rfl⟩
    | other => exact ⟨2010, rfl⟩
  · intro hnewest
    have hlost := (hnewest .scan01).2 ⟨-50, 2000⟩ (Or.inr ⟨.second, 2000, rfl, rfl⟩)
    revert hlost
    decide

end BleMeshTracking.RuleChain
