import BleMeshTracking.Gateway.OutOfRange
import BleMeshTracking.Gateway.ZoneLock
import BleMeshTracking.Library.History

/-!
# The tag messages of an MQTT session

What the gateway's tasks publish about tags between two settings of `s_connected`.  The client lock
of `step` keeps a publish of the worker out of the handler of `MQTT_EVENT_CONNECTED`; in `freeStep`
nothing does.
-/

namespace BleMeshTracking.Gateway

/-- A step of the tasks where no publish and no handler waits for the client lock. -/
def GatewayTasks.freeStep (s : GatewayTasks) : TaskStep → Option GatewayTasks
  | .zone ok =>
    match s.zone with
    | .waitClient now i slots => some { s with zone := .sending now i slots }
    | _ => s.zoneStep ok
  | .mqttEvent e =>
    match s.event with
    | .idle =>
      match e with
      | .connected => some { s with event := .connectedStart }
      | .disconnected => some { s with event := .disconnecting }
    | _ => none
  | .worker now =>
    match s.worker with
    | .waitClient msgs => some { s with worker := .sending msgs }
    | _ => s.workerStep now
  | e => s.step e

/-- What a step publishes about tags, and which task does.  The client takes every message while
connected, but perhaps an out-of-range one. -/
def GatewayTasks.published (s : GatewayTasks) : TaskStep → List (TaskId × TagMessage)
  | .zone ok =>
    match s.zone with
    | .sending _ i _ => (publish s.connected ok (.outOfRange (s.tracks i).tagId)).map (.zone, ·)
    | _ => []
  | .event ok =>
    match s.event with
    | .reannouncing (i :: _) =>
      ((s.tracks i).reannounceMessages s.connected {} ok).map (.event, ·)
    | _ => []
  | .worker _ =>
    match s.worker with
    | .sending (m :: _) => (publish s.connected true m).map (.worker, ·)
    | _ => []
  | _ => []

def GatewayTasks.startsSession (s : GatewayTasks) : TaskStep → Bool
  | .event _ =>
    match s.event with
    | .connectedStart => true
    | _ => false
  | _ => false

/-- The tasks, and what was published about tags since `s_connected` was last set. -/
structure MqttSession where
  tasks : GatewayTasks
  log : List (TaskId × TagMessage) := []

namespace MqttSession

def step (lock : Bool) (s : MqttSession) (e : TaskStep) : Option MqttSession :=
  (if lock then s.tasks.step e else s.tasks.freeStep e).map fun tasks =>
    { tasks, log := if s.tasks.startsSession e then [] else s.log ++ s.tasks.published e }

def boot : MqttSession := { tasks := .start (fun _ => {}) false }

/-- The `v1/gateway/connect` message of a tag, with its profile, is among these. -/
def Connected (log : List (TaskId × TagMessage)) (tagId : UInt16) : Prop :=
  ∃ who, (who, .connect tagId) ∈ log

/-- The telemetry of a tag comes after the connect message of the tag. -/
def ConnectFirst (s : MqttSession) : Prop :=
  History.Ordered (fun earlier m => ∀ r, m.2 = .telemetry r → Connected earlier r.tagId) s.log

end MqttSession

def GatewayTasks.toAnnounce (s : GatewayTasks) : List (Fin bmtMaxTrackedTags) :=
  match s.event with
  | .announcing => List.finRange bmtMaxTrackedTags
  | .waitZone => List.finRange bmtMaxTrackedTags
  | .reannouncing slots => slots
  | _ => []

/-- While connected, the worker does not send the telemetry of a tag whose slot the handler has yet
to announce, unless it has sent its connect message itself. -/
def MqttSession.AfterAnnounce (s : MqttSession) : TaskStep → Prop
  | .worker _ =>
    match s.tasks.worker with
    | .sending (.telemetry r :: _) =>
      s.tasks.connected = true → ∀ i ∈ s.tasks.toAnnounce,
        (s.tasks.tracks i).isOf r.tagId = true → (.worker, .connect r.tagId) ∈ s.log
    | _ => True
  | _ => True

def Tracked (tagId : UInt16) (tracks : TagTracks) : Prop := ∃ i, (tracks i).isOf tagId = true

def WorkerTask.OfReport (tracks : TagTracks) : WorkerTask → Prop
  | .unlocked _ r => Tracked r.tagId tracks
  | .publishing msgs =>
    ∃ r, Tracked r.tagId tracks ∧ msgs <:+ [.connect r.tagId, .role r.tagId, .telemetry r]
  | .waitClient msgs =>
    ∃ r, Tracked r.tagId tracks ∧ msgs <:+ [.connect r.tagId, .role r.tagId, .telemetry r]
  | .sending msgs =>
    ∃ r, Tracked r.tagId tracks ∧ msgs <:+ [.connect r.tagId, .role r.tagId, .telemetry r]
  | _ => True

def WorkerTask.willConnect (tagId : UInt16) : WorkerTask → Prop
  | .unlocked wasNew r => wasNew = true ∧ r.tagId = tagId
  | .publishing msgs => .connect tagId ∈ msgs
  | .waitClient msgs => .connect tagId ∈ msgs
  | .sending msgs => .connect tagId ∈ msgs
  | _ => False

/-- While connected, every tracked tag has been announced in this session, or will be, by the
handler or as a new tag; and the handler announces each slot once. -/
structure MqttSession.Announcing (s : MqttSession) : Prop where
  unique : SlotTable.Distinct TagTrack.active TagTrack.tagId s.tasks.tracks
  ofReport : s.tasks.worker.OfReport s.tasks.tracks
  covered : s.tasks.connected = true → ∀ i, (s.tasks.tracks i).active = true →
    i ∈ s.tasks.toAnnounce ∨ Connected s.log (s.tasks.tracks i).tagId ∨
      s.tasks.worker.willConnect (s.tasks.tracks i).tagId
  once : s.tasks.toAnnounce.Nodup
  notYet : ∀ i ∈ s.tasks.toAnnounce, (s.tasks.tracks i).active = true → ∀ who,
    (who, .connect (s.tasks.tracks i).tagId) ∈ s.log → who = .worker
  tracked : ∀ who tagId, (who, .connect tagId) ∈ s.log → who = .worker ∨
    Tracked tagId s.tasks.tracks

def SameTags (tracks tracks' : TagTracks) : Prop :=
  ∀ i, (tracks' i).active = (tracks i).active ∧ (tracks' i).tagId = (tracks i).tagId

theorem sameTags_update {tracks : TagTracks} {i : Fin bmtMaxTrackedTags} {t : TagTrack}
    (hact : t.active = (tracks i).active) (htag : t.tagId = (tracks i).tagId) :
    SameTags tracks (Function.update tracks i t) := by
  intro j
  by_cases hji : j = i
  · rw [hji, Function.update_self]
    exact ⟨hact, htag⟩
  · rw [Function.update_of_ne hji]
    exact ⟨rfl, rfl⟩

theorem Tracked.mono {tracks tracks' : TagTracks} {tagId : UInt16} (h : Tracked tagId tracks)
    (hkept : ∀ i, (tracks i).isOf tagId = true → (tracks' i).isOf tagId = true) :
    Tracked tagId tracks' := by
  obtain ⟨i, hi⟩ := h
  exact ⟨i, hkept i hi⟩

theorem SameTags.tracked {tracks tracks' : TagTracks} (h : SameTags tracks tracks') {tagId : UInt16}
    (ht : Tracked tagId tracks) : Tracked tagId tracks' := by
  apply ht.mono
  intro i hi
  unfold TagTrack.isOf at hi ⊢
  rwa [(h i).1, (h i).2]

theorem WorkerTask.OfReport.mono {w : WorkerTask} {tracks tracks' : TagTracks}
    (h : w.OfReport tracks) (hkept : ∀ tagId, Tracked tagId tracks → Tracked tagId tracks') :
    w.OfReport tracks' := by
  cases w with
  | unlocked wasNew r => exact hkept r.tagId h
  | publishing msgs =>
    obtain ⟨r, htracked, hmsgs⟩ := h
    exact ⟨r, hkept r.tagId htracked, hmsgs⟩
  | waitClient msgs =>
    obtain ⟨r, htracked, hmsgs⟩ := h
    exact ⟨r, hkept r.tagId htracked, hmsgs⟩
  | sending msgs =>
    obtain ⟨r, htracked, hmsgs⟩ := h
    exact ⟨r, hkept r.tagId htracked, hmsgs⟩
  | _ => trivial

theorem reportLocked_tag (r : TagReport) (now : UInt32) (tracks : TagTracks) :
    (∃ i t, reportLocked r now tracks = (some false, Function.update tracks i t) ∧
        (tracks i).isOf r.tagId = true ∧ t.active = (tracks i).active ∧
        t.tagId = (tracks i).tagId) ∨
      (∃ i t, reportLocked r now tracks = (some true, Function.update tracks i t) ∧
        ¬Tracked r.tagId tracks ∧ (tracks i).active = false ∧ t.isOf r.tagId = true) ∨
      reportLocked r now tracks = (none, tracks) := by
  rcases reportLocked_cases r now tracks with hold | hnew | hfull
  · obtain ⟨i, hactive, htag, heq⟩ := hold
    obtain ⟨hact, hid⟩ := noteReport_tag r now { tracks i with battery := r.battery }
    exact Or.inl ⟨i, _, heq, isOf_iff.mpr ⟨hactive, htag⟩, hact, hid⟩
  · obtain ⟨i, hfree, habsent, heq⟩ := hnew
    obtain ⟨hact, hid⟩ := noteReport_tag r now (TagTrack.fresh r.tagId r.battery)
    refine Or.inr (Or.inl ⟨i, _, heq, ?_, hfree, isOf_iff.mpr ⟨hact, hid⟩⟩)
    rintro ⟨j, hj⟩
    obtain ⟨hactive, htag⟩ := isOf_iff.mp hj
    exact habsent j hactive htag
  -- no slot is free: the report is dropped
  · exact Or.inr (Or.inr hfull.2.2)

theorem reportLocked_full {r : TagReport} {now : UInt32} {tracks tracks' : TagTracks}
    (h : reportLocked r now tracks = (none, tracks')) : tracks' = tracks := by
  rcases reportLocked_tag r now tracks with hold | hnew | hfull
  · obtain ⟨i, t, hupdate, -⟩ := hold
    rw [hupdate] at h
    cases h
  · obtain ⟨i, t, hupdate, -⟩ := hnew
    rw [hupdate] at h
    cases h
  · rw [hfull] at h
    cases h
    rfl

namespace MqttSession

variable {s s' : MqttSession}

theorem Announcing.frame (h : s.Announcing) (htags : SameTags s.tasks.tracks s'.tasks.tracks)
    (hslots : s'.tasks.toAnnounce = s.tasks.toAnnounce)
    (hup : s'.tasks.connected = true → s.tasks.connected = true)
    (hreport : s'.tasks.worker.OfReport s'.tasks.tracks) (hlog : s.log ⊆ s'.log)
    (hothers : ∀ who tagId, (who, .connect tagId) ∈ s'.log →
      (who, .connect tagId) ∈ s.log ∨ who = .worker)
    (hwill : s'.tasks.connected = true → ∀ tagId, s.tasks.worker.willConnect tagId →
      Connected s'.log tagId ∨ s'.tasks.worker.willConnect tagId) : s'.Announcing := by
  refine ⟨?_, hreport, ?_, ?_, ?_, ?_⟩
  · exact h.unique.congr (fun i => (htags i).1) fun i => (htags i).2
  · intro hconn i hact
    rw [(htags i).1] at hact
    rw [(htags i).2, hslots]
    rcases h.covered (hup hconn) i hact with hslot | hlogged | hnew
    · exact Or.inl hslot
    · obtain ⟨who, hwho⟩ := hlogged
      exact Or.inr (Or.inl ⟨who, hlog hwho⟩)
    · exact Or.inr (hwill hconn _ hnew)
  · rw [hslots]
    exact h.once
  · intro i hi hact who hwho
    rw [hslots] at hi
    rw [(htags i).1] at hact
    rw [(htags i).2] at hwho
    rcases hothers who _ hwho with hold | hworker
    · exact h.notYet i hi hact who hold
    · exact hworker
  · intro who tagId hwho
    rcases hothers who tagId hwho with hold | hworker
    · rcases h.tracked who tagId hold with hworker | htracked
      · exact Or.inl hworker
      · exact Or.inr (htags.tracked htracked)
    · exact Or.inl hworker

theorem Announcing.frame_worker (h : s.Announcing)
    (htags : SameTags s.tasks.tracks s'.tasks.tracks)
    (hslots : s'.tasks.toAnnounce = s.tasks.toAnnounce)
    (hup : s'.tasks.connected = true → s.tasks.connected = true)
    (hworker : s'.tasks.worker = s.tasks.worker) (hlog : s.log ⊆ s'.log)
    (hothers : ∀ who tagId, (who, .connect tagId) ∈ s'.log → (who, .connect tagId) ∈ s.log) :
    s'.Announcing := by
  refine h.frame htags hslots hup ?_ hlog (fun who tagId hwho => Or.inl (hothers who tagId hwho)) ?_
  · rw [hworker]
    exact h.ofReport.mono fun _ => htags.tracked
  · intro _ tagId hwill
    rw [hworker]
    exact Or.inr hwill

theorem freeZone_move {t t' : GatewayTasks} {ok : Bool} (h : t.freeStep (.zone ok) = some t') :
    ZoneMove t ok t' := by
  unfold GatewayTasks.freeStep at h
  cases hz : t.zone with
  | waitClient now i slots =>
    simp only [hz] at h
    cases h
    exact .send hz
  | _ =>
    simp only [hz] at h
    exact zoneStep_move h

theorem freeZone_frame {t t' : GatewayTasks} {ok : Bool} (h : t.freeStep (.zone ok) = some t') :
    t'.event = t.event ∧ t'.worker = t.worker ∧ t'.connected = t.connected ∧
      SameTags t.tracks t'.tracks := by
  cases freeZone_move h with
  | timeout hz hout => exact ⟨rfl, rfl, rfl, sameTags_update rfl rfl⟩
  | sent hz => exact ⟨rfl, rfl, rfl, sameTags_update rfl rfl⟩
  | _ => exact ⟨rfl, rfl, rfl, fun _ => ⟨rfl, rfl⟩⟩

theorem connect_mem_zonePublished {t : GatewayTasks} {ok : Bool} {who : TaskId} {tagId : UInt16} :
    (who, .connect tagId) ∉ t.published (.zone ok) := by
  unfold GatewayTasks.published
  cases t.zone with
  | sending now i slots => simp
  | _ => simp

theorem announcing_zone (h : s.Announcing) {ok : Bool} {t : GatewayTasks}
    (hs : s.tasks.freeStep (.zone ok) = some t) :
    Announcing { tasks := t, log := s.log ++ s.tasks.published (.zone ok) } := by
  obtain ⟨hevent, hworker, hconn, htags⟩ := freeZone_frame hs
  refine h.frame_worker htags ?_ ?_ hworker (List.subset_append_left _ _) ?_
  · unfold GatewayTasks.toAnnounce
    rw [hevent]
  · dsimp only
    rw [hconn]
    exact id
  · intro who tagId hwho
    rcases List.mem_append.mp hwho with hold | hnew
    · exact hold
    · exact absurd hnew connect_mem_zonePublished

theorem announcing_mqttEvent (h : s.Announcing) {e : MqttEvent} {t : GatewayTasks}
    (hs : s.tasks.freeStep (.mqttEvent e) = some t) : Announcing { tasks := t, log := s.log } := by
  unfold GatewayTasks.freeStep at hs
  cases he : s.tasks.event with
  | idle =>
    simp only [he] at hs
    cases e with
    | connected =>
      cases hs
      refine h.frame_worker (fun _ => ⟨rfl, rfl⟩) ?_ id rfl (List.Subset.refl _) fun _ _ => id
      unfold GatewayTasks.toAnnounce
      rw [he]
    | disconnected =>
      cases hs
      refine h.frame_worker (fun _ => ⟨rfl, rfl⟩) ?_ id rfl (List.Subset.refl _) fun _ _ => id
      unfold GatewayTasks.toAnnounce
      rw [he]
  | _ => simp [he] at hs

theorem connect_mem_reannounced {connected ok : Bool} {t : TagTrack} {who : TaskId}
    {tagId : UInt16} :
    (who, .connect tagId) ∈ (t.reannounceMessages connected {} ok).map (TaskId.event, ·) ↔
      who = .event ∧ t.active = true ∧ t.tagId = tagId ∧ connected = true := by
  unfold TagTrack.reannounceMessages
  cases t.active with
  | true =>
    cases connected with
    | true => cases t.outOfRangePending with
      | true => simp [publish, eq_comm]
      | false => simp [publish, eq_comm]
    | false => simp [publish]
  | false => simp

theorem announcing_reannounce (h : s.Announcing) {ok : Bool} {i : Fin bmtMaxTrackedTags}
    {slots : List (Fin bmtMaxTrackedTags)} (he : s.tasks.event = .reannouncing (i :: slots)) :
    Announcing {
      tasks := { s.tasks with
        tracks := Function.update s.tasks.tracks i
          ((s.tasks.tracks i).reannounce s.tasks.connected ok)
        event := .reannouncing slots }
      log := s.log ++ ((s.tasks.tracks i).reannounceMessages s.tasks.connected {} ok).map
        (TaskId.event, ·) } := by
  have hslots : s.tasks.toAnnounce = i :: slots := by
    unfold GatewayTasks.toAnnounce
    rw [he]
  have htags : SameTags s.tasks.tracks (Function.update s.tasks.tracks i
      ((s.tasks.tracks i).reannounce s.tasks.connected ok)) := by
    obtain ⟨hact, htag, -⟩ := active_reannounce s.tasks.connected ok (s.tasks.tracks i)
    exact sameTags_update hact htag
  have honce := h.once
  rw [hslots] at honce
  obtain ⟨hi, hrest⟩ := List.nodup_cons.mp honce
  refine ⟨?_, ?_, ?_, hrest, ?_, ?_⟩
  · exact h.unique.congr (fun j => (htags j).1) fun j => (htags j).2
  · exact h.ofReport.mono fun _ => htags.tracked
  · intro hconn j hact
    dsimp only at hact ⊢
    rw [(htags j).1] at hact
    rw [(htags j).2]
    rcases h.covered hconn j hact with hslot | hlogged | hnew
    · rw [hslots] at hslot
      rcases List.mem_cons.mp hslot with hji | hslot
      · refine Or.inr (Or.inl ⟨.event, List.mem_append_right _ ?_⟩)
        rw [hji] at hact ⊢
        exact connect_mem_reannounced.mpr ⟨rfl, hact, rfl, hconn⟩
      · exact Or.inl hslot
    · obtain ⟨who, hwho⟩ := hlogged
      exact Or.inr (Or.inl ⟨who, List.mem_append_left _ hwho⟩)
    · exact Or.inr (Or.inr hnew)
  · intro j hj hact who hwho
    dsimp only at hact hwho
    rw [(htags j).1] at hact
    rw [(htags j).2] at hwho
    have hslot : j ∈ s.tasks.toAnnounce := by
      rw [hslots]
      exact List.mem_cons_of_mem i hj
    rcases List.mem_append.mp hwho with hold | hnew
    · exact h.notYet j hslot hact who hold
    · -- the slot just announced has another tag
      obtain ⟨-, hacti, htag, -⟩ := connect_mem_reannounced.mp hnew
      have hij := h.unique i j hacti hact htag
      rw [← hij] at hj
      exact absurd hj hi
  · intro who tagId hwho
    rcases List.mem_append.mp hwho with hold | hnew
    · rcases h.tracked who tagId hold with hworker | htracked
      · exact Or.inl hworker
      · exact Or.inr (htags.tracked htracked)
    · obtain ⟨-, hacti, htag, -⟩ := connect_mem_reannounced.mp hnew
      exact Or.inr (htags.tracked ⟨i, isOf_iff.mpr ⟨hacti, htag⟩⟩)

theorem announcing_session (h : s.Announcing) :
    Announcing { tasks := { s.tasks with connected := true, event := .announcing }, log := [] } :=
  ⟨h.unique, h.ofReport, fun _ i _ => Or.inl (List.mem_finRange i), List.nodup_finRange _,
    fun _ _ _ _ hwho => absurd hwho List.not_mem_nil,
    fun _ _ hwho => absurd hwho List.not_mem_nil⟩

theorem announcing_event (h : s.Announcing) {ok : Bool} {t : GatewayTasks}
    (hs : s.tasks.eventStep ok = some t) :
    Announcing { tasks := t, log := if s.tasks.startsSession (.event ok) then []
      else s.log ++ s.tasks.published (.event ok) } := by
  have hsame : SameTags s.tasks.tracks s.tasks.tracks := fun _ => ⟨rfl, rfl⟩
  have hslots : s.tasks.toAnnounce = match s.tasks.event with
    | .announcing => List.finRange bmtMaxTrackedTags
    | .waitZone => List.finRange bmtMaxTrackedTags
    | .reannouncing slots => slots
    | _ => [] := rfl
  unfold GatewayTasks.startsSession GatewayTasks.published
  cases eventStep_move hs with
  | connect he =>
    simp only [he]
    exact announcing_session h
  | announced he =>
    simp only [he, List.append_nil] at hslots ⊢
    exact h.frame_worker hsame hslots.symm id rfl (List.Subset.refl _) fun _ _ => id
  | lock he _ =>
    simp only [he, List.append_nil] at hslots ⊢
    exact h.frame_worker hsame hslots.symm id rfl (List.Subset.refl _) fun _ _ => id
  | done he =>
    simp only [he, List.append_nil] at hslots ⊢
    exact h.frame_worker hsame hslots.symm id rfl (List.Subset.refl _) fun _ _ => id
  | reannounce he =>
    simp only [he]
    exact announcing_reannounce h he
  | disconnect he =>
    simp only [he, List.append_nil] at hslots ⊢
    refine h.frame_worker hsame hslots.symm ?_ rfl (List.Subset.refl _) fun _ _ => id
    intro hup
    cases hup

theorem Announcing.move (h : s.Announcing) (w : WorkerTask) (hreport : w.OfReport s.tasks.tracks)
    (hwill : s.tasks.connected = true → ∀ tagId, s.tasks.worker.willConnect tagId →
      w.willConnect tagId) :
    Announcing { tasks := { s.tasks with worker := w }, log := s.log } := by
  refine h.frame (fun _ => ⟨rfl, rfl⟩) rfl id hreport (List.Subset.refl _)
    (fun _ _ hwho => Or.inl hwho) ?_
  intro hconn tagId hold
  exact Or.inr (hwill hconn tagId hold)

theorem announcing_newTag (h : s.Announcing) {r : TagReport} (hw : s.tasks.worker = .locked r)
    {i : Fin bmtMaxTrackedTags} {t : TagTrack} (hnew : ¬Tracked r.tagId s.tasks.tracks)
    (hfree : (s.tasks.tracks i).active = false) (ht : t.isOf r.tagId = true) :
    Announcing {
      tasks := { s.tasks with
        tracks := Function.update s.tasks.tracks i t
        worker := .unlocked true r }
      log := s.log } := by
  obtain ⟨hact, htag⟩ := isOf_iff.mp ht
  have hown : (Function.update s.tasks.tracks i t) i = t := Function.update_self _ _ _
  have hother : ∀ j, j ≠ i → (Function.update s.tasks.tracks i t) j = s.tasks.tracks j :=
    fun j hji => Function.update_of_ne hji _ _
  have hkept : ∀ tagId j, (s.tasks.tracks j).isOf tagId = true →
      (Function.update s.tasks.tracks i t j).isOf tagId = true := by
    intro tagId j hj
    rw [hother j]
    · exact hj
    · intro hji
      rw [hji] at hj
      rw [(isOf_iff.mp hj).1] at hfree
      cases hfree
  refine ⟨?_, ⟨i, ?_⟩, ?_, h.once, ?_, ?_⟩
  · apply h.unique.update
    intro _ j _ hj hsame
    exact hnew ⟨j, isOf_iff.mpr ⟨hj, hsame.trans htag⟩⟩
  · dsimp only
    rw [hown]
    exact ht
  · intro hconn j hj
    dsimp only at hj ⊢
    by_cases hji : j = i
    · rw [hji, hown]
      exact Or.inr (Or.inr ⟨rfl, htag.symm⟩)
    · rw [hother j hji] at hj ⊢
      rcases h.covered hconn j hj with hslot | hlogged | hwill
      · exact Or.inl hslot
      · exact Or.inr (Or.inl hlogged)
      · rw [hw] at hwill
        exact absurd hwill id
  · intro j hslot hj who hwho
    dsimp only at hj hwho
    by_cases hji : j = i
    · -- a connect message of another task would be of a tracked tag
      rw [hji, hown, htag] at hwho
      rcases h.tracked who _ hwho with hworker | htracked
      · exact hworker
      · exact absurd htracked hnew
    · rw [hother j hji] at hj hwho
      exact h.notYet j hslot hj who hwho
  · intro who tagId hwho
    rcases h.tracked who tagId hwho with hworker | htracked
    · exact Or.inl hworker
    · exact Or.inr (htracked.mono (hkept tagId))

theorem announcing_send (h : s.Announcing) {msgs : List TagMessage}
    (hw : s.tasks.worker = .sending msgs) (now : UInt32) :
    Announcing {
      tasks := { s.tasks with worker := .publishing msgs.tail }
      log := s.log ++ s.tasks.published (.worker now) } := by
  have hreport := h.ofReport
  rw [hw] at hreport
  obtain ⟨r, htracked, hmsgs⟩ := hreport
  refine h.frame (fun _ => ⟨rfl, rfl⟩) rfl id ⟨r, htracked, (List.tail_suffix msgs).trans hmsgs⟩
    (List.subset_append_left _ _) ?_ ?_
  · intro who tagId hwho
    rcases List.mem_append.mp hwho with hold | hnew
    · exact Or.inl hold
    · unfold GatewayTasks.published at hnew
      cases msgs with
      | nil => simp [hw] at hnew
      | cons m msgs =>
        simp only [hw, List.mem_map, Prod.mk.injEq] at hnew
        obtain ⟨-, -, hwho, -⟩ := hnew
        exact Or.inr hwho.symm
  · intro hconn tagId hwill
    rw [hw] at hwill
    cases msgs with
    | nil => exact absurd hwill List.not_mem_nil
    | cons m msgs =>
      rcases List.mem_cons.mp hwill with hm | hrest
      · refine Or.inl ⟨.worker, List.mem_append_right _ ?_⟩
        unfold GatewayTasks.published
        dsimp only at hconn
        simp [hw, publish, hconn, hm]
      · exact Or.inr hrest

theorem freeWorker_move {t t' : GatewayTasks} {now : UInt32}
    (h : t.freeStep (.worker now) = some t') : WorkerMove t now t' := by
  unfold GatewayTasks.freeStep at h
  cases hw : t.worker with
  | waitClient msgs =>
    simp only [hw] at h
    cases h
    exact .send hw
  | _ =>
    simp only [hw] at h
    exact workerStep_move h

theorem announcing_noted (h : s.Announcing) {now : UInt32} {r : TagReport} {wasNew : Bool}
    {tracks : TagTracks} (hw : s.tasks.worker = .locked r)
    (hres : reportLocked r now s.tasks.tracks = (some wasNew, tracks)) :
    Announcing {
      tasks := { s.tasks with tracks := tracks, worker := .unlocked wasNew r }, log := s.log } := by
  rcases reportLocked_tag r now s.tasks.tracks with hold | hnew | hfull
  · obtain ⟨i, track, hupdate, hi, hact, htag⟩ := hold
    rw [hupdate] at hres
    cases hres
    have htags := sameTags_update hact htag
    refine h.frame htags rfl id ?_ (List.Subset.refl _) (fun _ _ hwho => Or.inl hwho) ?_
    · exact htags.tracked ⟨i, hi⟩
    · intro _ tagId hwill
      rw [hw] at hwill
      exact absurd hwill id
  · obtain ⟨i, track, hupdate, hnew, hfree, ht⟩ := hnew
    rw [hupdate] at hres
    cases hres
    exact announcing_newTag h hw hnew hfree ht
  · rw [hfull] at hres
    cases hres

theorem announcing_worker (h : s.Announcing) {now : UInt32} {t : GatewayTasks}
    (hs : s.tasks.freeStep (.worker now) = some t) :
    Announcing { tasks := t, log := s.log ++ s.tasks.published (.worker now) } := by
  have hreport := h.ofReport
  have hpublished : (∀ msgs, s.tasks.worker ≠ .sending msgs) →
      s.log ++ s.tasks.published (.worker now) = s.log := by
    intro hne
    unfold GatewayTasks.published
    cases hw : s.tasks.worker with
    | sending msgs => exact absurd hw (hne msgs)
    | _ => exact List.append_nil _
  cases freeWorker_move hs with
  | lock hw _ =>
    rw [hpublished (by simp [hw])]
    apply h.move (.locked _) trivial
    intro _ tagId hwill
    rw [hw] at hwill
    exact hwill
  | @noSlot r tracks hw hres =>
    rw [hpublished (by simp [hw])]
    have hsame : tracks = s.tasks.tracks := reportLocked_full hres
    rw [hsame]
    apply h.move .idle trivial
    intro _ tagId hwill
    rw [hw] at hwill
    exact hwill
  | noted hw hres =>
    rw [hpublished (by simp [hw])]
    exact announcing_noted h hw hres
  | @publish wasNew r hw hconn =>
    rw [hw] at hreport
    rw [hpublished (by simp [hw])]
    split_ifs with hnew
    · apply h.move (.publishing _) ⟨r, hreport, List.suffix_rfl⟩
      intro _ tagId hwill
      rw [hw] at hwill
      obtain ⟨-, htag⟩ := hwill
      rw [← htag]
      exact List.mem_cons_self
    · apply h.move (.publishing _) ⟨r, hreport, List.suffix_append
        [TagMessage.connect r.tagId, TagMessage.role r.tagId] _⟩
      intro _ tagId hwill
      rw [hw] at hwill
      exact absurd hwill.1 hnew
  | offline hw hconn =>
    rw [hpublished (by simp [hw])]
    apply h.move .idle trivial
    intro hup
    exact absurd hup hconn
  | done hw =>
    rw [hpublished (by simp [hw])]
    apply h.move .idle trivial
    intro _ tagId hwill
    rw [hw] at hwill
    exact absurd hwill List.not_mem_nil
  | next hw =>
    rw [hw] at hreport
    rw [hpublished (by simp [hw])]
    apply h.move (.waitClient _) hreport
    intro _ tagId hwill
    rw [hw] at hwill
    exact hwill
  | @skip m msgs hw hconn =>
    rw [hw] at hreport
    rw [hpublished (by simp [hw])]
    obtain ⟨r, htracked, hmsgs⟩ := hreport
    apply h.move (.publishing _) ⟨r, htracked, (List.suffix_cons m msgs).trans hmsgs⟩
    intro hup
    exact absurd hup hconn
  | @send msgs hw =>
    rw [hw] at hreport
    rw [hpublished (by simp [hw])]
    apply h.move (.sending msgs) hreport
    intro _ tagId hwill
    rw [hw] at hwill
    exact hwill
  | sent hw => exact announcing_send h hw now

theorem announcing_step (h : s.Announcing) {e : TaskStep} (hs : s.step false e = some s') :
    s'.Announcing := by
  obtain ⟨t, ht, hs'⟩ := Option.map_eq_some_iff.mp hs
  rw [if_neg Bool.false_ne_true] at ht
  cases hs'
  cases e with
  | zoneWake now =>
    obtain ⟨-, ht'⟩ := zoneWake_spec ht
    rw [if_neg (by simp [GatewayTasks.startsSession]), ht']
    unfold GatewayTasks.published
    rw [List.append_nil]
    exact h.frame_worker (fun _ => ⟨rfl, rfl⟩) rfl id rfl (List.Subset.refl _) fun _ _ => id
  | zone ok =>
    rw [if_neg (by simp [GatewayTasks.startsSession])]
    exact announcing_zone h ht
  | mqttEvent e =>
    rw [if_neg (by simp [GatewayTasks.startsSession])]
    unfold GatewayTasks.published
    rw [List.append_nil]
    exact announcing_mqttEvent h ht
  | event ok => exact announcing_event h ht
  | report r =>
    obtain ⟨hw, ht'⟩ := report_spec ht
    rw [if_neg (by simp [GatewayTasks.startsSession]), ht']
    unfold GatewayTasks.published
    rw [List.append_nil]
    apply h.move (.waitZone r) trivial
    intro _ tagId hwill
    rw [hw] at hwill
    exact hwill
  | worker now =>
    rw [if_neg (by simp [GatewayTasks.startsSession])]
    exact announcing_worker h ht

/-- Only the worker publishes telemetry. -/
theorem not_telemetry_published {t : GatewayTasks} {e : TaskStep} (he : ∀ now, e ≠ .worker now) :
    ∀ m ∈ t.published e, ∀ r, m.2 ≠ .telemetry r := by
  intro m hm r hr
  unfold GatewayTasks.published at hm
  cases e with
  | zone ok =>
    cases hz : t.zone with
    | sending now i slots =>
      simp only [hz, List.mem_map, mem_publish_iff] at hm
      obtain ⟨_, ⟨hmsg, -⟩, hm⟩ := hm
      rw [← hm, hmsg] at hr
      cases hr
    | _ => simp [hz] at hm
  | event ok =>
    cases hv : t.event with
    | reannouncing slots =>
      cases slots with
      | nil => simp [hv] at hm
      | cons i slots =>
        simp only [hv, List.mem_map] at hm
        obtain ⟨msg, hmsg, hm⟩ := hm
        rw [← hm] at hr
        unfold TagTrack.reannounceMessages at hmsg
        dsimp only at hr
        rw [hr] at hmsg
        split_ifs at hmsg
        · simp at hmsg
        · simp at hmsg
        · exact absurd hmsg List.not_mem_nil
    | _ => simp [hv] at hm
  | worker now => exact he now rfl
  | _ => exact absurd hm List.not_mem_nil

theorem telemetry_last {r r' : TagReport} {msgs : List TagMessage}
    (h : .telemetry r :: msgs <:+ [.connect r'.tagId, .role r'.tagId, .telemetry r']) :
    r = r' ∧ msgs = [] := by
  rcases List.suffix_cons_iff.mp h with hall | hrest
  · cases hall
  · rcases List.suffix_cons_iff.mp hrest with htwo | hlast
    · cases htwo
    · rcases List.suffix_cons_iff.mp hlast with hone | hnone
      · cases hone
        exact ⟨rfl, rfl⟩
      · cases List.suffix_nil.mp hnone

/-- The telemetry the worker is about to send has been announced just when the handler is not the
one who is still to do it. -/
theorem connected_iff_afterAnnounce (h : s.Announcing) {r : TagReport} {msgs : List TagMessage}
    (hw : s.tasks.worker = .sending (.telemetry r :: msgs)) (hconn : s.tasks.connected = true) :
    Connected s.log r.tagId ↔ ∀ i ∈ s.tasks.toAnnounce,
      (s.tasks.tracks i).isOf r.tagId = true → (.worker, .connect r.tagId) ∈ s.log := by
  refine ⟨?_, ?_⟩
  · intro hlogged i hi hof
    obtain ⟨who, hwho⟩ := hlogged
    obtain ⟨hact, htag⟩ := isOf_iff.mp hof
    have hworker := h.notYet i hi hact who
    rw [htag] at hworker
    rw [← hworker hwho]
    exact hwho
  · intro hafter
    have hreport := h.ofReport
    rw [hw] at hreport
    obtain ⟨r', htracked, hmsgs⟩ := hreport
    obtain ⟨hr, hnil⟩ := telemetry_last hmsgs
    rw [← hr] at htracked
    obtain ⟨i, hi⟩ := htracked
    obtain ⟨hact, htag⟩ := isOf_iff.mp hi
    rcases h.covered hconn i hact with hslot | hlogged | hwill
    · exact ⟨.worker, hafter i hslot hi⟩
    · rwa [htag] at hlogged
    · -- the connect message would stand before the telemetry
      rw [hw, hnil] at hwill
      simp [WorkerTask.willConnect] at hwill

/-- Exactly the steps that send no telemetry ahead of the handler keep the order. -/
theorem connectFirst_step_iff (h : s.Announcing) (hfirst : s.ConnectFirst) {e : TaskStep}
    (hs : s.step false e = some s') : s'.ConnectFirst ↔ s.AfterAnnounce e := by
  obtain ⟨t, -, hs'⟩ := Option.map_eq_some_iff.mp hs
  cases hs'
  unfold ConnectFirst
  dsimp only
  by_cases hstart : s.tasks.startsSession e = true
  · rw [if_pos hstart]
    refine ⟨fun _ => ?_, fun _ => History.ordered_nil⟩
    cases e with
    | event ok => trivial
    | _ => simp [GatewayTasks.startsSession] at hstart
  · rw [if_neg hstart]
    cases e with
    | worker now =>
      unfold AfterAnnounce GatewayTasks.published
      cases hw : s.tasks.worker with
      | sending msgs =>
        cases msgs with
        | nil =>
          rw [List.append_nil]
          exact ⟨fun _ => trivial, fun _ => hfirst⟩
        | cons m msgs =>
          dsimp only
          by_cases hconn : s.tasks.connected = true
          · have hpublish : publish s.tasks.connected true m = [m] := by
              rw [publish, hconn]
              rfl
            rw [hpublish, List.map_singleton, History.ordered_concat_iff]
            cases m with
            | telemetry r =>
              have hiff := connected_iff_afterAnnounce h hw hconn
              refine ⟨?_, ?_⟩
              · intro hlog _
                exact hiff.mp (hlog.2 r rfl)
              · intro hafter
                refine ⟨hfirst, ?_⟩
                intro r' hr'
                cases hr'
                exact hiff.mpr (hafter hconn)
            | _ => exact ⟨fun _ => trivial, fun _ => ⟨hfirst, fun r hr => by cases hr⟩⟩
          · have hpublish : publish s.tasks.connected true m = [] := by
              rw [publish, Bool.eq_false_of_not_eq_true hconn]
              rfl
            rw [hpublish, List.map_nil, List.append_nil]
            cases m with
            | telemetry r => exact ⟨fun _ hup => absurd hup hconn, fun _ => hfirst⟩
            | _ => exact ⟨fun _ => trivial, fun _ => hfirst⟩
      | _ =>
        rw [List.append_nil]
        exact ⟨fun _ => trivial, fun _ => hfirst⟩
    | _ =>
      rw [History.ordered_append_iff]
      · exact ⟨fun _ => trivial, fun _ => hfirst⟩
      · intro m hm _ r hr
        exact absurd hr (not_telemetry_published (fun now hnow => by cases hnow) m hm r)

theorem freeStep_of_step {t t' : GatewayTasks} {e : TaskStep} (hs : t.step e = some t') :
    t.freeStep e = some t' := by
  cases e with
  | zone ok =>
    unfold GatewayTasks.step GatewayTasks.zoneStep at hs
    unfold GatewayTasks.freeStep GatewayTasks.zoneStep
    cases hz : t.zone with
    | sleeping => simp [hz] at hs
    | waitClient now i slots =>
      simp only [hz] at hs ⊢
      exact (Option.ite_none_right_eq_some.mp hs).2
    | _ => simpa [hz] using hs
  | mqttEvent e =>
    unfold GatewayTasks.step at hs
    unfold GatewayTasks.freeStep
    cases he : t.event with
    | idle =>
      simp only [he] at hs ⊢
      exact (Option.ite_none_right_eq_some.mp hs).2
    | _ => simp [he] at hs
  | worker now =>
    unfold GatewayTasks.step GatewayTasks.workerStep at hs
    unfold GatewayTasks.freeStep GatewayTasks.workerStep
    cases hw : t.worker with
    | idle => simp [hw] at hs
    | waitClient msgs =>
      simp only [hw] at hs ⊢
      exact (Option.ite_none_right_eq_some.mp hs).2
    | _ => simpa [hw] using hs
  | _ => exact hs

theorem step_false_of_step_true {e : TaskStep} (hs : s.step true e = some s') :
    s.step false e = some s' := by
  obtain ⟨t, ht, hs'⟩ := Option.map_eq_some_iff.mp hs
  exact Option.map_eq_some_iff.mpr ⟨t, freeStep_of_step ht, hs'⟩

end MqttSession

def GatewayTasks.Exclusive (s : GatewayTasks) : Prop :=
  s.holdsClient .worker = true → s.event = .idle

theorem event_idle_of_free {s : GatewayTasks} (h : s.holdsClient .event = false) :
    s.event = .idle := by
  unfold GatewayTasks.holdsClient at h
  cases he : s.event with
  | idle => rfl
  | _ => simp [he] at h

theorem sending_of_workerStep {s s' : GatewayTasks} {now : UInt32}
    (hs : s.workerStep now = some s') (hsend : s'.holdsClient .worker = true) :
    s.clientFree = true := by
  cases workerStep_move hs with
  | send hw =>
    simp only [GatewayTasks.workerStep, hw] at hs
    exact (Option.ite_none_right_eq_some.mp hs).1
  | _ => cases hsend

theorem worker_eventStep {s s' : GatewayTasks} {ok : Bool} (hs : s.eventStep ok = some s') :
    s'.worker = s.worker := by
  cases eventStep_move hs with
  | _ => rfl

theorem exclusive_task_step {s s' : GatewayTasks} (h : s.Exclusive) {e : TaskStep}
    (hs : s.step e = some s') : s'.Exclusive := by
  -- where the worker stays, it publishes afterwards only if it did before
  have hstays : s'.worker = s.worker → s'.holdsClient .worker = true → s.event = .idle := by
    intro hworker hsend
    apply h
    unfold GatewayTasks.holdsClient at hsend ⊢
    rwa [hworker] at hsend
  intro hsend
  cases e with
  | zoneWake now =>
    obtain ⟨-, hs'⟩ := zoneWake_spec hs
    rw [hs'] at hstays hsend ⊢
    exact hstays rfl hsend
  | zone ok =>
    obtain ⟨hevent, hworker, -⟩ := MqttSession.freeZone_frame (MqttSession.freeStep_of_step hs)
    rw [hevent]
    exact hstays hworker hsend
  | mqttEvent e =>
    obtain ⟨-, hfree, hs'⟩ := mqttEvent_spec hs
    have hidle : s.holdsClient .worker = false := by
      unfold GatewayTasks.clientFree at hfree
      simpa using (Bool.and_eq_true_iff.mp hfree).2
    rw [hs'] at hsend
    exact absurd (hidle.symm.trans hsend) Bool.false_ne_true
  | event ok =>
    have hidle := hstays (worker_eventStep hs) hsend
    simp [GatewayTasks.step, GatewayTasks.eventStep, hidle] at hs
  | report r =>
    obtain ⟨-, hs'⟩ := report_spec hs
    rw [hs'] at hsend
    cases hsend
  | worker now =>
    obtain ⟨-, hevent⟩ := workerStep_frame hs
    have hfree := sending_of_workerStep hs hsend
    rw [hevent]
    apply event_idle_of_free
    unfold GatewayTasks.clientFree at hfree
    simpa using (Bool.and_eq_true_iff.mp (Bool.and_eq_true_iff.mp hfree).1).2

namespace MqttSession

variable {s s' : MqttSession}

theorem afterAnnounce_of_exclusive (h : s.tasks.Exclusive) (e : TaskStep) : s.AfterAnnounce e := by
  unfold AfterAnnounce
  cases e with
  | worker now =>
    dsimp only
    cases hw : s.tasks.worker with
    | sending msgs =>
      cases msgs with
      | nil => trivial
      | cons m msgs =>
        cases m with
        | telemetry r =>
          intro _ i hi
          have hidle : s.tasks.event = .idle := by
            apply h
            unfold GatewayTasks.holdsClient
            rw [hw]
          unfold GatewayTasks.toAnnounce at hi
          rw [hidle] at hi
          exact absurd hi List.not_mem_nil
        | _ => trivial
    | _ => trivial
  | _ => trivial

theorem announcing_boot : boot.Announcing := by
  refine ⟨?_, trivial, ?_, List.nodup_nil, ?_, ?_⟩
  · intro i j hi
    cases hi
  · intro hup
    cases hup
  · intro i hi
    exact absurd hi List.not_mem_nil
  · intro who tagId hwho
    exact absurd hwho List.not_mem_nil

theorem connectFirst_boot : boot.ConnectFirst := History.ordered_nil

/-- Under the client lock the telemetry of a tag always comes after its connect message; without the
lock it does just when the worker never sends it ahead of the handler's own announcement. -/
theorem telemetry_after_connect (es : List TaskStep) :
    Run.Throughout (step true) ConnectFirst boot es ∧
      (Run.Throughout (step false) ConnectFirst boot es ↔
        Run.Meets (step false) AfterAnnounce boot es) := by
  refine ⟨?_, ?_⟩
  · have hall : Run.Throughout (step true)
        (fun s => s.Announcing ∧ s.ConnectFirst ∧ s.tasks.Exclusive) boot es := by
      apply Run.throughout_of_forall
      · intro s e s' h hs
        obtain ⟨hann, hfirst, hex⟩ := h
        have hfree := step_false_of_step_true hs
        obtain ⟨t, ht, hs'⟩ := Option.map_eq_some_iff.mp hs
        cases hs'
        exact ⟨announcing_step hann hfree,
          (connectFirst_step_iff hann hfirst hfree).mpr (afterAnnounce_of_exclusive hex e),
          exclusive_task_step hex ht⟩
      · exact ⟨announcing_boot, connectFirst_boot, fun hsend => by cases hsend⟩
    exact hall.mono fun _ h => h.2.1
  · refine Run.throughout_iff_meets_of_invariant ?_ ?_ announcing_boot connectFirst_boot
    · intro s e s' h hs
      exact announcing_step h hs
    · intro s e s' h hfirst hs
      exact connectFirst_step_iff h hfirst hs

def reported (n : ℕ) : List TaskStep :=
  .report ⟨1, 100, 1, -60, 10, 0⟩ :: List.replicate n (.worker 0)

/-- A tag is first reported while MQTT is down, and again right after `s_connected` is set. -/
def overtaken : List TaskStep :=
  reported 3 ++ [.mqttEvent .connected, .event true] ++ reported 6

/-- Without the client lock the telemetry of the second report is the first message of the
session. -/
theorem telemetry_overtakes_connect :
    ¬Run.Throughout (step false) ConnectFirst boot overtaken := by
  intro h
  have hfirst := h.last rfl
  obtain ⟨who, hwho⟩ := hfirst [] (.worker, .telemetry ⟨1, 100, 1, -60, 10, 0⟩)
    List.prefix_rfl _ rfl
  exact absurd hwho List.not_mem_nil

end MqttSession

end BleMeshTracking.Gateway
