import BleMeshTracking.Gateway.ThingsBoard
import BleMeshTracking.Library.Run

/-!
# The zone mutex and the MQTT client lock

`zone_timeout_task`, the MQTT event task and the MQTT worker, step by step.  The client has one
recursive lock: its task holds it while an event handler runs, and every publish takes it.
-/

namespace BleMeshTracking.Gateway

inductive MqttEvent
  | connected
  | disconnected

/-- Where `zone_timeout_task` is; `slots` are those its pass has yet to look at. -/
inductive ZoneTask
  | sleeping
  | waitZone (now : UInt32)
  | scanning (now : UInt32) (slots : List (Fin bmtMaxTrackedTags))
  | testing (now : UInt32) (i : Fin bmtMaxTrackedTags) (slots : List (Fin bmtMaxTrackedTags))
  | waitClient (now : UInt32) (i : Fin bmtMaxTrackedTags) (slots : List (Fin bmtMaxTrackedTags))
  | sending (now : UInt32) (i : Fin bmtMaxTrackedTags) (slots : List (Fin bmtMaxTrackedTags))

/-- Where the event task is.  In `announcing` it subscribes and publishes the gateway and the
nodes, under the client lock it holds already. -/
inductive EventTask
  | idle
  | connectedStart
  | announcing
  | waitZone
  | reannouncing (slots : List (Fin bmtMaxTrackedTags))
  | disconnecting

/-- Where the worker is in `bmt_tb_pub_tag_report`; `msgs` are those it has yet to publish. -/
inductive WorkerTask
  | idle
  | waitZone (r : TagReport)
  | locked (r : TagReport)
  | unlocked (wasNew : Bool) (r : TagReport)
  | publishing (msgs : List TagMessage)
  | waitClient (msgs : List TagMessage)
  | sending (msgs : List TagMessage)

inductive TaskId
  | zone
  | event
  | worker

structure GatewayTasks where
  tracks : TagTracks
  connected : Bool
  zone : ZoneTask := .sleeping
  event : EventTask := .idle
  worker : WorkerTask := .idle

def GatewayTasks.holdsZone (s : GatewayTasks) : TaskId → Bool
  | .zone =>
    match s.zone with
    | .sleeping => false
    | .waitZone _ => false
    | .scanning _ _ => true
    | .testing _ _ _ => true
    | .waitClient _ _ _ => true
    | .sending _ _ _ => true
  | .event =>
    match s.event with
    | .reannouncing _ => true
    | _ => false
  | .worker =>
    match s.worker with
    | .locked _ => true
    | _ => false

def GatewayTasks.waitsZone (s : GatewayTasks) : TaskId → Bool
  | .zone =>
    match s.zone with
    | .waitZone _ => true
    | _ => false
  | .event =>
    match s.event with
    | .waitZone => true
    | _ => false
  | .worker =>
    match s.worker with
    | .waitZone _ => true
    | _ => false

def GatewayTasks.holdsClient (s : GatewayTasks) : TaskId → Bool
  | .zone =>
    match s.zone with
    | .sending _ _ _ => true
    | _ => false
  | .event =>
    match s.event with
    | .idle => false
    | _ => true
  | .worker =>
    match s.worker with
    | .sending _ => true
    | _ => false

def GatewayTasks.waitsClient (s : GatewayTasks) : TaskId → Bool
  | .zone =>
    match s.zone with
    | .waitClient _ _ _ => true
    | _ => false
  | .event => false
  | .worker =>
    match s.worker with
    | .waitClient _ => true
    | _ => false

def GatewayTasks.zoneFree (s : GatewayTasks) : Bool :=
  !s.holdsZone .zone && !s.holdsZone .event && !s.holdsZone .worker

def GatewayTasks.clientFree (s : GatewayTasks) : Bool :=
  !s.holdsClient .zone && !s.holdsClient .event && !s.holdsClient .worker

def TagTrack.declareOutOfRange (now : UInt32) (t : TagTrack) : TagTrack :=
  { t with
    currentZoneId := bmtZoneUnknown
    outOfRangePending := true
    lastZoneChangeMs := now
    validByScanner := fun _ => false }

/-- One step of `zone_timeout_task` under way; `ok` is the outcome of a publish. -/
def GatewayTasks.zoneStep (s : GatewayTasks) (ok : Bool) : Option GatewayTasks :=
  match s.zone with
  | .sleeping => none
  | .waitZone now =>
    if s.zoneFree then some { s with zone := .scanning now (List.finRange bmtMaxTrackedTags) }
    else none
  | .scanning _ [] => some { s with zone := .sleeping }
  | .scanning now (i :: slots) =>
    if (s.tracks i).timesOut now then
      some { s with
        tracks := Function.update s.tracks i ((s.tracks i).declareOutOfRange now)
        zone := .testing now i slots }
    else some { s with zone := .scanning now slots }
  | .testing now i slots =>
    if s.connected then some { s with zone := .waitClient now i slots }
    else some { s with zone := .scanning now slots }
  | .waitClient now i slots =>
    if s.clientFree then some { s with zone := .sending now i slots } else none
  | .sending now i slots =>
    some { s with
      tracks := Function.update s.tracks i { s.tracks i with outOfRangePending := !ok }
      zone := .scanning now slots }

def GatewayTasks.eventStep (s : GatewayTasks) (ok : Bool) : Option GatewayTasks :=
  match s.event with
  | .idle => none
  | .connectedStart => some { s with connected := true, event := .announcing }
  | .announcing => some { s with event := .waitZone }
  | .waitZone =>
    if s.zoneFree then some { s with event := .reannouncing (List.finRange bmtMaxTrackedTags) }
    else none
  | .reannouncing [] => some { s with event := .idle }
  | .reannouncing (i :: slots) =>
    some { s with
      tracks := Function.update s.tracks i ((s.tracks i).reannounce s.connected ok)
      event := .reannouncing slots }
  | .disconnecting => some { s with connected := false, event := .idle }

def GatewayTasks.workerStep (s : GatewayTasks) (now : UInt32) : Option GatewayTasks :=
  match s.worker with
  | .idle => none
  | .waitZone r => if s.zoneFree then some { s with worker := .locked r } else none
  | .locked r =>
    let res := reportLocked r now s.tracks
    match res.1 with
    | none => some { s with tracks := res.2, worker := .idle }
    | some wasNew => some { s with tracks := res.2, worker := .unlocked wasNew r }
  | .unlocked wasNew r =>
    if s.connected then
      let new : List TagMessage := if wasNew then [.connect r.tagId, .role r.tagId] else []
      some { s with worker := .publishing (new ++ [.telemetry r]) }
    else some { s with worker := .idle }
  | .publishing [] => some { s with worker := .idle }
  | .publishing (.telemetry r :: msgs) =>
    some { s with worker := .waitClient (.telemetry r :: msgs) }
  | .publishing (m :: msgs) =>
    if s.connected then some { s with worker := .waitClient (m :: msgs) }
    else some { s with worker := .publishing msgs }
  | .waitClient msgs => if s.clientFree then some { s with worker := .sending msgs } else none
  | .sending msgs => some { s with worker := .publishing msgs.tail }

inductive TaskStep
  | zoneWake (now : UInt32)
  | zone (ok : Bool)
  | mqttEvent (e : MqttEvent)
  | event (ok : Bool)
  | report (r : TagReport)
  | worker (now : UInt32)

/-- Any task that is not waiting for a lock may take its next step. -/
def GatewayTasks.step (s : GatewayTasks) : TaskStep → Option GatewayTasks
  | .zoneWake now =>
    match s.zone with
    | .sleeping => some { s with zone := .waitZone now }
    | _ => none
  | .zone ok => s.zoneStep ok
  | .mqttEvent e =>
    match s.event with
    | .idle =>
      if s.clientFree then
        match e with
        | .connected => some { s with event := .connectedStart }
        | .disconnected => some { s with event := .disconnecting }
      else none
    | _ => none
  | .event ok => s.eventStep ok
  | .report r =>
    match s.worker with
    | .idle => some { s with worker := .waitZone r }
    | _ => none
  | .worker now => s.workerStep now

/-- One task holds the zone mutex and waits for the client lock, another holds the client lock and
waits for the zone mutex. -/
def GatewayTasks.Deadlocked (s : GatewayTasks) : Prop :=
  ∃ t t', s.holdsZone t = true ∧ s.waitsClient t = true ∧ s.holdsClient t' = true ∧
    s.waitsZone t' = true

/-- The event handler, running on, gets into the deadlock. -/
def GatewayTasks.HeadedForDeadlock (s : GatewayTasks) : Prop :=
  ∃ n s', Run.run GatewayTasks.step s (List.replicate n (.event true)) = some s' ∧ s'.Deadlocked

def EventTask.beforeZone : EventTask → Bool
  | .connectedStart => true
  | .announcing => true
  | .waitZone => true
  | _ => false

def ZoneTask.toPublish : ZoneTask → Bool
  | .waitClient _ _ _ => true
  | _ => false

/-- The connection test of an out-of-range publish does not succeed inside the handler of
`MQTT_EVENT_CONNECTED`, nor does the handler start between the test and the publish. -/
def GatewayTasks.KeepsApart (s : GatewayTasks) : TaskStep → Prop
  | .zone _ =>
    match s.zone with
    | .testing _ _ _ => s.connected = true → s.event.beforeZone = false
    | _ => True
  | .mqttEvent .connected => s.zone.toPublish = false
  | _ => True

section Step

variable {s s' : GatewayTasks}

/-- The two halves of the loop body are the one taken as a single step. -/
theorem timeout_eq_declare {connected ok : Bool} {now : UInt32} {t : TagTrack}
    (h : t.timesOut now = true) : t.timeout connected ok now =
      { t.declareOutOfRange now with outOfRangePending := !(connected && ok) } := by
  rw [TagTrack.timeout, if_pos h]
  rfl

inductive ZoneMove (s : GatewayTasks) (ok : Bool) : GatewayTasks → Prop
  | lock {now : UInt32} (hz : s.zone = .waitZone now) (hfree : s.zoneFree = true) :
      ZoneMove s ok { s with zone := .scanning now (List.finRange bmtMaxTrackedTags) }
  | done {now : UInt32} (hz : s.zone = .scanning now []) :
      ZoneMove s ok { s with zone := .sleeping }
  | timeout {now : UInt32} {i : Fin bmtMaxTrackedTags} {slots : List (Fin bmtMaxTrackedTags)}
      (hz : s.zone = .scanning now (i :: slots)) (hout : (s.tracks i).timesOut now = true) :
      ZoneMove s ok { s with
        tracks := Function.update s.tracks i ((s.tracks i).declareOutOfRange now)
        zone := .testing now i slots }
  | pass {now : UInt32} {i : Fin bmtMaxTrackedTags} {slots : List (Fin bmtMaxTrackedTags)}
      (hz : s.zone = .scanning now (i :: slots)) (hin : ¬(s.tracks i).timesOut now = true) :
      ZoneMove s ok { s with zone := .scanning now slots }
  | publish {now : UInt32} {i : Fin bmtMaxTrackedTags} {slots : List (Fin bmtMaxTrackedTags)}
      (hz : s.zone = .testing now i slots) (hconn : s.connected = true) :
      ZoneMove s ok { s with zone := .waitClient now i slots }
  | offline {now : UInt32} {i : Fin bmtMaxTrackedTags} {slots : List (Fin bmtMaxTrackedTags)}
      (hz : s.zone = .testing now i slots) (hconn : ¬s.connected = true) :
      ZoneMove s ok { s with zone := .scanning now slots }
  | send {now : UInt32} {i : Fin bmtMaxTrackedTags} {slots : List (Fin bmtMaxTrackedTags)}
      (hz : s.zone = .waitClient now i slots) :
      ZoneMove s ok { s with zone := .sending now i slots }
  | sent {now : UInt32} {i : Fin bmtMaxTrackedTags} {slots : List (Fin bmtMaxTrackedTags)}
      (hz : s.zone = .sending now i slots) :
      ZoneMove s ok { s with
        tracks := Function.update s.tracks i { s.tracks i with outOfRangePending := !ok }
        zone := .scanning now slots }

theorem zoneStep_move {ok : Bool} (h : s.zoneStep ok = some s') : ZoneMove s ok s' := by
  unfold GatewayTasks.zoneStep at h
  cases hz : s.zone with
  | sleeping =>
    rw [hz] at h
    cases h
  | waitZone now =>
    rw [hz] at h
    obtain ⟨hfree, h'⟩ := Option.ite_none_right_eq_some.mp h
    cases h'
    exact .lock hz hfree
  | scanning now slots =>
    rw [hz] at h
    cases slots with
    | nil =>
      cases h
      exact .done hz
    | cons i slots =>
      dsimp only at h
      split_ifs at h with hout
      · cases h
        exact .timeout hz hout
      · cases h
        exact .pass hz hout
  | testing now i slots =>
    rw [hz] at h
    dsimp only at h
    split_ifs at h with hconn
    · cases h
      exact .publish hz hconn
    · cases h
      exact .offline hz hconn
  | waitClient now i slots =>
    rw [hz] at h
    obtain ⟨-, h'⟩ := Option.ite_none_right_eq_some.mp h
    cases h'
    exact .send hz
  | sending now i slots =>
    rw [hz] at h
    cases h
    exact .sent hz

theorem zoneStep_spec {ok : Bool} (h : s.zoneStep ok = some s') :
    s'.event = s.event ∧
      (s'.zone.toPublish = true →
        s.connected = true ∧ ∃ now i slots, s.zone = .testing now i slots) := by
  cases zoneStep_move h with
  | publish hz hconn => exact ⟨rfl, fun _ => ⟨hconn, _, _, _, hz⟩⟩
  | _ => exact ⟨rfl, fun hp => by cases hp⟩

inductive EventMove (s : GatewayTasks) (ok : Bool) : GatewayTasks → Prop
  | connect (he : s.event = .connectedStart) :
      EventMove s ok { s with connected := true, event := .announcing }
  | announced (he : s.event = .announcing) : EventMove s ok { s with event := .waitZone }
  | lock (he : s.event = .waitZone) (hfree : s.zoneFree = true) :
      EventMove s ok { s with event := .reannouncing (List.finRange bmtMaxTrackedTags) }
  | done (he : s.event = .reannouncing []) : EventMove s ok { s with event := .idle }
  | reannounce {i : Fin bmtMaxTrackedTags} {slots : List (Fin bmtMaxTrackedTags)}
      (he : s.event = .reannouncing (i :: slots)) :
      EventMove s ok { s with
        tracks := Function.update s.tracks i ((s.tracks i).reannounce s.connected ok)
        event := .reannouncing slots }
  | disconnect (he : s.event = .disconnecting) :
      EventMove s ok { s with connected := false, event := .idle }

theorem eventStep_move {ok : Bool} (h : s.eventStep ok = some s') : EventMove s ok s' := by
  unfold GatewayTasks.eventStep at h
  cases he : s.event with
  | idle =>
    rw [he] at h
    cases h
  | connectedStart =>
    rw [he] at h
    cases h
    exact .connect he
  | announcing =>
    rw [he] at h
    cases h
    exact .announced he
  | waitZone =>
    rw [he] at h
    obtain ⟨hfree, h'⟩ := Option.ite_none_right_eq_some.mp h
    cases h'
    exact .lock he hfree
  | reannouncing slots =>
    rw [he] at h
    cases slots with
    | nil =>
      cases h
      exact .done he
    | cons i slots =>
      cases h
      exact .reannounce he
  | disconnecting =>
    rw [he] at h
    cases h
    exact .disconnect he

theorem eventStep_spec {ok : Bool} (h : s.eventStep ok = some s') :
    s'.zone = s.zone ∧ (s'.event.beforeZone = true → s.event.beforeZone = true) := by
  refine ⟨?_, ?_⟩
  · cases eventStep_move h with
    | _ => rfl
  · intro hb
    cases eventStep_move h with
    | connect he => exact congrArg EventTask.beforeZone he
    | announced he => exact congrArg EventTask.beforeZone he
    | _ => cases hb

inductive WorkerMove (s : GatewayTasks) (now : UInt32) : GatewayTasks → Prop
  | lock {r : TagReport} (hw : s.worker = .waitZone r) (hfree : s.zoneFree = true) :
      WorkerMove s now { s with worker := .locked r }
  | noSlot {r : TagReport} {tracks : TagTracks} (hw : s.worker = .locked r)
      (hres : reportLocked r now s.tracks = (none, tracks)) :
      WorkerMove s now { s with tracks := tracks, worker := .idle }
  | noted {r : TagReport} {wasNew : Bool} {tracks : TagTracks} (hw : s.worker = .locked r)
      (hres : reportLocked r now s.tracks = (some wasNew, tracks)) :
      WorkerMove s now { s with tracks := tracks, worker := .unlocked wasNew r }
  | publish {wasNew : Bool} {r : TagReport} (hw : s.worker = .unlocked wasNew r)
      (hconn : s.connected = true) :
      WorkerMove s now { s with
        worker := .publishing
          ((if wasNew then [.connect r.tagId, .role r.tagId] else []) ++ [.telemetry r]) }
  | offline {wasNew : Bool} {r : TagReport} (hw : s.worker = .unlocked wasNew r)
      (hconn : ¬s.connected = true) : WorkerMove s now { s with worker := .idle }
  | done (hw : s.worker = .publishing []) : WorkerMove s now { s with worker := .idle }
  | next {m : TagMessage} {msgs : List TagMessage} (hw : s.worker = .publishing (m :: msgs)) :
      WorkerMove s now { s with worker := .waitClient (m :: msgs) }
  | skip {m : TagMessage} {msgs : List TagMessage} (hw : s.worker = .publishing (m :: msgs))
      (hconn : ¬s.connected = true) : WorkerMove s now { s with worker := .publishing msgs }
  | send {msgs : List TagMessage} (hw : s.worker = .waitClient msgs) :
      WorkerMove s now { s with worker := .sending msgs }
  | sent {msgs : List TagMessage} (hw : s.worker = .sending msgs) :
      WorkerMove s now { s with worker := .publishing msgs.tail }

theorem workerStep_move {now : UInt32} (h : s.workerStep now = some s') : WorkerMove s now s' := by
  unfold GatewayTasks.workerStep at h
  cases hw : s.worker with
  | idle =>
    rw [hw] at h
    cases h
  | waitZone r =>
    rw [hw] at h
    obtain ⟨hfree, h'⟩ := Option.ite_none_right_eq_some.mp h
    cases h'
    exact .lock hw hfree
  | locked r =>
    rw [hw] at h
    dsimp only at h
    cases hres : (reportLocked r now s.tracks).1 with
    | none =>
      rw [hres] at h
      cases h
      exact .noSlot hw (Prod.ext hres rfl)
    | some wasNew =>
      rw [hres] at h
      cases h
      exact .noted hw (Prod.ext hres rfl)
  | unlocked wasNew r =>
    rw [hw] at h
    dsimp only at h
    by_cases hconn : s.connected = true
    · rw [if_pos hconn] at h
      cases h
      exact .publish hw hconn
    · rw [if_neg hconn] at h
      cases h
      exact .offline hw hconn
  | publishing msgs =>
    rw [hw] at h
    cases msgs with
    | nil =>
      cases h
      exact .done hw
    | cons m msgs =>
      cases m with
      | telemetry r =>
        cases h
        exact .next hw
      | _ =>
        dsimp only at h
        split_ifs at h with hconn
        · cases h
          exact .next hw
        · cases h
          exact .skip hw hconn
  | waitClient msgs =>
    rw [hw] at h
    obtain ⟨-, h'⟩ := Option.ite_none_right_eq_some.mp h
    cases h'
    exact .send hw
  | sending msgs =>
    rw [hw] at h
    cases h
    exact .sent hw

theorem workerStep_frame {now : UInt32} (h : s.workerStep now = some s') :
    s'.zone = s.zone ∧ s'.event = s.event := by
  cases workerStep_move h with
  | _ => exact ⟨rfl, rfl⟩

theorem zoneWake_spec {now : UInt32} (h : s.step (.zoneWake now) = some s') :
    s.zone = .sleeping ∧ s' = { s with zone := .waitZone now } := by
  unfold GatewayTasks.step at h
  cases hz : s.zone with
  | sleeping =>
    simp only [hz] at h
    cases h
    exact ⟨rfl, rfl⟩
  | _ =>
    simp only [hz] at h
    cases h

theorem report_spec {r : TagReport} (h : s.step (.report r) = some s') :
    s.worker = .idle ∧ s' = { s with worker := .waitZone r } := by
  unfold GatewayTasks.step at h
  cases hw : s.worker with
  | idle =>
    simp only [hw] at h
    cases h
    exact ⟨rfl, rfl⟩
  | _ =>
    simp only [hw] at h
    cases h

/-- A handler starts only when nobody publishes. -/
theorem mqttEvent_spec {e : MqttEvent} (h : s.step (.mqttEvent e) = some s') :
    s.event = .idle ∧ s.clientFree = true ∧
      s' = { s with event := match e with
        | .connected => .connectedStart
        | .disconnected => .disconnecting } := by
  unfold GatewayTasks.step at h
  cases he : s.event with
  | idle =>
    simp only [he] at h
    obtain ⟨hfree, h'⟩ := Option.ite_none_right_eq_some.mp h
    cases e with
    | connected =>
      cases h'
      exact ⟨rfl, hfree, rfl⟩
    | disconnected =>
      cases h'
      exact ⟨rfl, hfree, rfl⟩
  | _ =>
    simp only [he] at h
    cases h

/-- Only `zone_timeout_task` publishes under the zone mutex, and only the handler of
`MQTT_EVENT_CONNECTED` takes the zone mutex under the client lock. -/
theorem GatewayTasks.Deadlocked.doomed (h : s.Deadlocked) :
    s.zone.toPublish = true ∧ s.event.beforeZone = true := by
  obtain ⟨t, t', hholds, hwaits, hholds', hwaits'⟩ := h
  -- the worker never holds the zone mutex while it waits for the client
  refine ⟨?_, ?_⟩
  · cases t with
    | zone =>
      unfold GatewayTasks.waitsClient at hwaits
      cases hz : s.zone with
      | waitClient now i slots => rfl
      | _ => simp [hz] at hwaits
    | event => cases hwaits
    | worker =>
      unfold GatewayTasks.waitsClient at hwaits
      unfold GatewayTasks.holdsZone at hholds
      cases hw : s.worker with
      | locked r => simp [hw] at hwaits
      | _ => simp [hw] at hholds
  · cases t' with
    | zone =>
      unfold GatewayTasks.waitsZone at hwaits'
      unfold GatewayTasks.holdsClient at hholds'
      cases hz : s.zone with
      | waitZone now => simp [hz] at hholds'
      | _ => simp [hz] at hwaits'
    | event =>
      unfold GatewayTasks.waitsZone at hwaits'
      cases he : s.event with
      | waitZone => rfl
      | _ => simp [he] at hwaits'
    | worker =>
      unfold GatewayTasks.waitsZone at hwaits'
      unfold GatewayTasks.holdsClient at hholds'
      cases hw : s.worker with
      | waitZone r => simp [hw] at hholds'
      | _ => simp [hw] at hwaits'

/-- With `zone_timeout_task` about to publish, the handler runs straight into the deadlock. -/
theorem headedForDeadlock_iff : s.HeadedForDeadlock ↔
    s.zone.toPublish = true ∧ s.event.beforeZone = true := by
  refine ⟨?_, ?_⟩
  · intro h
    obtain ⟨n, s', hrun, hdead⟩ := h
    -- backwards along the handler's steps, which leave the other task where it is
    induction n generalizing s with
    | zero =>
      cases hrun
      exact hdead.doomed
    | succ n ih =>
      obtain ⟨m, hm, hrest⟩ := Option.bind_eq_some_iff.mp hrun
      obtain ⟨hzone, hevent⟩ := ih hrest
      obtain ⟨hsame, hbefore⟩ := eventStep_spec hm
      exact ⟨hsame ▸ hzone, hbefore hevent⟩
  · intro h
    obtain ⟨hzone, hevent⟩ := h
    -- the handler needs at most two more steps to get to the zone mutex
    have hdead : ∀ connected, GatewayTasks.Deadlocked
        { s with connected := connected, event := .waitZone } := by
      intro connected
      refine ⟨.zone, .event, ?_, ?_, rfl, rfl⟩
      · cases hz : s.zone with
        | waitClient now i slots => rfl
        | _ => simp [hz, ZoneTask.toPublish] at hzone
      · cases hz : s.zone with
        | waitClient now i slots => rfl
        | _ => simp [hz, ZoneTask.toPublish] at hzone
    cases he : s.event with
    | connectedStart =>
      refine ⟨2, _, ?_, hdead true⟩
      simp [Run.run, GatewayTasks.step, GatewayTasks.eventStep, he, List.replicate]
    | announcing =>
      refine ⟨1, _, ?_, hdead s.connected⟩
      simp [Run.run, GatewayTasks.step, GatewayTasks.eventStep, he, List.replicate]
    | waitZone =>
      refine ⟨0, s, rfl, ?_⟩
      have hs := hdead s.connected
      rw [← he] at hs
      exact hs
    | _ => simp [he, EventTask.beforeZone] at hevent

end Step

/-- A step that keeps the two apart is exactly one that does not head for the deadlock. -/
theorem not_headedForDeadlock_step_iff {s s' : GatewayTasks} {e : TaskStep}
    (h : ¬s.HeadedForDeadlock) (hs : s.step e = some s') :
    ¬s'.HeadedForDeadlock ↔ s.KeepsApart e := by
  rw [headedForDeadlock_iff] at h ⊢
  cases e with
  | zoneWake now =>
    obtain ⟨-, hs'⟩ := zoneWake_spec hs
    rw [hs']
    simp [GatewayTasks.KeepsApart, ZoneTask.toPublish]
  | zone ok =>
    obtain ⟨hevent, hpublish⟩ := zoneStep_spec hs
    rw [hevent]
    cases hz : s.zone with
    | testing now i slots =>
      by_cases hconnected : s.connected = true
      · have hzone : s'.zone = .waitClient now i slots := by
          simp only [GatewayTasks.step, GatewayTasks.zoneStep, hz, if_pos hconnected] at hs
          cases hs
          rfl
        simp [GatewayTasks.KeepsApart, hz, hzone, hconnected, ZoneTask.toPublish]
      · have hnot : ¬s'.zone.toPublish = true := fun hp => hconnected (hpublish hp).1
        simp [GatewayTasks.KeepsApart, hz, hconnected, hnot]
    | _ =>
      have hnot : ¬s'.zone.toPublish = true := by
        intro hp
        obtain ⟨-, now, i, slots, htesting⟩ := hpublish hp
        rw [hz] at htesting
        cases htesting
      simp [GatewayTasks.KeepsApart, hz, hnot]
  | mqttEvent e =>
    obtain ⟨-, -, hs'⟩ := mqttEvent_spec hs
    rw [hs']
    cases e with
    | connected => simp [GatewayTasks.KeepsApart, EventTask.beforeZone]
    | disconnected => simp [GatewayTasks.KeepsApart, EventTask.beforeZone]
  | event ok =>
    obtain ⟨hzone, hbefore⟩ := eventStep_spec hs
    refine ⟨fun _ => trivial, fun _ hdoomed => ?_⟩
    exact h ⟨hzone ▸ hdoomed.1, hbefore hdoomed.2⟩
  | report r =>
    obtain ⟨-, hs'⟩ := report_spec hs
    rw [hs']
    exact ⟨fun _ => trivial, fun _ => h⟩
  | worker now =>
    obtain ⟨hzone, hevent⟩ := workerStep_frame hs
    rw [hzone, hevent]
    exact ⟨fun _ => trivial, fun _ => h⟩

def GatewayTasks.start (tracks : TagTracks) (connected : Bool) : GatewayTasks :=
  { tracks := tracks, connected := connected }

/-- Whatever the table holds, a run never heads for the deadlock just when every step of it keeps
the out-of-range publish and the handler of `MQTT_EVENT_CONNECTED` apart, and then no state of it
is deadlocked. -/
theorem no_deadlock_iff_kept_apart (tracks : TagTracks) (connected : Bool) (es : List TaskStep) :
    (Run.Throughout GatewayTasks.step (fun s => ¬s.HeadedForDeadlock) (.start tracks connected) es ↔
      Run.Meets GatewayTasks.step GatewayTasks.KeepsApart (.start tracks connected) es) ∧
    (Run.Meets GatewayTasks.step GatewayTasks.KeepsApart (.start tracks connected) es →
      Run.Throughout GatewayTasks.step (fun s => ¬s.Deadlocked) (.start tracks connected) es) := by
  have hiff : Run.Throughout GatewayTasks.step (fun s => ¬s.HeadedForDeadlock)
        (.start tracks connected) es ↔
      Run.Meets GatewayTasks.step GatewayTasks.KeepsApart (.start tracks connected) es := by
    refine Run.throughout_iff_meets_of_invariant (A := fun _ => True) ?_ ?_ trivial ?_
    · intro _ _ _ _ _
      trivial
    · intro s e s' _ h hs
      exact not_headedForDeadlock_step_iff h hs
    · rw [headedForDeadlock_iff]
      intro hdoomed
      cases hdoomed.1
  refine ⟨hiff, ?_⟩
  intro hmeets
  apply (hiff.mpr hmeets).mono
  intro s hnot hdead
  exact hnot ⟨0, s, rfl, hdead⟩

def oneTrack : TagTracks := fun i =>
  if i.val = 0 then { active := true, tagId := 1, currentZoneId := 1 } else {}

/-- The client reconnects, the tag times out and its message finds the client connected, and the
handler gets to the zone mutex. -/
def reconnectRun : List TaskStep :=
  [.mqttEvent .connected, .event true, .zoneWake 20000, .zone true, .zone true, .zone true,
    .event true]

theorem reconnect_deadlocks :
    ¬Run.Throughout GatewayTasks.step (fun s => ¬s.Deadlocked) (.start oneTrack false)
      reconnectRun := by
  intro h
  have hlast := h.last rfl
  exact hlast ⟨.zone, .event, rfl, rfl, rfl, rfl⟩

end BleMeshTracking.Gateway
