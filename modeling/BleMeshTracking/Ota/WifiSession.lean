import BleMeshTracking.Ota.WifiNet

/-!
# The WiFi sessions of a node's updates

`bmt_ota.c` of scanners and relays step by step: `bmt_ota_trigger`, whose callers are several tasks
and which tests `s_ota_triggered` before it stores it; `ota_wifi_task` call by call, in as many
tasks as that lets start; and `report_pending_task`.  The event loop runs `wifi_event_handler`
between any two of these calls, any call may fail, and the node may reboot at any time.
-/

namespace BleMeshTracking.Ota

/-- How a session ended; `cut` by a reboot. -/
inductive SessionEnd
  | updated
  | failed
  | noUpdate
  | cut
  deriving DecidableEq

structure WifiTask where
  stage : WifiStage := .none
  doReportFail : Bool := true

structure WifiOta where
  /-- `ota_pending` in NVS. -/
  flag : UInt8 := 0
  report : ReportTask := .delay
  log : List OtaLog := []
  inited : Bool := false
  /-- `s_ota_triggered`. -/
  triggered : Bool := false
  /-- Callers of `bmt_ota_trigger` that have found the flag unset and not yet stored it. -/
  passed : ℕ := 0
  /-- Those that have stored it and not yet created the task. -/
  stored : ℕ := 0
  /-- The tasks by the order of their creation, over all boots. -/
  tasks : ℕ → WifiTask := fun _ => {}
  started : ℕ := 0
  ends : List (ℕ × SessionEnd) := []
  net : WifiNet := {}
  /-- Downloads that ended in `ESP_OK`. -/
  installs : ℕ := 0
  /-- Assertions that failed, and calls of `abort`. -/
  aborts : ℕ := 0

inductive SessionEvent
  | init (complete : Bool)
  | trigger
  | store
  | start (created : Bool)
  | task (k : ℕ) (calls : SessionCalls)
  | wifiEvent (e : WifiEvent) (clash : Bool)
  | report (calls : ReportCalls)
  | reboot

def SessionEvent.isTask (k : ℕ) : SessionEvent → Bool
  | .task j _ => j == k
  | _ => false

namespace WifiOta

def Quiet (s : WifiOta) : Prop := ∀ k < s.started, (s.tasks k).stage = .none

instance (s : WifiOta) : Decidable s.Quiet := inferInstanceAs (Decidable (∀ k < _, _))

/-- The ends of the sessions that a reboot ends, by `esp_restart` of a task or otherwise. -/
def cuts (restarts : Option ℕ) (s : WifiOta) : List (ℕ × SessionEnd) :=
  ((List.range s.started).filter fun k => (s.tasks k).stage ≠ .none).map fun k =>
    (k, if restarts = some k then .updated else .cut)

def reboot (restarts : Option ℕ) (s : WifiOta) : WifiOta :=
  { flag := s.flag
    log := s.log
    started := s.started
    ends := s.ends ++ s.cuts restarts
    net := s.net.reboot
    installs := s.installs
    aborts := s.aborts }

def abort (s : WifiOta) : WifiOta := { s.reboot Option.none with aborts := s.aborts + 1 }

def setStage (k : ℕ) (t : WifiStage) (s : WifiOta) : WifiOta :=
  { s with tasks := Function.update s.tasks k { s.tasks k with stage := t } }

/-- `bmt_ota_trigger` up to its test of `s_ota_triggered`. -/
def bmtOtaTrigger (s : WifiOta) : WifiOta :=
  if !s.inited then s
  else if s.triggered then s
  else { s with passed := s.passed + 1 }

/-- The store of `bmt_ota_trigger`. -/
def storeTriggered (s : WifiOta) : WifiOta :=
  if s.passed = 0 then s
  else { s with triggered := true, passed := s.passed - 1, stored := s.stored + 1 }

/-- Its `xTaskCreate`. -/
def startTask (created : Bool) (s : WifiOta) : WifiOta :=
  if s.stored = 0 then s
  else if created then
    { s with
      stored := s.stored - 1
      tasks := Function.update s.tasks s.started { stage := .silence }
      started := s.started + 1
      net := { s.net with shared := s.net.shared || !decide s.Quiet } }
  else WifiOta.abort { s with net := { s.net with nulls := s.net.nulls + 1 } }

def fetched (k : ℕ) (c : WifiCalls) (s : WifiOta) : WifiOta :=
  match c.fetch with
  | .ok => { s.setStage k .marking with installs := s.installs + 1 }
  | .notFound =>
    { s with tasks := Function.update s.tasks k { stage := .wifiStop, doReportFail := false } }
  | _ => s.setStage k .wifiStop

/-- The end of `ota_wifi_task`: the report, and `s_ota_triggered` cleared. -/
def finish (k : ℕ) (mesh : MeshCalls) (s : WifiOta) : WifiOta :=
  { s with
    log :=
      if (s.tasks k).doReportFail then s.log ++ [.result 1 (bmtMeshPublishToGateway mesh)] else s.log
    triggered := false
    tasks := Function.update s.tasks k {}
    ends := s.ends ++ [(k, if (s.tasks k).doReportFail then .failed else .noUpdate)] }

/-- A call around the download, at which an assertion may fail. -/
def netCall (silenceLog : Bool) (k : ℕ) (c : SessionCalls) (s : WifiOta) : WifiOta :=
  match s.net.call silenceLog c (s.tasks k).stage with
  | (some ok, net) => { s.setStage k ((s.tasks k).stage.next ok) with net }
  | (Option.none, net) => WifiOta.abort { s with net }

def otaWifiTask (silenceLog : Bool) (k : ℕ) (c : SessionCalls) (s : WifiOta) : WifiOta :=
  match (s.tasks k).stage with
  | .none => s
  | .fetch => s.fetched k c.wifi
  | .marking => s.setStage k (if c.wifi.nvsOpen then .writing else .restarting)
  | .writing =>
    if c.wifi.nvsStored then
      { s.setStage k .restarting with flag := 1, log := s.log ++ [.marked] }
    else s.setStage k .restarting
  | .restarting => s.reboot (some k)
  | .report => s.finish k c.wifi.mesh
  | _ => s.netCall silenceLog k c

/-- What `report_pending_task` works on, as in the node of the pending result. -/
def pending (s : WifiOta) : OtaNode := { flag := s.flag, report := s.report, log := s.log }

def reportPendingTask (c : ReportCalls) (s : WifiOta) : WifiOta :=
  let n := s.pending.reportPendingTask c
  { s with flag := n.flag, report := n.report, log := n.log }

def dispatch (e : WifiEvent) (clash : Bool) (s : WifiOta) : WifiOta :=
  match s.net.dispatch e clash with
  | some net => { s with net }
  | Option.none => s.abort

def after (silenceLog : Bool) (s : WifiOta) : SessionEvent → WifiOta
  | .init complete => { s with inited := s.inited || complete }
  | .trigger => s.bmtOtaTrigger
  | .store => s.storeTriggered
  | .start created => s.startTask created
  | .task k c => s.otaWifiTask silenceLog k c
  | .wifiEvent e clash => s.dispatch e clash
  | .report c => if s.inited then s.reportPendingTask c else s
  | .reboot => s.reboot Option.none

def boot (flag : UInt8) : WifiOta := { flag }

variable {silenceLog : Bool} {s s' : WifiOta}

theorem setStage_self (k : ℕ) (t : WifiStage) : ((s.setStage k t).tasks k).stage = t := by
  simp [setStage]

theorem setStage_of_ne {j k : ℕ} (t : WifiStage) (h : j ≠ k) :
    (s.setStage k t).tasks j = s.tasks j :=
  Function.update_of_ne h _ _

end WifiOta

def WifiStage.Updating (t : WifiStage) : Prop := t = .marking ∨ t = .writing ∨ t = .restarting

instance (t : WifiStage) : Decidable t.Updating := inferInstanceAs (Decidable (_ ∨ _))

/-- A bound on the steps that a task still has to take. -/
def WifiStage.stepsLeft : WifiStage → ℕ
  | .none => 0
  | .marking => 3
  | .writing => 2
  | .restarting => 1
  | t => 19 - t.index

theorem WifiStage.stepsLeft_le (t : WifiStage) : t.stepsLeft ≤ 18 := by
  cases t <;> decide

theorem WifiStage.eq_none_of_stepsLeft {t : WifiStage} (h : t.stepsLeft = 0) : t = .none := by
  cases t <;> first | rfl | cases h

namespace WifiOta

variable {silenceLog : Bool} {s s' : WifiOta}

/-- The steps of a task: it is not running, goes on, marks the update, ends by a failed assertion or
a restart, or comes to its end. -/
inductive TaskMove (k : ℕ) (s : WifiOta) : WifiOta → Prop
  | idle (h : (s.tasks k).stage = .none) : TaskMove k s s
  | goesOn (t : WifiTask) (net : WifiNet) (installs : ℕ) (h : t.stage ≠ .none)
    (hleft : t.stage.stepsLeft < (s.tasks k).stage.stepsLeft) (hinstalls : s.installs ≤ installs)
    (hupdating : t.stage.Updating → (s.tasks k).stage.Updating ∨ 0 < installs) :
    TaskMove k s { s with tasks := Function.update s.tasks k t, net, installs }
  | marks (h : (s.tasks k).stage = .writing) :
    TaskMove k s { s.setStage k .restarting with flag := 1, log := s.log ++ [.marked] }
  | crashes (net : WifiNet) (h : (s.tasks k).stage ≠ .none) :
    TaskMove k s (WifiOta.abort { s with net })
  | restarts (h : (s.tasks k).stage = .restarting) : TaskMove k s (s.reboot (some k))
  | finishes (mesh : MeshCalls) (h : (s.tasks k).stage = .report) : TaskMove k s (s.finish k mesh)

theorem netCall_move {k : ℕ} (c : SessionCalls) (h : (s.tasks k).stage ≠ .none)
    (hnext : ∀ ok, ((s.tasks k).stage.next ok) ≠ .none ∧
      ((s.tasks k).stage.next ok).stepsLeft < (s.tasks k).stage.stepsLeft ∧
      ¬ ((s.tasks k).stage.next ok).Updating) :
    TaskMove k s (s.netCall silenceLog k c) := by
  unfold netCall
  split
  · rename_i ok net _
    obtain ⟨hne, hleft, hno⟩ := hnext ok
    exact .goesOn { s.tasks k with stage := _ } net s.installs hne hleft le_rfl
      fun hupdating => absurd hupdating hno
  · exact .crashes _ h

theorem otaWifiTask_move (silenceLog : Bool) (k : ℕ) (c : SessionCalls) (s : WifiOta) :
    TaskMove k s (s.otaWifiTask silenceLog k c) := by
  have hset : ∀ t : WifiStage, t ≠ .none → t.stepsLeft < (s.tasks k).stage.stepsLeft →
      (t.Updating → (s.tasks k).stage.Updating) → TaskMove k s (s.setStage k t) := by
    intro t hne hleft hupdating
    exact .goesOn { s.tasks k with stage := t } s.net s.installs hne hleft le_rfl
      fun hu => Or.inl (hupdating hu)
  unfold otaWifiTask
  cases hstage : (s.tasks k).stage with
  | none => exact .idle hstage
  | fetch =>
    dsimp only
    unfold fetched
    split
    · have hleft : WifiStage.marking.stepsLeft < (s.tasks k).stage.stepsLeft := by
        rw [hstage]
        decide
      exact .goesOn { s.tasks k with stage := .marking } s.net (s.installs + 1)
        WifiStage.noConfusion hleft (Nat.le_succ _) fun _ => Or.inr (Nat.succ_pos _)
    · exact .goesOn _ s.net s.installs (by decide) (by rw [hstage]; decide) le_rfl
        fun hu => absurd hu (by decide)
    · exact hset .wifiStop (by decide) (by rw [hstage]; decide) fun hu => absurd hu (by decide)
  | marking =>
    have hupdating : (s.tasks k).stage.Updating := Or.inl hstage
    dsimp only
    split_ifs
    · exact hset .writing (by decide) (by rw [hstage]; decide) fun _ => hupdating
    · exact hset .restarting (by decide) (by rw [hstage]; decide) fun _ => hupdating
  | writing =>
    dsimp only
    split_ifs
    · exact .marks hstage
    · exact hset .restarting (by decide) (by rw [hstage]; decide) fun _ => Or.inr (Or.inl hstage)
  | restarting => exact .restarts hstage
  | report => exact .finishes _ hstage
  | _ =>
    apply netCall_move c (by rw [hstage]; decide)
    intro ok
    rw [hstage]
    cases ok <;> decide

/-- What an event does: nothing to the tasks and to NVS, or it creates a task, is a step of one or
of `report_pending_task`, ends in a crash or is a reboot. -/
inductive SessionMove (silenceLog : Bool) (s : WifiOta) : SessionEvent → WifiOta → Prop
  | quiet (e : SessionEvent) (inited triggered : Bool) (passed stored : ℕ) (net : WifiNet)
    (h : ∀ k, e.isTask k = false) :
    SessionMove silenceLog s e { s with inited, triggered, passed, stored, net }
  | creates (net : WifiNet) (h : s.stored ≠ 0) :
    SessionMove silenceLog s (.start true)
      { s with
        stored := s.stored - 1
        tasks := Function.update s.tasks s.started { stage := .silence }
        started := s.started + 1
        net }
  | task (k : ℕ) (c : SessionCalls) :
    SessionMove silenceLog s (.task k c) (s.otaWifiTask silenceLog k c)
  | crashes (e : SessionEvent) (net : WifiNet) :
    SessionMove silenceLog s e (WifiOta.abort { s with net })
  | reports (c : ReportCalls) : SessionMove silenceLog s (.report c) (s.reportPendingTask c)
  | reboots : SessionMove silenceLog s .reboot (s.reboot Option.none)

theorem after_move (silenceLog : Bool) (s : WifiOta) (e : SessionEvent) :
    SessionMove silenceLog s e (s.after silenceLog e) := by
  cases e with
  | init complete => exact .quiet _ _ _ _ _ _ fun _ => rfl
  | trigger =>
    unfold WifiOta.after bmtOtaTrigger
    dsimp only
    split_ifs <;> exact .quiet _ _ _ _ _ _ fun _ => rfl
  | store =>
    unfold WifiOta.after storeTriggered
    dsimp only
    split_ifs <;> exact .quiet _ _ _ _ _ _ fun _ => rfl
  | start created =>
    unfold WifiOta.after startTask
    dsimp only
    split_ifs with hstored hcreated
    · exact .quiet _ _ _ _ _ _ fun _ => rfl
    · rw [hcreated]
      exact .creates _ hstored
    · exact .crashes _ _
  | task k c => exact .task k c
  | wifiEvent e clash =>
    unfold WifiOta.after dispatch
    dsimp only
    split
    · exact .quiet _ _ _ _ _ _ fun _ => rfl
    · exact .crashes _ _
  | report c =>
    unfold WifiOta.after
    dsimp only
    split_ifs
    · exact .reports c
    · exact .quiet _ _ _ _ _ _ fun _ => rfl
  | reboot => exact .reboots

/-- An `OTA_RESULT` of failure, accepted or not. -/
def isFailure : OtaLog → Bool
  | .result status _ => status == 1
  | _ => false

/-- The sessions started are numbered in order, each of them has ended once or is under way, and the
results of failure are those of the sessions that failed. -/
structure Accounted (s : WifiOta) : Prop where
  fresh : ∀ k, s.started ≤ k → (s.tasks k).stage = .none
  once : (s.ends.map Prod.fst).Nodup
  ended : ∀ k, k ∈ s.ends.map Prod.fst ↔ k < s.started ∧ (s.tasks k).stage = .none
  failures : s.log.countP isFailure = s.ends.countP fun e => e.2 = .failed

theorem Accounted.move (h : s.Accounted) (hstarted : s'.started = s.started)
    (hends : s'.ends = s.ends)
    (hstage : ∀ k, (s'.tasks k).stage = .none ↔ (s.tasks k).stage = .none)
    (hlog : s'.log.countP isFailure = s.log.countP isFailure) : s'.Accounted := by
  refine ⟨?_, ?_, ?_, ?_⟩
  · intro k hk
    rw [hstarted] at hk
    exact (hstage k).mpr (h.fresh k hk)
  · rw [hends]
    exact h.once
  · intro k
    rw [hends, hstarted, hstage k]
    exact h.ended k
  · rw [hlog, hends]
    exact h.failures

theorem cuts_fst (restarts : Option ℕ) (s : WifiOta) :
    (s.cuts restarts).map Prod.fst =
      (List.range s.started).filter fun k => (s.tasks k).stage ≠ .none := by
  unfold cuts
  rw [List.map_map]
  exact List.map_id _

theorem mem_cuts {restarts : Option ℕ} {k : ℕ} :
    k ∈ (s.cuts restarts).map Prod.fst ↔ k < s.started ∧ (s.tasks k).stage ≠ .none := by
  rw [cuts_fst, List.mem_filter, List.mem_range, decide_eq_true_iff]

theorem Accounted.reboot (h : s.Accounted) (restarts : Option ℕ) :
    (s.reboot restarts).Accounted := by
  refine ⟨fun _ _ => rfl, ?_, ?_, ?_⟩
  · rw [WifiOta.reboot, List.map_append, List.nodup_append']
    refine ⟨h.once, ?_, ?_⟩
    · rw [cuts_fst]
      exact List.nodup_range.filter _
    · intro k hk hcut
      exact (mem_cuts.mp hcut).2 ((h.ended k).mp hk).2
  · intro k
    rw [WifiOta.reboot, List.map_append, List.mem_append, h.ended k, mem_cuts]
    by_cases hstage : (s.tasks k).stage = .none <;> simp [hstage]
  · have hcuts : (s.cuts restarts).countP (fun e => e.2 = .failed) = 0 := by
      rw [List.countP_eq_zero]
      intro e he
      obtain ⟨k, -, rfl⟩ := List.mem_map.mp he
      dsimp only
      split_ifs <;> decide
    rw [WifiOta.reboot, List.countP_append, hcuts]
    exact h.failures

theorem Accounted.abort (h : s.Accounted) : s.abort.Accounted := by
  obtain ⟨hfresh, honce, hended, hfail⟩ := h.reboot Option.none
  exact ⟨hfresh, honce, hended, hfail⟩

theorem Accounted.setNet (h : s.Accounted) (net : WifiNet) : Accounted { s with net } :=
  h.move rfl rfl (fun _ => Iff.rfl) rfl

theorem Accounted.finish (h : s.Accounted) {k : ℕ} (hk : (s.tasks k).stage ≠ .none)
    (mesh : MeshCalls) : (s.finish k mesh).Accounted := by
  have hstarted : k < s.started := by
    by_contra hle
    exact hk (h.fresh k (Nat.le_of_not_lt hle))
  have hnew : k ∉ s.ends.map Prod.fst := fun hmem => hk ((h.ended k).mp hmem).2
  have hends : (s.finish k mesh).ends.map Prod.fst = s.ends.map Prod.fst ++ [k] := by
    rw [WifiOta.finish, List.map_append]
    rfl
  have htask : ∀ j, ((s.finish k mesh).tasks j).stage = .none ↔
      j = k ∨ (s.tasks j).stage = .none := by
    intro j
    unfold WifiOta.finish
    dsimp only
    rw [Function.update_apply]
    by_cases hj : j = k <;> simp [hj]
  refine ⟨?_, ?_, ?_, ?_⟩
  · intro j hj
    exact (htask j).mpr (Or.inr (h.fresh j hj))
  · rw [hends, List.nodup_append']
    exact ⟨h.once, List.nodup_singleton k, List.disjoint_singleton.mpr hnew⟩
  · intro j
    rw [hends, List.mem_append, List.mem_singleton, h.ended j, htask j]
    constructor
    · rintro (⟨hlt, hnone⟩ | rfl)
      · exact ⟨hlt, Or.inr hnone⟩
      · exact ⟨hstarted, Or.inl rfl⟩
    · rintro ⟨hlt, rfl | hnone⟩
      · exact Or.inr rfl
      · exact Or.inl ⟨hlt, hnone⟩
  · unfold WifiOta.finish
    dsimp only
    cases (s.tasks k).doReportFail with
    | true =>
      rw [if_pos rfl, if_pos rfl, List.countP_append, List.countP_append, h.failures]
      rfl
    | false =>
      rw [if_neg Bool.false_ne_true, if_neg Bool.false_ne_true, List.countP_append, h.failures]
      rfl

theorem Accounted.otaWifiTask (h : s.Accounted) (silenceLog : Bool) (k : ℕ) (c : SessionCalls) :
    (s.otaWifiTask silenceLog k c).Accounted := by
  have hmove := otaWifiTask_move silenceLog k c s
  generalize s.otaWifiTask silenceLog k c = s' at hmove ⊢
  have hset : ∀ {t : WifiTask} (j : ℕ), t.stage ≠ .none → (s.tasks k).stage ≠ .none →
      ((Function.update s.tasks k t j).stage = .none ↔ (s.tasks j).stage = .none) := by
    intro t j ht hk
    rw [Function.update_apply]
    by_cases hj : j = k
    · rw [if_pos hj, hj]
      exact ⟨fun hnone => absurd hnone ht, fun hnone => absurd hnone hk⟩
    · rw [if_neg hj]
  cases hmove with
  | idle _ => exact h
  | goesOn t net installs ht hleft _ _ =>
    have hk : (s.tasks k).stage ≠ .none := by
      intro hnone
      rw [hnone] at hleft
      exact Nat.not_lt_zero _ hleft
    exact h.move rfl rfl (fun j => hset j ht hk) rfl
  | marks hwriting =>
    refine h.move rfl rfl (fun j => hset j ?_ ?_) ?_
    · exact WifiStage.noConfusion
    · rw [hwriting]
      decide
    · rw [List.countP_append]
      rfl
  | crashes net _ => exact (h.setNet net).abort
  | restarts _ => exact h.reboot (some k)
  | finishes mesh hreport => exact h.finish (by rw [hreport]; decide) mesh

theorem Accounted.creates (h : s.Accounted) (stored : ℕ) (net : WifiNet) :
    Accounted
      { s with
        stored
        tasks := Function.update s.tasks s.started { stage := .silence }
        started := s.started + 1
        net } := by
  have hold : ∀ k < s.started,
      Function.update s.tasks s.started { stage := .silence } k = s.tasks k :=
    fun k hk => Function.update_of_ne hk.ne _ _
  refine ⟨?_, h.once, ?_, h.failures⟩
  · intro k hk
    dsimp only
    rw [Function.update_of_ne (Nat.lt_of_succ_le hk).ne']
    exact h.fresh k (Nat.le_of_succ_le hk)
  · intro k
    dsimp only
    rw [h.ended k, Nat.lt_succ_iff_lt_or_eq]
    constructor
    · rintro ⟨hlt, hnone⟩
      rw [hold k hlt]
      exact ⟨Or.inl hlt, hnone⟩
    · rintro ⟨hlt | rfl, hnone⟩
      · rw [hold k hlt] at hnone
        exact ⟨hlt, hnone⟩
      · rw [Function.update_self] at hnone
        cases hnone

theorem countP_reportPendingTask (c : ReportCalls) (n : OtaNode) :
    (n.reportPendingTask c).log.countP isFailure = n.log.countP isFailure := by
  have hmove := OtaNode.reportPendingTask_move c n
  generalize n.reportPendingTask c = n' at hmove ⊢
  cases hmove with
  | quiet _ _ _ => rfl
  | cleared _ =>
    rw [List.countP_append]
    rfl
  | sent _ _ =>
    rw [OtaNode.bmtMeshReportOtaResult, List.countP_append]
    rfl

theorem accounted_after (h : s.Accounted) (silenceLog : Bool) (e : SessionEvent) :
    (s.after silenceLog e).Accounted := by
  have hmove := after_move silenceLog s e
  generalize s.after silenceLog e = s' at hmove ⊢
  cases hmove with
  | quiet _ _ _ _ _ _ _ => exact h.move rfl rfl (fun _ => Iff.rfl) rfl
  | creates net _ => exact h.creates _ net
  | task k c => exact h.otaWifiTask silenceLog k c
  | crashes _ net => exact (h.setNet net).abort
  | reports c => exact h.move rfl rfl (fun _ => Iff.rfl) (countP_reportPendingTask c s.pending)
  | reboots => exact h.reboot Option.none

theorem accounted_boot (flag : UInt8) : (boot flag).Accounted :=
  ⟨fun _ _ => rfl, List.nodup_nil, fun k => by simp [boot], rfl⟩

/-- A step ends a session, and `bmt_ota_trigger` would start another, or takes it nearer to its end
if it is one of its own task, and no further from it otherwise. -/
theorem ends_or_nearer (silenceLog : Bool) {k : ℕ} (ha : s.Accounted)
    (hk : (s.tasks k).stage ≠ .none) (e : SessionEvent) :
    ((s.after silenceLog e).tasks k).stage = .none ∧ (s.after silenceLog e).triggered = false ∨
      ((s.after silenceLog e).tasks k).stage ≠ .none ∧
        ((s.after silenceLog e).tasks k).stage.stepsLeft + (e.isTask k).toNat ≤
          (s.tasks k).stage.stepsLeft := by
  have hmove := after_move silenceLog s e
  generalize s.after silenceLog e = s' at hmove ⊢
  cases hmove with
  | quiet _ _ _ _ _ _ hother =>
    rw [hother k]
    exact Or.inr ⟨hk, le_rfl⟩
  | creates net _ =>
    have hne : k ≠ s.started := by
      rintro rfl
      exact hk (ha.fresh _ le_rfl)
    refine Or.inr ?_
    dsimp only
    rw [Function.update_of_ne hne]
    exact ⟨hk, le_rfl⟩
  | task j c =>
    have hmove := otaWifiTask_move silenceLog j c s
    generalize s.otaWifiTask silenceLog j c = s' at hmove ⊢
    have hother : j ≠ k → ((SessionEvent.task j c).isTask k).toNat = 0 := by
      intro hj
      rw [Bool.toNat_eq_zero]
      exact beq_false_of_ne hj
    -- a step to another stage is one of the session's own task, or does not concern it
    have hset : ∀ t : WifiTask, t.stage ≠ .none ∨ j ≠ k →
        t.stage.stepsLeft < (s.tasks j).stage.stepsLeft →
        (Function.update s.tasks j t k).stage ≠ .none ∧
          (Function.update s.tasks j t k).stage.stepsLeft + ((SessionEvent.task j c).isTask k).toNat ≤
            (s.tasks k).stage.stepsLeft := by
      intro t ht hleft
      by_cases hj : j = k
      · rw [hj] at hleft ⊢
        rw [Function.update_self]
        exact ⟨ht.resolve_right (not_not_intro hj), (Nat.add_le_add_left (Bool.toNat_le _) _).trans hleft⟩
      · rw [Function.update_of_ne (Ne.symm hj), hother hj]
        exact ⟨hk, le_rfl⟩
    cases hmove with
    | idle hidle =>
      have hj : j ≠ k := by
        rintro rfl
        exact hk hidle
      rw [hother hj]
      exact Or.inr ⟨hk, le_rfl⟩
    | goesOn t net installs ht hleft _ _ => exact Or.inr (hset t (Or.inl ht) hleft)
    | marks hwriting =>
      refine Or.inr (hset _ (Or.inl WifiStage.noConfusion) ?_)
      rw [hwriting]
      exact (by decide : WifiStage.restarting.stepsLeft < WifiStage.writing.stepsLeft)
    | crashes net _ => exact Or.inl ⟨rfl, rfl⟩
    | restarts _ => exact Or.inl ⟨rfl, rfl⟩
    | finishes mesh hreport =>
      by_cases hj : j = k
      · refine Or.inl ⟨?_, rfl⟩
        rw [hj]
        unfold WifiOta.finish
        dsimp only
        rw [Function.update_self]
      · refine Or.inr (hset _ (Or.inr hj) ?_)
        rw [hreport]
        exact (by decide : WifiStage.none.stepsLeft < WifiStage.report.stepsLeft)
  | crashes _ _ => exact Or.inl ⟨rfl, rfl⟩
  | reports c => exact Or.inr ⟨hk, le_rfl⟩
  | reboots => exact Or.inl ⟨rfl, rfl⟩

/-- The task gets to its end, or is cut short, within the steps that are left. -/
theorem ends_within (silenceLog : Bool) {k : ℕ} (ha : s.Accounted)
    (hk : (s.tasks k).stage ≠ .none) (es : List SessionEvent)
    (hes : (s.tasks k).stage.stepsLeft ≤ es.countP (SessionEvent.isTask k)) :
    ∃ pre, pre <+: es ∧ ((pre.foldl (after silenceLog) s).tasks k).stage = .none ∧
      (pre.foldl (after silenceLog) s).triggered = false := by
  induction es generalizing s with
  | nil => exact absurd (WifiStage.eq_none_of_stepsLeft (Nat.le_zero.mp hes)) hk
  | cons e es ih =>
    rcases ends_or_nearer silenceLog ha hk e with hend | ⟨hrun, hnear⟩
    · exact ⟨[e], List.cons_prefix_cons.mpr ⟨rfl, List.nil_prefix⟩, hend⟩
    · have hle : ((s.after silenceLog e).tasks k).stage.stepsLeft ≤
          es.countP (SessionEvent.isTask k) := by
        rw [List.countP_cons] at hes
        cases hown : e.isTask k with
        | true =>
          rw [hown, if_pos rfl] at hes
          rw [hown] at hnear
          exact Nat.le_of_succ_le_succ (hnear.trans hes)
        | false =>
          rw [hown, if_neg Bool.false_ne_true] at hes
          exact ((Nat.le_add_right _ _).trans hnear).trans hes
      obtain ⟨pre, hpre, hidle⟩ := ih (accounted_after ha silenceLog e) hrun hle
      exact ⟨e :: pre, List.cons_prefix_cons.mpr ⟨rfl, hpre⟩, hidle⟩

inductive PendingMove (s : WifiOta) : OtaNode → Prop
  | quiet : PendingMove s s.pending
  | reboot : PendingMove s s.pending.reboot
  | failed (mesh : MeshCalls) : PendingMove s (s.pending.bmtMeshReportOtaResult 1 mesh)
  | marked (k : ℕ) (h : (s.tasks k).stage = .writing) :
    PendingMove s { s.pending with flag := 1, log := s.log ++ [.marked] }
  | report (c : ReportCalls) : PendingMove s (s.pending.reportPendingTask c)

theorem pending_reportPendingTask (c : ReportCalls) (s : WifiOta) :
    (s.reportPendingTask c).pending = s.pending.reportPendingTask c := by
  have hwifi : (s.pending.reportPendingTask c).wifi = .idle := by
    have hmove := OtaNode.reportPendingTask_move c s.pending
    generalize s.pending.reportPendingTask c = n at hmove ⊢
    cases hmove <;> rfl
  unfold reportPendingTask
  cases hn : s.pending.reportPendingTask c
  rw [hn] at hwifi
  cases hwifi
  rfl

theorem pending_after (silenceLog : Bool) (s : WifiOta) (e : SessionEvent) :
    PendingMove s (s.after silenceLog e).pending := by
  have hmove := after_move silenceLog s e
  generalize s.after silenceLog e = s' at hmove ⊢
  cases hmove with
  | quiet _ _ _ _ _ _ _ => exact .quiet
  | creates _ _ => exact .quiet
  | task k c =>
    have hmove := otaWifiTask_move silenceLog k c s
    generalize s.otaWifiTask silenceLog k c = s' at hmove ⊢
    cases hmove with
    | idle _ => exact .quiet
    | goesOn _ _ _ _ _ _ _ => exact .quiet
    | marks hwriting => exact .marked k hwriting
    | crashes _ _ => exact .reboot
    | restarts _ => exact .reboot
    | finishes mesh _ =>
      have hpending : (s.finish k mesh).pending =
          if (s.tasks k).doReportFail then s.pending.bmtMeshReportOtaResult 1 mesh
          else s.pending := by
        unfold pending WifiOta.finish OtaNode.bmtMeshReportOtaResult
        dsimp only
        split_ifs <;> rfl
      rw [hpending]
      split_ifs
      · exact .failed mesh
      · exact .quiet
  | crashes _ _ => exact .reboot
  | reports c =>
    rw [pending_reportPendingTask]
    exact .report c
  | reboots => exact .reboot

/-- An update is marked only after a download that succeeded. -/
def Installed (s : WifiOta) : Prop :=
  OtaLog.marked ∈ s.log ∨ (∃ k, (s.tasks k).stage.Updating) → 0 < s.installs

/-- A step ends no download but one that succeeds, and only that leads to `mark_pending`. -/
theorem updating_after (silenceLog : Bool) (s : WifiOta) (e : SessionEvent) :
    s.installs ≤ (s.after silenceLog e).installs ∧
      ∀ k, ((s.after silenceLog e).tasks k).stage.Updating →
        (s.tasks k).stage.Updating ∨ 0 < (s.after silenceLog e).installs := by
  have hnone : ¬ WifiStage.none.Updating := by decide
  have hset : ∀ (j : ℕ) (t : WifiTask) (P : Prop),
      (t.stage.Updating → (s.tasks j).stage.Updating ∨ P) → ∀ k,
      (Function.update s.tasks j t k).stage.Updating → (s.tasks k).stage.Updating ∨ P := by
    intro j t P ht k
    rw [Function.update_apply]
    split_ifs with hj
    · rw [hj]
      exact ht
    · exact Or.inl
  have hmove := after_move silenceLog s e
  generalize s.after silenceLog e = s' at hmove ⊢
  cases hmove with
  | quiet _ _ _ _ _ _ _ => exact ⟨le_rfl, fun k => Or.inl⟩
  | creates _ _ => exact ⟨le_rfl, hset s.started _ _ fun hu => absurd hu (by decide)⟩
  | task j c =>
    have hmove := otaWifiTask_move silenceLog j c s
    generalize s.otaWifiTask silenceLog j c = s' at hmove ⊢
    cases hmove with
    | idle _ => exact ⟨le_rfl, fun k => Or.inl⟩
    | goesOn t net installs _ _ hinstalls hupdating => exact ⟨hinstalls, hset j t _ hupdating⟩
    | marks hwriting =>
      exact ⟨le_rfl, hset j _ _ fun _ => Or.inl (Or.inr (Or.inl hwriting))⟩
    | crashes _ _ => exact ⟨le_rfl, fun k hu => absurd hu hnone⟩
    | restarts _ => exact ⟨le_rfl, fun k hu => absurd hu hnone⟩
    | finishes mesh _ => exact ⟨le_rfl, hset j _ _ fun hu => absurd hu hnone⟩
  | crashes _ _ => exact ⟨le_rfl, fun k hu => absurd hu hnone⟩
  | reports c => exact ⟨le_rfl, fun k => Or.inl⟩
  | reboots => exact ⟨le_rfl, fun k hu => absurd hu hnone⟩

/-- A new mark is one by a task in `mark_pending`. -/
theorem marked_after (s : WifiOta) (e : SessionEvent)
    (h : OtaLog.marked ∈ (s.after silenceLog e).log) :
    OtaLog.marked ∈ s.log ∨ ∃ k, (s.tasks k).stage.Updating := by
  have hold : ∀ {entry : OtaLog}, entry ≠ .marked → OtaLog.marked ∈ s.log ++ [entry] →
      OtaLog.marked ∈ s.log := by
    intro entry hne hmem
    refine (List.mem_append.mp hmem).resolve_right ?_
    intro hnew
    exact hne (List.mem_singleton.mp hnew).symm
  have hlog : (s.after silenceLog e).log = (s.after silenceLog e).pending.log := rfl
  rw [hlog] at h
  have hmove := pending_after silenceLog s e
  generalize (s.after silenceLog e).pending = n at hmove h
  cases hmove with
  | quiet => exact Or.inl h
  | reboot => exact Or.inl h
  | failed mesh => exact Or.inl (hold OtaLog.noConfusion h)
  | marked k hwriting => exact Or.inr ⟨k, Or.inr (Or.inl hwriting)⟩
  | report c =>
    have hreport := OtaNode.reportPendingTask_move c s.pending
    generalize s.pending.reportPendingTask c = n at hreport h
    cases hreport with
    | quiet _ _ _ => exact Or.inl h
    | cleared _ => exact Or.inl (hold OtaLog.noConfusion h)
    | sent _ _ => exact Or.inl (hold OtaLog.noConfusion h)

theorem Installed.after (h : s.Installed) (e : SessionEvent) :
    (s.after silenceLog e).Installed := by
  obtain ⟨hle, hupdating⟩ := updating_after silenceLog s e
  have hbefore : OtaLog.marked ∈ s.log ∨ (∃ k, (s.tasks k).stage.Updating) →
      0 < (s.after silenceLog e).installs := fun hold => (h hold).trans_le hle
  rintro (hmarked | ⟨k, hk⟩)
  · exact hbefore (marked_after s e hmarked)
  · rcases hupdating k hk with hold | hpos
    · exact hbefore (Or.inr ⟨k, hold⟩)
    · exact hpos

end WifiOta

open WifiOta

theorem throughout_accounted (silenceLog : Bool) (flag : UInt8) (es : List SessionEvent) :
    Run.Throughout (Run.total (after silenceLog)) Accounted (boot flag) es := by
  apply Run.throughout_of_forall
  · rintro s e s' h ⟨⟩
    exact accounted_after h silenceLog e
  · exact accounted_boot flag

/-- From any point of any run, a session is over within 18 steps of its task, and the node ready for
the next one. -/
theorem wifi_session_ends (silenceLog : Bool) (flag : UInt8) (k : ℕ)
    (before es : List SessionEvent) (hes : 18 ≤ es.countP (SessionEvent.isTask k)) :
    ∃ pre, pre <+: es ∧
      (((before ++ pre).foldl (after silenceLog) (boot flag)).tasks k).stage = .none ∧
        (((before.foldl (after silenceLog) (boot flag)).tasks k).stage ≠ .none →
          ((before ++ pre).foldl (after silenceLog) (boot flag)).triggered = false) := by
  have hacc : (before.foldl (after silenceLog) (boot flag)).Accounted :=
    (throughout_accounted silenceLog flag before).last Run.run_total
  by_cases hk : ((before.foldl (after silenceLog) (boot flag)).tasks k).stage = .none
  · refine ⟨[], List.nil_prefix, ?_, fun hrun => absurd hk hrun⟩
    rw [List.append_nil]
    exact hk
  · obtain ⟨pre, hpre, hend, hready⟩ :=
      ends_within silenceLog hacc hk es ((WifiStage.stepsLeft_le _).trans hes)
    refine ⟨pre, hpre, ?_, fun _ => ?_⟩
    · rw [List.foldl_append]
      exact hend
    · rw [List.foldl_append]
      exact hready

def firstTrigger : List SessionEvent := [.init true, .trigger, .store, .start true]

/-- A scanner whose access point does not answer. -/
theorem wifi_session_ends_timeout :
    ∃ pre, pre <+: List.replicate 18 (SessionEvent.task 0 {}) ∧
      (((firstTrigger ++ pre).foldl (after true) (boot 0)).tasks 0).stage = .none ∧
        (((firstTrigger.foldl (after true) (boot 0)).tasks 0).stage ≠ .none →
          ((firstTrigger ++ pre).foldl (after true) (boot 0)).triggered = false) :=
  wifi_session_ends true 0 0 firstTrigger (List.replicate 18 (.task 0 {})) (by decide)

end BleMeshTracking.Ota
