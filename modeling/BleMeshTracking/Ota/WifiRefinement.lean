import BleMeshTracking.Library.Stuttering
import BleMeshTracking.Ota.WifiTidy

/-!
# The node of the pending result behind the WiFi sessions

As long as no session starts beside another, the sessions call by call refine the node of the pending
result, which downloads in one step and neither brings WiFi up nor tears it down.
-/

namespace BleMeshTracking.Ota

/-- `ota_wifi_task` at a call as the node of the pending result sees it. -/
def WifiStage.toTask : WifiStage → OtaWifiTask
  | .none => .idle
  | .marking => .marking
  | .writing => .writing
  | .restarting => .restarting
  | _ => .fetching

/-- `report_pending_task` takes no notice of the session. -/
theorem OtaNode.reportPendingTask_wifi (c : ReportCalls) (w : OtaWifiTask) (n : OtaNode) :
    OtaNode.reportPendingTask c { n with wifi := w } =
      { n.reportPendingTask c with wifi := w } := by
  obtain ⟨flag, wifi, report, log⟩ := n
  unfold reportPendingTask
  cases report with
  | clearing =>
    dsimp only
    split_ifs <;> rfl
  | _ => rfl

namespace WifiOta

variable {silenceLog : Bool} {n : OtaNode} {s s' : WifiOta}

def node (t : WifiStage) (s : WifiOta) : OtaNode := { s.pending with wifi := t.toTask }

/-- What the node of the pending result does in a call of `ota_wifi_task`.  A download that fails is
over for it when the result is due, and every crash is a reboot. -/
def taskToOta (silenceLog : Bool) (k : ℕ) (c : SessionCalls) (s : WifiOta) : Option OtaEvent :=
  match (s.tasks k).stage with
  | .none => none
  | .fetch => if c.wifi.fetch = .ok then some (.wifi c.wifi) else none
  | .marking => some (.wifi c.wifi)
  | .writing => some (.wifi c.wifi)
  | .restarting => some (.wifi c.wifi)
  | .report =>
    let fetch := if (s.tasks k).doReportFail then EspErr.fail else .notFound
    some (.wifi { fetch, mesh := c.wifi.mesh })
  | t => if (s.net.call silenceLog c t).1.isNone then some .reboot else none

def toOta (silenceLog : Bool) (s : WifiOta) : SessionEvent → Option OtaEvent
  | .init _ => none
  | .trigger => none
  | .store => none
  | .start created =>
    if s.stored = 0 then none else if created then some .trigger else some .reboot
  | .task k c => s.taskToOta silenceLog k c
  | .wifiEvent e clash => if (s.net.dispatch e clash).isNone then some .reboot else none
  | .report c => if s.inited then some (.report c) else none
  | .reboot => some .reboot

/-- The node of the pending result is where the only session is that may be under way. -/
def Simulates (n : OtaNode) (s : WifiOta) : Prop :=
  ∃ k, (∀ j ≠ k, (s.tasks j).stage = .none) ∧ n = s.node (s.tasks k).stage

theorem Simulates.keep (h : Simulates n s) (htasks : s'.tasks = s.tasks)
    (hpending : s'.pending = s.pending) : Simulates n s' := by
  unfold Simulates node at h ⊢
  rw [htasks, hpending]
  exact h

theorem Simulates.reboot (h : Simulates n s) (restarts : Option ℕ) :
    Simulates n.reboot (s.reboot restarts) := by
  obtain ⟨k, -, rfl⟩ := h
  exact ⟨k, fun _ _ => rfl, rfl⟩

theorem Simulates.crashes (h : Simulates n s) (net : WifiNet) :
    Simulates n.reboot (WifiOta.abort { s with net }) := by
  obtain ⟨k, -, rfl⟩ := h
  exact ⟨k, fun _ _ => rfl, rfl⟩

theorem Simulates.startTask (h : Simulates n s) (ha : s.Accounted) (silenceLog created : Bool)
    (halone : s.StartsAlone (.start created)) :
    Simulates ((s.toOta silenceLog (.start created)).toList.foldl OtaNode.after n)
      (s.startTask created) := by
  unfold toOta WifiOta.startTask
  dsimp only
  split_ifs with hstored hcreated
  · exact h
  · have hnone := stage_of_quiet ha (halone hcreated hstored)
    obtain ⟨k, -, rfl⟩ := h
    rw [hnone k]
    refine ⟨s.started, ?_, ?_⟩
    · intro j hj
      dsimp only
      rw [Function.update_of_ne hj]
      exact hnone j
    · dsimp only
      rw [Function.update_self]
      rfl
  · exact h.crashes _

theorem Simulates.reportPendingTask (h : Simulates n s) (c : ReportCalls) :
    Simulates (n.reportPendingTask c) (s.reportPendingTask c) := by
  obtain ⟨k, hother, rfl⟩ := h
  refine ⟨k, hother, ?_⟩
  unfold node
  rw [pending_reportPendingTask]
  exact OtaNode.reportPendingTask_wifi c _ s.pending

/-- A step of the task that is under way, with what the node makes of it. -/
theorem simulates_setTask {k : ℕ} {t : WifiTask} (hother : ∀ j ≠ k, (s.tasks j).stage = .none)
    (htasks : s'.tasks = Function.update s.tasks k t) (hn : n = s'.node t.stage) :
    Simulates n s' := by
  refine ⟨k, ?_, ?_⟩
  · intro j hj
    rw [htasks, Function.update_of_ne hj]
    exact hother j hj
  · rw [htasks, Function.update_self]
    exact hn

/-- A call around the download is no step of the node, unless the node crashes. -/
theorem Simulates.netCall {k : ℕ} (hother : ∀ j ≠ k, (s.tasks j).stage = .none)
    (silenceLog : Bool) (c : SessionCalls) (hstage : (s.tasks k).stage.toTask = .fetching)
    (hnext : ∀ ok, ((s.tasks k).stage.next ok).toTask = .fetching) :
    Simulates
      ((if (s.net.call silenceLog c (s.tasks k).stage).1.isNone then some OtaEvent.reboot
        else none).toList.foldl OtaNode.after (s.node (s.tasks k).stage))
      (s.netCall silenceLog k c) := by
  have hhere : Simulates (s.node (s.tasks k).stage) s := ⟨k, hother, rfl⟩
  unfold WifiOta.netCall
  rcases s.net.call silenceLog c (s.tasks k).stage with ⟨_ | ok, net⟩
  · exact hhere.crashes net
  · apply simulates_setTask hother rfl
    unfold node
    rw [hstage, hnext ok]
    rfl

theorem Simulates.otaWifiTask (h : Simulates n s) (k : ℕ) (c : SessionCalls) :
    Simulates ((s.taskToOta silenceLog k c).toList.foldl OtaNode.after n)
      (s.otaWifiTask silenceLog k c) := by
  have hhere := h
  obtain ⟨k', hother, rfl⟩ := h
  unfold taskToOta WifiOta.otaWifiTask
  by_cases hk : k = k'
  · subst hk
    have hcall := Simulates.netCall hother silenceLog c
    cases hstage : (s.tasks k).stage with
    | none =>
      rw [hstage] at hhere
      exact hhere
    | fetch =>
      dsimp only
      unfold fetched
      have hstep : c.wifi.fetch = .ok → (s.node .fetch).otaWifiTask c.wifi = s.node .marking := by
        intro hok
        unfold OtaNode.otaWifiTask node WifiStage.toTask
        dsimp only
        rw [hok]
      cases hfetch : c.wifi.fetch with
      | ok => exact simulates_setTask hother (t := ⟨.marking, _⟩) rfl (hstep hfetch)
      | notFound => exact simulates_setTask hother rfl rfl
      | _ => exact simulates_setTask hother (t := ⟨.wifiStop, _⟩) rfl rfl
    | marking =>
      have hstep : (s.node .marking).otaWifiTask c.wifi =
          s.node (if c.wifi.nvsOpen then .writing else .restarting) := by
        unfold OtaNode.otaWifiTask node WifiStage.toTask
        dsimp only
        split_ifs <;> rfl
      exact simulates_setTask hother (t := ⟨_, _⟩) rfl hstep
    | writing =>
      dsimp only
      split_ifs with hstored
      · exact simulates_setTask hother (t := ⟨.restarting, _⟩) rfl (if_pos hstored)
      · exact simulates_setTask hother (t := ⟨.restarting, _⟩) rfl (if_neg hstored)
    | restarting => exact hhere.reboot _
    | report =>
      apply simulates_setTask hother (t := {}) rfl
      unfold finish node pending
      cases (s.tasks k).doReportFail with
      | true => rfl
      | false => rfl
    | _ =>
      rw [hstage] at hcall
      exact hcall rfl fun ok => by cases ok <;> rfl
  · rw [hother k hk]
    exact hhere

theorem simulates_after (h : Simulates n s) (ha : s.Accounted) {e : SessionEvent}
    (halone : s.StartsAlone e) :
    Simulates ((s.toOta silenceLog e).toList.foldl OtaNode.after n) (s.after silenceLog e) := by
  unfold toOta WifiOta.after
  cases e with
  | init complete => exact h.keep rfl rfl
  | trigger =>
    unfold bmtOtaTrigger
    dsimp only
    split_ifs <;> exact h.keep rfl rfl
  | store =>
    unfold storeTriggered
    dsimp only
    split_ifs <;> exact h.keep rfl rfl
  | start created => exact h.startTask ha silenceLog created halone
  | task k c => exact h.otaWifiTask k c
  | wifiEvent e clash =>
    unfold WifiOta.dispatch
    dsimp only
    cases s.net.dispatch e clash with
    | none => exact h.crashes s.net
    | some net => exact h.keep rfl rfl
  | report c =>
    dsimp only
    split_ifs
    · exact h.reportPendingTask c
    · exact h
  | reboot => exact h.reboot Option.none

/-- The run of the node of the pending result behind the sessions. -/
def otaRun (silenceLog : Bool) (flag : UInt8) (es : List SessionEvent) : List OtaEvent :=
  Stuttering.trace (after silenceLog) (toOta silenceLog) (boot flag) es

end WifiOta

open WifiOta

/-- As long as no session starts beside another, the sessions refine the node of the pending result
at every point of the run, and so every cleared flag has its result accepted, or about to be sent,
exactly if the reports get through in the run of that node. -/
theorem wifi_session_refines (silenceLog : Bool) (flag : UInt8) (es : List SessionEvent)
    (halone : Run.Meets (Run.total (after silenceLog)) StartsAlone (boot flag) es) :
    (∀ pre, pre <+: es →
      Simulates ((otaRun silenceLog flag pre).foldl OtaNode.after { flag })
        (pre.foldl (after silenceLog) (boot flag))) ∧
      (Run.Throughout (Run.total (after silenceLog)) (fun s => s.pending.Reported) (boot flag) es ↔
        Run.Meets (Run.total OtaNode.after) OtaNode.GetsThrough { flag }
          (otaRun silenceLog flag es)) := by
  have hstep : ∀ s n e, Simulates n s ∧ s.Accounted → s.StartsAlone e →
      Simulates ((s.toOta silenceLog e).toList.foldl OtaNode.after n) (s.after silenceLog e) ∧
        (s.after silenceLog e).Accounted :=
    fun s n e h halone => ⟨simulates_after h.1 h.2 halone, accounted_after h.2 silenceLog e⟩
  have hstart : Simulates { flag } (boot flag) ∧ (boot flag).Accounted :=
    ⟨⟨0, fun _ _ => rfl, rfl⟩, accounted_boot flag⟩
  refine ⟨fun pre hpre => (Stuttering.related_prefix hstep hstart halone hpre).1, ?_⟩
  rw [← OtaNode.reported_iff]
  apply Stuttering.throughout_trace_iff hstep _ hstart halone
  rintro s n ⟨⟨k, -, rfl⟩, -⟩
  exact Iff.rfl

/-- An update whose result is due after the reboot, and another one. -/
def twoUpdates : List SessionEvent :=
  firstTrigger ++ List.replicate 7 (.task 0 {}) ++ [.wifiEvent .staGotIp false] ++
    List.replicate 5 (.task 0 {}) ++ firstTrigger ++ List.replicate 4 (.report {})

theorem wifi_session_refines_twoUpdates :
    (∀ pre, pre <+: twoUpdates →
      Simulates ((otaRun true 0 pre).foldl OtaNode.after { flag := 0 })
        (pre.foldl (after true) (boot 0))) ∧
      (Run.Throughout (Run.total (after true)) (fun s => s.pending.Reported) (boot 0) twoUpdates ↔
        Run.Meets (Run.total OtaNode.after) OtaNode.GetsThrough { flag := 0 }
          (otaRun true 0 twoUpdates)) :=
  wifi_session_refines true 0 twoUpdates (by decide)

/-- Two triggers, the four steps of the first update and the four of its report. -/
example : (otaRun true 0 twoUpdates).length = 10 := by decide

end BleMeshTracking.Ota
