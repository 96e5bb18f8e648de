import BleMeshTracking.Library.History
import BleMeshTracking.Library.Run
import Mathlib.Data.UInt

/-!
# The pending OTA result of a node

`bmt_ota.c` of scanners and relays: `ota_wifi_task` leaves `ota_pending` in NVS before it restarts,
and `report_pending_task` clears it after the boot and reports to the gateway.  The node may reboot
between any two steps; a reboot within an NVS write is one with the write done or lost.
-/

namespace BleMeshTracking.Ota

inductive EspErr
  | ok
  | invalidState
  | notFound
  | noMem
  | fail
  deriving DecidableEq

/-- What `bmt_mesh_publish_to_gateway` finds in `bmt_mesh_node.c`, and the result of
`esp_ble_mesh_model_publish`. -/
structure MeshCalls where
  provisioned : Bool := true
  appIdx : UInt16 := 0
  vndModel : Bool := true
  modelPublish : EspErr := .ok

def bmtMeshPublishToGateway (m : MeshCalls) : EspErr :=
  if !m.provisioned || m.appIdx == 0xFFFF || !m.vndModel then .invalidState else m.modelPublish

/-- What NVS and the mesh took: the flag set and cleared, and the results sent. -/
inductive OtaLog
  | marked
  | cleared
  | result (status : UInt8) (err : EspErr)

def OtaLog.isMarked : OtaLog → Prop
  | .marked => True
  | _ => False

def OtaLog.isCleared : OtaLog → Prop
  | .cleared => True
  | _ => False

def OtaLog.isAccepted : OtaLog → Prop
  | .result status err => status = 0 ∧ err = .ok
  | _ => False

/-- `ota_wifi_task`: not running, before the end of the download, in `mark_pending`, and before
`esp_restart`. -/
inductive OtaWifiTask
  | idle
  | fetching
  | marking
  | writing
  | restarting
  deriving DecidableEq

/-- `report_pending_task`: in its delay, in `check_and_clear_pending`, and about to report, with
whether NVS took the cleared flag. -/
inductive ReportTask
  | delay
  | opened
  | clearing
  | reporting (stored : Bool)
  | done
  deriving DecidableEq

structure OtaNode where
  /-- `ota_pending` in NVS. -/
  flag : UInt8 := 0
  wifi : OtaWifiTask := .idle
  report : ReportTask := .delay
  log : List OtaLog := []

structure WifiCalls where
  fetch : EspErr := .ok
  nvsOpen : Bool := true
  nvsStored : Bool := true
  mesh : MeshCalls := {}

structure ReportCalls where
  nvsOpen : Bool := true
  nvsStored : Bool := true
  mesh : MeshCalls := {}

inductive OtaEvent
  | trigger
  | wifi (calls : WifiCalls)
  | report (calls : ReportCalls)
  | reboot

namespace OtaNode

def bmtMeshReportOtaResult (status : UInt8) (m : MeshCalls) (s : OtaNode) : OtaNode :=
  { s with log := s.log ++ [.result status (bmtMeshPublishToGateway m)] }

def reboot (s : OtaNode) : OtaNode := { s with wifi := .idle, report := .delay }

def bmtOtaTrigger (s : OtaNode) : OtaNode :=
  if s.wifi = .idle then { s with wifi := .fetching } else s

def otaWifiTask (c : WifiCalls) (s : OtaNode) : OtaNode :=
  match s.wifi with
  | .idle => s
  | .fetching =>
    match c.fetch with
    | .ok => { s with wifi := .marking }
    | .notFound => { s with wifi := .idle }
    | _ => { s.bmtMeshReportOtaResult 1 c.mesh with wifi := .idle }
  | .marking => { s with wifi := if c.nvsOpen then .writing else .restarting }
  | .writing =>
    if c.nvsStored then { s with flag := 1, log := s.log ++ [.marked], wifi := .restarting }
    else { s with wifi := .restarting }
  | .restarting => s.reboot

def reportPendingTask (c : ReportCalls) (s : OtaNode) : OtaNode :=
  match s.report with
  | .delay => { s with report := if c.nvsOpen then .opened else .done }
  | .opened => { s with report := if s.flag = 0 then .done else .clearing }
  | .clearing =>
    if c.nvsStored then { s with flag := 0, log := s.log ++ [.cleared], report := .reporting true }
    else { s with report := .reporting false }
  | .reporting _ => { s.bmtMeshReportOtaResult 0 c.mesh with report := .done }
  | .done => s

def after (s : OtaNode) : OtaEvent → OtaNode
  | .trigger => s.bmtOtaTrigger
  | .wifi c => s.otaWifiTask c
  | .report c => s.reportPendingTask c
  | .reboot => s.reboot

/-- The flag was cleared, and no success has been reported since. -/
def Unreported (s : OtaNode) : Prop := History.Pending OtaLog.isCleared OtaLog.isAccepted s.log

def Reported (s : OtaNode) : Prop := s.Unreported → s.report = .reporting true

/-- What `mark_pending` has written and nothing cleared is found at the next boot. -/
def Kept (s : OtaNode) : Prop :=
  History.Pending OtaLog.isMarked OtaLog.isCleared s.log → s.flag ≠ 0

/-- Once the flag is cleared the report gets through, and the node does not reboot before. -/
def GetsThrough (s : OtaNode) : OtaEvent → Prop
  | .report c => s.report = .reporting true → bmtMeshPublishToGateway c.mesh = .ok
  | .wifi _ => s.wifi = .restarting → s.report ≠ .reporting true
  | .reboot => s.report ≠ .reporting true
  | .trigger => True

instance (s : OtaNode) (e : OtaEvent) : Decidable (GetsThrough s e) :=
  match e with
  | .report _ => inferInstanceAs (Decidable (_ → _))
  | .wifi _ => inferInstanceAs (Decidable (_ → _))
  | .reboot => inferInstanceAs (Decidable (_ ≠ _))
  | .trigger => isTrue trivial

variable {s : OtaNode}

theorem unreported_cleared {t : OtaNode} (h : t.log = s.log ++ [.cleared]) : t.Unreported := by
  unfold Unreported
  rw [h]
  exact History.pending_concat_iff.mpr (Or.inl trivial)

theorem unreported_marked {t : OtaNode} (h : t.log = s.log ++ [.marked]) :
    t.Unreported ↔ s.Unreported := by
  unfold Unreported
  rw [h, History.pending_concat_iff]
  simp only [OtaLog.isCleared, OtaLog.isAccepted, false_or, not_false_eq_true, and_true]

/-- Only an accepted result of success settles a cleared flag. -/
theorem unreported_result (status : UInt8) (m : MeshCalls) {t : OtaNode}
    (h : t.log = (s.bmtMeshReportOtaResult status m).log) :
    t.Unreported ↔ s.Unreported ∧ ¬ (status = 0 ∧ bmtMeshPublishToGateway m = .ok) := by
  unfold Unreported
  rw [h]
  unfold bmtMeshReportOtaResult
  rw [History.pending_concat_iff]
  simp only [OtaLog.isCleared, OtaLog.isAccepted, false_or]

inductive WifiMove (c : WifiCalls) (s : OtaNode) : OtaNode → Prop
  | quiet (wifi : OtaWifiTask) (h : s.wifi ≠ .restarting) : WifiMove c s { s with wifi }
  | failed (h : s.wifi = .fetching) :
    WifiMove c s { s.bmtMeshReportOtaResult 1 c.mesh with wifi := .idle }
  | marked (h : s.wifi = .writing) :
    WifiMove c s { s with flag := 1, log := s.log ++ [.marked], wifi := .restarting }
  | restart (h : s.wifi = .restarting) : WifiMove c s s.reboot

theorem otaWifiTask_move (c : WifiCalls) (s : OtaNode) : WifiMove c s (s.otaWifiTask c) := by
  unfold otaWifiTask
  cases hwifi : s.wifi with
  | idle =>
    have hquiet := WifiMove.quiet (c := c) (s := s) s.wifi (by rw [hwifi]; decide)
    exact hquiet
  | fetching =>
    have hne : s.wifi ≠ .restarting := by rw [hwifi]; decide
    cases hfetch : c.fetch with
    | ok => exact .quiet _ hne
    | notFound => exact .quiet _ hne
    | invalidState => exact .failed hwifi
    | noMem => exact .failed hwifi
    | fail => exact .failed hwifi
  | marking => exact .quiet _ (by rw [hwifi]; decide)
  | writing =>
    dsimp only
    split_ifs
    · exact .marked hwifi
    · exact .quiet _ (by rw [hwifi]; decide)
  | restarting => exact .restart hwifi

inductive ReportMove (c : ReportCalls) (s : OtaNode) : OtaNode → Prop
  | quiet (report : ReportTask) (h : ∀ stored, s.report ≠ .reporting stored)
    (h' : report ≠ .reporting true) : ReportMove c s { s with report }
  | cleared (h : s.report = .clearing) :
    ReportMove c s { s with flag := 0, log := s.log ++ [.cleared], report := .reporting true }
  | sent (stored : Bool) (h : s.report = .reporting stored) :
    ReportMove c s { s.bmtMeshReportOtaResult 0 c.mesh with report := .done }

theorem reportPendingTask_move (c : ReportCalls) (s : OtaNode) :
    ReportMove c s (s.reportPendingTask c) := by
  unfold reportPendingTask
  cases hreport : s.report with
  | delay =>
    refine .quiet _ (fun _ => by rw [hreport]; exact ReportTask.noConfusion) ?_
    split_ifs
    · exact ReportTask.noConfusion
    · exact ReportTask.noConfusion
  | opened =>
    refine .quiet _ (fun _ => by rw [hreport]; exact ReportTask.noConfusion) ?_
    split_ifs
    · exact ReportTask.noConfusion
    · exact ReportTask.noConfusion
  | clearing =>
    dsimp only
    split_ifs
    · exact .cleared hreport
    · exact .quiet _ (fun _ => by rw [hreport]; exact ReportTask.noConfusion) (by decide)
  | reporting stored => exact .sent stored hreport
  | done =>
    have hquiet := ReportMove.quiet (c := c) (s := s) s.report
      (fun _ => by rw [hreport]; exact ReportTask.noConfusion) (by rw [hreport]; decide)
    exact hquiet

inductive OtaMove (s : OtaNode) : OtaEvent → OtaNode → Prop
  | trigger (wifi : OtaWifiTask) : OtaMove s .trigger { s with wifi }
  | wifi {c : WifiCalls} {t : OtaNode} (h : WifiMove c s t) : OtaMove s (.wifi c) t
  | report {c : ReportCalls} {t : OtaNode} (h : ReportMove c s t) : OtaMove s (.report c) t
  | reboot : OtaMove s .reboot s.reboot

theorem after_move (s : OtaNode) (e : OtaEvent) : OtaMove s e (s.after e) := by
  cases e with
  | trigger =>
    unfold OtaNode.after bmtOtaTrigger
    dsimp only
    split_ifs
    · exact .trigger _
    · exact .trigger s.wifi
  | wifi c => exact .wifi (otaWifiTask_move c s)
  | report c => exact .report (reportPendingTask_move c s)
  | reboot => exact .reboot

def HasCleared (s : OtaNode) : Prop := s.report = .reporting true → s.Unreported

theorem unreported_failure (m : MeshCalls) {t : OtaNode}
    (h : t.log = (s.bmtMeshReportOtaResult 1 m).log) : t.Unreported ↔ s.Unreported := by
  rw [unreported_result 1 m h]
  exact and_iff_left fun hone => absurd hone.1 (by decide)

theorem HasCleared.after (h : HasCleared s) (e : OtaEvent) : HasCleared (s.after e) := by
  have hmove := after_move s e
  generalize s.after e = t at hmove ⊢
  cases hmove with
  | trigger wifi => exact h
  | wifi hmove =>
    cases hmove with
    | quiet wifi _ => exact h
    | failed _ =>
      intro hreport
      exact (unreported_failure _ rfl).mpr (h hreport)
    | marked _ =>
      intro hreport
      exact (unreported_marked rfl).mpr (h hreport)
    | restart _ =>
      intro hreport
      cases hreport
  | report hmove =>
    cases hmove with
    | quiet report _ h' => exact fun hreport => absurd hreport h'
    | cleared _ => exact fun _ => unreported_cleared rfl
    | sent stored _ =>
      intro hreport
      cases hreport
  | reboot =>
    intro hreport
    cases hreport

/-- A step keeps every cleared flag reported exactly if it lets the report through. -/
theorem reported_after_iff (hA : HasCleared s) (h : Reported s) (e : OtaEvent) :
    Reported (s.after e) ↔ GetsThrough s e := by
  have hreboot : Reported s.reboot ↔ s.report ≠ .reporting true := by
    refine ⟨?_, ?_⟩
    · intro hr hreport
      cases hr (hA hreport)
    · intro hreport hun
      exact absurd (h hun) hreport
  have hmove := after_move s e
  generalize s.after e = t at hmove ⊢
  cases hmove with
  | trigger wifi => exact ⟨fun _ => trivial, fun _ => h⟩
  | wifi hmove =>
    cases hmove with
    | quiet wifi hwifi => exact ⟨fun _ hrestart => absurd hrestart hwifi, fun _ => h⟩
    | failed hwifi =>
      refine ⟨fun _ hrestart => ?_, fun _ hun => h ((unreported_failure _ rfl).mp hun)⟩
      rw [hwifi] at hrestart
      cases hrestart
    | marked hwifi =>
      refine ⟨fun _ hrestart => ?_, fun _ hun => h ((unreported_marked rfl).mp hun)⟩
      rw [hwifi] at hrestart
      cases hrestart
    | restart hwifi =>
      -- `esp_restart`, wherever the other task is
      rw [hreboot]
      exact ⟨fun hne _ => hne, fun hne => hne hwifi⟩
  | report hmove =>
    cases hmove with
    | quiet report hquiet _ =>
      -- the task has cleared nothing yet
      refine ⟨fun _ hreport => absurd hreport (hquiet true), fun _ hun => ?_⟩
      exact absurd (h hun) (hquiet true)
    | cleared hclearing =>
      refine ⟨fun _ hreport => ?_, fun _ _ => rfl⟩
      rw [hclearing] at hreport
      cases hreport
    | sent stored hsent =>
      -- the result is sent once: if the mesh refuses it, it is lost
      refine ⟨?_, ?_⟩
      · intro hr hreport
        by_contra hlost
        have hun := (unreported_result 0 _ rfl).mpr ⟨hA hreport, fun hok => hlost hok.2⟩
        cases hr hun
      · intro hok hun
        obtain ⟨hun, hlost⟩ := (unreported_result 0 _ rfl).mp hun
        exact absurd ⟨rfl, hok (h hun)⟩ hlost
  | reboot => exact hreboot

theorem Kept.after (h : Kept s) (e : OtaEvent) : Kept (s.after e) := by
  have hresult : ∀ status m, Kept (s.bmtMeshReportOtaResult status m) := by
    intro status m hmarked
    rcases History.pending_concat_iff.mp hmarked with hmark | ⟨hmarked, -⟩
    · cases hmark
    · exact h hmarked
  have hmove := after_move s e
  generalize s.after e = t at hmove ⊢
  cases hmove with
  | trigger wifi => exact h
  | wifi hmove =>
    cases hmove with
    | quiet wifi _ => exact h
    | failed _ => exact hresult 1 _
    | marked _ => exact fun _ => (by decide : (1 : UInt8) ≠ 0)
    | restart _ => exact h
  | report hmove =>
    cases hmove with
    | quiet report _ _ => exact h
    | cleared _ =>
      intro hmarked
      rcases History.pending_concat_iff.mp hmarked with hmark | ⟨-, hcleared⟩
      · cases hmark
      · exact absurd trivial hcleared
    | sent stored _ => exact hresult 0 _
  | reboot => exact h

theorem reported_iff (flag : UInt8) (es : List OtaEvent) :
    Run.Throughout (Run.total OtaNode.after) Reported { flag } es ↔
      Run.Meets (Run.total OtaNode.after) GetsThrough { flag } es := by
  apply Run.throughout_iff_meets_of_invariant (A := HasCleared)
  · rintro s e s' hA ⟨⟩
    exact hA.after e
  · rintro s e s' hA hP ⟨⟩
    exact reported_after_iff hA hP e
  · intro hreport
    cases hreport
  · intro hun
    exact absurd hun History.not_pending_nil

end OtaNode

open OtaNode

/-- Every cleared flag has its result accepted, or about to be sent, exactly in the runs in which
the reports get through; and in every run a mark that nothing cleared stays in NVS. -/
theorem pending_result_kept (flag : UInt8) (es : List OtaEvent) :
    (Run.Throughout (Run.total OtaNode.after) Reported { flag } es ↔
      Run.Meets (Run.total OtaNode.after) GetsThrough { flag } es) ∧
    Run.Throughout (Run.total OtaNode.after) Kept { flag } es := by
  refine ⟨reported_iff flag es, ?_⟩
  apply Run.throughout_of_forall
  · rintro s e s' hP ⟨⟩
    exact hP.after e
  · intro hmarked
    exact absurd hmarked History.not_pending_nil

/-- An update is marked, the node restarts, and `report_pending_task` finds the mark before the node
has been provisioned again. -/
def reportUnprovisioned : List OtaEvent :=
  .trigger :: List.replicate 4 (.wifi {}) ++ List.replicate 3 (.report {}) ++
    [.report { mesh := { provisioned := false, appIdx := 0xFFFF } }, .reboot]

/-- The flag is gone at the next boot, and no result of success was accepted. -/
theorem reportUnprovisioned_lost :
    ¬ Run.Throughout (Run.total OtaNode.after) Reported {} reportUnprovisioned := by
  rw [reported_iff]
  decide

end BleMeshTracking.Ota
