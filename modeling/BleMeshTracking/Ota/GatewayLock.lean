import BleMeshTracking.Gateway.NodeTable
import BleMeshTracking.Library.Ownership
import BleMeshTracking.Library.Run
import BleMeshTracking.Ota.PendingResult

/-!
# The OTA tasks of the gateway

`apps/gateway/components/bmt_ota/bmt_ota.c` statement by statement: `s_running` is taken by the
caller that starts a task and released by the task, and `s_arg` carries the arguments of
`start_distribute` to `distribute_task`.
-/

namespace BleMeshTracking.Ota

open Gateway (Node NodeTable bmtMaxNodes)

structure DistributeArg where
  nodeType : UInt8 := 0
  isScanFilter : Bool := false
  deriving DecidableEq

/-- What is called from UART, RPC and `gateway_auto_check_task`. -/
inductive OtaCall
  | gatewaySelfUpdate
  | triggerAllScanners
  | triggerAllRelays

def OtaCall.arg : OtaCall → Option DistributeArg
  | .gatewaySelfUpdate => none
  | .triggerAllScanners => some ⟨0x01, true⟩
  | .triggerAllRelays => some ⟨0x02, false⟩

/-- A caller: outside of the functions, behind a successful compare-and-swap, behind the first and
the second write of `s_arg`, after a failed `xTaskCreate`, and about to return. -/
inductive Starter
  | idle
  | swapped (call : OtaCall)
  | filterWritten (call : OtaCall)
  | argWritten (call : OtaCall)
  | createFailed
  | returning (err : EspErr)

/-- `self_update_task` and `distribute_task`, and their common end. -/
inductive OtaTaskPhase
  | fetching
  | updated
  | updateFailed
  | started
  | typeRead (nodeType : UInt8)
  | counting (d : DistributeArg) (i count : ℕ)
  | beacon (d : DistributeArg)
  | waiting (d : DistributeArg)
  | walking (d : DistributeArg) (i : ℕ)
  | triggering (d : DistributeArg) (i retry : ℕ)
  | releasing
  | deleting

structure OtaTask where
  call : OtaCall
  phase : OtaTaskPhase

/-- What a step of a task is told: the result of the download, the node table, and whether
`beacon_send` succeeds. -/
structure OtaTaskCalls where
  fetch : EspErr := .ok
  nodes : NodeTable := fun _ => {}
  beaconSent : Bool := true

/-- The gateway, with callers of any number; `created` counts the tasks. -/
structure OtaGateway (ι : Type*) where
  running : Bool := false
  arg : DistributeArg := {}
  starters : ι → Starter := fun _ => .idle
  tasks : ℕ → Option OtaTask := fun _ => none
  created : ℕ := 0

inductive OtaGatewayEvent (ι : Type*)
  | call (i : ι) (call : OtaCall)
  | starter (i : ι) (taskCreated : Bool)
  | task (n : ℕ) (calls : OtaTaskCalls)
  | reboot

def DistributeArg.selects (d : DistributeArg) (n : Node) : Bool :=
  n.used && n.configDone && (if d.isScanFilter then n.isScan else n.isRelay)

/-- A step of a task that touches neither `s_running` nor the scheduler; `shared` is `s_arg`. -/
def OtaTaskPhase.next (c : OtaTaskCalls) (shared : DistributeArg) : OtaTaskPhase → OtaTaskPhase
  | .fetching =>
    match c.fetch with
    | .notFound => .releasing
    | .ok => .updated
    | _ => .updateFailed
  | .updateFailed => .releasing
  -- `distribute_task` reads `s_arg` field by field
  | .started => .typeRead shared.nodeType
  | .typeRead nodeType => .counting ⟨nodeType, shared.isScanFilter⟩ 0 0
  | .counting d i count =>
    if h : i < bmtMaxNodes then
      .counting d (i + 1) (if d.selects (c.nodes ⟨i, h⟩) then count + 1 else count)
    else if count = 0 then .releasing
    else if d.isScanFilter then .beacon d
    else .walking d 0
  | .beacon d => if c.beaconSent then .waiting d else .walking d 0
  | .waiting _ => .releasing
  | .walking d i =>
    if h : i < bmtMaxNodes then
      if d.selects (c.nodes ⟨i, h⟩) then .triggering d i 0 else .walking d (i + 1)
    else .releasing
  | .triggering d i retry =>
    if retry < 5 then .triggering d i (retry + 1) else .walking d (i + 1)
  | p => p

namespace OtaGateway

variable {ι : Type*} [DecidableEq ι]

def setStarter (s : OtaGateway ι) (i : ι) (st : Starter) : OtaGateway ι :=
  { s with starters := Function.update s.starters i st }

def setTask (s : OtaGateway ι) (n : ℕ) (t : Option OtaTask) : OtaGateway ι :=
  { s with tasks := Function.update s.tasks n t }

def compareExchange (s : OtaGateway ι) (i : ι) (call : OtaCall) : OtaGateway ι :=
  if s.running then s.setStarter i (.returning .invalidState)
  else { s with running := true }.setStarter i (.swapped call)

def createTask (s : OtaGateway ι) (i : ι) (call : OtaCall) (taskCreated : Bool) : OtaGateway ι :=
  if taskCreated then
    let phase := if call.arg.isSome then .started else .fetching
    { s with created := s.created + 1 }.setTask s.created (some ⟨call, phase⟩)
      |>.setStarter i (.returning .ok)
  else
    s.setStarter i .createFailed

/-- `bmt_ota_gateway_self_update` and `start_distribute` behind the compare-and-swap. -/
def starterStep (s : OtaGateway ι) (i : ι) (taskCreated : Bool) : OtaGateway ι :=
  match s.starters i with
  | .idle => s
  | .swapped call =>
    match call.arg with
    | none => s.createTask i call taskCreated
    | some d =>
      { s with arg := { s.arg with isScanFilter := d.isScanFilter } }.setStarter i
        (.filterWritten call)
  | .filterWritten call =>
    match call.arg with
    | none => s
    | some d =>
      { s with arg := { s.arg with nodeType := d.nodeType } }.setStarter i (.argWritten call)
  | .argWritten call => s.createTask i call taskCreated
  | .createFailed => { s with running := false }.setStarter i (.returning .noMem)
  | .returning _ => s.setStarter i .idle

/-- A restart loses all of it. -/
def taskStep (s : OtaGateway ι) (n : ℕ) (c : OtaTaskCalls) : OtaGateway ι :=
  match s.tasks n with
  | none => s
  | some t =>
    match t.phase with
    -- `esp_restart`
    | .updated => {}
    | .releasing => { s with running := false }.setTask n (some { t with phase := .deleting })
    | .deleting => s.setTask n none
    | p => s.setTask n (some { t with phase := p.next c s.arg })

def after (s : OtaGateway ι) : OtaGatewayEvent ι → OtaGateway ι
  | .call i call =>
    match s.starters i with
    | .idle => s.compareExchange i call
    | _ => s
  | .starter i taskCreated => s.starterStep i taskCreated
  | .task n c => s.taskStep n c
  | .reboot => {}

end OtaGateway

/-- Between the compare-and-swap and the creation of the task, or the release without one. -/
def Starter.Holds : Starter → Prop
  | .idle => False
  | .returning _ => False
  | _ => True

def OtaTaskPhase.Holds : OtaTaskPhase → Prop
  | .deleting => False
  | _ => True

def OtaTaskPhase.arg : OtaTaskPhase → Option DistributeArg
  | .counting d _ _ => some d
  | .beacon d => some d
  | .waiting d => some d
  | .walking d _ => some d
  | .triggering d _ _ => some d
  | _ => none

namespace OtaGateway

variable {ι : Type*} [DecidableEq ι] {s : OtaGateway ι}

def TaskHolds (s : OtaGateway ι) (n : ℕ) : Prop := ∃ t, s.tasks n = some t ∧ t.phase.Holds

def Holds (s : OtaGateway ι) : ι ⊕ ℕ → Prop
  | .inl i => (s.starters i).Holds
  | .inr n => s.TaskHolds n

/-- One task at a time, no lock without a task or a call, every `distribute_task` with the arguments
of its call, and a rejected call that leaves everything but the caller alone. -/
structure Safe (s : OtaGateway ι) : Prop where
  oneTask : ∀ m n, s.TaskHolds m → s.TaskHolds n → m = n
  released : (∀ n, s.tasks n = none) → (∀ i, s.starters i = .idle) → s.running = false
  ran : ∀ n t d, s.tasks n = some t → t.phase.arg = some d → t.call.arg = some d
  rejected : ∀ i call, s.starters i = .idle → s.running = true →
    s.after (.call i call) = s.setStarter i (.returning .invalidState) ∧
      ∀ taskCreated, (s.after (.call i call)).after (.starter i taskCreated) = s

end OtaGateway

def Starter.Written (shared : DistributeArg) : Starter → Prop
  | .filterWritten call => ∃ d, call.arg = some d ∧ shared.isScanFilter = d.isScanFilter
  | .argWritten call => call.arg = some shared
  | _ => True

def OtaTask.Ran (shared : DistributeArg) (t : OtaTask) : Prop :=
  match t.phase with
  | .started => t.call.arg = some shared
  | .typeRead nodeType => t.call.arg = some shared ∧ nodeType = shared.nodeType
  | p => ∀ d, p.arg = some d → t.call.arg = some d

theorem Starter.written_of_not_holds {st : Starter} (h : ¬ st.Holds) (shared : DistributeArg) :
    st.Written shared := by
  cases st with
  | idle => trivial
  | returning err => trivial
  | swapped call => exact absurd trivial h
  | filterWritten call => exact absurd trivial h
  | argWritten call => exact absurd trivial h
  | createFailed => exact absurd trivial h

theorem OtaTask.ran_of_not_holds {t : OtaTask} (h : ¬ t.phase.Holds) (shared : DistributeArg) :
    t.Ran shared := by
  obtain ⟨call, phase⟩ := t
  cases phase with
  | deleting =>
    intro d hd
    cases hd
  | _ => exact absurd trivial h

theorem OtaTask.Ran.arg_eq {t : OtaTask} {shared d : DistributeArg} (h : t.Ran shared)
    (hd : t.phase.arg = some d) : t.call.arg = some d := by
  obtain ⟨call, phase⟩ := t
  cases phase with
  | started => cases hd
  | typeRead nodeType => cases hd
  | _ => exact h d hd

theorem OtaTask.Ran.next {t : OtaTask} {shared : DistributeArg} (h : t.Ran shared)
    (c : OtaTaskCalls) : OtaTask.Ran shared { t with phase := t.phase.next c shared } := by
  obtain ⟨call, phase⟩ := t
  have hreleasing : OtaTask.Ran shared ⟨call, .releasing⟩ := by
    intro d hd
    cases hd
  unfold OtaTaskPhase.next
  cases phase with
  | fetching =>
    dsimp only
    cases c.fetch with
    | notFound => exact hreleasing
    | _ =>
      intro d hd
      cases hd
  | updated => exact h
  | updateFailed => exact hreleasing
  | started => exact ⟨h, rfl⟩
  | typeRead nodeType =>
    obtain ⟨harg, hread⟩ := h
    intro d hd
    cases hd
    rw [harg, hread]
  | counting d i count =>
    dsimp only
    split_ifs
    · exact h
    · exact h
    · exact hreleasing
    · exact h
    · exact h
  | beacon d =>
    dsimp only
    split_ifs
    · exact h
    · exact h
  | waiting d => exact hreleasing
  | walking d i =>
    dsimp only
    split_ifs
    · exact h
    · exact h
    · exact hreleasing
  | triggering d i retry =>
    dsimp only
    split_ifs
    · exact h
    · exact h
  | releasing => exact h
  | deleting => exact h

theorem OtaTaskPhase.next_holds {p : OtaTaskPhase} (h : p.Holds) (c : OtaTaskCalls)
    (shared : DistributeArg) : (p.next c shared).Holds := by
  unfold OtaTaskPhase.next
  cases p with
  | fetching =>
    dsimp only
    cases c.fetch with
    | _ => trivial
  | counting d i count =>
    dsimp only
    split_ifs
    all_goals trivial
  | beacon d =>
    dsimp only
    split_ifs
    all_goals trivial
  | walking d i =>
    dsimp only
    split_ifs
    all_goals trivial
  | triggering d i retry =>
    dsimp only
    split_ifs
    all_goals trivial
  | deleting => exact h
  | _ => trivial

namespace OtaGateway

variable {ι : Type*} {s : OtaGateway ι}

structure LockInv (s : OtaGateway ι) : Prop where
  exclusive : Ownership.Exclusive s.running s.Holds
  fresh : ∀ n, s.created ≤ n → s.tasks n = none
  written : ∀ i, (s.starters i).Written s.arg
  ran : ∀ n t, s.tasks n = some t → t.Ran s.arg

theorem holds_inl (s : OtaGateway ι) (i : ι) : s.Holds (.inl i) ↔ (s.starters i).Holds := Iff.rfl

theorem holds_inr (s : OtaGateway ι) (n : ℕ) :
    s.Holds (.inr n) ↔ ∃ t, s.tasks n = some t ∧ t.phase.Holds := Iff.rfl

theorem lockInv_boot : LockInv ({} : OtaGateway ι) := by
  refine ⟨?_, fun _ _ => rfl, fun _ => trivial, fun n t ht => by cases ht⟩
  apply Ownership.exclusive_of_none
  intro k hk
  cases k with
  | inl i => exact hk
  | inr n =>
    obtain ⟨t, ht, -⟩ := hk
    cases ht

@[simp]
theorem tasks_setTask_self (n : ℕ) (t : Option OtaTask) : (s.setTask n t).tasks n = t := by
  simp [setTask]

theorem tasks_setTask_other {m n : ℕ} (h : m ≠ n) (t : Option OtaTask) :
    (s.setTask n t).tasks m = s.tasks m := by
  simp [setTask, h]

theorem holds_setTask_other {n : ℕ} {k : ι ⊕ ℕ} (hk : k ≠ .inr n) (t : Option OtaTask) :
    (s.setTask n t).Holds k ↔ s.Holds k := by
  cases k with
  | inl j => exact Iff.rfl
  | inr m =>
    have hmn : m ≠ n := fun hmn => hk (congrArg Sum.inr hmn)
    rw [holds_inr, holds_inr, tasks_setTask_other hmn]

theorem ran_setTask {shared : DistributeArg} {n : ℕ} {o : Option OtaTask}
    (h : ∀ m t, m ≠ n → s.tasks m = some t → t.Ran shared) (ho : ∀ t, o = some t → t.Ran shared)
    (m : ℕ) (t : OtaTask) (ht : (s.setTask n o).tasks m = some t) : t.Ran shared := by
  by_cases hm : m = n
  · rw [hm, tasks_setTask_self] at ht
    exact ho t ht
  · rw [tasks_setTask_other hm] at ht
    exact h m t hm ht

theorem fresh_setTask (h : LockInv s) {n : ℕ} {t : OtaTask} (ht : s.tasks n = some t)
    (o : Option OtaTask) (m : ℕ) (hm : s.created ≤ m) : (s.setTask n o).tasks m = none := by
  have hmn : m ≠ n := by
    intro hmn
    have hnone := h.fresh m hm
    rw [hmn, ht] at hnone
    cases hnone
  exact (tasks_setTask_other hmn o).trans (h.fresh m hm)

theorem LockInv.moveTask (h : LockInv s) {n : ℕ} {t : OtaTask} (ht : s.tasks n = some t)
    {o : Option OtaTask} (hholds : (∃ t', o = some t' ∧ t'.phase.Holds) ↔ t.phase.Holds)
    (hran : ∀ t', o = some t' → t'.Ran s.arg) : LockInv (s.setTask n o) := by
  refine ⟨h.exclusive.congr ?_, fresh_setTask h ht o, h.written,
    ran_setTask (fun m t _ => h.ran m t) hran⟩
  intro k
  by_cases hk : k = .inr n
  · rw [hk, holds_inr, holds_inr, tasks_setTask_self, hholds, ht]
    simp
  · exact holds_setTask_other hk o

theorem LockInv.taskStep (h : LockInv s) (n : ℕ) (c : OtaTaskCalls) :
    LockInv (s.taskStep n c) := by
  unfold OtaGateway.taskStep
  cases ht : s.tasks n with
  | none => exact h
  | some t =>
    have hran := h.ran n t ht
    have hnext : t.phase.Holds →
        LockInv (s.setTask n (some { t with phase := t.phase.next c s.arg })) := by
      intro hholds
      refine h.moveTask ht ?_ fun t' ht' => by cases ht'; exact hran.next c
      exact iff_of_true ⟨_, rfl, OtaTaskPhase.next_holds hholds c s.arg⟩ hholds
    dsimp only
    cases hphase : t.phase with
    | updated => exact lockInv_boot
    | releasing =>
      have hholds : s.Holds (.inr n) := ⟨t, ht, by rw [hphase]; trivial⟩
      refine ⟨h.exclusive.release hholds ?_, fresh_setTask h ht _, h.written, ?_⟩
      · intro k hk
        have hkn : k ≠ .inr n := by
          intro hkn
          rw [hkn, holds_inr, tasks_setTask_self] at hk
          obtain ⟨t', ht', hdeleting⟩ := hk
          cases ht'
          exact hdeleting
        exact ⟨(holds_setTask_other hkn _).mp hk, hkn⟩
      · refine ran_setTask (fun m t _ => h.ran m t) fun t' ht' => ?_
        cases ht'
        exact OtaTask.ran_of_not_holds (t := ⟨t.call, .deleting⟩) not_false _
    | deleting =>
      refine h.moveTask ht ?_ fun t' ht' => by cases ht'
      rw [hphase]
      exact iff_of_false (fun hsome => by obtain ⟨t', ht', -⟩ := hsome; cases ht') not_false
    | _ =>
      rw [hphase] at hnext
      exact hnext trivial

variable [DecidableEq ι]

@[simp]
theorem starters_setStarter_self (i : ι) (st : Starter) : (s.setStarter i st).starters i = st := by
  simp [setStarter]

theorem starters_setStarter_other {i j : ι} (h : j ≠ i) (st : Starter) :
    (s.setStarter i st).starters j = s.starters j := by
  simp [setStarter, h]

theorem holds_setStarter_other {i : ι} {k : ι ⊕ ℕ} (hk : k ≠ .inl i) (st : Starter) :
    (s.setStarter i st).Holds k ↔ s.Holds k := by
  cases k with
  | inl j =>
    have hji : j ≠ i := fun hji => hk (congrArg Sum.inl hji)
    rw [holds_inl, holds_inl, starters_setStarter_other hji]
  | inr n => exact Iff.rfl

theorem written_setStarter {shared : DistributeArg} {i : ι} {st : Starter}
    (h : ∀ j, j ≠ i → (s.starters j).Written shared) (hst : st.Written shared) (j : ι) :
    ((s.setStarter i st).starters j).Written shared := by
  by_cases hj : j = i
  · rw [hj, starters_setStarter_self]
    exact hst
  · rw [starters_setStarter_other hj]
    exact h j hj

theorem LockInv.moveStarter (h : LockInv s) {i : ι} (st : Starter)
    (hholds : st.Holds ↔ (s.starters i).Holds) (hst : st.Written s.arg) :
    LockInv (s.setStarter i st) := by
  refine ⟨h.exclusive.congr ?_, h.fresh, ?_, h.ran⟩
  · intro k
    by_cases hk : k = .inl i
    · rw [hk, holds_inl, starters_setStarter_self]
      exact hholds
    · exact holds_setStarter_other hk st
  · exact written_setStarter (fun j _ => h.written j) hst

/-- A caller with the flag writes `s_arg`: nobody else has to do with it then. -/
theorem LockInv.writeArg (h : LockInv s) {i : ι} (hi : (s.starters i).Holds) (st : Starter)
    (hholds : st.Holds) {arg : DistributeArg} (hst : st.Written arg) :
    LockInv ({ s with arg }.setStarter i st) := by
  refine ⟨h.exclusive.congr ?_, h.fresh, ?_, ?_⟩
  · intro k
    by_cases hk : k = .inl i
    · rw [hk, holds_inl, starters_setStarter_self]
      exact iff_of_true hholds hi
    · exact holds_setStarter_other hk st
  · apply written_setStarter _ hst
    intro j hj
    apply Starter.written_of_not_holds
    intro hholds'
    exact hj (Sum.inl.inj (h.exclusive.unique (.inl j) (.inl i) hholds' hi))
  · intro n t ht
    apply OtaTask.ran_of_not_holds
    intro hholds'
    cases h.exclusive.unique (.inr n) (.inl i) ⟨t, ht, hholds'⟩ hi

theorem LockInv.compareExchange (h : LockInv s) (i : ι) (hi : s.starters i = .idle)
    (call : OtaCall) : LockInv (s.compareExchange i call) := by
  unfold OtaGateway.compareExchange
  have hidle : ¬ (s.starters i).Holds := by
    rw [hi]
    exact not_false
  cases hrunning : s.running with
  | true =>
    rw [if_pos rfl]
    exact h.moveStarter _ (iff_of_false not_false hidle) trivial
  | false =>
    rw [if_neg Bool.false_ne_true]
    have hfree := h.exclusive
    rw [hrunning] at hfree
    refine ⟨hfree.take (k := .inl i) ?_ ?_, h.fresh, ?_, h.ran⟩
    · rw [holds_inl, starters_setStarter_self]
      trivial
    · intro k hk hold
      exact (holds_setStarter_other hk _).mp hold
    · exact written_setStarter (fun j _ => h.written j) trivial

theorem LockInv.createTask (h : LockInv s) {i : ι} (hi : (s.starters i).Holds) {call : OtaCall}
    (harg : call.arg = none ∨ call.arg = some s.arg) (taskCreated : Bool) :
    LockInv (s.createTask i call taskCreated) := by
  unfold OtaGateway.createTask
  cases taskCreated with
  | false =>
    rw [if_neg Bool.false_ne_true]
    exact h.moveStarter _ (iff_of_true trivial hi) trivial
  | true =>
    rw [if_pos rfl]
    dsimp only
    generalize hp : (if call.arg.isSome = true then OtaTaskPhase.started else .fetching) = phase
    have hphase : phase.Holds ∧ OtaTask.Ran s.arg ⟨call, phase⟩ := by
      rcases harg with hnone | hsome
      · rw [hnone, if_neg (by decide)] at hp
        rw [← hp]
        exact ⟨trivial, fun d hd => by cases hd⟩
      · rw [hsome, Option.isSome_some, if_pos rfl] at hp
        rw [← hp]
        exact ⟨trivial, hsome⟩
    -- the flag passes from the caller to the task, which is nobody's yet
    refine ⟨h.exclusive.handOver (k := .inl i) (m := .inr s.created) hi ?_ ?_, ?_, ?_, ?_⟩
    · rw [holds_setStarter_other Sum.inr_ne_inl, holds_inr]
      exact ⟨_, tasks_setTask_self _ _, hphase.1⟩
    · intro k hk hold
      have hki : k ≠ .inl i := by
        intro hki
        rw [hki, holds_inl, starters_setStarter_self] at hold
        exact hold
      rw [holds_setStarter_other hki, holds_setTask_other hk] at hold
      exact ⟨hold, hki⟩
    · intro n hn
      have hne : n ≠ s.created := Nat.ne_of_gt hn
      exact (tasks_setTask_other hne _).trans (h.fresh n (Nat.le_of_succ_le hn))
    · exact written_setStarter (fun j _ => h.written j) trivial
    · exact ran_setTask (fun m t _ => h.ran m t) fun t ht => by cases ht; exact hphase.2

theorem LockInv.starterStep (h : LockInv s) (i : ι) (taskCreated : Bool) :
    LockInv (s.starterStep i taskCreated) := by
  have hwritten := h.written i
  unfold OtaGateway.starterStep
  cases hi : s.starters i with
  | idle => exact h
  | swapped call =>
    have hholds : (s.starters i).Holds := by rw [hi]; trivial
    cases harg : call.arg with
    | none =>
      dsimp only
      rw [harg]
      exact h.createTask hholds (Or.inl harg) taskCreated
    | some d =>
      dsimp only
      rw [harg]
      exact h.writeArg hholds (.filterWritten call) trivial ⟨d, harg, rfl⟩
  | filterWritten call =>
    have hholds : (s.starters i).Holds := by rw [hi]; trivial
    rw [hi] at hwritten
    obtain ⟨d, harg, hfilter⟩ := hwritten
    dsimp only
    rw [harg]
    -- with the second write `s_arg` is what the call has asked for
    apply h.writeArg hholds (.argWritten call) trivial
    rw [hfilter]
    exact harg
  | argWritten call =>
    have hholds : (s.starters i).Holds := by rw [hi]; trivial
    rw [hi] at hwritten
    exact h.createTask hholds (Or.inr hwritten) taskCreated
  | createFailed =>
    have hholds : s.Holds (.inl i) := by rw [holds_inl, hi]; trivial
    refine ⟨h.exclusive.release hholds ?_, h.fresh, ?_, h.ran⟩
    · intro k hk
      have hki : k ≠ .inl i := by
        intro hki
        rw [hki, holds_inl, starters_setStarter_self] at hk
        exact hk
      exact ⟨(holds_setStarter_other hki _).mp hk, hki⟩
    · exact written_setStarter (fun j _ => h.written j) trivial
  | returning err =>
    refine h.moveStarter .idle ?_ trivial
    rw [hi]
    exact Iff.rfl

theorem LockInv.after (h : LockInv s) (e : OtaGatewayEvent ι) : LockInv (s.after e) := by
  cases e with
  | call i call =>
    unfold OtaGateway.after
    dsimp only
    cases hi : s.starters i with
    | idle => exact h.compareExchange i hi call
    | _ => exact h
  | starter i taskCreated => exact h.starterStep i taskCreated
  | task n c => exact h.taskStep n c
  | reboot => exact lockInv_boot

theorem LockInv.safe (h : LockInv s) : Safe s := by
  refine ⟨?_, ?_, ?_, ?_⟩
  · intro m n hm hn
    exact Sum.inr.inj (h.exclusive.unique (.inr m) (.inr n) hm hn)
  · intro htasks hstarters
    apply Bool.eq_false_iff.mpr
    intro hrunning
    obtain ⟨k, hk⟩ := h.exclusive.flag_iff.mp hrunning
    cases k with
    | inl i =>
      rw [holds_inl, hstarters] at hk
      exact hk
    | inr n =>
      obtain ⟨t, ht, -⟩ := hk
      rw [htasks] at ht
      cases ht
  · intro n t d ht hd
    exact OtaTask.Ran.arg_eq (h.ran n t ht) hd
  · intro i call hi hrunning
    have hcall : s.after (.call i call) = s.setStarter i (.returning .invalidState) := by
      unfold OtaGateway.after OtaGateway.compareExchange
      dsimp only
      rw [hi, hrunning]
      rfl
    refine ⟨hcall, fun taskCreated => ?_⟩
    -- the caller takes its error, and everything is as it was
    rw [hcall]
    unfold OtaGateway.after OtaGateway.starterStep
    dsimp only
    rw [starters_setStarter_self]
    unfold setStarter
    dsimp only
    rw [Function.update_idem, ← hi, Function.update_eq_self]

end OtaGateway

/-- One OTA task of the gateway at a time, in every interleaving of callers and tasks. -/
theorem ota_tasks_exclusive {ι : Type*} [DecidableEq ι] (es : List (OtaGatewayEvent ι)) :
    Run.Throughout (Run.total OtaGateway.after) OtaGateway.Safe {} es := by
  have hinv : Run.Throughout (Run.total OtaGateway.after) OtaGateway.LockInv
      ({} : OtaGateway ι) es := by
    apply Run.throughout_of_forall _ es OtaGateway.lockInv_boot
    rintro s e s' h ⟨⟩
    exact h.after e
  exact hinv.mono fun s h => h.safe

end BleMeshTracking.Ota
