import BleMeshTracking.Ota.GatewayLock
import Mathlib.Data.List.FinRange

/-!
# What the OTA tasks of the gateway send

The tasks of `apps/gateway/components/bmt_ota/bmt_ota.c`, with the beacon and the messages they
send and with what they were told on the way: a table that nodes join and leave while
`distribute_task` waits a minute and a half for each of them.
-/

namespace BleMeshTracking.Ota

open Gateway (Node NodeTable bmtMaxNodes)

inductive OtaSend
  /-- `beacon_send`, with a beacon on the air. -/
  | beacon (target : UInt8)
  /-- `BMT_OP_VND_OTA_TRIGGER`. -/
  | trigger (addr : UInt16) (target : UInt8)
  /-- `bmt_tb_pub_gateway_ota_result`. -/
  | gatewayResult (success : Bool)
  deriving DecidableEq

def OtaTaskPhase.sends (c : OtaTaskCalls) : OtaTaskPhase → List OtaSend
  | .updated => [.gatewayResult true]
  | .updateFailed => [.gatewayResult false]
  | .beacon d => if c.beaconSent then [.beacon d.nodeType] else []
  | .triggering d i retry =>
    -- `n` points into the table, so the address is the one that stands there now
    if h : i < bmtMaxNodes then
      if retry < 5 then [.trigger (c.nodes ⟨i, h⟩).addr d.nodeType] else []
    else []
  | _ => []

/-- One task that has ended: its call, what it was told and what it has sent. -/
structure OtaRecord where
  call : OtaCall
  told : List OtaTaskCalls
  sent : List OtaSend

/-- The gateway with the records of the tasks: of those running, by number, and of those ended. -/
structure OtaHistory (ι : Type*) where
  gateway : OtaGateway ι := {}
  told : ℕ → List OtaTaskCalls := fun _ => []
  sent : ℕ → List OtaSend := fun _ => []
  ended : List OtaRecord := []

namespace OtaHistory

variable {ι : Type*} [DecidableEq ι]

/-- A restart: the records of the tasks still running are lost with them. -/
def restart (s : OtaHistory ι) (ended : List OtaRecord) : OtaHistory ι :=
  { ended := s.ended ++ ended }

def taskStep (s : OtaHistory ι) (n : ℕ) (c : OtaTaskCalls) : OtaHistory ι :=
  match s.gateway.tasks n with
  | none => s
  | some t =>
    let told := s.told n ++ [c]
    let sent := s.sent n ++ t.phase.sends c
    match t.phase with
    | .updated => s.restart [⟨t.call, told, sent⟩]
    | .deleting =>
      { s with gateway := s.gateway.taskStep n c, ended := s.ended ++ [⟨t.call, s.told n, sent⟩] }
    | _ =>
      { s with gateway := s.gateway.taskStep n c, told := Function.update s.told n told,
               sent := Function.update s.sent n sent }

def after (s : OtaHistory ι) : OtaGatewayEvent ι → OtaHistory ι
  | .task n c => s.taskStep n c
  | .reboot => s.restart []
  | e => { s with gateway := s.gateway.after e }

end OtaHistory

structure NodeRole where
  used : Bool
  configDone : Bool
  isScan : Bool
  isRelay : Bool
  addr : UInt16

def nodeRole (n : Node) : NodeRole := ⟨n.used, n.configDone, n.isScan, n.isRelay, n.addr⟩

/-- Two answers that a task does not tell apart: the times and the states of the nodes may differ,
and their names. -/
structure OtaTaskCalls.Alike (c c' : OtaTaskCalls) : Prop where
  fetch : c.fetch = c'.fetch
  beaconSent : c.beaconSent = c'.beaconSent
  roles : ∀ i, nodeRole (c.nodes i) = nodeRole (c'.nodes i)

def DistributeArg.slotsFrom (d : DistributeArg) (nodes : NodeTable) (i : ℕ) :
    List (Fin bmtMaxNodes) :=
  ((List.finRange bmtMaxNodes).drop i).filter fun j => d.selects (nodes j)

def DistributeArg.triggers (d : DistributeArg) (nodes : NodeTable) (i : ℕ) : List OtaSend :=
  (d.slotsFrom nodes i).flatMap fun j => List.replicate 5 (.trigger (nodes j).addr d.nodeType)

def DistributeArg.broadcast (d : DistributeArg) (c : OtaTaskCalls) : List OtaSend :=
  if c.beaconSent then [.beacon d.nodeType] else d.triggers c.nodes 0

def DistributeArg.requested (d : DistributeArg) (c : OtaTaskCalls) : List OtaSend :=
  if d.slotsFrom c.nodes 0 = [] then []
  else if d.isScanFilter then d.broadcast c
  else d.triggers c.nodes 0

def fetchResult : EspErr → List OtaSend
  | .ok => [.gatewayResult true]
  | .notFound => []
  | _ => [.gatewayResult false]

/-- All that a call has to send, under answers that stay as they are. -/
def OtaCall.requested (call : OtaCall) (c : OtaTaskCalls) : List OtaSend :=
  match call.arg with
  | some d => d.requested c
  | none => fetchResult c.fetch

/-- What a task still has to send, under answers that stay as they are. -/
def OtaTaskPhase.remaining (c : OtaTaskCalls) (shared : DistributeArg) :
    OtaTaskPhase → List OtaSend
  | .fetching => fetchResult c.fetch
  | .updated => [.gatewayResult true]
  | .updateFailed => [.gatewayResult false]
  | .started => shared.requested c
  | .typeRead nodeType => DistributeArg.requested ⟨nodeType, shared.isScanFilter⟩ c
  | .counting d i count =>
    if count = 0 ∧ d.slotsFrom c.nodes i = [] then []
    else if d.isScanFilter then d.broadcast c
    else d.triggers c.nodes 0
  | .beacon d => d.broadcast c
  | .waiting _ => []
  | .walking d i => d.triggers c.nodes i
  | .triggering d i retry =>
    (if h : i < bmtMaxNodes then
      List.replicate (5 - retry) (.trigger (c.nodes ⟨i, h⟩).addr d.nodeType)
    else []) ++ d.triggers c.nodes (i + 1)
  | .releasing => []
  | .deleting => []

namespace DistributeArg

variable (d : DistributeArg) (nodes : NodeTable)

theorem slotsFrom_of_lt {i : ℕ} (hi : i < bmtMaxNodes) :
    d.slotsFrom nodes i =
      if d.selects (nodes ⟨i, hi⟩) = true then ⟨i, hi⟩ :: d.slotsFrom nodes (i + 1)
      else d.slotsFrom nodes (i + 1) := by
  have hlen : i < (List.finRange bmtMaxNodes).length := by rwa [List.length_finRange]
  unfold slotsFrom
  rw [List.drop_eq_getElem_cons hlen, List.getElem_finRange, List.filter_cons]
  rfl

theorem slotsFrom_of_le {i : ℕ} (hi : bmtMaxNodes ≤ i) : d.slotsFrom nodes i = [] := by
  have hlen : (List.finRange bmtMaxNodes).length ≤ i := by rwa [List.length_finRange]
  unfold slotsFrom
  rw [List.drop_of_length_le hlen, List.filter_nil]

theorem triggers_of_selected {i : ℕ} (hi : i < bmtMaxNodes)
    (hsel : d.selects (nodes ⟨i, hi⟩) = true) :
    d.triggers nodes i =
      List.replicate 5 (.trigger (nodes ⟨i, hi⟩).addr d.nodeType) ++ d.triggers nodes (i + 1) := by
  unfold triggers
  rw [d.slotsFrom_of_lt nodes hi, if_pos hsel, List.flatMap_cons]

theorem triggers_of_skipped {i : ℕ} (hi : i < bmtMaxNodes)
    (hsel : ¬d.selects (nodes ⟨i, hi⟩) = true) :
    d.triggers nodes i = d.triggers nodes (i + 1) := by
  unfold triggers
  rw [d.slotsFrom_of_lt nodes hi, if_neg hsel]

theorem triggers_of_le {i : ℕ} (hi : bmtMaxNodes ≤ i) : d.triggers nodes i = [] := by
  unfold triggers
  rw [d.slotsFrom_of_le nodes hi, List.flatMap_nil]

end DistributeArg

section Alike

variable {c c' : OtaTaskCalls}

theorem OtaTaskCalls.Alike.addr (h : c.Alike c') (i : Fin bmtMaxNodes) :
    (c.nodes i).addr = (c'.nodes i).addr := congrArg NodeRole.addr (h.roles i)

theorem OtaTaskCalls.Alike.selects (h : c.Alike c') (d : DistributeArg) (i : Fin bmtMaxNodes) :
    d.selects (c.nodes i) = d.selects (c'.nodes i) := by
  have hused : (c.nodes i).used = (c'.nodes i).used := congrArg NodeRole.used (h.roles i)
  have hdone : (c.nodes i).configDone = (c'.nodes i).configDone :=
    congrArg NodeRole.configDone (h.roles i)
  have hscan : (c.nodes i).isScan = (c'.nodes i).isScan := congrArg NodeRole.isScan (h.roles i)
  have hrelay : (c.nodes i).isRelay = (c'.nodes i).isRelay := congrArg NodeRole.isRelay (h.roles i)
  unfold DistributeArg.selects
  rw [hused, hdone, hscan, hrelay]

theorem OtaTaskPhase.next_alike (h : c.Alike c') (shared : DistributeArg) (p : OtaTaskPhase) :
    p.next c shared = p.next c' shared := by
  unfold OtaTaskPhase.next
  cases p with
  | fetching =>
    dsimp only
    rw [h.fetch]
  | counting d i count =>
    dsimp only
    simp only [h.selects d]
  | beacon d =>
    dsimp only
    rw [h.beaconSent]
  | walking d i =>
    dsimp only
    simp only [h.selects d]
  | _ => rfl

theorem OtaTaskPhase.sends_alike (h : c.Alike c') (p : OtaTaskPhase) : p.sends c = p.sends c' := by
  unfold OtaTaskPhase.sends
  cases p with
  | beacon d =>
    dsimp only
    rw [h.beaconSent]
  | triggering d i retry =>
    dsimp only
    simp only [h.addr]
  | _ => rfl

end Alike

theorem remaining_counting (c : OtaTaskCalls) (shared d : DistributeArg) (i count : ℕ) :
    (OtaTaskPhase.counting d i count).remaining c shared =
      ((OtaTaskPhase.counting d i count).next c shared).remaining c shared := by
  by_cases hi : i < bmtMaxNodes
  · by_cases hsel : d.selects (c.nodes ⟨i, hi⟩) = true
    · have hnext : (OtaTaskPhase.counting d i count).next c shared =
          .counting d (i + 1) (count + 1) := by
        simp only [OtaTaskPhase.next, dif_pos hi, if_pos hsel]
      have hbefore : ¬(count = 0 ∧ d.slotsFrom c.nodes i = []) := by
        rw [d.slotsFrom_of_lt c.nodes hi, if_pos hsel]
        exact fun h => List.cons_ne_nil _ _ h.2
      have hafter : ¬(count + 1 = 0 ∧ d.slotsFrom c.nodes (i + 1) = []) :=
        fun h => Nat.succ_ne_zero count h.1
      rw [hnext]
      unfold OtaTaskPhase.remaining
      dsimp only
      rw [if_neg hbefore, if_neg hafter]
    · have hnext : (OtaTaskPhase.counting d i count).next c shared = .counting d (i + 1) count := by
        simp only [OtaTaskPhase.next, dif_pos hi, if_neg hsel]
      have hslots : d.slotsFrom c.nodes i = d.slotsFrom c.nodes (i + 1) := by
        rw [d.slotsFrom_of_lt c.nodes hi, if_neg hsel]
      rw [hnext]
      unfold OtaTaskPhase.remaining
      dsimp only
      rw [hslots]
  · have hslots := d.slotsFrom_of_le c.nodes (Nat.not_lt.mp hi)
    by_cases hcount : count = 0
    · simp only [OtaTaskPhase.next, OtaTaskPhase.remaining, dif_neg hi, if_pos hcount,
        if_pos (And.intro hcount hslots)]
    · have hsome : ¬(count = 0 ∧ d.slotsFrom c.nodes i = []) := fun h => hcount h.1
      cases hscan : d.isScanFilter with
      | true =>
        simp only [OtaTaskPhase.next, OtaTaskPhase.remaining, dif_neg hi, if_neg hcount,
          if_neg hsome, hscan, if_true]
      | false =>
        simp only [OtaTaskPhase.next, OtaTaskPhase.remaining, dif_neg hi, if_neg hcount,
          if_neg hsome, hscan, Bool.false_eq_true, if_false]

theorem remaining_walking (c : OtaTaskCalls) (shared d : DistributeArg) (i : ℕ) :
    (OtaTaskPhase.walking d i).remaining c shared =
      ((OtaTaskPhase.walking d i).next c shared).remaining c shared := by
  by_cases hi : i < bmtMaxNodes
  · by_cases hsel : d.selects (c.nodes ⟨i, hi⟩) = true
    · simp only [OtaTaskPhase.next, OtaTaskPhase.remaining, dif_pos hi, if_pos hsel,
        d.triggers_of_selected c.nodes hi hsel, Nat.sub_zero]
    · simp only [OtaTaskPhase.next, OtaTaskPhase.remaining, dif_pos hi, if_neg hsel,
        d.triggers_of_skipped c.nodes hi hsel]
  · simp only [OtaTaskPhase.next, OtaTaskPhase.remaining, dif_neg hi,
      d.triggers_of_le c.nodes (Nat.not_lt.mp hi)]

theorem remaining_triggering (c : OtaTaskCalls) (shared d : DistributeArg) (i retry : ℕ) :
    (OtaTaskPhase.triggering d i retry).remaining c shared =
      (OtaTaskPhase.triggering d i retry).sends c ++
        ((OtaTaskPhase.triggering d i retry).next c shared).remaining c shared := by
  by_cases hretry : retry < 5
  · have hleft : 5 - retry = 5 - (retry + 1) + 1 := by omega
    by_cases hi : i < bmtMaxNodes
    · simp only [OtaTaskPhase.next, OtaTaskPhase.remaining, OtaTaskPhase.sends, dif_pos hi,
        if_pos hretry, hleft, List.replicate_succ, List.cons_append, List.nil_append]
    · simp only [OtaTaskPhase.next, OtaTaskPhase.remaining, OtaTaskPhase.sends, dif_neg hi,
        if_pos hretry, List.nil_append]
  · have hleft : 5 - retry = 0 := by omega
    simp only [OtaTaskPhase.next, OtaTaskPhase.remaining, OtaTaskPhase.sends, if_neg hretry, hleft,
      List.replicate_zero, dite_eq_ite, ite_self, List.nil_append]

/-- A step sends the first part of what remains. -/
theorem remaining_eq (c : OtaTaskCalls) (shared : DistributeArg) {p : OtaTaskPhase}
    (hp : p ≠ .updated) :
    p.remaining c shared = p.sends c ++ (p.next c shared).remaining c shared := by
  cases p with
  | fetching =>
    simp only [OtaTaskPhase.next, OtaTaskPhase.remaining, OtaTaskPhase.sends, List.nil_append]
    cases c.fetch with
    | _ => rfl
  | updated => exact absurd rfl hp
  | updateFailed => rfl
  | started => rfl
  | typeRead nodeType =>
    unfold OtaTaskPhase.next OtaTaskPhase.remaining OtaTaskPhase.sends DistributeArg.requested
    simp
  | counting d i count =>
    rw [remaining_counting]
    rfl
  | beacon d =>
    unfold OtaTaskPhase.next OtaTaskPhase.remaining OtaTaskPhase.sends DistributeArg.broadcast
    dsimp only
    cases c.beaconSent with
    | true => rfl
    | false => rfl
  | waiting d => rfl
  | walking d i =>
    rw [remaining_walking]
    rfl
  | triggering d i retry => exact remaining_triggering c shared d i retry
  | releasing => rfl
  | deleting => rfl

/-- A bound on the steps a task has before it, the one that deletes it included. -/
def OtaTaskPhase.fuel : OtaTaskPhase → ℕ
  | .deleting => 1
  | .releasing => 2
  | .updated => 3
  | .updateFailed => 3
  | .fetching => 4
  | .waiting _ => 3
  | .walking _ i => 3 + 7 * (bmtMaxNodes - i)
  | .triggering _ i retry => 3 + 7 * (bmtMaxNodes - (i + 1)) + (6 - min retry 5)
  | .beacon _ => 4 + 7 * bmtMaxNodes
  | .counting _ i _ => 5 + 7 * bmtMaxNodes + (bmtMaxNodes - i)
  | .typeRead _ => 6 + 8 * bmtMaxNodes
  | .started => 7 + 8 * bmtMaxNodes

def otaTaskSteps : ℕ := 7 + 8 * bmtMaxNodes

theorem fuel_le (p : OtaTaskPhase) : p.fuel ≤ otaTaskSteps := by
  have hn : bmtMaxNodes = 10 := rfl
  unfold OtaTaskPhase.fuel otaTaskSteps
  cases p with
  | _ =>
    dsimp only
    omega

theorem fuel_pos (p : OtaTaskPhase) : 0 < p.fuel := by
  unfold OtaTaskPhase.fuel
  cases p with
  | _ =>
    dsimp only
    omega

theorem fuel_next_lt (c : OtaTaskCalls) (shared : DistributeArg) {p : OtaTaskPhase}
    (hupdated : p ≠ .updated) (hreleasing : p ≠ .releasing) (hdeleting : p ≠ .deleting) :
    (p.next c shared).fuel < p.fuel := by
  have hn : bmtMaxNodes = 10 := rfl
  unfold OtaTaskPhase.next
  cases p with
  | fetching =>
    dsimp only
    cases c.fetch with
    | _ => decide
  | updated => exact absurd rfl hupdated
  | updateFailed => exact Nat.lt_succ_self 2
  | started =>
    unfold OtaTaskPhase.fuel
    dsimp only
    omega
  | typeRead nodeType =>
    unfold OtaTaskPhase.fuel
    dsimp only
    omega
  | counting d i count =>
    dsimp only
    unfold OtaTaskPhase.fuel
    split_ifs
    all_goals
      dsimp only
      omega
  | beacon d =>
    dsimp only
    unfold OtaTaskPhase.fuel
    split_ifs
    all_goals
      dsimp only
      omega
  | waiting d => exact Nat.lt_succ_self 2
  | walking d i =>
    dsimp only
    unfold OtaTaskPhase.fuel
    split_ifs
    all_goals
      dsimp only
      omega
  | triggering d i retry =>
    dsimp only
    unfold OtaTaskPhase.fuel
    split_ifs
    all_goals
      dsimp only
      omega
  | releasing => exact absurd rfl hreleasing
  | deleting => exact absurd rfl hdeleting

namespace OtaGateway

variable {ι : Type*} [DecidableEq ι] {s : OtaGateway ι}

def firstPhase (call : OtaCall) : OtaTaskPhase :=
  if call.arg.isSome then .started else .fetching

def isStepOf (n : ℕ) : OtaGatewayEvent ι → Bool
  | .task m _ => m == n
  | _ => false

theorem createTask_frame (i : ι) (call : OtaCall) (taskCreated : Bool) :
    (s.createTask i call taskCreated).arg = s.arg ∧
      s.created ≤ (s.createTask i call taskCreated).created ∧
      ∀ n t, (s.createTask i call taskCreated).tasks n = some t →
        s.tasks n = some t ∨
          n = s.created ∧ n < (s.createTask i call taskCreated).created ∧
            t.phase = firstPhase t.call := by
  unfold createTask
  cases taskCreated with
  | false =>
    rw [if_neg Bool.false_ne_true]
    exact ⟨rfl, Nat.le_refl _, fun n t ht => Or.inl ht⟩
  | true =>
    rw [if_pos rfl]
    refine ⟨rfl, Nat.le_succ _, ?_⟩
    intro n t ht
    by_cases hn : n = s.created
    · refine Or.inr ⟨hn, ?_, ?_⟩
      · rw [hn]
        exact Nat.lt_succ_self s.created
      · rw [hn] at ht
        have hnew := ht.symm.trans (tasks_setTask_self s.created _)
        cases hnew
        rfl
    · exact Or.inl ((tasks_setTask_other hn _).symm.trans ht)

/-- A caller leaves the running tasks alone, creates at most the next one, and writes `s_arg` only
while it holds the flag. -/
theorem starterStep_frame (i : ι) (taskCreated : Bool) :
    ((s.starterStep i taskCreated).arg = s.arg ∨ (s.starters i).Holds) ∧
      s.created ≤ (s.starterStep i taskCreated).created ∧
      ∀ n t, (s.starterStep i taskCreated).tasks n = some t →
        s.tasks n = some t ∨
          n = s.created ∧ n < (s.starterStep i taskCreated).created ∧
            t.phase = firstPhase t.call := by
  unfold starterStep
  cases hi : s.starters i with
  | idle => exact ⟨Or.inl rfl, Nat.le_refl _, fun n t ht => Or.inl ht⟩
  | swapped call =>
    dsimp only
    cases call.arg with
    | none =>
      obtain ⟨harg, hcreated, htasks⟩ := createTask_frame (s := s) i call taskCreated
      exact ⟨Or.inl harg, hcreated, htasks⟩
    | some d => exact ⟨Or.inr trivial, Nat.le_refl _, fun n t ht => Or.inl ht⟩
  | filterWritten call =>
    dsimp only
    cases call.arg with
    | none => exact ⟨Or.inl rfl, Nat.le_refl _, fun n t ht => Or.inl ht⟩
    | some d => exact ⟨Or.inr trivial, Nat.le_refl _, fun n t ht => Or.inl ht⟩
  | argWritten call =>
    obtain ⟨harg, hcreated, htasks⟩ := createTask_frame (s := s) i call taskCreated
    exact ⟨Or.inl harg, hcreated, htasks⟩
  | createFailed => exact ⟨Or.inl rfl, Nat.le_refl _, fun n t ht => Or.inl ht⟩
  | returning err => exact ⟨Or.inl rfl, Nat.le_refl _, fun n t ht => Or.inl ht⟩

theorem call_frame (i : ι) (call : OtaCall) :
    (s.after (.call i call)).arg = s.arg ∧ (s.after (.call i call)).created = s.created ∧
      (s.after (.call i call)).tasks = s.tasks := by
  unfold after
  dsimp only
  cases s.starters i with
  | idle =>
    dsimp only
    unfold compareExchange
    split_ifs
    · exact ⟨rfl, rfl, rfl⟩
    · exact ⟨rfl, rfl, rfl⟩
  | _ => exact ⟨rfl, rfl, rfl⟩

/-- A task ends with its own steps only, or with a restart. -/
theorem tasks_after_other (h : LockInv s) {n : ℕ} {t : OtaTask} (ht : s.tasks n = some t)
    {e : OtaGatewayEvent ι} (he : isStepOf n e = false) :
    (s.after e).tasks n = some t ∨ (s.after e).tasks n = none := by
  cases e with
  | call i call =>
    rw [(call_frame i call).2.2]
    exact Or.inl ht
  | starter i taskCreated =>
    cases hnew : (s.after (.starter i taskCreated)).tasks n with
    | none => exact Or.inr rfl
    | some t' =>
      rcases (starterStep_frame i taskCreated).2.2 n t' hnew with hold | hfresh
      · rw [← hold, ht]
        exact Or.inl rfl
      · have hnone := h.fresh n (Nat.le_of_eq hfresh.1.symm)
        rw [ht] at hnone
        cases hnone
  | task m c =>
    have hmn : n ≠ m := by
      intro hnm
      rw [hnm] at he
      exact absurd (beq_self_eq_true m) (Bool.eq_false_iff.mp he)
    unfold after taskStep
    dsimp only
    cases hm : s.tasks m with
    | none => exact Or.inl ht
    | some t' =>
      dsimp only
      cases t'.phase with
      | updated => exact Or.inr rfl
      | _ => exact Or.inl ((tasks_setTask_other hmn _).trans ht)
  | reboot => exact Or.inr rfl

omit [DecidableEq ι] in
theorem taskStep_cases {n : ℕ} {t : OtaTask} (ht : s.tasks n = some t) (c : OtaTaskCalls) :
    (t.phase = .updated ∧ s.taskStep n c = {}) ∨
      (t.phase = .releasing ∧
        s.taskStep n c = { s with running := false }.setTask n (some { t with phase := .deleting })) ∨
      (t.phase = .deleting ∧ s.taskStep n c = s.setTask n none) ∨
      (t.phase ≠ .updated ∧ t.phase ≠ .releasing ∧ t.phase ≠ .deleting ∧
        s.taskStep n c = s.setTask n (some { t with phase := t.phase.next c s.arg })) := by
  obtain ⟨call, phase⟩ := t
  unfold taskStep
  rw [ht]
  dsimp only
  cases phase with
  | updated => exact Or.inl ⟨rfl, rfl⟩
  | releasing => exact Or.inr (Or.inl ⟨rfl, rfl⟩)
  | deleting => exact Or.inr (Or.inr (Or.inl ⟨rfl, rfl⟩))
  | _ =>
    refine Or.inr (Or.inr (Or.inr ⟨?_, ?_, ?_, rfl⟩))
    all_goals
      intro hphase
      cases hphase

omit [DecidableEq ι] in
/-- A step of its own brings a task nearer to its end. -/
theorem tasks_taskStep_self {n : ℕ} {t : OtaTask} (ht : s.tasks n = some t) (c : OtaTaskCalls) :
    (s.taskStep n c).tasks n = none ∨
      ∃ t', (s.taskStep n c).tasks n = some t' ∧ t'.phase.fuel < t.phase.fuel := by
  rcases taskStep_cases ht c with hcase | hcase | hcase | hcase
  · rw [hcase.2]
    exact Or.inl rfl
  · rw [hcase.2, hcase.1]
    exact Or.inr ⟨_, tasks_setTask_self n _, Nat.lt_succ_self 1⟩
  · rw [hcase.2]
    exact Or.inl (tasks_setTask_self n none)
  · obtain ⟨hupdated, hreleasing, hdeleting, hstep⟩ := hcase
    rw [hstep]
    exact Or.inr ⟨_, tasks_setTask_self n _, fuel_next_lt c s.arg hupdated hreleasing hdeleting⟩

/-- Enough steps of its own, whatever happens between them, see the end of a task. -/
theorem gone_of_steps (h : LockInv s) {n : ℕ} {es : List (OtaGatewayEvent ι)}
    (hes : ∀ t, s.tasks n = some t → t.phase.fuel ≤ es.countP (isStepOf n)) :
    ∃ pre, pre <+: es ∧ (pre.foldl after s).tasks n = none := by
  induction es generalizing s with
  | nil =>
    cases ht : s.tasks n with
    | none => exact ⟨[], List.nil_prefix, ht⟩
    | some t => exact absurd (hes t ht) (Nat.not_le.mpr (fuel_pos t.phase))
  | cons e es ih =>
    cases ht : s.tasks n with
    | none => exact ⟨[], List.nil_prefix, ht⟩
    | some t =>
      have hfuel := hes t ht
      have hrest : ∀ t', (s.after e).tasks n = some t' →
          t'.phase.fuel ≤ es.countP (isStepOf n) := by
        intro t' ht'
        rw [List.countP_cons] at hfuel
        cases hown : isStepOf n e with
        | false =>
          rw [hown] at hfuel
          rcases tasks_after_other h ht hown with hsame | hgone
          · rw [hsame] at ht'
            cases ht'
            simpa using hfuel
          · rw [hgone] at ht'
            cases ht'
        | true =>
          rw [hown, if_pos rfl] at hfuel
          cases e with
          | task m c =>
            have hmn : m = n := eq_of_beq hown
            subst hmn
            rcases tasks_taskStep_self ht c with hgone | ⟨t'', ht'', hless⟩
            · have hnone := hgone.symm.trans ht'
              cases hnone
            · have hsame := ht''.symm.trans ht'
              cases hsame
              omega
          | _ => cases hown
      obtain ⟨pre, hpre, hgone⟩ := ih (h.after e) hrest
      exact ⟨e :: pre, List.cons_prefix_cons.mpr ⟨rfl, hpre⟩, hgone⟩

end OtaGateway

namespace OtaHistory

variable {ι : Type*} {s : OtaHistory ι}

structure Recorded (s : OtaHistory ι) : Prop where
  lock : s.gateway.LockInv
  fresh : ∀ n, s.gateway.created ≤ n → s.told n = [] ∧ s.sent n = []
  running : ∀ n t, s.gateway.tasks n = some t → ∀ c, (∀ c' ∈ s.told n, c.Alike c') →
    s.sent n ++ t.phase.remaining c s.gateway.arg = t.call.requested c
  ended : ∀ r ∈ s.ended, ∀ c, (∀ c' ∈ r.told, c.Alike c') → r.sent = r.call.requested c

theorem recorded_restart {ended : List OtaRecord}
    (h : ∀ r ∈ s.ended ++ ended, ∀ c, (∀ c' ∈ r.told, c.Alike c') → r.sent = r.call.requested c) :
    (s.restart ended).Recorded := by
  refine ⟨OtaGateway.lockInv_boot, fun _ _ => ⟨rfl, rfl⟩, ?_, h⟩
  intro n t ht
  cases ht

theorem recorded_start : Recorded ({} : OtaHistory ι) := by
  refine ⟨OtaGateway.lockInv_boot, fun _ _ => ⟨rfl, rfl⟩, ?_, ?_⟩
  · intro n t ht
    cases ht
  · intro r hr
    cases hr

/-- Only a task that has not read `s_arg` yet depends on it. -/
theorem remaining_of_not_holds {p : OtaTaskPhase} (h : ¬p.Holds) (c : OtaTaskCalls)
    (shared shared' : DistributeArg) : p.remaining c shared = p.remaining c shared' := by
  cases p with
  | deleting => rfl
  | _ => exact absurd trivial h

theorem remaining_first {t : OtaTask} {shared : DistributeArg} (hran : t.Ran shared)
    (hphase : t.phase = OtaGateway.firstPhase t.call) (c : OtaTaskCalls) :
    t.phase.remaining c shared = t.call.requested c := by
  obtain ⟨call, phase⟩ := t
  have hphase : phase = OtaGateway.firstPhase call := hphase
  subst hphase
  unfold OtaGateway.firstPhase at hran ⊢
  unfold OtaCall.requested
  cases harg : call.arg with
  | none => rfl
  | some d =>
    rw [harg, Option.isSome_some, if_pos rfl] at hran
    have hsame : call.arg = some shared := hran
    rw [harg] at hsame
    cases hsame
    rfl

theorem Recorded.gateway_after (h : s.Recorded) {g : OtaGateway ι} (hlock : g.LockInv)
    (harg : g.arg = s.gateway.arg ∨ ∃ i, (s.gateway.starters i).Holds)
    (hcreated : s.gateway.created ≤ g.created)
    (htasks : ∀ n t, g.tasks n = some t → s.gateway.tasks n = some t ∨
      n = s.gateway.created ∧ n < g.created ∧ t.phase = OtaGateway.firstPhase t.call) :
    Recorded { s with gateway := g } := by
  refine ⟨hlock, fun n hn => h.fresh n (hcreated.trans hn), ?_, h.ended⟩
  intro n t ht c htold
  rcases htasks n t ht with hold | hnew
  · have hrun := h.running n t hold c htold
    rcases harg with hsame | ⟨i, hi⟩
    · show s.sent n ++ t.phase.remaining c g.arg = t.call.requested c
      rw [hsame]
      exact hrun
    · -- the flag is the caller's, so this task has released it
      have hidle : ¬t.phase.Holds := by
        intro hholds
        have hboth := h.lock.exclusive.unique (.inr n) (.inl i) ⟨t, hold, hholds⟩ hi
        cases hboth
      rw [remaining_of_not_holds hidle c s.gateway.arg g.arg] at hrun
      exact hrun
  · obtain ⟨hn, -, hphase⟩ := hnew
    have hsent : s.sent n = [] := (h.fresh n (Nat.le_of_eq hn.symm)).2
    show s.sent n ++ t.phase.remaining c g.arg = t.call.requested c
    rw [hsent, List.nil_append]
    exact remaining_first (hlock.ran n t ht) hphase c

theorem Recorded.moveTask (h : s.Recorded) {n : ℕ} {t t' : OtaTask}
    (ht : s.gateway.tasks n = some t) {g : OtaGateway ι} (hlock : g.LockInv)
    (harg : g.arg = s.gateway.arg) (hcreated : g.created = s.gateway.created)
    (hself : g.tasks n = some t') (hother : ∀ m, m ≠ n → g.tasks m = s.gateway.tasks m)
    (c : OtaTaskCalls) (hcall : t'.call = t.call)
    (hrest : ∀ c₀, c₀.Alike c → t.phase.remaining c₀ s.gateway.arg =
      t.phase.sends c ++ t'.phase.remaining c₀ s.gateway.arg) :
    Recorded { s with gateway := g, told := Function.update s.told n (s.told n ++ [c]),
                      sent := Function.update s.sent n (s.sent n ++ t.phase.sends c) } := by
  refine ⟨hlock, ?_, ?_, h.ended⟩
  · intro m hm
    have hmn : m ≠ n := by
      intro hmn
      rw [hmn, hcreated] at hm
      have hnone := h.lock.fresh n hm
      rw [ht] at hnone
      cases hnone
    dsimp only
    rw [Function.update_of_ne hmn, Function.update_of_ne hmn]
    exact h.fresh m (hcreated ▸ hm)
  · intro m t₀ ht₀ c₀ htold
    dsimp only at ht₀ htold ⊢
    rw [harg]
    by_cases hmn : m = n
    · subst hmn
      rw [hself] at ht₀
      cases ht₀
      rw [Function.update_self] at htold ⊢
      have halike : c₀.Alike c := htold c (List.mem_append_right _ (List.mem_singleton_self c))
      have hrun := h.running m t ht c₀ fun c' hc' => htold c' (List.mem_append_left _ hc')
      rw [hcall, ← hrun, hrest c₀ halike, List.append_assoc]
    · rw [hother m hmn] at ht₀
      rw [Function.update_of_ne hmn] at htold ⊢
      exact h.running m t₀ ht₀ c₀ htold

theorem Recorded.taskStep (h : s.Recorded) (n : ℕ) (c : OtaTaskCalls) :
    (s.taskStep n c).Recorded := by
  cases ht : s.gateway.tasks n with
  | none =>
    unfold OtaHistory.taskStep
    rw [ht]
    exact h
  | some t =>
    have hlock := h.lock.taskStep n c
    have hrun := h.running n t ht
    have hother : ∀ o m, m ≠ n → (s.gateway.setTask n o).tasks m = s.gateway.tasks m :=
      fun o m hm => OtaGateway.tasks_setTask_other hm o
    obtain ⟨call, phase⟩ := t
    unfold OtaHistory.taskStep
    rw [ht]
    dsimp only
    rcases OtaGateway.taskStep_cases ht c with hcase | hcase | hcase | hcase
    · obtain ⟨hphase, -⟩ := hcase
      have hphase : phase = .updated := hphase
      subst hphase
      apply recorded_restart
      intro r hr c₀ htold
      rcases List.mem_append.mp hr with hold | hnew
      · exact h.ended r hold c₀ htold
      · rw [List.mem_singleton.mp hnew] at htold ⊢
        exact hrun c₀ fun c' hc' => htold c' (List.mem_append_left _ hc')
    · obtain ⟨hphase, hstep⟩ := hcase
      have hphase : phase = .releasing := hphase
      subst hphase
      rw [hstep] at hlock ⊢
      exact h.moveTask ht hlock rfl rfl (OtaGateway.tasks_setTask_self n _) (hother _) c rfl
        fun c₀ _ => rfl
    · obtain ⟨hphase, hstep⟩ := hcase
      have hphase : phase = .deleting := hphase
      subst hphase
      rw [hstep] at hlock ⊢
      refine ⟨hlock, h.fresh, ?_, ?_⟩
      · intro m t₀ ht₀
        by_cases hmn : m = n
        · rw [hmn] at ht₀
          have hgone := ht₀.symm.trans (OtaGateway.tasks_setTask_self n none)
          cases hgone
        · exact h.running m t₀ ((hother none m hmn).symm.trans ht₀)
      · intro r hr c₀ htold
        rcases List.mem_append.mp hr with hold | hnew
        · exact h.ended r hold c₀ htold
        · rw [List.mem_singleton.mp hnew] at htold ⊢
          exact hrun c₀ htold
    · obtain ⟨hupdated, -, hdeleting, hstep⟩ := hcase
      have hrest : ∀ c₀ : OtaTaskCalls, c₀.Alike c → phase.remaining c₀ s.gateway.arg =
          phase.sends c ++ (phase.next c s.gateway.arg).remaining c₀ s.gateway.arg := by
        intro c₀ hc₀
        rw [remaining_eq c₀ s.gateway.arg hupdated, OtaTaskPhase.sends_alike hc₀,
          OtaTaskPhase.next_alike hc₀]
      rw [hstep] at hlock ⊢
      have hmove := h.moveTask ht hlock rfl rfl (OtaGateway.tasks_setTask_self n _) (hother _) c rfl
        hrest
      cases phase with
      | updated => exact absurd rfl hupdated
      | deleting => exact absurd rfl hdeleting
      | _ => exact hmove

variable [DecidableEq ι]

theorem Recorded.after (h : s.Recorded) (e : OtaGatewayEvent ι) : (s.after e).Recorded := by
  have hlock := h.lock.after e
  cases e with
  | call i call =>
    obtain ⟨harg, hcreated, htasks⟩ := OtaGateway.call_frame (s := s.gateway) i call
    refine h.gateway_after hlock (Or.inl harg) (Nat.le_of_eq hcreated.symm) ?_
    intro n t ht
    rw [htasks] at ht
    exact Or.inl ht
  | starter i taskCreated =>
    obtain ⟨harg, hcreated, htasks⟩ := OtaGateway.starterStep_frame (s := s.gateway) i taskCreated
    exact h.gateway_after hlock (harg.imp id fun hi => ⟨i, hi⟩) hcreated htasks
  | task n c => exact h.taskStep n c
  | reboot => exact recorded_restart (by rw [List.append_nil]; exact h.ended)

theorem recorded_foldl (h : s.Recorded) (es : List (OtaGatewayEvent ι)) :
    (es.foldl OtaHistory.after s).Recorded := by
  induction es generalizing s with
  | nil => exact h
  | cons e es ih => exact ih (h.after e)

theorem after_gateway (s : OtaHistory ι) (e : OtaGatewayEvent ι) :
    (s.after e).gateway = s.gateway.after e := by
  cases e with
  | call i call => rfl
  | starter i taskCreated => rfl
  | task n c =>
    show (s.taskStep n c).gateway = s.gateway.taskStep n c
    unfold OtaHistory.taskStep
    cases ht : s.gateway.tasks n with
    | none =>
      unfold OtaGateway.taskStep
      rw [ht]
    | some t =>
      obtain ⟨call, phase⟩ := t
      dsimp only
      cases phase with
      | updated =>
        unfold OtaGateway.taskStep
        rw [ht]
        rfl
      | _ => rfl
  | reboot => rfl

theorem foldl_gateway (s : OtaHistory ι) (es : List (OtaGatewayEvent ι)) :
    (es.foldl OtaHistory.after s).gateway = es.foldl OtaGateway.after s.gateway := by
  induction es generalizing s with
  | nil => rfl
  | cons e es ih => rw [List.foldl_cons, List.foldl_cons, ih, after_gateway]

end OtaHistory

/-- In every interleaving of callers and tasks with any node tables, an OTA task that has ended
under answers it cannot tell apart has sent what its call asked for, and nothing else: no message
when no configured node has the type, one beacon for all scanners, or five triggers to each
configured node of the type, in the order of the slots. -/
theorem ota_sends_requested {ι : Type*} [DecidableEq ι] (es : List (OtaGatewayEvent ι)) :
    let s := es.foldl OtaHistory.after ({} : OtaHistory ι)
    s.gateway = es.foldl OtaGateway.after {} ∧
      ∀ r ∈ s.ended, ∀ c, (∀ c' ∈ r.told, c.Alike c') → r.sent = r.call.requested c :=
  ⟨OtaHistory.foldl_gateway {} es, (OtaHistory.recorded_foldl OtaHistory.recorded_start es).ended⟩

/-- Every OTA task of the gateway ends: once it has been given `otaTaskSteps` steps, between any
steps of callers and other tasks and whatever the tables, the download and the beacon turn out to
be, there was a moment at which it was gone, and with it its hold on `s_running`. -/
theorem ota_tasks_end {ι : Type*} [DecidableEq ι] (es es' : List (OtaGatewayEvent ι)) (n : ℕ)
    (hes : otaTaskSteps ≤ es'.countP (OtaGateway.isStepOf n)) :
    ∃ pre, pre <+: es' ∧
      ((es ++ pre).foldl OtaGateway.after {}).tasks n = none ∧
      (((es ++ pre).foldl OtaGateway.after {}).running = true →
        ∃ k, k ≠ .inr n ∧ ((es ++ pre).foldl OtaGateway.after {}).Holds k) := by
  have hlock : ∀ fs : List (OtaGatewayEvent ι), (fs.foldl OtaGateway.after {}).LockInv := by
    intro fs
    have hhistory := (OtaHistory.recorded_foldl OtaHistory.recorded_start fs).lock
    rwa [OtaHistory.foldl_gateway] at hhistory
  obtain ⟨pre, hpre, hgone⟩ := OtaGateway.gone_of_steps (hlock es)
    fun t _ => (fuel_le t.phase).trans hes
  rw [← List.foldl_append] at hgone
  refine ⟨pre, hpre, hgone, ?_⟩
  intro hrunning
  obtain ⟨k, hk⟩ := (hlock (es ++ pre)).exclusive.flag_iff.mp hrunning
  refine ⟨k, ?_, hk⟩
  intro hkn
  rw [hkn] at hk
  obtain ⟨t, ht, -⟩ := hk
  rw [hgone] at ht
  cases ht

def oneRelay : OtaTaskCalls where
  nodes i := if i.val = 0 then { used := true, isRelay := true, configDone := true, addr := 5 } else {}

theorem ota_tasks_end_relays :
    otaTaskSteps ≤ (List.replicate 87
        (OtaGatewayEvent.task 0 oneRelay : OtaGatewayEvent Unit)).countP (OtaGateway.isStepOf 0) ∧
      ∃ pre, pre <+: List.replicate 87 (OtaGatewayEvent.task 0 oneRelay) ∧
        ((([OtaGatewayEvent.call () .triggerAllRelays, .starter () true, .starter () true,
          .starter () true] ++ pre).foldl OtaGateway.after {}).tasks 0 = none) := by
  have hcount : otaTaskSteps ≤ (List.replicate 87
      (OtaGatewayEvent.task 0 oneRelay : OtaGatewayEvent Unit)).countP
        (OtaGateway.isStepOf 0) := by
    rw [List.countP_replicate]
    decide
  obtain ⟨pre, hpre, hgone, -⟩ := ota_tasks_end [OtaGatewayEvent.call () .triggerAllRelays,
    .starter () true, .starter () true, .starter () true] _ 0 hcount
  exact ⟨hcount, pre, hpre, hgone⟩

end BleMeshTracking.Ota
