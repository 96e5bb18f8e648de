import BleMeshTracking.Gateway.NodeTable
import BleMeshTracking.Library.Windows
import Mathlib.Algebra.BigOperators.Fin
import Mathlib.Algebra.Order.BigOperators.Group.Finset

/-!
# The gateway: node pings and the data watchdog

`node_ping_task` and `data_watchdog_task`, timed by their own delays only.  An answered ping counts
at the moment it is sent; a silent one holds the task until the wait for its acknowledgement ends.
-/

namespace BleMeshTracking.Gateway

def bmtNodePingIntervalMs : ℕ := 20000

def bmtCfgAckTimeoutMs : ℕ := 10000

def bmtWdgTimeoutMs : ℕ := 30000

def bmtWdgStabilizeMs : ℕ := 15000

def Node.pinged (n : Node) : Bool := n.used && n.configDone && (n.isScan || n.isRelay)

/-- Which pings are answered, by pass and slot. -/
abbrev ResponsePattern := ℕ → Fin bmtMaxNodes → Bool

/-- The clock of `node_ping_task` and the times at which `s_mesh_received` was incremented. -/
structure PingTask where
  nowMs : ℕ := 30000
  heartbeats : List ℕ := []

def PingTask.pingSlot (nodes : NodeTable) (answers : Fin bmtMaxNodes → Bool) (p : PingTask)
    (i : Fin bmtMaxNodes) : PingTask :=
  if (nodes i).pinged then
    if answers i then
      { nowMs := p.nowMs + 500, heartbeats := p.heartbeats ++ [p.nowMs] }
    else { p with nowMs := p.nowMs + bmtCfgAckTimeoutMs + 500 }
  else p

def PingTask.pingPass (nodes : NodeTable) (answers : Fin bmtMaxNodes → Bool) (p : PingTask) :
    PingTask :=
  let p := (List.finRange bmtMaxNodes).foldl (PingTask.pingSlot nodes answers) p
  { p with nowMs := p.nowMs + bmtNodePingIntervalMs }

def nodePingTask (nodes : NodeTable) (answers : ResponsePattern) : ℕ → PingTask
  | 0 => {}
  | k + 1 => (nodePingTask nodes answers k).pingPass nodes (answers k)

/-- `bmt_mesh_get_received_count` at a time; no pass after the ones taken here starts by then. -/
def bmtMeshGetReceivedCount (nodes : NodeTable) (answers : ResponsePattern) (atMs : ℕ) : ℕ :=
  (nodePingTask nodes answers (atMs / bmtNodePingIntervalMs)).heartbeats.countP fun h => h ≤ atMs

def hasConfiguredScanner (nodes : NodeTable) : Bool :=
  (List.finRange bmtMaxNodes).any fun i =>
    (nodes i).used && (nodes i).isScan && (nodes i).configDone

inductive WatchdogTask
  | monitoring (nowMs : ℕ)
  | resetCmd (nowMs : ℕ)
  deriving DecidableEq

/-- The loop body of `data_watchdog_task`, up to the first `RESET_CMD`. -/
def WatchdogTask.round (nodes : NodeTable) (receivedCount : ℕ → ℕ) : WatchdogTask → WatchdogTask
  | .monitoring nowMs =>
    if hasConfiguredScanner nodes then
      if receivedCount (nowMs + bmtWdgTimeoutMs) ≠ receivedCount nowMs then
        .monitoring (nowMs + bmtWdgTimeoutMs)
      else .resetCmd (nowMs + bmtWdgTimeoutMs)
    else .monitoring (nowMs + bmtWdgTimeoutMs)
  | .resetCmd nowMs => .resetCmd nowMs

def dataWatchdogTask (nodes : NodeTable) (receivedCount : ℕ → ℕ) : ℕ → WatchdogTask
  | 0 => .monitoring bmtWdgStabilizeMs
  | j + 1 => (dataWatchdogTask nodes receivedCount j).round nodes receivedCount

/-- The watchdog never gets to the `RESET_CMD` broadcast. -/
def NeverResets (nodes : NodeTable) (answers : ResponsePattern) : Prop :=
  ∀ j atMs, dataWatchdogTask nodes (bmtMeshGetReceivedCount nodes answers) j ≠ .resetCmd atMs

/-- Some configured scanner answers every ping it is sent. -/
def ScannerAnswers (nodes : NodeTable) (answers : ResponsePattern) : Prop :=
  ∃ i, ((nodes i).used && (nodes i).isScan && (nodes i).configDone) = true ∧
    ∀ k, answers k i = true

def slotMs (nodes : NodeTable) (answers : Fin bmtMaxNodes → Bool) (i : Fin bmtMaxNodes) : ℕ :=
  if (nodes i).pinged then if answers i then 500 else bmtCfgAckTimeoutMs + 500 else 0

/-- When a pass starts: 20 s after each pass before it, with 500 ms for every ping of theirs and
10 s more for every silent one. -/
def passMs (nodes : NodeTable) (answers : ResponsePattern) (k : ℕ) : ℕ :=
  30000 + ∑ m ∈ Finset.range k, (bmtNodePingIntervalMs + ∑ i, slotMs nodes (answers m) i)

def pingMs (nodes : NodeTable) (answers : ResponsePattern) (k : ℕ) (i : Fin bmtMaxNodes) : ℕ :=
  passMs nodes answers k + ∑ j ∈ Finset.Iio i, slotMs nodes (answers k) j

/-- Every window of the watchdog has an answered ping in it. -/
def TimetableCovers (nodes : NodeTable) (answers : ResponsePattern) : Prop :=
  ∀ j, ∃ k i, (nodes i).pinged = true ∧ answers k i = true ∧
    Windows.InWindow bmtWdgStabilizeMs bmtWdgTimeoutMs j (pingMs nodes answers k i)

section PingTask

variable (nodes : NodeTable)

/-- The slots before `i` are those the loop has gone through when it gets to `i`. -/
theorem sum_before {n : ℕ} {pre post : List (Fin n)} {i : Fin n}
    (h : List.finRange n = pre ++ i :: post) (f : Fin n → ℕ) :
    (pre.map f).sum = ∑ j ∈ Finset.Iio i, f j := by
  have hsorted := List.pairwise_lt_finRange n
  have hnodup := List.nodup_finRange n
  rw [h] at hsorted hnodup
  -- in a sorted list what precedes `i` is smaller and what follows it larger
  obtain ⟨-, hrest, hpre⟩ := List.pairwise_append.mp hsorted
  have hpost := (List.pairwise_cons.mp hrest).1
  have hiio : Finset.Iio i = pre.toFinset := by
    ext j
    rw [Finset.mem_Iio, List.mem_toFinset]
    refine ⟨?_, fun hj => hpre j hj i (by simp)⟩
    intro hlt
    have hj : j ∈ pre ++ i :: post := h ▸ List.mem_finRange j
    rcases List.mem_append.mp hj with hj | hj
    · exact hj
    · rcases List.mem_cons.mp hj with hj | hj
      · exact absurd hlt (hj ▸ lt_irrefl i)
      · exact absurd hlt (hpost j hj).le.not_gt
  rw [hiio, List.sum_toFinset f (List.nodup_append.mp hnodup).1]

theorem nowMs_foldl (answers : Fin bmtMaxNodes → Bool) (l : List (Fin bmtMaxNodes))
    (p : PingTask) : (l.foldl (PingTask.pingSlot nodes answers) p).nowMs =
      p.nowMs + (l.map (slotMs nodes answers)).sum := by
  induction l generalizing p with
  | nil => rfl
  | cons i l ih =>
    have hslot : (p.pingSlot nodes answers i).nowMs = p.nowMs + slotMs nodes answers i := by
      cases hp : (nodes i).pinged with
      | false => simp [PingTask.pingSlot, slotMs, hp]
      | true =>
        cases ha : answers i with
        | true => simp [PingTask.pingSlot, slotMs, hp, ha]
        | false => simp [PingTask.pingSlot, slotMs, hp, ha, Nat.add_assoc]
    rw [List.foldl_cons, ih, hslot, List.map_cons, List.sum_cons, Nat.add_assoc]

/-- The heartbeats a stretch of the loop adds. -/
theorem heartbeats_foldl (answers : Fin bmtMaxNodes → Bool) (l : List (Fin bmtMaxNodes))
    (p : PingTask) : ∃ new,
      (l.foldl (PingTask.pingSlot nodes answers) p).heartbeats = p.heartbeats ++ new ∧
        ∀ t, t ∈ new ↔ ∃ pre i post, l = pre ++ i :: post ∧ (nodes i).pinged = true ∧
          answers i = true ∧ t = p.nowMs + (pre.map (slotMs nodes answers)).sum := by
  induction l generalizing p with
  | nil => exact ⟨[], by simp, by simp⟩
  | cons i l ih =>
    obtain ⟨new, hnew, hmem⟩ := ih (p.pingSlot nodes answers i)
    have hnow := nowMs_foldl nodes answers [i] p
    simp only [List.foldl_cons, List.foldl_nil, List.map_cons, List.map_nil, List.sum_cons,
      List.sum_nil, Nat.add_zero] at hnow
    have hfirst : ∃ first, (p.pingSlot nodes answers i).heartbeats = p.heartbeats ++ first ∧
        ∀ t, t ∈ first ↔ (nodes i).pinged = true ∧ answers i = true ∧ t = p.nowMs := by
      unfold PingTask.pingSlot
      split_ifs with hp ha
      · exact ⟨[p.nowMs], rfl, by simp [hp, ha]⟩
      · exact ⟨[], by simp, by simp [ha]⟩
      · exact ⟨[], by simp, by simp [hp]⟩
    obtain ⟨first, hfirst, hmemfirst⟩ := hfirst
    -- a heartbeat is this slot's, or one of the rest, which starts this slot's time later
    refine ⟨first ++ new, by rw [List.foldl_cons, hnew, hfirst, List.append_assoc], ?_⟩
    intro t
    rw [List.mem_append, hmemfirst, hmem]
    refine ⟨?_, ?_⟩
    · intro h
      rcases h with hhere | hlater
      · exact ⟨[], i, l, rfl, hhere.1, hhere.2.1, by simpa using hhere.2.2⟩
      · obtain ⟨pre, j, post, hl, hp, ha, ht⟩ := hlater
        refine ⟨i :: pre, j, post, by rw [hl]; rfl, hp, ha, ?_⟩
        rw [ht, hnow, List.map_cons, List.sum_cons, Nat.add_assoc]
    · intro h
      obtain ⟨pre, j, post, hl, hp, ha, ht⟩ := h
      cases pre with
      | nil =>
        cases hl
        exact Or.inl ⟨hp, ha, by simpa using ht⟩
      | cons k pre =>
        cases hl
        refine Or.inr ⟨pre, j, post, rfl, hp, ha, ?_⟩
        rw [ht, hnow, List.map_cons, List.sum_cons, Nat.add_assoc]

variable (answers : ResponsePattern)

theorem passMs_succ (k : ℕ) : passMs nodes answers (k + 1) =
    passMs nodes answers k + ∑ i, slotMs nodes (answers k) i + bmtNodePingIntervalMs := by
  unfold passMs
  rw [Finset.sum_range_succ]
  omega

theorem le_passMs (k : ℕ) : 30000 + k * bmtNodePingIntervalMs ≤ passMs nodes answers k := by
  induction k with
  | zero => simp [passMs]
  | succ k ih =>
    rw [passMs_succ, Nat.succ_mul]
    omega

theorem nowMs_nodePingTask (k : ℕ) :
    (nodePingTask nodes answers k).nowMs = passMs nodes answers k := by
  induction k with
  | zero => rfl
  | succ k ih =>
    rw [nodePingTask, PingTask.pingPass]
    dsimp only
    rw [nowMs_foldl, ih, passMs_succ, ← Fin.sum_univ_def]

theorem heartbeats_succ (k : ℕ) : ∃ new, (nodePingTask nodes answers (k + 1)).heartbeats =
    (nodePingTask nodes answers k).heartbeats ++ new ∧
      ∀ t, t ∈ new ↔ ∃ i, (nodes i).pinged = true ∧ answers k i = true ∧
        t = pingMs nodes answers k i := by
  obtain ⟨new, hnew, hmem⟩ := heartbeats_foldl nodes (answers k)
    (List.finRange bmtMaxNodes) (nodePingTask nodes answers k)
  refine ⟨new, hnew, ?_⟩
  intro t
  rw [hmem]
  refine ⟨?_, ?_⟩
  · intro h
    obtain ⟨pre, i, post, hl, hp, ha, ht⟩ := h
    refine ⟨i, hp, ha, ?_⟩
    rw [ht, nowMs_nodePingTask, sum_before hl, pingMs]
  · intro h
    obtain ⟨i, hp, ha, ht⟩ := h
    obtain ⟨pre, post, hl⟩ := List.append_of_mem (List.mem_finRange i)
    refine ⟨pre, i, post, hl, hp, ha, ?_⟩
    rw [ht, nowMs_nodePingTask, sum_before hl, pingMs]

variable {nodes answers}

theorem mem_heartbeats_iff {K t : ℕ} : t ∈ (nodePingTask nodes answers K).heartbeats ↔
    ∃ k < K, ∃ i, (nodes i).pinged = true ∧ answers k i = true ∧
      t = pingMs nodes answers k i := by
  induction K with
  | zero => simp [nodePingTask]
  | succ K ih =>
    obtain ⟨new, hnew, hmem⟩ := heartbeats_succ nodes answers K
    rw [hnew, List.mem_append, ih, hmem]
    refine ⟨?_, ?_⟩
    · intro h
      rcases h with hold | hpass
      · obtain ⟨k, hk, hping⟩ := hold
        exact ⟨k, by omega, hping⟩
      · exact ⟨K, by omega, hpass⟩
    · intro h
      obtain ⟨k, hk, hping⟩ := h
      by_cases hkK : k = K
      · exact Or.inr (hkK ▸ hping)
      · exact Or.inl ⟨k, by omega, hping⟩

/-- Passes that start after the reading do not change it. -/
theorem countP_heartbeats {t K : ℕ} (hK : t / bmtNodePingIntervalMs ≤ K) :
    (nodePingTask nodes answers K).heartbeats.countP (fun h => h ≤ t) =
      bmtMeshGetReceivedCount nodes answers t := by
  induction K, hK using Nat.le_induction with
  | base => rfl
  | succ K hK ih =>
    obtain ⟨new, hnew, hmem⟩ := heartbeats_succ nodes answers K
    -- pass `K` starts at 30 s + 20 s * `K` at the earliest, after the reading
    have hlate : new.countP (fun h => h ≤ t) = 0 := by
      apply List.countP_eq_zero.mpr
      intro h hh
      obtain ⟨i, -, -, hi⟩ := (hmem h).mp hh
      have hpass := le_passMs nodes answers K
      have hpos : 0 < bmtNodePingIntervalMs := by decide
      have ht := Nat.lt_mul_of_div_lt (Nat.lt_succ_of_le hK) hpos
      have hping : passMs nodes answers K ≤ pingMs nodes answers K i := Nat.le_add_right _ _
      rw [Nat.succ_mul] at ht
      have hms : bmtNodePingIntervalMs = 20000 := rfl
      simp only [decide_eq_true_eq]
      omega
    rw [hnew, List.countP_append, ih, hlate, Nat.add_zero]

/-- The count changes over a stretch of time just when an answered ping falls into it. -/
theorem receivedCount_ne_iff {t t' : ℕ} (h : t ≤ t') :
    bmtMeshGetReceivedCount nodes answers t' ≠ bmtMeshGetReceivedCount nodes answers t ↔
      ∃ k i, (nodes i).pinged = true ∧ answers k i = true ∧
        t < pingMs nodes answers k i ∧ pingMs nodes answers k i ≤ t' := by
  have hdiv : t / bmtNodePingIntervalMs ≤ t' / bmtNodePingIntervalMs := Nat.div_le_div_right h
  -- both readings count in one list of heartbeats
  rw [← countP_heartbeats le_rfl, ← countP_heartbeats hdiv]
  generalize hl : (nodePingTask nodes answers (t' / bmtNodePingIntervalMs)).heartbeats = l
  have hsplit : l.countP (fun h => h ≤ t') =
      l.countP (fun h => h ≤ t) + l.countP (fun h => t < h ∧ h ≤ t') := by
    clear hl
    induction l with
    | nil => rfl
    | cons a l ih =>
      simp only [List.countP_cons, ih, decide_eq_true_eq]
      split_ifs
      all_goals omega
  rw [hsplit]
  subst hl
  constructor
  · intro hne
    have hpos : 0 < (nodePingTask nodes answers (t' / bmtNodePingIntervalMs)).heartbeats.countP
        (fun h => t < h ∧ h ≤ t') := by
      omega
    obtain ⟨m, hm, hwindow⟩ := List.countP_pos_iff.mp hpos
    obtain ⟨k, -, i, hp, ha, hi⟩ := mem_heartbeats_iff.mp hm
    simp only [decide_eq_true_eq] at hwindow
    exact ⟨k, i, hp, ha, hi ▸ hwindow⟩
  · intro hex
    obtain ⟨k, i, hp, ha, hwindow⟩ := hex
    have hpass := le_passMs nodes answers k
    have hping : passMs nodes answers k ≤ pingMs nodes answers k i := Nat.le_add_right _ _
    have hk : k < t' / bmtNodePingIntervalMs := by
      have hms : bmtNodePingIntervalMs = 20000 := rfl
      rw [hms] at hpass ⊢
      omega
    have hpos : 0 < (nodePingTask nodes answers (t' / bmtNodePingIntervalMs)).heartbeats.countP
        (fun h => t < h ∧ h ≤ t') := by
      apply List.countP_pos_iff.mpr
      refine ⟨pingMs nodes answers k i, mem_heartbeats_iff.mpr ⟨k, hk, i, hp, ha, rfl⟩, ?_⟩
      simpa using hwindow
    omega

end PingTask

section Watchdog

variable {nodes : NodeTable} {answers : ResponsePattern}

/-- As long as the count changes in every window, the next window starts where the last ended. -/
theorem dataWatchdogTask_eq {receivedCount : ℕ → ℕ} {j : ℕ}
    (h : hasConfiguredScanner nodes = true → ∀ m < j,
      receivedCount (bmtWdgStabilizeMs + (m + 1) * bmtWdgTimeoutMs) ≠
        receivedCount (bmtWdgStabilizeMs + m * bmtWdgTimeoutMs)) :
    dataWatchdogTask nodes receivedCount j =
      .monitoring (bmtWdgStabilizeMs + j * bmtWdgTimeoutMs) := by
  induction j with
  | zero => rfl
  | succ j ih =>
    have hnext : bmtWdgStabilizeMs + j * bmtWdgTimeoutMs + bmtWdgTimeoutMs =
        bmtWdgStabilizeMs + (j + 1) * bmtWdgTimeoutMs := by
      rw [Nat.succ_mul, Nat.add_assoc]
    rw [dataWatchdogTask, ih fun hs m hm => h hs m (by omega), WatchdogTask.round, hnext]
    split_ifs with hs hne
    · rfl
    · exact absurd (not_not.mp hne) (h hs j (by omega))
    · rfl

theorem neverResets_iff_count : NeverResets nodes answers ↔
    (hasConfiguredScanner nodes = true → ∀ j,
      bmtMeshGetReceivedCount nodes answers (bmtWdgStabilizeMs + (j + 1) * bmtWdgTimeoutMs) ≠
        bmtMeshGetReceivedCount nodes answers (bmtWdgStabilizeMs + j * bmtWdgTimeoutMs)) := by
  refine ⟨?_, ?_⟩
  · intro hnever hs j
    induction j using Nat.strong_induction_on with
    | _ j ih =>
      intro heq
      -- the rounds before this one went on, so this one starts here and ends in the broadcast
      have hround : dataWatchdogTask nodes (bmtMeshGetReceivedCount nodes answers) j =
          .monitoring (bmtWdgStabilizeMs + j * bmtWdgTimeoutMs) := by
        apply dataWatchdogTask_eq
        intro _ m hm
        exact ih m hm
      apply hnever (j + 1) (bmtWdgStabilizeMs + (j + 1) * bmtWdgTimeoutMs)
      have hnext : bmtWdgStabilizeMs + j * bmtWdgTimeoutMs + bmtWdgTimeoutMs =
          bmtWdgStabilizeMs + (j + 1) * bmtWdgTimeoutMs := by
        rw [Nat.succ_mul, Nat.add_assoc]
      rw [dataWatchdogTask, hround, WatchdogTask.round, hnext, if_pos hs, if_neg (not_not.mpr heq)]
  · intro h j atMs
    rw [dataWatchdogTask_eq fun hs m _ => h hs m]
    intro heq
    cases heq

/-- The watchdog never resets the mesh just when it is idle or the timetable covers its windows. -/
theorem neverResets_iff_covers : NeverResets nodes answers ↔
    (hasConfiguredScanner nodes = true → TimetableCovers nodes answers) := by
  rw [neverResets_iff_count]
  apply imp_congr_right
  intro _
  apply forall_congr'
  intro j
  apply receivedCount_ne_iff
  rw [Nat.succ_mul]
  omega

end Watchdog

section Silence

variable {nodes : NodeTable} {answers : ResponsePattern}

theorem pinged_of_scanner {n : Node} (h : (n.used && n.isScan && n.configDone) = true) :
    n.pinged = true := by
  simp only [Bool.and_eq_true] at h
  simp [Node.pinged, h.1.1, h.1.2, h.2]

theorem exists_scanner (h : hasConfiguredScanner nodes = true) :
    ∃ i, ((nodes i).used && (nodes i).isScan && (nodes i).configDone) = true := by
  obtain ⟨i, -, hi⟩ := List.any_eq_true.mp h
  exact ⟨i, hi⟩

theorem sum_slotMs_of_answered {answers : Fin bmtMaxNodes → Bool}
    (h : ∀ i, (nodes i).pinged = true → answers i = true) :
    ∑ i, slotMs nodes answers i ≤ 5000 := by
  have hslot : ∀ i ∈ Finset.univ, slotMs nodes answers i ≤ 500 := by
    intro i _
    unfold slotMs
    cases hp : (nodes i).pinged with
    | false => simp
    | true => simp [h i hp]
  have hsum := Finset.sum_le_card_nsmul _ _ _ hslot
  rw [Finset.card_univ, Fintype.card_fin] at hsum
  exact hsum

/-- With every ping answered, a pass is so short that the watchdog sees the heartbeat of any one
node in every window. -/
theorem neverResets_of_all_answer
    (h : ∀ k i, (nodes i).pinged = true → answers k i = true) : NeverResets nodes answers := by
  rw [neverResets_iff_covers]
  intro hs j
  obtain ⟨i, hi⟩ := exists_scanner hs
  have hp := pinged_of_scanner hi
  have hbefore : ∀ k, ∑ m ∈ Finset.Iio i, slotMs nodes (answers k) m ≤
      ∑ m, slotMs nodes (answers k) m :=
    fun k => Finset.sum_le_sum_of_subset (Finset.subset_univ _)
  have hms : bmtNodePingIntervalMs = 20000 := rfl
  -- the rest of a pass, the pause and the start of the next pass take 30 s at most
  have hwindow : ∃ k, Windows.InWindow bmtWdgStabilizeMs bmtWdgTimeoutMs j
      (pingMs nodes answers k i) := by
    apply Windows.hits_every_window
    · have h0 := sum_slotMs_of_answered (h 0)
      have hb0 := hbefore 0
      simp only [pingMs, passMs, Finset.range_zero, Finset.sum_empty, bmtWdgStabilizeMs,
        bmtWdgTimeoutMs]
      omega
    · intro k
      have hb := hbefore k
      rw [pingMs, pingMs, passMs_succ]
      omega
    · intro k
      have hk := sum_slotMs_of_answered (h k)
      have hk' := sum_slotMs_of_answered (h (k + 1))
      have hb' := hbefore (k + 1)
      rw [pingMs, pingMs, passMs_succ, bmtWdgTimeoutMs]
      omega
  obtain ⟨k, hk⟩ := hwindow
  exact ⟨k, i, hp, h k i hp, hk⟩

/-- When only one of two or more nodes answers, its heartbeats are too far apart. -/
theorem not_covers_of_silent {i j : Fin bmtMaxNodes} (hi : (nodes i).pinged = true)
    (hj : (nodes j).pinged = true) (hij : j ≠ i) :
    ¬TimetableCovers nodes fun _ m => decide (m = i) := by
  intro hcovers
  -- one answered ping, one silent one and the pause make 31 s
  have hpass : ∀ k, pingMs nodes (fun _ m => decide (m = i)) k i + 31000 ≤
      pingMs nodes (fun _ m => decide (m = i)) (k + 1) i := by
    intro k
    have hpair : slotMs nodes (fun m => decide (m = i)) i +
        slotMs nodes (fun m => decide (m = i)) j ≤
          ∑ m, slotMs nodes (fun m => decide (m = i)) m := by
      rw [← Finset.sum_pair hij.symm]
      exact Finset.sum_le_sum_of_subset (Finset.subset_univ _)
    have hanswered : slotMs nodes (fun m => decide (m = i)) i = 500 := by
      simp [slotMs, hi]
    have hsilent : slotMs nodes (fun m => decide (m = i)) j = 10500 := by
      simp [slotMs, hj, hij, bmtCfgAckTimeoutMs]
    rw [pingMs, pingMs, passMs_succ, bmtNodePingIntervalMs]
    omega
  obtain ⟨w, hmissed⟩ := Windows.misses_some_window (w := bmtWdgTimeoutMs) (by decide) hpass
    bmtWdgStabilizeMs
  obtain ⟨k, m, -, hanswer, hwindow⟩ := hcovers w
  rw [of_decide_eq_true hanswer] at hwindow
  exact hmissed k hwindow

end Silence

/-- For one response pattern the watchdog never resets the mesh just when every window has an
answered ping in the timetable.  This holds of every pattern in which a scanner always answers
just when the table has no second node to be silent. -/
theorem never_resets_iff_no_second_node (nodes : NodeTable) :
    (∀ answers, NeverResets nodes answers ↔
      (hasConfiguredScanner nodes = true → TimetableCovers nodes answers)) ∧
    ((∀ answers, ScannerAnswers nodes answers → NeverResets nodes answers) ↔
      (hasConfiguredScanner nodes = true →
        ∀ i j, (nodes i).pinged = true → (nodes j).pinged = true → i = j)) := by
  refine ⟨fun answers => neverResets_iff_covers, ?_, ?_⟩
  · intro hall hs i j hi hj
    obtain ⟨m, hm⟩ := exists_scanner hs
    -- a second node could be silent while the scanner answers
    have honly : ∀ n, (nodes n).pinged = true → n = m := by
      intro n hn
      by_contra hnm
      have hanswers : ScannerAnswers nodes fun _ k => decide (k = m) := ⟨m, hm, by simp⟩
      have hcovers := neverResets_iff_covers.mp (hall _ hanswers) hs
      exact not_covers_of_silent (pinged_of_scanner hm) hn hnm hcovers
    rw [honly i hi, honly j hj]
  · intro hsingle answers hanswers
    rw [neverResets_iff_covers]
    intro hs
    obtain ⟨m, hm, hans⟩ := hanswers
    have hnever : NeverResets nodes answers := by
      apply neverResets_of_all_answer
      intro k i hi
      rw [hsingle hs i m hi (pinged_of_scanner hm)]
      exact hans k
    exact neverResets_iff_covers.mp hnever hs

def relayAndScanner : NodeTable := fun i =>
  if i.val = 0 then { used := true, isRelay := true, configDone := true, addr := 5 }
  else if i.val = 1 then { used := true, isScan := true, configDone := true, addr := 6 }
  else {}

/-- The relay is silent, the scanner answers every ping, and no heartbeat arrives between 165 s
and 195 s. -/
theorem silent_relay_resets_mesh :
    ScannerAnswers relayAndScanner (fun _ i => i.val == 1) ∧
      ¬NeverResets relayAndScanner fun _ i => i.val == 1 := by
  refine ⟨⟨⟨1, by decide⟩, by decide, fun _ => rfl⟩, ?_⟩
  intro hnever
  apply hnever 6 195000
  decide +kernel

end BleMeshTracking.Gateway
