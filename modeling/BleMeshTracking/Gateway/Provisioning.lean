import BleMeshTracking.Gateway.NodeTable
import BleMeshTracking.Library.Run

/-!
# The gateway: provisioning and configuring nodes

`mesh_prov_cb`, the outcomes of `node_config_task` and what a reboot restores.  A node is added to
the table, and the table saved, before the task that configures it has run; the table survives a
reboot and the task does not.
-/

namespace BleMeshTracking.Gateway

inductive ProvMode
  | auto
  | manual
  deriving DecidableEq

def bmtMaxScanList : ℕ := 10

structure Beacon where
  uuid : Uuid
  mac : Mac
  addrType : UInt8
  oobInfo : UInt16
  deriving DecidableEq

/-- The state of `bmt_scan_list.c`; the entries in use are the list. -/
structure ScanList where
  mode : ProvMode := .auto
  scanning : Bool := false
  entries : List Beacon := []

structure ConfigTask where
  addr : UInt16
  isScan : Bool
  deriving DecidableEq

/-- What the callbacks ask of the mesh stack and of `s_on_scan_configured`. -/
inductive ProvCall
  | deleteNodeWithUuid (uuid : Uuid)
  | addUnprovDev (dev : Beacon)
  | scanConfigured (addr : UInt16)
  deriving DecidableEq

structure Provisioner where
  nodes : NodeTable := fun _ => {}
  saved : Option NodeTable := none
  tasks : List ConfigTask := []
  macCache : MacCache := fun _ => {}
  scanList : ScanList := {}

def bmtScanListAdd (b : Beacon) (l : ScanList) : ScanList :=
  if l.scanning && l.entries.all (fun e => e.uuid != b.uuid) &&
      decide (l.entries.length < bmtMaxScanList) then
    { l with entries := l.entries ++ [b] }
  else l

def bmtScanListSetMode (mode : ProvMode) (l : ScanList) : ScanList :=
  match mode with
  | .auto => { l with mode := .auto, entries := [] }
  | .manual => { l with mode := .manual }

/-- A new table and `bmt_node_table_save`, which reaches flash if `saved`. -/
def Provisioner.write (s : Provisioner) (nodes : NodeTable) (saved : Bool) : Provisioner :=
  { s with nodes := nodes, saved := if saved then some nodes else s.saved }

/-- `RECV_UNPROV_ADV_PKT` of `mesh_prov_cb`. -/
def Provisioner.recvUnprovAdvPkt (b : Beacon) (saved : Bool) (s : Provisioner) :
    Provisioner × List ProvCall :=
  let s := { s with macCache := bmtMacCacheStore b.uuid b.mac s.macCache }
  match s.scanList.mode with
  | .manual => ({ s with scanList := bmtScanListAdd b s.scanList }, [])
  | .auto =>
    match SlotTable.find (Node.isOf b.uuid) s.nodes with
    | some stale =>
      if (s.nodes stale).configDone then
        (s.write (Function.update s.nodes stale {}) saved,
          [.deleteNodeWithUuid b.uuid, .addUnprovDev b])
      else (s, [])
    | none => (s, [.addUnprovDev b])

def Node.configuring (uuid : Uuid) (n : Node) : Node :=
  let isScan := !bmtUuidIsRelay uuid && bmtUuidIsScan uuid
  { n with
    isRelay := bmtUuidIsRelay uuid
    isScan := isScan
    configDone := false
    name := (if isScan then "Scan_0x" else "Relay_0x") ++ hex4 n.addr }

def ConfigTask.of (addr : UInt16) (uuid : Uuid) : ConfigTask :=
  { addr := addr, isScan := !bmtUuidIsRelay uuid && bmtUuidIsScan uuid }

/-- `PROV_COMPLETE` of `mesh_prov_cb`. -/
def Provisioner.provComplete (addr : UInt16) (uuid : Uuid) (saved : Bool) (s : Provisioner) :
    Provisioner :=
  let mac := (bmtMacCacheGet uuid s.macCache).getD fun _ => 0
  let added := bmtNodeTableAdd addr uuid mac s.nodes
  match added.1 with
  | none => { s with nodes := added.2 }
  | some i =>
    if bmtUuidIsRelay uuid || bmtUuidIsScan uuid then
      { s.write (Function.update added.2 i ((added.2 i).configuring uuid)) saved with
        tasks := s.tasks ++ [ConfigTask.of addr uuid] }
    else s.write added.2 saved

/-- `node_config_task` after both of its steps were acknowledged. -/
def Provisioner.configured (t : ConfigTask) (saved : Bool) (s : Provisioner) :
    Provisioner × List ProvCall :=
  let s := { s with tasks := s.tasks.erase t }
  let calls := if t.isScan then [.scanConfigured t.addr] else []
  match bmtNodeTableFind t.addr s.nodes with
  | some i =>
    (s.write (Function.update s.nodes i { s.nodes i with configDone := true }) saved, calls)
  | none => (s, calls)

/-- `node_config_task` when a step was not acknowledged: `cfg_abort_cleanup`. -/
def Provisioner.cfgAbortCleanup (t : ConfigTask) (saved : Bool) (s : Provisioner) :
    Provisioner × List ProvCall :=
  let s := { s with tasks := s.tasks.erase t }
  match bmtNodeTableFind t.addr s.nodes with
  | some i =>
    (s.write (Function.update s.nodes i {}) saved, [.deleteNodeWithUuid (s.nodes i).uuid])
  | none => (s, [])

def Provisioner.reboot (s : Provisioner) : Provisioner :=
  { nodes := bmtNodeTableLoad s.saved, saved := s.saved }

/-- What can happen; `saved` says whether the handler's write of the table reaches flash. -/
inductive ProvEvent
  | beacon (b : Beacon) (saved : Bool)
  | provComplete (addr : UInt16) (uuid : Uuid) (saved : Bool)
  | configured (t : ConfigTask) (saved : Bool)
  | configFailed (t : ConfigTask) (saved : Bool)
  | reboot
  | setMode (mode : ProvMode)
  | scanStart
  | scanEnd

def Provisioner.step (s : Provisioner) : ProvEvent → Option Provisioner
  | .beacon b saved => some (s.recvUnprovAdvPkt b saved).1
  | .provComplete addr uuid saved => some (s.provComplete addr uuid saved)
  | .configured t saved => if t ∈ s.tasks then some (s.configured t saved).1 else none
  | .configFailed t saved => if t ∈ s.tasks then some (s.cfgAbortCleanup t saved).1 else none
  | .reboot => some s.reboot
  | .setMode mode => some { s with scanList := bmtScanListSetMode mode s.scanList }
  | .scanStart => some { s with scanList := { mode := .manual, scanning := true, entries := [] } }
  | .scanEnd =>
    if s.scanList.scanning then some { s with scanList := { s.scanList with scanning := false } }
    else none

def Provisioner.stillConfiguring (s : Provisioner) (uuid : Uuid) : Option (Fin bmtMaxNodes) :=
  (SlotTable.find (Node.isOf uuid) s.nodes).filter fun i => !(s.nodes i).configDone

def Provisioner.HasTask (s : Provisioner) (addr : UInt16) : Prop := ∃ t ∈ s.tasks, t.addr = addr

/-- No entry waits for a configuration that nothing carries out, and the task that does carries it
out to a point where the entry is skipped no longer, whether the configuration succeeds or not. -/
structure Provisioner.NoZombie (s : Provisioner) : Prop where
  hasTask : ∀ i, (s.nodes i).used = true → (s.nodes i).configDone = false →
    s.HasTask (s.nodes i).addr
  unblocked : ∀ uuid i, s.stillConfiguring uuid = some i →
    ∃ t ∈ s.tasks, t.addr = (s.nodes i).addr ∧ ∀ saved,
      (s.configured t saved).1.stillConfiguring uuid ≠ some i ∧
        (s.cfgAbortCleanup t saved).1.stillConfiguring uuid ≠ some i

/-- The step forgets no configuration: what is provisioned is a relay or a scanner, or gets no
entry of its own, or has a task already; and no reboot while the saved table holds an entry that
is not configured. -/
def Provisioner.KeepsTasks (s : Provisioner) : ProvEvent → Prop
  | .provComplete addr uuid _ =>
    (bmtUuidIsRelay uuid || bmtUuidIsScan uuid) = true ∨ (∃ i, (s.nodes i).isAt addr = true) ∨
      (∀ i, (s.nodes i).used = true) ∨ s.HasTask addr
  | .reboot => ∀ blob ∈ s.saved, ∀ i, (blob i).used = true → (blob i).configDone = true
  | _ => True

structure Provisioner.Sound (s : Provisioner) : Prop where
  nodes : DistinctAddrs s.nodes
  saved : ∀ blob ∈ s.saved, DistinctAddrs blob

theorem addr_ne_of_find_none {nodes : NodeTable} {addr : UInt16}
    (hfind : bmtNodeTableFind addr nodes = none) {j : Fin bmtMaxNodes}
    (hused : (nodes j).used = true) : (nodes j).addr ≠ addr :=
  SlotTable.key_ne_of_find (fun _ => isAt_iff) hfind hused

theorem DistinctAddrs.find {nodes : NodeTable} (h : DistinctAddrs nodes) {i : Fin bmtMaxNodes}
    (hi : (nodes i).used = true) : bmtNodeTableFind (nodes i).addr nodes = some i := by
  cases hfind : bmtNodeTableFind (nodes i).addr nodes with
  | none =>
    exact absurd rfl (addr_ne_of_find_none hfind hi)
  | some j =>
    have hj := isAt_iff.mp (SlotTable.find_sat hfind)
    rw [h j i hj.1 hi hj.2]

theorem Provisioner.Sound.write {s : Provisioner} (h : s.Sound) {nodes : NodeTable}
    (hnodes : DistinctAddrs nodes) (saved : Bool) : (s.write nodes saved).Sound := by
  refine ⟨hnodes, ?_⟩
  intro blob hblob
  cases saved with
  | true =>
    cases hblob
    exact hnodes
  | false => exact h.saved blob hblob

/-- What `PROV_COMPLETE` does to the table: nothing when it is full, or else it writes the entry
of the address, with a task for a relay or a scanner. -/
theorem provComplete_cases {s : Provisioner} (h : s.Sound) (addr : UInt16) (uuid : Uuid)
    (saved : Bool) :
    (s.provComplete addr uuid saved = s ∧ ∀ i, (s.nodes i).used = true) ∨
      ∃ i n, n.used = true ∧ n.addr = addr ∧
        (∀ j, j ≠ i → (s.nodes j).used = true → (s.nodes j).addr ≠ addr) ∧
        ((bmtUuidIsRelay uuid || bmtUuidIsScan uuid) = true ∧
            s.provComplete addr uuid saved =
              { s.write (Function.update s.nodes i n) saved with
                tasks := s.tasks ++ [ConfigTask.of addr uuid] } ∨
          (bmtUuidIsRelay uuid || bmtUuidIsScan uuid) = false ∧
            s.provComplete addr uuid saved = s.write (Function.update s.nodes i n) saved ∧
            ((s.nodes i).isAt addr = true ∧ n.configDone = (s.nodes i).configDone ∨
              (s.nodes i).used = false ∧ n.configDone = false)) := by
  unfold Provisioner.provComplete
  dsimp only
  generalize ((bmtMacCacheGet uuid s.macCache).getD fun _ => 0) = mac
  rcases bmtNodeTableAdd_cases addr uuid mac s.nodes with hadd | hadd | hadd
  · -- the address has an entry, which is written over
    rcases hadd with ⟨i, hfind, hadd⟩
    have hi := SlotTable.find_sat hfind
    have hat := isAt_iff.mp hi
    have hother : ∀ j, j ≠ i → (s.nodes j).used = true → (s.nodes j).addr ≠ addr := by
      intro j hji hj haddr
      exact hji (h.nodes j i hj hat.1 (haddr.trans hat.2.symm))
    rw [hadd]
    cases htyped : bmtUuidIsRelay uuid || bmtUuidIsScan uuid with
    | true =>
      refine Or.inr ⟨i, Node.configuring uuid { s.nodes i with uuid := uuid, mac := mac }, hat.1,
        hat.2, hother, Or.inl ⟨rfl, ?_⟩⟩
      simp
    | false =>
      exact Or.inr ⟨i, { s.nodes i with uuid := uuid, mac := mac }, hat.1, hat.2, hother,
        Or.inr ⟨rfl, rfl, Or.inl ⟨hi, rfl⟩⟩⟩
  · -- a free slot takes the new address
    rcases hadd with ⟨i, hfind, hfree, hadd⟩
    have hunused : (s.nodes i).used = false := by simpa using SlotTable.find_sat hfree
    have hother : ∀ j, j ≠ i → (s.nodes j).used = true → (s.nodes j).addr ≠ addr :=
      fun j _ hj => addr_ne_of_find_none hfind hj
    rw [hadd]
    cases htyped : bmtUuidIsRelay uuid || bmtUuidIsScan uuid with
    | true =>
      refine Or.inr ⟨i, Node.configuring uuid (Node.fresh addr uuid mac), rfl, rfl, hother,
        Or.inl ⟨rfl, ?_⟩⟩
      simp
    | false =>
      exact Or.inr ⟨i, Node.fresh addr uuid mac, rfl, rfl, hother,
        Or.inr ⟨rfl, rfl, Or.inr ⟨hunused, rfl⟩⟩⟩
  · rcases hadd with ⟨-, hfull, hadd⟩
    rw [hadd]
    refine Or.inl ⟨rfl, ?_⟩
    intro i
    simpa using SlotTable.find_eq_none_iff.mp hfull i

theorem open_update_find {nodes : NodeTable} (h : DistinctAddrs nodes) {addr : UInt16}
    {i : Fin bmtMaxNodes} {n : Node} (hfind : bmtNodeTableFind addr nodes = some i)
    (hn : n.used = true → n.configDone = true) {j : Fin bmtMaxNodes}
    (hused : (Function.update nodes i n j).used = true)
    (hopen : (Function.update nodes i n j).configDone = false) :
    Function.update nodes i n j = nodes j ∧ (nodes j).addr ≠ addr := by
  have hji : j ≠ i := by
    intro hji
    rw [hji, Function.update_self] at hused hopen
    rw [hn hused] at hopen
    cases hopen
  rw [Function.update_of_ne hji] at hused ⊢
  refine ⟨rfl, ?_⟩
  intro haddr
  rw [← haddr, h.find hused] at hfind
  exact hji (Option.some_inj.mp hfind)

structure Provisioner.Ended (s : Provisioner) (t : ConfigTask) (s' : Provisioner) : Prop where
  sound : s'.Sound
  tasks : s'.tasks = s.tasks.erase t
  others : ∀ j, (s'.nodes j).used = true → (s'.nodes j).configDone = false →
    s'.nodes j = s.nodes j ∧ (s.nodes j).addr ≠ t.addr

theorem ended_of_not_found {s : Provisioner} (h : s.Sound) {t : ConfigTask}
    (hfind : bmtNodeTableFind t.addr s.nodes = none) :
    s.Ended t { s with tasks := s.tasks.erase t } := by
  refine ⟨⟨h.nodes, h.saved⟩, rfl, ?_⟩
  intro j hused _
  exact ⟨rfl, addr_ne_of_find_none hfind hused⟩

theorem configured_ended {s : Provisioner} (h : s.Sound) (t : ConfigTask) (saved : Bool) :
    s.Ended t (s.configured t saved).1 := by
  unfold Provisioner.configured
  dsimp only
  cases hfind : bmtNodeTableFind t.addr s.nodes with
  | none => exact ended_of_not_found h hfind
  | some i =>
    have hi := isAt_iff.mp (SlotTable.find_sat hfind)
    have hs : Provisioner.Sound { s with tasks := s.tasks.erase t } := ⟨h.nodes, h.saved⟩
    refine ⟨?_, rfl, ?_⟩
    · dsimp only
      apply hs.write
      apply h.nodes.update
      intro _ j hji hused haddr
      exact hji (h.nodes j i hused hi.1 haddr)
    · intro j hused hopen
      exact open_update_find h.nodes hfind (fun _ => rfl) hused hopen

theorem cfgAbortCleanup_ended {s : Provisioner} (h : s.Sound) (t : ConfigTask) (saved : Bool) :
    s.Ended t (s.cfgAbortCleanup t saved).1 := by
  unfold Provisioner.cfgAbortCleanup
  dsimp only
  cases hfind : bmtNodeTableFind t.addr s.nodes with
  | none => exact ended_of_not_found h hfind
  | some i =>
    have hs : Provisioner.Sound { s with tasks := s.tasks.erase t } := ⟨h.nodes, h.saved⟩
    refine ⟨?_, rfl, ?_⟩
    · dsimp only
      exact hs.write (h.nodes.clear rfl) saved
    · intro j hused hopen
      refine open_update_find h.nodes hfind ?_ hused hopen
      intro hcleared
      cases hcleared

theorem stillConfiguring_eq_some {s : Provisioner} {uuid : Uuid} {i : Fin bmtMaxNodes}
    (h : s.stillConfiguring uuid = some i) :
    (s.nodes i).used = true ∧ (s.nodes i).configDone = false := by
  obtain ⟨hfind, hopen⟩ := Option.filter_eq_some_iff.mp h
  have hi := SlotTable.find_sat hfind
  simp only [Node.isOf, Bool.and_eq_true] at hi
  exact ⟨hi.1, by simpa using hopen⟩

theorem Provisioner.Ended.unblocks {s s' : Provisioner} {t : ConfigTask} (h : s.Ended t s')
    {i : Fin bmtMaxNodes} (haddr : t.addr = (s.nodes i).addr) (uuid : Uuid) :
    s'.stillConfiguring uuid ≠ some i := by
  intro hblocked
  obtain ⟨hused, hopen⟩ := stillConfiguring_eq_some hblocked
  exact (h.others i hused hopen).2 haddr.symm

theorem noZombie_iff {s : Provisioner} (h : s.Sound) :
    s.NoZombie ↔ ∀ i, (s.nodes i).used = true → (s.nodes i).configDone = false →
      s.HasTask (s.nodes i).addr := by
  refine ⟨Provisioner.NoZombie.hasTask, ?_⟩
  intro hall
  refine ⟨hall, ?_⟩
  intro uuid i hblocked
  obtain ⟨hused, hopen⟩ := stillConfiguring_eq_some hblocked
  obtain ⟨t, ht, haddr⟩ := hall i hused hopen
  refine ⟨t, ht, haddr, ?_⟩
  intro saved
  exact ⟨(configured_ended h t saved).unblocks haddr uuid,
    (cfgAbortCleanup_ended h t saved).unblocks haddr uuid⟩

theorem sound_provComplete {s : Provisioner} (h : s.Sound) (addr : UInt16) (uuid : Uuid)
    (saved : Bool) : (s.provComplete addr uuid saved).Sound := by
  rcases provComplete_cases h addr uuid saved with hfull | hwritten
  · rw [hfull.1]
    exact h
  · rcases hwritten with ⟨i, n, -, haddr, hother, hcases⟩
    have hnodes : DistinctAddrs (Function.update s.nodes i n) := by
      apply h.nodes.update
      intro _ j hji hused
      rw [haddr]
      exact hother j hji hused
    have hwrite := h.write hnodes saved
    rcases hcases with htyped | hunknown
    · rw [htyped.2]
      exact ⟨hwrite.nodes, hwrite.saved⟩
    · rw [hunknown.2.1]
      exact hwrite

theorem sound_recvUnprovAdvPkt {s : Provisioner} (h : s.Sound) (b : Beacon) (saved : Bool) :
    (s.recvUnprovAdvPkt b saved).1.Sound := by
  have hs : Provisioner.Sound { s with macCache := bmtMacCacheStore b.uuid b.mac s.macCache } :=
    ⟨h.nodes, h.saved⟩
  unfold Provisioner.recvUnprovAdvPkt
  dsimp only
  cases s.scanList.mode with
  | manual => exact ⟨h.nodes, h.saved⟩
  | auto =>
    cases SlotTable.find (Node.isOf b.uuid) s.nodes with
    | none => exact ⟨h.nodes, h.saved⟩
    | some stale =>
      dsimp only
      split_ifs
      · exact hs.write (h.nodes.clear rfl) saved
      · exact hs

theorem sound_reboot {s : Provisioner} (h : s.Sound) : s.reboot.Sound :=
  ⟨distinctAddrs_load h.saved, h.saved⟩

theorem sound_step {s s' : Provisioner} {e : ProvEvent} (h : s.Sound)
    (hs : s.step e = some s') : s'.Sound := by
  cases e with
  | beacon b saved =>
    cases hs
    exact sound_recvUnprovAdvPkt h b saved
  | provComplete addr uuid saved =>
    cases hs
    exact sound_provComplete h addr uuid saved
  | configured t saved =>
    obtain ⟨-, hs'⟩ := Option.ite_none_right_eq_some.mp hs
    cases hs'
    exact (configured_ended h t saved).sound
  | configFailed t saved =>
    obtain ⟨-, hs'⟩ := Option.ite_none_right_eq_some.mp hs
    cases hs'
    exact (cfgAbortCleanup_ended h t saved).sound
  | reboot =>
    cases hs
    exact sound_reboot h
  | setMode mode =>
    cases hs
    exact ⟨h.nodes, h.saved⟩
  | scanStart =>
    cases hs
    exact ⟨h.nodes, h.saved⟩
  | scanEnd =>
    obtain ⟨-, hs'⟩ := Option.ite_none_right_eq_some.mp hs
    cases hs'
    exact ⟨h.nodes, h.saved⟩

theorem noZombie_provComplete_iff {s : Provisioner} (h : s.Sound) (hz : s.NoZombie)
    (addr : UInt16) (uuid : Uuid) (saved : Bool) :
    (s.provComplete addr uuid saved).NoZombie ↔
      s.KeepsTasks (.provComplete addr uuid saved) := by
  rw [noZombie_iff (sound_provComplete h addr uuid saved)]
  rcases provComplete_cases h addr uuid saved with hfull | hwritten
  · rw [hfull.1]
    exact ⟨fun _ => Or.inr (Or.inr (Or.inl hfull.2)), fun _ => hz.hasTask⟩
  · rcases hwritten with ⟨i, n, hused, haddr, hother, htyped | hunknown⟩
    · rcases htyped with ⟨htype, hs'⟩
      refine ⟨fun _ => Or.inl htype, fun _ => ?_⟩
      rw [hs']
      intro j hjused hjopen
      by_cases hji : j = i
      · refine ⟨ConfigTask.of addr uuid, by simp, ?_⟩
        simp [hji, Provisioner.write, haddr, ConfigTask.of]
      · simp only [Provisioner.write, Function.update_of_ne hji] at hjused hjopen ⊢
        obtain ⟨t, ht, htaddr⟩ := hz.hasTask j hjused hjopen
        exact ⟨t, List.mem_append_left _ ht, htaddr⟩
    · rcases hunknown with ⟨htype, hs', hentry⟩
      rw [hs']
      refine ⟨?_, ?_⟩
      · intro hall
        rcases hentry with hold | hnew
        · exact Or.inr (Or.inl ⟨i, hold.1⟩)
        · -- the new entry is open, so its task is there already
          have htask := hall i
          simp only [Provisioner.write, Function.update_self, haddr] at htask
          exact Or.inr (Or.inr (Or.inr (htask hused hnew.2)))
      · intro hkeeps j hjused hjopen
        by_cases hji : j = i
        · simp only [hji, Provisioner.write, Function.update_self, haddr] at hjopen ⊢
          rcases hentry with hold | hnew
          · obtain ⟨hat, hdone⟩ := hold
            obtain ⟨hiused, hiaddr⟩ := isAt_iff.mp hat
            have htask := hz.hasTask i hiused (hdone ▸ hjopen)
            rw [hiaddr] at htask
            exact htask
          · rcases hkeeps with hkeeps | hkeeps | hkeeps | hkeeps
            · rw [htype] at hkeeps
              cases hkeeps
            · obtain ⟨k, hk⟩ := hkeeps
              obtain ⟨hkused, hkaddr⟩ := isAt_iff.mp hk
              by_cases hki : k = i
              · rw [hki, hnew.1] at hkused
                cases hkused
              · exact absurd hkaddr (hother k hki hkused)
            · have hfull := hkeeps i
              rw [hnew.1] at hfull
              cases hfull
            · exact hkeeps
        · simp only [Provisioner.write, Function.update_of_ne hji] at hjused hjopen ⊢
          exact hz.hasTask j hjused hjopen

theorem noZombie_recvUnprovAdvPkt {s : Provisioner} (h : s.Sound) (hz : s.NoZombie) (b : Beacon)
    (saved : Bool) : (s.recvUnprovAdvPkt b saved).1.NoZombie := by
  rw [noZombie_iff (sound_recvUnprovAdvPkt h b saved)]
  unfold Provisioner.recvUnprovAdvPkt
  dsimp only
  cases s.scanList.mode with
  | manual => exact hz.hasTask
  | auto =>
    cases SlotTable.find (Node.isOf b.uuid) s.nodes with
    | none => exact hz.hasTask
    | some stale =>
      dsimp only
      split_ifs
      · intro j hused hopen
        by_cases hj : j = stale
        · simp [hj, Provisioner.write] at hused
        · simp only [Provisioner.write, Function.update_of_ne hj] at hused hopen ⊢
          exact hz.hasTask j hused hopen
      · exact hz.hasTask

theorem noZombie_scanList {s : Provisioner} (h : s.Sound) (hz : s.NoZombie) (l : ScanList) :
    Provisioner.NoZombie { s with scanList := l } := by
  have hl : Provisioner.Sound { s with scanList := l } := ⟨h.nodes, h.saved⟩
  rw [noZombie_iff hl]
  exact hz.hasTask

theorem Provisioner.Ended.noZombie {s s' : Provisioner} {t : ConfigTask} (h : s.Ended t s')
    (hz : s.NoZombie) : s'.NoZombie := by
  rw [noZombie_iff h.sound]
  intro j hused hopen
  obtain ⟨hsame, hne⟩ := h.others j hused hopen
  rw [hsame] at hused hopen ⊢
  obtain ⟨t', ht', haddr⟩ := hz.hasTask j hused hopen
  -- that task is another than the one that ended
  refine ⟨t', ?_, haddr⟩
  rw [h.tasks]
  apply (List.mem_erase_of_ne ?_).mpr ht'
  intro heq
  rw [heq] at haddr
  exact hne haddr.symm

theorem noZombie_reboot_iff {s : Provisioner} (h : s.Sound) :
    s.reboot.NoZombie ↔ s.KeepsTasks .reboot := by
  rw [noZombie_iff (sound_reboot h)]
  refine ⟨?_, ?_⟩
  · -- no task survives a reboot, so no entry may come back open
    intro hall blob hblob i hused
    by_contra hopen
    have hnodes : s.reboot.nodes i = (blob i).reloaded := by
      unfold Provisioner.reboot bmtNodeTableLoad
      rw [hblob]
    obtain ⟨hu, hd, -⟩ := reloaded_frame (blob i)
    have htask := hall i
    rw [hnodes, hu, hd] at htask
    obtain ⟨t, ht, -⟩ := htask hused (by simpa using hopen)
    cases ht
  · intro hkeeps i hused hopen
    cases hsaved : s.saved with
    | none =>
      simp only [Provisioner.reboot, bmtNodeTableLoad, hsaved] at hused
      cases hused
    | some blob =>
      simp only [Provisioner.reboot, bmtNodeTableLoad, hsaved] at hused hopen
      obtain ⟨hu, hd, -⟩ := reloaded_frame (blob i)
      rw [hu] at hused
      rw [hd, hkeeps blob hsaved i hused] at hopen
      cases hopen

/-- Exactly the steps that keep every task keep the table free of zombies. -/
theorem noZombie_step_iff {s s' : Provisioner} {e : ProvEvent} (h : s.Sound) (hz : s.NoZombie)
    (hs : s.step e = some s') : s'.NoZombie ↔ s.KeepsTasks e := by
  cases e with
  | beacon b saved =>
    cases hs
    exact ⟨fun _ => trivial, fun _ => noZombie_recvUnprovAdvPkt h hz b saved⟩
  | provComplete addr uuid saved =>
    cases hs
    exact noZombie_provComplete_iff h hz addr uuid saved
  | configured t saved =>
    obtain ⟨-, hs'⟩ := Option.ite_none_right_eq_some.mp hs
    cases hs'
    exact ⟨fun _ => trivial, fun _ => (configured_ended h t saved).noZombie hz⟩
  | configFailed t saved =>
    obtain ⟨-, hs'⟩ := Option.ite_none_right_eq_some.mp hs
    cases hs'
    exact ⟨fun _ => trivial, fun _ => (cfgAbortCleanup_ended h t saved).noZombie hz⟩
  | reboot =>
    cases hs
    exact noZombie_reboot_iff h
  | setMode mode =>
    cases hs
    exact ⟨fun _ => trivial, fun _ => noZombie_scanList h hz _⟩
  | scanStart =>
    cases hs
    exact ⟨fun _ => trivial, fun _ => noZombie_scanList h hz _⟩
  | scanEnd =>
    obtain ⟨-, hs'⟩ := Option.ite_none_right_eq_some.mp hs
    cases hs'
    exact ⟨fun _ => trivial, fun _ => noZombie_scanList h hz _⟩

theorem sound_start : Provisioner.Sound {} := by
  refine ⟨distinctAddrs_empty, ?_⟩
  intro blob hblob
  cases hblob

theorem noZombie_start : Provisioner.NoZombie {} := by
  rw [noZombie_iff sound_start]
  intro i hused
  cases hused

/-- The table is free of zombies throughout a run just when every step of it keeps the tasks. -/
theorem no_zombie_iff_keeps_tasks (es : List ProvEvent) :
    Run.Throughout Provisioner.step Provisioner.NoZombie {} es ↔
      Run.Meets Provisioner.step Provisioner.KeepsTasks {} es := by
  refine Run.throughout_iff_meets_of_invariant ?_ ?_ sound_start noZombie_start
  · intro s e s' h hs
    exact sound_step h hs
  · intro s e s' h hz hs
    exact noZombie_step_iff h hz hs

def relayUuid : Uuid := fun i => ([0x52, 0x45, 0x4C, 0x41, 0x59] : List UInt8).getD i 0

def unknownUuid : Uuid := fun _ => 0xAA

/-- A reboot during the configuration of a relay, and a device that is neither relay nor scanner,
each leave an entry that no task will ever configure. -/
theorem zombie_relay_and_unknown :
    ¬Run.Throughout Provisioner.step Provisioner.NoZombie {}
        [.provComplete 5 relayUuid true, .reboot] ∧
      ¬Run.Throughout Provisioner.step Provisioner.NoZombie {}
        [.provComplete 5 unknownUuid true] := by
  refine ⟨?_, ?_⟩
  · intro h
    have hz := h.last rfl
    obtain ⟨t, ht, -⟩ := hz.hasTask ⟨0, by decide⟩ (by decide) (by decide)
    cases ht
  · intro h
    have hz := h.last rfl
    obtain ⟨t, ht, -⟩ := hz.hasTask ⟨0, by decide⟩ (by decide) (by decide)
    cases ht

end BleMeshTracking.Gateway
