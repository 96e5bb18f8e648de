import BleMeshTracking.Gateway.Provisioning
import BleMeshTracking.Library.CString
import BleMeshTracking.Ota.GatewayLock

/-!
# The gateway: the serial console

`bmt_uart.c` and `bmt_scan_list.c`: the commands with which an operator scans for devices and
provisions them by hand, starts updates and resets the gateway.  A command may take its time, and
the callbacks of the mesh stack and the configuration tasks go on meanwhile.
-/

namespace BleMeshTracking.Gateway

open CString (isLineEnd)
open Ota (OtaCall)

/-- Where `uart_cmd_task` stands: at a read, in the delay of `bmt_scan_list_start`, before entry `i`
in the loop of `bmt_scan_list_provision`, at the read of the update target, or in the delay before
`esp_restart`. -/
inductive ConsoleTask
  | reading
  | scanning
  | provisioning (i : ℕ)
  | selecting
  | restarting
  deriving DecidableEq

/-- What `bmt_scan_list_provision` makes of an entry. -/
inductive Turn
  | skipped
  | asked
  | refused
  deriving DecidableEq

inductive ConsoleReply
  | nodeTable
  | trackedTags
  | mqttStats
  | status
  | notManual
  | nothingToProvision
  | alreadyRunning
  | selectTarget
  | unknown (ch : UInt8)
  | ota (call : OtaCall)
  | prov (call : ProvCall)
  | wipeAllProvisioned
  | zoneResetAll

structure Console where
  prov : Provisioner := {}
  task : ConsoleTask := .reading
  /-- The beacons received since the last scan was started. -/
  heard : List Beacon := []
  /-- The turns of the last `bmt_scan_list_provision`, in order. -/
  turns : List (Beacon × Turn) := []

def bmtNodeTableUuidProvisioned (uuid : Uuid) (nodes : NodeTable) : Bool :=
  (SlotTable.find (Node.isOf uuid) nodes).isSome

/-- `cleared` says whether the key could be erased. -/
def Provisioner.bmtNodeTableClear (cleared : Bool) (s : Provisioner) : Provisioner :=
  { s with nodes := fun _ => {}, saved := if cleared then none else s.saved }

def Provisioner.setMode (mode : ProvMode) (s : Provisioner) : Provisioner :=
  { s with scanList := bmtScanListSetMode mode s.scanList }

def Provisioner.startScan (s : Provisioner) : Provisioner :=
  { s with scanList := { mode := .manual, scanning := true, entries := [] } }

def Provisioner.endScan (s : Provisioner) : Provisioner :=
  { s with scanList := { s.scanList with scanning := false } }

namespace Console

/-- The `switch` of `uart_cmd_task`. -/
def command (s : Console) (ch : UInt8) (otaRunning cleared : Bool) :
    Console × List ConsoleReply :=
  if ch = 0x31 then (s, [.nodeTable])
  else if ch = 0x32 then (s, [.trackedTags])
  else if ch = 0x33 then (s, [.mqttStats])
  else if ch = 0x67 then (s, [.ota .gatewaySelfUpdate])
  else if ch = 0x73 then
    ({ s with prov := s.prov.startScan, task := .scanning, heard := [] }, [])
  else if ch = 0x70 then
    match s.prov.scanList.mode with
    | .auto => (s, [.notManual])
    | .manual => ({ s with task := .provisioning 0, turns := [] }, [])
  else if ch = 0x61 then ({ s with prov := s.prov.setMode .auto }, [])
  else if ch = 0x6D then ({ s with prov := s.prov.setMode .manual }, [])
  else if ch = 0x34 then (s, [.status])
  else if ch = 0x75 then
    if otaRunning then (s, [.alreadyRunning]) else ({ s with task := .selecting }, [.selectTarget])
  else if ch = 0x30 then ({ s with task := .restarting }, [.zoneResetAll])
  else if ch = 0x39 then
    ({ s with prov := s.prov.bmtNodeTableClear cleared, task := .restarting },
      [.wipeAllProvisioned, .zoneResetAll])
  else (s, [.unknown ch, .status])

/-- A read of the console, at the two places where `uart_cmd_task` reads. -/
def read (s : Console) (ch : Option UInt8) (otaRunning cleared : Bool) :
    Option (Console × List ConsoleReply) :=
  match s.task with
  | .reading =>
    match ch with
    | some ch => some (if isLineEnd ch then (s, []) else s.command ch otaRunning cleared)
    | none => some (s, [])
  | .selecting =>
    match ch with
    | some ch =>
      if isLineEnd ch then some (s, [])
      else
        let call := if ch = 0x72 ∨ ch = 0x52 then OtaCall.triggerAllRelays else .triggerAllScanners
        some ({ s with task := .reading }, [.ota call])
    -- no answer in five seconds
    | none => some ({ s with task := .reading }, [.ota .triggerAllScanners])
  | _ => none

/-- One turn of the loop of `bmt_scan_list_provision`; `accepted` says whether the stack takes the
device. -/
def turn (s : Console) (i : ℕ) (accepted : Bool) : Console × List ConsoleReply :=
  match s.prov.scanList.entries[i]? with
  | some b =>
    let done := fun t => { s with task := .provisioning (i + 1), turns := s.turns ++ [(b, t)] }
    if bmtNodeTableUuidProvisioned b.uuid s.prov.nodes then (done .skipped, [])
    else (done (if accepted then .asked else .refused), [.prov (.addUnprovDev b)])
  | none =>
    let idle := s.turns.all fun t => t.2 != .asked
    ({ s with task := .reading }, if idle then [.nothingToProvision] else [])

def reboot (s : Console) : Console := { prov := s.prov.reboot }

def resume (s : Console) (accepted : Bool) : Option (Console × List ConsoleReply) :=
  match s.task with
  | .scanning => some ({ s with prov := s.prov.endScan, task := .reading }, [])
  | .provisioning i => some (s.turn i accepted)
  | .restarting => some (s.reboot, [])
  | _ => none

end Console

/-- What can happen: a read of the console returns, its command goes on, the stack calls back, a
configuration ends, the board restarts on its own. -/
inductive ConsoleEvent
  | read (ch : Option UInt8) (otaRunning cleared : Bool)
  | resume (accepted : Bool)
  | beacon (b : Beacon) (saved : Bool)
  | provComplete (addr : UInt16) (uuid : Uuid) (saved : Bool)
  | configured (t : ConfigTask) (saved : Bool)
  | configFailed (t : ConfigTask) (saved : Bool)
  | crash

namespace Console

def endTask (s : Console) (t : ConfigTask) (r : Provisioner × List ProvCall) :
    Option (Console × List ConsoleReply) :=
  if t ∈ s.prov.tasks then some ({ s with prov := r.1 }, r.2.map .prov) else none

def next (s : Console) : ConsoleEvent → Option (Console × List ConsoleReply)
  | .read ch otaRunning cleared => s.read ch otaRunning cleared
  | .resume accepted => s.resume accepted
  | .beacon b saved =>
    let r := s.prov.recvUnprovAdvPkt b saved
    some ({ s with prov := r.1, heard := s.heard ++ [b] }, r.2.map .prov)
  | .provComplete addr uuid saved =>
    some ({ s with prov := s.prov.provComplete addr uuid saved }, [])
  | .configured t saved => s.endTask t (s.prov.configured t saved)
  | .configFailed t saved => s.endTask t (s.prov.cfgAbortCleanup t saved)
  | .crash => some (s.reboot, [])

def step (s : Console) (e : ConsoleEvent) : Option Console := (s.next e).map Prod.fst

def boot (saved : Option NodeTable) : Console :=
  { prov := { nodes := bmtNodeTableLoad saved, saved := saved } }

structure ListSound (s : Console) : Prop where
  nodup : (s.prov.scanList.entries.map Beacon.uuid).Nodup
  small : s.prov.scanList.entries.length ≤ bmtMaxScanList
  heard : ∀ b ∈ s.prov.scanList.entries, b ∈ s.heard
  auto : s.prov.scanList.mode = .auto → s.prov.scanList.entries = []
  scanning : s.prov.scanList.scanning = true ↔ s.task = .scanning
  manual : s.task = .scanning ∨ (∃ i, s.task = .provisioning i) → s.prov.scanList.mode = .manual
  turns : ∀ i, s.task = .provisioning i →
    s.turns.map Prod.fst = s.prov.scanList.entries.take i

variable {s s' : Console}

theorem ListSound.congr (h : s.ListSound) (hlist : s'.prov.scanList = s.prov.scanList)
    (htask : s'.task = s.task) (hturns : s'.turns = s.turns)
    (hheard : ∀ b ∈ s.heard, b ∈ s'.heard) : s'.ListSound := by
  refine ⟨?_, ?_, ?_, ?_, ?_, ?_, ?_⟩
  · rw [hlist]
    exact h.nodup
  · rw [hlist]
    exact h.small
  · rw [hlist]
    exact fun b hb => hheard b (h.heard b hb)
  · rw [hlist]
    exact h.auto
  · rw [hlist, htask]
    exact h.scanning
  · rw [hlist, htask]
    exact h.manual
  · rw [hlist, htask, hturns]
    exact h.turns

def Silent (replies : List ConsoleReply) : Prop :=
  ∀ b, ConsoleReply.prov (.addUnprovDev b) ∉ replies

end Console

namespace Console

variable {s s' : Console}

def Asks (s : Console) (e : ConsoleEvent) (b : Beacon) : Prop :=
  ∃ s' replies, s.next e = some (s', replies) ∧ .prov (.addUnprovDev b) ∈ replies

/-- A device is asked for on its own beacon in AUTO mode, or by the provisioning loop in MANUAL
mode: then it was heard in the last scan, is not in the node table, and had no turn before.  The
loop does not end before every entry of the list has had its turn. -/
def Provisions (s : Console) (e : ConsoleEvent) : Prop :=
  (∀ b, s.Asks e b →
    (s.prov.scanList.mode = .auto ∧ ∃ saved, e = .beacon b saved) ∨
      (s.prov.scanList.mode = .manual ∧ b ∈ s.heard ∧
        bmtNodeTableUuidProvisioned b.uuid s.prov.nodes = false ∧
        b.uuid ∉ s.turns.map fun t => t.1.uuid)) ∧
    ∀ i, s.task = .provisioning i → s.prov.scanList.entries[i]? = none →
      s.turns.map Prod.fst = s.prov.scanList.entries

end Console

def NodeTable.Within (addrs : List UInt16) (nodes : NodeTable) : Prop :=
  ∀ i, (nodes i).used = true → (nodes i).addr ∈ addrs

structure Provisioner.Within (addrs : List UInt16) (s : Provisioner) : Prop where
  nodes : NodeTable.Within addrs s.nodes
  saved : ∀ blob ∈ s.saved, NodeTable.Within addrs blob

section Within

variable {addrs more : List UInt16} {nodes : NodeTable} {s : Provisioner}

theorem within_empty (addrs : List UInt16) : NodeTable.Within addrs fun _ => {} := by
  intro i hi
  cases hi

theorem NodeTable.Within.mono (h : NodeTable.Within addrs nodes) (hmore : addrs ⊆ more) :
    NodeTable.Within more nodes := fun i hi => hmore (h i hi)

theorem Provisioner.Within.mono (h : s.Within addrs) (hmore : addrs ⊆ more) : s.Within more :=
  ⟨h.nodes.mono hmore, fun blob hblob => (h.saved blob hblob).mono hmore⟩

theorem NodeTable.Within.update (h : NodeTable.Within addrs nodes) (i : Fin bmtMaxNodes) {n : Node}
    (hn : n.used = true → n.addr ∈ addrs) : NodeTable.Within addrs (Function.update nodes i n) := by
  intro j hj
  by_cases hji : j = i
  · rw [hji, Function.update_self] at hj ⊢
    exact hn hj
  · rw [Function.update_of_ne hji] at hj ⊢
    exact h j hj

theorem NodeTable.Within.clear (h : NodeTable.Within addrs nodes) (i : Fin bmtMaxNodes) :
    NodeTable.Within addrs (Function.update nodes i {}) := by
  apply h.update i
  intro hused
  cases hused

theorem Provisioner.Within.write (h : s.Within addrs) (hnodes : NodeTable.Within addrs nodes)
    (saved : Bool) : (s.write nodes saved).Within addrs := by
  refine ⟨hnodes, ?_⟩
  intro blob hblob
  cases saved with
  | true =>
    cases hblob
    exact hnodes
  | false => exact h.saved blob hblob

theorem Provisioner.Within.recvUnprovAdvPkt (h : s.Within addrs) (b : Beacon) (saved : Bool) :
    (s.recvUnprovAdvPkt b saved).1.Within addrs := by
  unfold Provisioner.recvUnprovAdvPkt
  dsimp only
  cases s.scanList.mode with
  | manual => exact ⟨h.nodes, h.saved⟩
  | auto =>
    cases SlotTable.find (Node.isOf b.uuid) s.nodes with
    | none => exact ⟨h.nodes, h.saved⟩
    | some stale =>
      dsimp only
      split_ifs
      · have hs : Provisioner.Within addrs
            { s with macCache := bmtMacCacheStore b.uuid b.mac s.macCache } := ⟨h.nodes, h.saved⟩
        exact hs.write (h.nodes.clear stale) saved
      · exact ⟨h.nodes, h.saved⟩

theorem within_nodeTableAdd (h : NodeTable.Within addrs nodes) {addr : UInt16}
    (haddr : addr ∈ addrs) (uuid : Uuid) (mac : Mac) :
    NodeTable.Within addrs (bmtNodeTableAdd addr uuid mac nodes).2 ∧
      ∀ i, (bmtNodeTableAdd addr uuid mac nodes).1 = some i →
        ((bmtNodeTableAdd addr uuid mac nodes).2 i).addr = addr := by
  rcases bmtNodeTableAdd_cases addr uuid mac nodes with hadd | hadd | hadd
  · obtain ⟨i, hfind, hadd⟩ := hadd
    have hi := isAt_iff.mp (SlotTable.find_sat hfind)
    rw [hadd]
    refine ⟨h.update i fun _ => hi.2 ▸ haddr, ?_⟩
    intro j hj
    cases hj
    dsimp only
    rw [Function.update_self]
    exact hi.2
  · obtain ⟨i, -, -, hadd⟩ := hadd
    rw [hadd]
    refine ⟨h.update i fun _ => haddr, ?_⟩
    intro j hj
    cases hj
    dsimp only
    rw [Function.update_self]
    rfl
  · obtain ⟨-, -, hadd⟩ := hadd
    rw [hadd]
    exact ⟨h, fun i hi => by cases hi⟩

theorem Provisioner.Within.provComplete (h : s.Within addrs) {addr : UInt16} (haddr : addr ∈ addrs)
    (uuid : Uuid) (saved : Bool) : (s.provComplete addr uuid saved).Within addrs := by
  unfold Provisioner.provComplete
  dsimp only
  generalize ((bmtMacCacheGet uuid s.macCache).getD fun _ => 0) = mac
  obtain ⟨hadd, hentry⟩ := within_nodeTableAdd h.nodes haddr uuid mac
  cases hslot : (bmtNodeTableAdd addr uuid mac s.nodes).1 with
  | none => exact ⟨hadd, h.saved⟩
  | some i =>
    dsimp only
    split_ifs
    · have hconf : NodeTable.Within addrs (Function.update (bmtNodeTableAdd addr uuid mac s.nodes).2 i
          (((bmtNodeTableAdd addr uuid mac s.nodes).2 i).configuring uuid)) := by
        apply hadd.update i
        intro _
        have hsame := hentry i hslot
        show ((bmtNodeTableAdd addr uuid mac s.nodes).2 i).addr ∈ addrs
        rw [hsame]
        exact haddr
      exact ⟨(h.write hconf saved).nodes, (h.write hconf saved).saved⟩
    · exact h.write hadd saved

theorem Provisioner.Within.configured (h : s.Within addrs) (t : ConfigTask) (saved : Bool) :
    (s.configured t saved).1.Within addrs := by
  have hs : Provisioner.Within addrs { s with tasks := s.tasks.erase t } := ⟨h.nodes, h.saved⟩
  unfold Provisioner.configured
  dsimp only
  cases bmtNodeTableFind t.addr s.nodes with
  | none => exact hs
  | some i =>
    have hdone : NodeTable.Within addrs
        (Function.update s.nodes i { s.nodes i with configDone := true }) :=
      h.nodes.update i fun hused => h.nodes i hused
    exact hs.write hdone saved

theorem Provisioner.Within.cfgAbortCleanup (h : s.Within addrs) (t : ConfigTask) (saved : Bool) :
    (s.cfgAbortCleanup t saved).1.Within addrs := by
  have hs : Provisioner.Within addrs { s with tasks := s.tasks.erase t } := ⟨h.nodes, h.saved⟩
  unfold Provisioner.cfgAbortCleanup
  dsimp only
  cases bmtNodeTableFind t.addr s.nodes with
  | none => exact hs
  | some i => exact hs.write (h.nodes.clear i) saved

theorem Provisioner.Within.reboot (h : s.Within addrs) : s.reboot.Within addrs := by
  refine ⟨?_, h.saved⟩
  unfold Provisioner.reboot bmtNodeTableLoad
  cases hsaved : s.saved with
  | none => exact within_empty addrs
  | some blob =>
    intro i hi
    have hreload := reloaded_frame (blob i)
    have hused : (blob i).used = true := hreload.1 ▸ hi
    have haddr := h.saved blob hsaved i hused
    rw [← hreload.2.2] at haddr
    exact haddr

theorem Provisioner.Within.clear (h : s.Within addrs) (cleared : Bool) :
    (s.bmtNodeTableClear cleared).Within addrs := by
  refine ⟨within_empty addrs, ?_⟩
  intro blob hblob
  cases cleared with
  | true => cases hblob
  | false => exact h.saved blob hblob

end Within

namespace Console

variable {s s' : Console}

end Console

end BleMeshTracking.Gateway
