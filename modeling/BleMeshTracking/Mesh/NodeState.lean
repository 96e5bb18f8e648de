import BleMeshTracking.Library.Run
import BleMeshTracking.Ota.PendingResult

/-!
# The mesh state of a node

`bmt_mesh_node.c` of scanners and relays: the static variables that the callbacks of the stack
write, the NVS of the stack under them, and the reboot that loses the one and keeps the other.
-/

namespace BleMeshTracking.Mesh

open Ota (EspErr)

/-- What the mesh stack keeps in NVS: whether the node is provisioned, and whether an AppKey was
added since. -/
structure MeshNvs where
  provisioned : Bool := false
  appKey : Bool := false
  deriving DecidableEq

structure MeshNode where
  nodeAddr : UInt16 := 0x0000
  netIdx : UInt16 := 0xFFFF
  appIdx : UInt16 := 0xFFFF
  provisioned : Bool := false
  /-- `BMT_PROV_COMPLETE_BIT` of `s_mesh_evgrp`. -/
  provCompleteBit : Bool := false
  rebootAfterReset : Bool := false
  /-- `s_vnd_model` is not `NULL`. -/
  vndModel : Bool := false
  nvs : MeshNvs := {}
  deriving DecidableEq

/-- The argument and the calls of `bmt_mesh_node_start` at one boot. -/
structure BootCalls where
  vndModel : Bool := true
  meshInit : EspErr := .ok
  provEnable : EspErr := .ok

inductive CfgServerOp
  | appKeyAdd (appIdx : UInt16)
  | modelAppBind
  | relaySet
  | other

/-- What reaches a node; an event that may reboot it brings the calls of that boot. -/
inductive MeshEvent
  | provComplete (netIdx addr : UInt16)
  | provReset (calls : BootCalls)
  | cfgServer (op : CfgServerOp)
  | localReset
  | resetFallback (calls : BootCalls)
  | reboot (calls : BootCalls)

structure ModelPublish where
  publishAddr : UInt16
  appIdx : UInt16
  ttl : UInt8
  opcode : UInt32
  data : List UInt8

namespace MeshNode

def bmtMeshNodeStart (c : BootCalls) (s : MeshNode) : EspErr × MeshNode :=
  -- `xEventGroupCreate` gives a group with no bit set
  let s := { s with provCompleteBit := false, vndModel := c.vndModel }
  if c.meshInit ≠ .ok then (c.meshInit, s)
  else if s.nvs.provisioned then
    (.ok, { s with provisioned := true, appIdx := 0x0000, provCompleteBit := true })
  else (c.provEnable, s)

/-- `esp_restart`, or a loss of power, up to the end of `bmt_mesh_node_start`. -/
def restart (c : BootCalls) (s : MeshNode) : MeshNode :=
  (bmtMeshNodeStart c { nvs := s.nvs }).2

/-- `mesh_prov_cb` on `ESP_BLE_MESH_NODE_PROV_COMPLETE_EVT`. -/
def provComplete (netIdx addr : UInt16) (s : MeshNode) : MeshNode :=
  { s with
    netIdx := netIdx
    nodeAddr := addr
    provisioned := true
    provCompleteBit := true
    nvs := { provisioned := true, appKey := false } }

/-- `mesh_prov_cb` on `ESP_BLE_MESH_NODE_PROV_RESET_EVT`, when the stack has erased its NVS. -/
def provReset (c : BootCalls) (s : MeshNode) : MeshNode :=
  let s := { s with
    nodeAddr := 0x0000
    netIdx := 0xFFFF
    appIdx := 0xFFFF
    provisioned := false
    provCompleteBit := false
    nvs := {} }
  if s.rebootAfterReset then { s with rebootAfterReset := false }.restart c else s

def meshCfgServerCb (s : MeshNode) : CfgServerOp → MeshNode
  | .appKeyAdd appIdx => { s with appIdx := appIdx, nvs := { s.nvs with appKey := true } }
  | .modelAppBind => s
  | .relaySet => s
  | .other => s

def bmtMeshLocalReset (s : MeshNode) : MeshNode := { s with rebootAfterReset := true }

/-- The end of the delay of `reset_reboot_fallback_task`. -/
def resetRebootFallbackTask (c : BootCalls) (s : MeshNode) : MeshNode :=
  if s.rebootAfterReset then s.restart c else s

/-- The result of the call, and what it handed to the stack; `r` is the answer of the stack. -/
def bmtMeshPublishToGateway (opcode : UInt32) (data : List UInt8) (r : EspErr) (s : MeshNode) :
    EspErr × Option ModelPublish :=
  if !s.provisioned || s.appIdx == 0xFFFF || !s.vndModel then (.invalidState, none)
  else (r, some
    { publishAddr := 0x0001, appIdx := s.appIdx, ttl := 7, opcode := opcode, data := data })

/-- The status line of `relay_monitor_task`. -/
def relayStatus (s : MeshNode) : String :=
  if s.nodeAddr != 0x0000 then "PROVISIONED & RELAYING" else "UNPROVISIONED"

def after (s : MeshNode) : MeshEvent → MeshNode
  | .provComplete netIdx addr => s.provComplete netIdx addr
  | .provReset c => s.provReset c
  | .cfgServer op => s.meshCfgServerCb op
  | .localReset => s.bmtMeshLocalReset
  | .resetFallback c => s.resetRebootFallbackTask c
  | .reboot c => s.restart c

def firstBoot (c : BootCalls) : MeshNode := restart c {}

/-- The stack has the node provisioned, with an AppKey received since. -/
def Keyed (s : MeshNode) : Prop := s.nvs.provisioned = true ∧ s.nvs.appKey = true

def Ready (s : MeshNode) : Prop :=
  s.provisioned = true ∧ s.appIdx ≠ 0xFFFF ∧ s.vndModel = true

instance (s : MeshNode) : Decidable s.Ready := by
  unfold Ready
  infer_instance

section Publish

variable {s : MeshNode} (opcode : UInt32) (data : List UInt8) (r : EspErr)

theorem publish_of_ready (h : s.Ready) :
    bmtMeshPublishToGateway opcode data r s =
      (r, some { publishAddr := 0x0001, appIdx := s.appIdx, ttl := 7, opcode := opcode,
                 data := data }) := by
  obtain ⟨hp, ha, hv⟩ := h
  simp [bmtMeshPublishToGateway, hp, ha, hv]

theorem publish_of_not_ready (h : ¬s.Ready) :
    bmtMeshPublishToGateway opcode data r s = (.invalidState, none) := by
  unfold bmtMeshPublishToGateway
  rw [if_pos]
  by_contra hc
  simp only [Bool.or_eq_true, Bool.not_eq_true', beq_iff_eq, not_or, Bool.not_eq_false] at hc
  exact h ⟨hc.1.1, hc.1.2, hc.2⟩

theorem isSome_publish_iff :
    (bmtMeshPublishToGateway opcode data r s).2.isSome = true ↔ s.Ready := by
  by_cases h : s.Ready
  · simp [publish_of_ready opcode data r h, h]
  · simp [publish_of_not_ready opcode data r h, h]

/-- The publish of a pending OTA result is this one, with what it read taken from the state. -/
theorem publish_fst :
    (bmtMeshPublishToGateway opcode data r s).1 = Ota.bmtMeshPublishToGateway
      { provisioned := s.provisioned, appIdx := s.appIdx, vndModel := s.vndModel,
        modelPublish := r } := by
  unfold bmtMeshPublishToGateway Ota.bmtMeshPublishToGateway
  split_ifs <;> rfl

end Publish

/-- The three records of being provisioned agree, and a message is handed to the stack only under
the contract of `bmt_mesh_publish_to_gateway`. -/
structure Coherent (s : MeshNode) : Prop where
  bit_iff : s.provCompleteBit = true ↔ s.provisioned = true
  addr_iff : s.nodeAddr ≠ 0x0000 ↔ s.provisioned = true
  handed : ∀ opcode data r,
    (s.bmtMeshPublishToGateway opcode data r).2.isSome = true → s.provisioned = true ∧ s.Keyed
  refused : ∀ opcode data r, ¬(s.provisioned = true ∧ s.Keyed) →
    s.bmtMeshPublishToGateway opcode data r = (.invalidState, none)

theorem coherent_iff {s : MeshNode} :
    s.Coherent ↔ (s.provCompleteBit = true ↔ s.provisioned = true) ∧
      (s.nodeAddr ≠ 0x0000 ↔ s.provisioned = true) ∧ (s.Ready → s.Keyed) := by
  refine ⟨?_, ?_⟩
  · rintro ⟨hbit, haddr, hhanded, _⟩
    refine ⟨hbit, haddr, fun hr => (hhanded 0 [] .ok ?_).2⟩
    exact (isSome_publish_iff 0 [] .ok).mpr hr
  · rintro ⟨hbit, haddr, hkey⟩
    refine ⟨hbit, haddr, ?_, ?_⟩
    · intro opcode data r hsome
      have hr := (isSome_publish_iff opcode data r).mp hsome
      exact ⟨hr.1, hkey hr⟩
    · intro opcode data r hnot
      apply publish_of_not_ready
      exact fun hr => hnot ⟨hr.1, hkey hr⟩

def Restores (c : BootCalls) (nvs : MeshNvs) : Prop :=
  c.meshInit = .ok ∧ nvs.provisioned = true

instance (c : BootCalls) (nvs : MeshNvs) : Decidable (Restores c nvs) := by
  unfold Restores
  infer_instance

theorem restart_of_restores {c : BootCalls} {s : MeshNode} (h : Restores c s.nvs) :
    s.restart c =
      { provisioned := true, appIdx := 0x0000, provCompleteBit := true, vndModel := c.vndModel,
        nvs := s.nvs } := by
  simp [restart, bmtMeshNodeStart, h.1, h.2]

theorem restart_of_not_restores {c : BootCalls} {s : MeshNode} (h : ¬Restores c s.nvs) :
    s.restart c = { vndModel := c.vndModel, nvs := s.nvs } := by
  unfold restart bmtMeshNodeStart
  by_cases hi : c.meshInit = .ok
  · simp [hi, show s.nvs.provisioned = false by simpa using fun hp => h ⟨hi, hp⟩]
  · simp [hi]

/-- The restore branch sets the flag and the bit but leaves the address unassigned. -/
theorem coherent_restart_iff {c : BootCalls} {s : MeshNode} :
    (s.restart c).Coherent ↔ ¬Restores c s.nvs := by
  by_cases h : Restores c s.nvs
  · rw [restart_of_restores h]
    refine iff_of_false ?_ (not_not_intro h)
    intro hco
    exact hco.addr_iff.mpr rfl rfl
  · rw [restart_of_not_restores h]
    exact iff_of_true (coherent_iff.mpr (by simp [Ready])) h

def Backed (s : MeshNode) : Prop := s.provisioned = true → s.nvs.provisioned = true

theorem backed_restart (c : BootCalls) (s : MeshNode) : (s.restart c).Backed := by
  by_cases h : Restores c s.nvs
  · rw [restart_of_restores h]
    exact fun _ => h.2
  · rw [restart_of_not_restores h]
    exact fun hp => absurd hp Bool.false_ne_true

theorem Backed.after {s : MeshNode} (h : s.Backed) (e : MeshEvent) : (s.after e).Backed := by
  cases e with
  | provComplete netIdx addr => exact fun _ => rfl
  | provReset c =>
    unfold MeshNode.after MeshNode.provReset
    dsimp only
    split_ifs
    · exact backed_restart c _
    · exact fun hp => absurd hp Bool.false_ne_true
  | cfgServer op => cases op <;> exact h
  | localReset => exact h
  | resetFallback c =>
    unfold MeshNode.after resetRebootFallbackTask
    split_ifs
    · exact backed_restart c s
    · exact h
  | reboot c => exact backed_restart c s

/-- The events that keep the state coherent: a node is provisioned at an address, with no index of
an earlier AppKey left, and no boot restores the provisioning from NVS. -/
def Steady (s : MeshNode) : MeshEvent → Prop
  | .provComplete _ addr => addr ≠ 0x0000 ∧ (s.appIdx = 0xFFFF ∨ s.vndModel = false)
  | .resetFallback c => s.rebootAfterReset = true → ¬Restores c s.nvs
  | .reboot c => ¬Restores c s.nvs
  | _ => True

theorem coherent_provComplete_iff {s : MeshNode} {netIdx addr : UInt16} :
    (s.provComplete netIdx addr).Coherent ↔
      addr ≠ 0x0000 ∧ (s.appIdx = 0xFFFF ∨ s.vndModel = false) := by
  rw [coherent_iff]
  simp only [MeshNode.provComplete, Ready, Keyed, iff_true, true_and, Bool.false_eq_true,
    and_false, imp_false, not_and, Bool.not_eq_true]
  exact and_congr_right fun _ => Decidable.imp_iff_not_or.trans (or_congr_left Decidable.not_not)

theorem coherent_provReset {s : MeshNode} (c : BootCalls) : (s.provReset c).Coherent := by
  unfold MeshNode.provReset
  dsimp only
  split_ifs
  · exact coherent_restart_iff.mpr fun h => Bool.false_ne_true h.2
  · exact coherent_iff.mpr (by simp [Ready])

theorem Coherent.meshCfgServerCb {s : MeshNode} (h : s.Coherent) (hb : s.Backed)
    (op : CfgServerOp) : (s.meshCfgServerCb op).Coherent := by
  cases op with
  | appKeyAdd appIdx =>
    -- the key that arrives is the one a later publish needs
    exact coherent_iff.mpr ⟨h.bit_iff, h.addr_iff, fun hr => ⟨hb hr.1, rfl⟩⟩
  | modelAppBind => exact h
  | relaySet => exact h
  | other => exact h

/-- One event keeps the state coherent exactly when it is steady. -/
theorem coherent_after_iff {s : MeshNode} (hb : s.Backed) (h : s.Coherent) (e : MeshEvent) :
    (s.after e).Coherent ↔ s.Steady e := by
  cases e with
  | provComplete netIdx addr => exact coherent_provComplete_iff
  | provReset c => exact iff_of_true (coherent_provReset c) trivial
  | cfgServer op => exact iff_of_true (h.meshCfgServerCb hb op) trivial
  | localReset => exact iff_of_true ⟨h.bit_iff, h.addr_iff, h.handed, h.refused⟩ trivial
  | resetFallback c =>
    by_cases hr : s.rebootAfterReset = true
    · rw [MeshNode.after, resetRebootFallbackTask, if_pos hr, coherent_restart_iff]
      exact ⟨fun hn _ => hn, fun hs => hs hr⟩
    · rw [MeshNode.after, resetRebootFallbackTask, if_neg hr]
      exact iff_of_true h fun hr' => absurd hr' hr
  | reboot c => exact coherent_restart_iff

theorem coherent_firstBoot (c : BootCalls) : (firstBoot c).Coherent :=
  coherent_restart_iff.mpr fun h => Bool.false_ne_true h.2

open Run

/-- Over every sequence of events of a new node, its state is coherent throughout exactly when
every event is steady. -/
theorem coherent_throughout_iff (c : BootCalls) (es : List MeshEvent) :
    Throughout (total after) Coherent (firstBoot c) es ↔
      Meets (total after) Steady (firstBoot c) es := by
  apply throughout_iff_meets_of_invariant (A := Backed)
  · intro s e s' hb hs
    cases hs
    exact hb.after e
  · intro s e s' hb hco hs
    cases hs
    exact coherent_after_iff hb hco e
  · exact backed_restart c {}
  · exact coherent_firstBoot c

/-- A node that reboots between its provisioning and its AppKey. -/
def rebootBeforeKey : List MeshEvent := [.provComplete 0 0x0005, .reboot {}]

/-- It has the flag and the bit but no address, reads as unprovisioned on the relay's console, and
hands messages to the stack without an AppKey. -/
theorem rebootBeforeKey_incoherent :
    ¬Throughout (total after) Coherent (firstBoot {}) rebootBeforeKey ∧
      ∃ s, run (total after) (firstBoot {}) rebootBeforeKey = some s ∧
        s.provisioned = true ∧ s.provCompleteBit = true ∧ s.nodeAddr = 0x0000 ∧ ¬s.Keyed ∧
        s.relayStatus = "UNPROVISIONED" ∧
        (s.bmtMeshPublishToGateway 0 [] .ok).2.isSome = true := by
  refine ⟨?_, _, rfl, rfl, rfl, rfl, ?_, rfl, rfl⟩
  · apply not_throughout_of_run rfl
    exact fun hco => hco.addr_iff.mpr rfl rfl
  · exact fun h => Bool.false_ne_true h.2

end MeshNode

end BleMeshTracking.Mesh
