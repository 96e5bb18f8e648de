import BleMeshTracking.Gateway.Provisioning
import BleMeshTracking.Gateway.ThingsBoard
import BleMeshTracking.Library.CString
import BleMeshTracking.Library.Setting
import BleMeshTracking.Mesh.FactoryReset
import BleMeshTracking.Scanner.TagTable
import Mathlib.Data.Fin.VecNotation
import Mathlib.Tactic.FinCases

/-!
# The identity of a scanner

`bmt_scanner_id.c`, the commands of the scanner's `bmt_uart.c` and the UUID of `bmt_mesh_init`:
the number under which a scanner reports tags, set by hand at the serial console, kept in NVS next
to the factory reset button, and the UUID under which the gateway provisions it.
-/

namespace BleMeshTracking.Scanner

open Gateway Mesh
open CString (isLineEnd)

/-- The check of `bmt_scanner_id_load` and of the `i` command. -/
def isScannerId (id : UInt8) : Bool := 1 ≤ id.toNat && id.toNat ≤ 8

def defaultScannerId : UInt8 := 0x01

/-- `bmt_scanner_id_load`, called once a boot; `opened` says whether the namespace could be
opened, `stored` what key `scanner_id` holds. -/
def bmtScannerIdLoad (stored : Option UInt8) (opened : Bool) : UInt8 :=
  Setting.load isScannerId defaultScannerId stored opened

def scanUuid (mac : Mac) (id : UInt8) : Uuid :=
  ![0x53, 0x43, 0x41, 0x4E, mac 0, mac 1, mac 2, mac 3, mac 4, mac 5, 0, 0, 0, 0, 0, id]

/-- A scanner after `bmt_scan_core_init`; the partition of its board is the key `scanner_id`. -/
structure ScannerNode where
  /-- `esp_read_mac`: burnt in. -/
  mac : Mac
  board : Board (Option UInt8)
  id : UInt8
  uuid : Uuid
  /-- The `i` command waits for its digit. -/
  asking : Bool := false

/-- `bmt_scan_core_init` and what runs before it: a boot with the board as it is. -/
def bmtScanCoreInit (mac : Mac) (board : Board (Option UInt8)) (opened : Bool) : ScannerNode :=
  let id := bmtScannerIdLoad board.nvs opened
  { mac := mac, board := board, id := id, uuid := scanUuid mac id }

inductive UartReply
  /-- `bmt_mesh_local_reset` -/
  | meshLocalReset
  | enterId
  | idSet (id : UInt8)
  | invalidId
  | status (id : UInt8) (uuid : Uuid)
  | otaRunning
  /-- `bmt_ota_trigger` -/
  | otaTrigger
  | unknown (ch : UInt8)
  deriving DecidableEq

/-- `bmt_scanner_id_set`; `written` says whether the write reaches flash. -/
def ScannerNode.bmtScannerIdSet (id : UInt8) (written : Bool) (s : ScannerNode) : ScannerNode :=
  { s with board := { s.board with nvs := Setting.save id written s.board.nvs }, id := id }

/-- The digit of the `i` command; `idChar` is `none` when nothing was read in time. -/
def ScannerNode.takeId (idChar : Option UInt8) (written : Bool) (s : ScannerNode) :
    ScannerNode × List UartReply :=
  match idChar with
  | some ch =>
    if isLineEnd ch then (s, [])
    else
      let newId := ch - 0x30
      let s := { s with asking := false }
      if isScannerId newId then (s.bmtScannerIdSet newId written, [.idSet newId])
      else (s, [.invalidId])
  | none => ({ s with asking := false }, [.invalidId])

def ScannerNode.command (ch : UInt8) (otaTriggered : Bool) (s : ScannerNode) :
    ScannerNode × List UartReply :=
  if ch = 0x72 ∨ ch = 0x52 then (s, [.meshLocalReset])
  else if ch = 0x69 ∨ ch = 0x49 then ({ s with asking := true }, [.enterId])
  else if ch = 0x31 then (s, [.status s.id s.uuid])
  else if ch = 0x6F ∨ ch = 0x4F then
    (s, [if otaTriggered then .otaRunning else .otaTrigger])
  else (s, [.unknown ch])

/-- One `uart_read_bytes` of `uart_cmd_task` and what follows it. -/
def ScannerNode.uartCmdTask (ch : Option UInt8) (otaTriggered written : Bool) (s : ScannerNode) :
    ScannerNode × List UartReply :=
  if s.asking then s.takeId ch written
  else
    match ch with
    | some ch => if isLineEnd ch then (s, []) else s.command ch otaTriggered
    | none => (s, [])

inductive ScannerNodeEvent
  /-- A read of the console, which may time out. -/
  | uart (ch : Option UInt8) (otaTriggered written : Bool)
  /-- A poll of the factory reset task; `opened` is for the boot that follows an erasure. -/
  | poll (level : Nat) (left : Option (Option UInt8)) (opened : Bool)
  | restarted (opened : Bool)

def ScannerNode.restart (opened : Bool) (s : ScannerNode) : ScannerNode :=
  bmtScanCoreInit s.mac s.board.espRestart opened

def ScannerNode.step (s : ScannerNode) : ScannerNodeEvent → ScannerNode
  | .uart ch otaTriggered written => (s.uartCmdTask ch otaTriggered written).1
  | .poll level left opened =>
    let board := factoryResetTask none s.board level left
    if board.resets = s.board.resets then { s with board := board }
    else bmtScanCoreInit s.mac board opened
  | .restarted opened => s.restart opened

/-- Storage can be read and written whenever this event needs it. -/
def ScannerNodeEvent.Reliable : ScannerNodeEvent → Prop
  | .uart _ _ written => written = true
  | .poll _ _ opened => opened = true
  | .restarted opened => opened = true

structure ScannerNode.Identified (mac : Mac) (s : ScannerNode) : Prop where
  own : s.mac = mac
  id : isScannerId s.id = true
  uuid : ∃ bootId, isScannerId bootId = true ∧ s.uuid = scanUuid mac bootId

/-- The number in use is the one the next boot will find. -/
def ScannerNode.InSync (s : ScannerNode) : Prop := bmtScannerIdLoad s.board.nvs true = s.id

theorem isScannerId_default : isScannerId defaultScannerId = true := by decide

theorem isScannerId_iff {id : UInt8} : isScannerId id = true ↔ 1 ≤ id.toNat ∧ id.toNat ≤ 8 := by
  unfold isScannerId
  rw [Bool.and_eq_true, decide_eq_true_iff, decide_eq_true_iff]

/-- The subtraction wraps around, but only the digits 1 to 8 come out as a number. -/
theorem isScannerId_digit (ch : UInt8) :
    isScannerId (ch - 0x30) = true ↔ 0x31 ≤ ch.toNat ∧ ch.toNat ≤ 0x38 := by
  rw [isScannerId_iff, UInt8.toNat_sub]
  have hch := ch.toNat_lt
  have hzero : (0x30 : UInt8).toNat = 48 := rfl
  omega

theorem bmtScanCoreInit_identified (mac : Mac) (board : Board (Option UInt8)) (opened : Bool) :
    (bmtScanCoreInit mac board opened).Identified mac := by
  have hid : isScannerId (bmtScannerIdLoad board.nvs opened) = true :=
    Setting.valid_load isScannerId_default board.nvs opened
  exact ⟨rfl, hid, _, hid, rfl⟩

theorem command_spec (s : ScannerNode) (ch : UInt8) (otaTriggered : Bool) :
    ∃ asking replies, s.command ch otaTriggered = ({ s with asking := asking }, replies) ∧
      ∀ id, UartReply.idSet id ∉ replies := by
  unfold ScannerNode.command
  by_cases hi : ch = 0x69 ∨ ch = 0x49
  · have hr : ¬(ch = 0x72 ∨ ch = 0x52) := by
      rcases hi with rfl | rfl
      · decide
      · decide
    rw [if_neg hr, if_pos hi]
    exact ⟨true, _, rfl, fun id => by simp⟩
  · rw [if_neg hi]
    refine ⟨s.asking, ?_⟩
    split_ifs
    all_goals exact ⟨_, rfl, fun id => by simp⟩

/-- What a read of the console can do: nothing to the identity, or set a number that was typed at
the prompt. -/
theorem uartCmdTask_cases (s : ScannerNode) (ch : Option UInt8) (otaTriggered written : Bool) :
    (∃ asking replies, s.uartCmdTask ch otaTriggered written =
        ({ s with asking := asking }, replies) ∧ ∀ id, UartReply.idSet id ∉ replies) ∨
      ∃ d, s.asking = true ∧ ch = some d ∧ isScannerId (d - 0x30) = true ∧
        s.uartCmdTask ch otaTriggered written =
          (({ s with asking := false }).bmtScannerIdSet (d - 0x30) written,
            [UartReply.idSet (d - 0x30)]) := by
  unfold ScannerNode.uartCmdTask
  cases hask : s.asking with
  | true =>
    rw [if_pos rfl]
    unfold ScannerNode.takeId
    cases ch with
    | none => exact Or.inl ⟨false, _, rfl, fun id => by simp⟩
    | some d =>
      dsimp only
      by_cases hend : isLineEnd d = true
      · rw [if_pos hend]
        exact Or.inl ⟨s.asking, [], rfl, fun id => List.not_mem_nil⟩
      · rw [if_neg hend]
        by_cases hid : isScannerId (d - 0x30) = true
        · rw [if_pos hid]
          exact Or.inr ⟨d, rfl, rfl, hid, rfl⟩
        · rw [if_neg hid]
          exact Or.inl ⟨false, _, rfl, fun id => by simp⟩
  | false =>
    rw [if_neg (by decide)]
    refine Or.inl ?_
    cases ch with
    | none => exact ⟨s.asking, [], rfl, fun id => List.not_mem_nil⟩
    | some d =>
      dsimp only
      by_cases hend : isLineEnd d = true
      · rw [if_pos hend]
        exact ⟨s.asking, [], rfl, fun id => List.not_mem_nil⟩
      · rw [if_neg hend]
        exact command_spec s d otaTriggered

theorem identified_step {mac : Mac} {s : ScannerNode} (h : s.Identified mac)
    (e : ScannerNodeEvent) : (s.step e).Identified mac := by
  cases e with
  | uart ch otaTriggered written =>
    unfold ScannerNode.step
    dsimp only
    rcases uartCmdTask_cases s ch otaTriggered written with hcase | hcase
    · obtain ⟨asking, replies, heq, -⟩ := hcase
      rw [heq]
      exact ⟨h.own, h.id, h.uuid⟩
    · obtain ⟨d, -, -, hid, heq⟩ := hcase
      rw [heq]
      exact ⟨h.own, hid, h.uuid⟩
  | poll level left opened =>
    unfold ScannerNode.step
    dsimp only
    split_ifs
    · exact ⟨h.own, h.id, h.uuid⟩
    · rw [h.own]
      exact bmtScanCoreInit_identified mac _ opened
  | restarted opened =>
    unfold ScannerNode.step ScannerNode.restart
    dsimp only
    rw [h.own]
    exact bmtScanCoreInit_identified mac _ opened

theorem identified_foldl {mac : Mac} {s : ScannerNode} (h : s.Identified mac)
    (es : List ScannerNodeEvent) : (es.foldl ScannerNode.step s).Identified mac := by
  induction es generalizing s with
  | nil => exact h
  | cons e es ih => exact ih (identified_step h e)

theorem inSync_step {s : ScannerNode} (h : s.InSync) {e : ScannerNodeEvent} (he : e.Reliable) :
    (s.step e).InSync := by
  cases e with
  | uart ch otaTriggered written =>
    have hwritten : written = true := he
    subst hwritten
    unfold ScannerNode.step
    dsimp only
    rcases uartCmdTask_cases s ch otaTriggered true with hcase | hcase
    · obtain ⟨asking, replies, heq, -⟩ := hcase
      rw [heq]
      exact h
    · obtain ⟨d, -, -, hid, heq⟩ := hcase
      rw [heq]
      exact Setting.load_save hid s.board.nvs
  | poll level left opened =>
    have hopened : opened = true := he
    subst hopened
    unfold ScannerNode.step
    dsimp only
    split_ifs with hsame
    · rcases factoryResetTask_cases none s.board level left with hcase | hcase
      · have hload : bmtScannerIdLoad (factoryResetTask none s.board level left).nvs true = s.id := by
          rw [hcase.2]
          exact h
        exact hload
      · have := hcase.1.symm.trans hsame
        omega
    · exact rfl
  | restarted opened =>
    have hopened : opened = true := he
    subst hopened
    exact rfl

theorem inSync_foldl {s : ScannerNode} (h : s.InSync) {es : List ScannerNodeEvent}
    (hes : ∀ e ∈ es, e.Reliable) : (es.foldl ScannerNode.step s).InSync := by
  induction es generalizing s with
  | nil => exact h
  | cons e es ih =>
    have hrest : ∀ e ∈ es, e.Reliable := fun d hd => hes d (List.mem_cons_of_mem e hd)
    exact ih (inSync_step h (hes e List.mem_cons_self)) hrest

theorem bmtUuidIsScan_scanUuid (mac : Mac) (id : UInt8) : bmtUuidIsScan (scanUuid mac id) = true :=
  rfl

theorem scanUuid_inj {mac mac' : Mac} {id id' : UInt8} (h : scanUuid mac id = scanUuid mac' id') :
    mac = mac' ∧ id = id' := by
  have hbyte : ∀ i, scanUuid mac id i = scanUuid mac' id' i := congrFun h
  refine ⟨?_, hbyte 15⟩
  funext i
  fin_cases i
  · exact hbyte 4
  · exact hbyte 5
  · exact hbyte 6
  · exact hbyte 7
  · exact hbyte 8
  · exact hbyte 9

/-- The console changes the number only to the digit just typed at the prompt. -/
theorem id_of_uartCmdTask {s : ScannerNode} {ch : Option UInt8} {otaTriggered written : Bool}
    (h : (s.uartCmdTask ch otaTriggered written).1.id ≠ s.id) :
    ∃ d, s.asking = true ∧ ch = some d ∧ 0x31 ≤ d.toNat ∧ d.toNat ≤ 0x38 ∧
      (s.uartCmdTask ch otaTriggered written).1.id = d - 0x30 := by
  rcases uartCmdTask_cases s ch otaTriggered written with hcase | hcase
  · obtain ⟨asking, replies, heq, -⟩ := hcase
    rw [heq] at h
    exact absurd rfl h
  · obtain ⟨d, hask, hch, hid, heq⟩ := hcase
    obtain ⟨hlow, hhigh⟩ := (isScannerId_digit d).mp hid
    refine ⟨d, hask, hch, hlow, hhigh, ?_⟩
    rw [heq]
    rfl

/-- Whatever is typed, whatever NVS holds, fails to do or loses, over any reboots and factory
resets: a scanner reports under a number from 1 to 8, which every report check of the gateway
takes; its UUID is provisioned as a scanner's and no other board ever has it; the console changes the
number only to a digit typed at the prompt; and while NVS works, a reboot finds the number in use and
renews the UUID with it. -/
theorem scanner_identity (mac : Mac) (board : Board (Option UInt8)) (opened : Bool)
    (es : List ScannerNodeEvent) :
    let s := es.foldl ScannerNode.step (bmtScanCoreInit mac board opened)
    (∀ t : TagEntry, 1 ≤ (t.report s.id).scannerId.toNat ∧
        (t.report s.id).scannerId.toNat ≤ bmtMaxScanners) ∧
      (∀ addr, (ConfigTask.of addr s.uuid).isScan = true) ∧
      (∀ mac' board' opened' (es' : List ScannerNodeEvent),
        (es'.foldl ScannerNode.step (bmtScanCoreInit mac' board' opened')).uuid = s.uuid →
          mac' = mac) ∧
      (∀ ch otaTriggered written, (s.uartCmdTask ch otaTriggered written).1.id ≠ s.id →
        ∃ d, s.asking = true ∧ ch = some d ∧ 0x31 ≤ d.toNat ∧ d.toNat ≤ 0x38 ∧
          (s.uartCmdTask ch otaTriggered written).1.id = d - 0x30) ∧
      (opened = true → (∀ e ∈ es, e.Reliable) →
        (s.restart true).id = s.id ∧ (s.restart true).uuid = scanUuid mac s.id) := by
  intro s
  have h : s.Identified mac := identified_foldl (bmtScanCoreInit_identified mac board opened) es
  obtain ⟨bootId, -, huuid⟩ := h.uuid
  refine ⟨fun _ => isScannerId_iff.mp h.id, ?_, ?_, fun _ _ _ => id_of_uartCmdTask, ?_⟩
  · intro addr
    rw [huuid]
    exact bmtUuidIsScan_scanUuid mac bootId
  · intro mac' board' opened' es' hsame
    have h' := identified_foldl (bmtScanCoreInit_identified mac' board' opened') es'
    obtain ⟨bootId', -, huuid'⟩ := h'.uuid
    rw [huuid', huuid] at hsame
    exact (scanUuid_inj hsame).1
  · intro hopened hes
    have hstart : (bmtScanCoreInit mac board opened).InSync := by
      rw [hopened]
      rfl
    have hsync : bmtScannerIdLoad s.board.nvs true = s.id := inSync_foldl hstart hes
    refine ⟨hsync, ?_⟩
    have hboot : (s.restart true).uuid = scanUuid s.mac (bmtScannerIdLoad s.board.nvs true) := rfl
    rw [hboot, hsync, h.own]

end BleMeshTracking.Scanner
