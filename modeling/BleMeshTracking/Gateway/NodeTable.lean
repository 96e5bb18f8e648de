import BleMeshTracking.Library.SlotTable
import Mathlib.Data.Fintype.Pi
import Mathlib.Data.List.OfFn
import Mathlib.Data.UInt

/-!
# The gateway: the node table

`bmt_node_table.c` and `bmt_mac_cache.c`.  The table lives in RAM; `bmt_node_table_save` writes
all of it to NVS as one blob, which `bmt_node_table_load` reads back after a reboot.
-/

namespace BleMeshTracking.Gateway

def bmtMaxNodes : ℕ := 10

def bmtMaxMacCache : ℕ := 16

abbrev Uuid := Fin 16 → UInt8

abbrev Mac := Fin 6 → UInt8

def hex4 (x : UInt16) : String :=
  String.ofList [(x.toNat / 4096 % 16).digitChar, (x.toNat / 256 % 16).digitChar,
    (x.toNat / 16 % 16).digitChar, (x.toNat % 16).digitChar]

def bmtUuidIsRelay (uuid : Uuid) : Bool :=
  (List.ofFn uuid).take 5 == [0x52, 0x45, 0x4C, 0x41, 0x59]

def bmtUuidIsScan (uuid : Uuid) : Bool :=
  (List.ofFn uuid).take 4 == [0x53, 0x43, 0x41, 0x4E]

/-- `bmt_node_t`. -/
structure Node where
  used : Bool := false
  isRelay : Bool := false
  isScan : Bool := false
  configDone : Bool := false
  online : Bool := false
  lastSeenMs : UInt32 := 0
  addr : UInt16 := 0
  uuid : Uuid := fun _ => 0
  mac : Mac := fun _ => 0
  name : String := ""

abbrev NodeTable := Fin bmtMaxNodes → Node

def Node.isAt (addr : UInt16) (n : Node) : Bool := n.used && n.addr == addr

def Node.isOf (uuid : Uuid) (n : Node) : Bool := n.used && n.uuid == uuid

def bmtNodeTableFind (addr : UInt16) (nodes : NodeTable) : Option (Fin bmtMaxNodes) :=
  SlotTable.find (Node.isAt addr) nodes

def Node.fresh (addr : UInt16) (uuid : Uuid) (mac : Mac) : Node :=
  { used := true, addr := addr, uuid := uuid, mac := mac, name := "Node_0x" ++ hex4 addr }

/-- `bmt_node_table_add`, called without a name. -/
def bmtNodeTableAdd (addr : UInt16) (uuid : Uuid) (mac : Mac) (nodes : NodeTable) :
    Option (Fin bmtMaxNodes) × NodeTable :=
  match bmtNodeTableFind addr nodes with
  | some i => (some i, Function.update nodes i { nodes i with uuid := uuid, mac := mac })
  | none =>
    match SlotTable.find (fun n => !n.used) nodes with
    | some i => (some i, Function.update nodes i (Node.fresh addr uuid mac))
    | none => (none, nodes)

def Node.reloaded (n : Node) : Node :=
  if n.used && (n.isRelay || n.isScan) then { n with online := false, lastSeenMs := 0 } else n

/-- `bmt_node_table_load`, from the blob in NVS if there is one. -/
def bmtNodeTableLoad : Option NodeTable → NodeTable
  | some blob => fun i => (blob i).reloaded
  | none => fun _ => {}

structure MacCacheEntry where
  used : Bool := false
  uuid : Uuid := fun _ => 0
  mac : Mac := fun _ => 0

abbrev MacCache := Fin bmtMaxMacCache → MacCacheEntry

def MacCacheEntry.isOf (uuid : Uuid) (e : MacCacheEntry) : Bool := e.used && e.uuid == uuid

def bmtMacCacheStore (uuid : Uuid) (mac : Mac) (cache : MacCache) : MacCache :=
  match SlotTable.find (MacCacheEntry.isOf uuid) cache with
  | some i => Function.update cache i { cache i with mac := mac }
  | none =>
    match SlotTable.find (fun e => !e.used) cache with
    | some i => Function.update cache i { used := true, uuid := uuid, mac := mac }
    | none => cache

def bmtMacCacheGet (uuid : Uuid) (cache : MacCache) : Option Mac :=
  (SlotTable.find (MacCacheEntry.isOf uuid) cache).map fun i => (cache i).mac

theorem isAt_iff {addr : UInt16} {n : Node} :
    n.isAt addr = true ↔ n.used = true ∧ n.addr = addr := by
  simp [Node.isAt]

def DistinctAddrs (nodes : NodeTable) : Prop := SlotTable.Distinct Node.used Node.addr nodes

theorem reloaded_frame (n : Node) :
    n.reloaded.used = n.used ∧ n.reloaded.configDone = n.configDone ∧
      n.reloaded.addr = n.addr := by
  unfold Node.reloaded
  split_ifs
  · exact ⟨rfl, rfl, rfl⟩
  · exact ⟨rfl, rfl, rfl⟩

theorem distinctAddrs_empty : DistinctAddrs fun _ => {} := by
  intro i j hi
  cases hi

theorem distinctAddrs_load {blob : Option NodeTable} (h : ∀ nodes ∈ blob, DistinctAddrs nodes) :
    DistinctAddrs (bmtNodeTableLoad blob) := by
  cases blob with
  | none => exact distinctAddrs_empty
  | some nodes =>
    apply SlotTable.Distinct.congr (h nodes rfl)
    · intro i
      exact (reloaded_frame _).1
    · intro i
      exact (reloaded_frame _).2.2

/-- Where `bmt_node_table_add` puts a node: the entry of its address, a free one, or nowhere. -/
theorem bmtNodeTableAdd_cases (addr : UInt16) (uuid : Uuid) (mac : Mac) (nodes : NodeTable) :
    (∃ i, bmtNodeTableFind addr nodes = some i ∧ bmtNodeTableAdd addr uuid mac nodes =
        (some i, Function.update nodes i { nodes i with uuid := uuid, mac := mac })) ∨
      (∃ i, bmtNodeTableFind addr nodes = none ∧
        SlotTable.find (fun n => !n.used) nodes = some i ∧
        bmtNodeTableAdd addr uuid mac nodes =
          (some i, Function.update nodes i (Node.fresh addr uuid mac))) ∨
      (bmtNodeTableFind addr nodes = none ∧ SlotTable.find (fun n => !n.used) nodes = none ∧
        bmtNodeTableAdd addr uuid mac nodes = (none, nodes)) := by
  unfold bmtNodeTableAdd
  cases hfind : bmtNodeTableFind addr nodes with
  | some i => exact Or.inl ⟨i, rfl, rfl⟩
  | none =>
    cases hfree : SlotTable.find (fun n : Node => !n.used) nodes with
    | some i => exact Or.inr (Or.inl ⟨i, rfl, rfl, rfl⟩)
    | none => exact Or.inr (Or.inr ⟨rfl, rfl, rfl⟩)

end BleMeshTracking.Gateway
