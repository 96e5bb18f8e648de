import BleMeshTracking.Gateway.NodeTable
import BleMeshTracking.Protocol.Payload
import Mathlib.Data.List.GetD

/-!
# The node table in NVS

`bmt_node_table_save` writes the bytes of `s_nodes`, and `bmt_node_table_load` reads them over the
zeroed table.  The blob has no version, and its length is checked by `nvs_get_blob` only, which
refuses one that is longer than the buffer.
-/

namespace BleMeshTracking.Gateway

open Protocol

@[ext]
structure NodeStruct where
  used : Bool := false
  isRelay : Bool := false
  isScan : Bool := false
  configDone : Bool := false
  online : Bool := false
  lastSeenMs : UInt32 := 0
  addr : UInt16 := 0
  uuid : Uuid := fun _ => 0
  mac : Mac := fun _ => 0
  name : Fin 32 → UInt8 := fun _ => 0

abbrev NodeStructs := Fin bmtMaxNodes → NodeStruct

/-- `sizeof(bmt_node_t)`: three bytes of padding align `last_seen_ms`. -/
def sizeofNode : ℕ := 68

def sizeofNodes : ℕ := sizeofNode * bmtMaxNodes

def leBytes32 (x : UInt32) : Bytes := leBytes x.toUInt16 ++ leBytes (x >>> 16).toUInt16

def u32OfLe (b0 b1 b2 b3 : UInt8) : UInt32 :=
  (u16OfLe b0 b1).toUInt32 ||| ((u16OfLe b2 b3).toUInt32 <<< 16)

def NodeStruct.header (n : NodeStruct) : Bytes :=
  [n.used.toUInt8, n.isRelay.toUInt8, n.isScan.toUInt8, n.configDone.toUInt8, n.online.toUInt8,
    0, 0, 0] ++ leBytes32 n.lastSeenMs ++ leBytes n.addr

def NodeStruct.toBytes (n : NodeStruct) : Bytes :=
  n.header ++ List.ofFn n.uuid ++ List.ofFn n.mac ++ List.ofFn n.name

/-- The bytes of a slot as the code reads them; a `bool` is true unless its byte is 0. -/
def NodeStruct.ofBytes (b : Bytes) : NodeStruct where
  used := b.getD 0 0 != 0
  isRelay := b.getD 1 0 != 0
  isScan := b.getD 2 0 != 0
  configDone := b.getD 3 0 != 0
  online := b.getD 4 0 != 0
  lastSeenMs := u32OfLe (b.getD 8 0) (b.getD 9 0) (b.getD 10 0) (b.getD 11 0)
  addr := u16OfLe (b.getD 12 0) (b.getD 13 0)
  uuid i := b.getD (14 + i) 0
  mac i := b.getD (30 + i) 0
  name i := b.getD (36 + i) 0

def nodesToBytes (nodes : NodeStructs) : Bytes :=
  (List.ofFn fun i => (nodes i).toBytes).flatten

def slotBytes (b : Bytes) (i : ℕ) : Bytes := (b.drop (sizeofNode * i)).take sizeofNode

def nodesOfBytes (b : Bytes) : NodeStructs := fun i => .ofBytes (slotBytes b i)

/-- `bmt_node_table_save`: the blob in NVS afterwards; `saved` says whether the write gets there. -/
def bmtNodeTableSave (saved : Bool) (nodes : NodeStructs) (nvs : Option Bytes) : Option Bytes :=
  if saved then some (nodesToBytes nodes) else nvs

/-- `nvs_get_blob` into a buffer: a blob that is not longer is copied over its first bytes. -/
def nvsGetBlob (blob buffer : Bytes) : Option Bytes :=
  if blob.length ≤ buffer.length then some (blob ++ buffer.drop blob.length) else none

def NodeStruct.reloaded (n : NodeStruct) : NodeStruct :=
  if n.used && (n.isRelay || n.isScan) then { n with online := false, lastSeenMs := 0 } else n

def bmtNodeTableLoadBlob (nvs : Option Bytes) (nodes : NodeStructs) : NodeStructs :=
  match nvs with
  | none => nodes
  | some blob =>
    match nvsGetBlob blob (nodesToBytes nodes) with
    | none => nodes
    | some b => fun i => (nodesOfBytes b i).reloaded

def nodesAtBoot : NodeStructs := fun _ => {}

/-- What was saved comes back after a reboot, slot by slot, but for what an entry forgets. -/
def SavesTable : Prop :=
  ∀ nodes nvs i, bmtNodeTableLoadBlob (bmtNodeTableSave true nodes nvs) nodesAtBoot i =
    (nodes i).reloaded

/-- A blob of another size than the table's leaves every slot unused. -/
def RefusesForeign (blob : Bytes) : Prop :=
  blob.length ≠ sizeofNodes → ∀ i, (bmtNodeTableLoadBlob (some blob) nodesAtBoot i).used = false

/-- A shorter blob has a zero wherever the table has a `used`. -/
def NothingUsed (blob : Bytes) : Prop :=
  blob.length < sizeofNodes → ∀ i : Fin bmtMaxNodes, blob.getD (sizeofNode * i) 0 = 0

theorem u32OfLe_leBytes32 (x : UInt32) :
    u32OfLe x.toUInt16.toUInt8 (x.toUInt16 >>> 8).toUInt8 (x >>> 16).toUInt16.toUInt8
      ((x >>> 16).toUInt16 >>> 8).toUInt8 = x := by
  rw [u32OfLe, u16OfLe_leBytes, u16OfLe_leBytes]
  apply UInt32.toNat_inj.mp
  have hx := x.toNat_lt
  have hlow : x.toNat % 65536 < 2 ^ 16 := Nat.mod_lt _ (by omega)
  have hor := Nat.two_pow_add_eq_or_of_lt hlow (x.toNat / 65536)
  have hlo : x.toUInt16.toUInt32.toNat = x.toNat % 65536 := by simp
  have hhi : ((x >>> 16).toUInt16.toUInt32 <<< 16).toNat = 2 ^ 16 * (x.toNat / 65536) := by
    simp only [UInt32.toNat_shiftLeft, UInt16.toNat_toUInt32, UInt32.toNat_toUInt16,
      UInt32.toNat_shiftRight, UInt32.toNat_ofNat, Nat.shiftLeft_eq, Nat.shiftRight_eq_div_pow,
      Nat.reduceMod, Nat.reducePow]
    omega
  rw [UInt32.toNat_or, hlo, hhi, Nat.or_comm, ← hor]
  omega

theorem toUInt8_ne_zero (b : Bool) : (b.toUInt8 != 0) = b := by
  cases b with
  | true => rfl
  | false => rfl

/-- An array behind a prefix of known length. -/
theorem getD_array {n k : ℕ} {pre post : Bytes} (hpre : pre.length = k) (f : Fin n → UInt8)
    (i : Fin n) : (pre ++ List.ofFn f ++ post).getD (k + i) 0 = f i := by
  have hlen : pre.length ≤ k + i := by omega
  have hi : k + (i : ℕ) - pre.length < (List.ofFn f).length := by
    rw [List.length_ofFn]
    omega
  rw [List.getD_eq_getElem?_getD, List.append_assoc, List.getElem?_append_right hlen,
    List.getElem?_append_left hi, List.getElem?_ofFn]
  have hsub : k + (i : ℕ) - pre.length = i := by omega
  simp only [hsub, i.isLt, dif_pos, Fin.eta, Option.getD_some]

theorem length_header (n : NodeStruct) : n.header.length = 14 := rfl

@[simp]
theorem length_toBytes (n : NodeStruct) : n.toBytes.length = sizeofNode := by
  simp [NodeStruct.toBytes, length_header, sizeofNode]

theorem ofBytes_toBytes (n : NodeStruct) : NodeStruct.ofBytes n.toBytes = n := by
  have hheader : ∀ k, k < 14 → n.toBytes.getD k 0 = n.header.getD k 0 := by
    intro k hk
    rw [NodeStruct.toBytes, List.append_assoc, List.append_assoc, List.getD_append _ _ _ _ hk]
  have huuid : ∀ i : Fin 16, n.toBytes.getD (14 + i) 0 = n.uuid i := by
    intro i
    rw [NodeStruct.toBytes, List.append_assoc]
    exact getD_array (length_header n) n.uuid i
  have hmac : ∀ i : Fin 6, n.toBytes.getD (30 + i) 0 = n.mac i :=
    getD_array (by simp [length_header]) n.mac
  have hname : ∀ i : Fin 32, n.toBytes.getD (36 + i) 0 = n.name i := by
    intro i
    rw [NodeStruct.toBytes, ← List.append_nil (_ ++ List.ofFn n.name)]
    exact getD_array (by simp [length_header]) n.name i
  apply NodeStruct.ext
  · exact (congrArg (· != 0) (hheader 0 (by omega))).trans (toUInt8_ne_zero _)
  · exact (congrArg (· != 0) (hheader 1 (by omega))).trans (toUInt8_ne_zero _)
  · exact (congrArg (· != 0) (hheader 2 (by omega))).trans (toUInt8_ne_zero _)
  · exact (congrArg (· != 0) (hheader 3 (by omega))).trans (toUInt8_ne_zero _)
  · exact (congrArg (· != 0) (hheader 4 (by omega))).trans (toUInt8_ne_zero _)
  · simp only [NodeStruct.ofBytes, hheader 8 (by omega), hheader 9 (by omega),
      hheader 10 (by omega), hheader 11 (by omega)]
    exact u32OfLe_leBytes32 n.lastSeenMs
  · simp only [NodeStruct.ofBytes, hheader 12 (by omega), hheader 13 (by omega)]
    exact u16OfLe_leBytes n.addr
  · exact funext huuid
  · exact funext hmac
  · exact funext hname

/-- The slots of records of one width, one after the other. -/
theorem slot_flatten {α : Type*} {w : ℕ} {l : List (List α)} (h : ∀ b ∈ l, b.length = w) {i : ℕ}
    {b : List α} (hi : l[i]? = some b) : (l.flatten.drop (w * i)).take w = b := by
  induction l generalizing i with
  | nil => cases hi
  | cons c l ih =>
    have hc := h c List.mem_cons_self
    cases i with
    | zero =>
      cases hi
      rw [List.flatten_cons, Nat.mul_zero, List.drop_zero, ← hc, List.take_left]
    | succ i =>
      have hskip : w * (i + 1) = c.length + w * i := by rw [hc, Nat.mul_succ, Nat.add_comm]
      rw [List.flatten_cons, hskip, ← List.drop_drop, List.drop_left]
      exact ih (fun b hb => h b (List.mem_cons_of_mem c hb)) hi

theorem length_nodesToBytes (nodes : NodeStructs) : (nodesToBytes nodes).length = sizeofNodes := by
  simp [nodesToBytes, sizeofNodes, sizeofNode, bmtMaxNodes]

theorem nodesOfBytes_nodesToBytes (nodes : NodeStructs) :
    nodesOfBytes (nodesToBytes nodes) = nodes := by
  funext i
  have hwidth : ∀ b ∈ List.ofFn fun i => (nodes i).toBytes, b.length = sizeofNode := by
    intro b hb
    obtain ⟨j, rfl⟩ := List.mem_ofFn.mp hb
    exact length_toBytes _
  have hslot : slotBytes (nodesToBytes nodes) i = (nodes i).toBytes := by
    apply slot_flatten hwidth
    simp
  rw [nodesOfBytes, hslot, ofBytes_toBytes]

theorem used_nodesOfBytes (b : Bytes) (i : Fin bmtMaxNodes) :
    (nodesOfBytes b i).used = (b.getD (sizeofNode * i) 0 != 0) := by
  have hfirst : (slotBytes b i).getD 0 0 = b.getD (sizeofNode * i) 0 := by
    rw [slotBytes, List.getD_eq_getElem?_getD, List.getD_eq_getElem?_getD, List.getElem?_take,
      if_pos (by decide), List.getElem?_drop, Nat.add_zero]
  rw [nodesOfBytes, NodeStruct.ofBytes, hfirst]

theorem used_reloaded (n : NodeStruct) : n.reloaded.used = n.used := by
  unfold NodeStruct.reloaded
  split_ifs
  · rfl
  · rfl

theorem nodesToBytes_atBoot : nodesToBytes nodesAtBoot = List.replicate sizeofNodes 0 := by
  decide +kernel

theorem savesTable : SavesTable := by
  intro nodes nvs i
  have hget : nvsGetBlob (nodesToBytes nodes) (nodesToBytes nodesAtBoot) =
      some (nodesToBytes nodes) := by
    rw [nvsGetBlob, length_nodesToBytes, length_nodesToBytes, if_pos le_rfl,
      List.drop_of_length_le (length_nodesToBytes _).le, List.append_nil]
  rw [bmtNodeTableSave, if_pos rfl, bmtNodeTableLoadBlob, hget]
  dsimp only
  rw [nodesOfBytes_nodesToBytes]

/-- Which slots a blob leaves used. -/
theorem used_loadBlob (blob : Bytes) (i : Fin bmtMaxNodes) :
    (bmtNodeTableLoadBlob (some blob) nodesAtBoot i).used =
      (decide (blob.length ≤ sizeofNodes) && (blob.getD (sizeofNode * i) 0 != 0)) := by
  rw [bmtNodeTableLoadBlob]
  by_cases hfits : blob.length ≤ sizeofNodes
  · have hget : nvsGetBlob blob (nodesToBytes nodesAtBoot) =
        some (blob ++ List.replicate (sizeofNodes - blob.length) 0) := by
      rw [nvsGetBlob, length_nodesToBytes, if_pos hfits, nodesToBytes_atBoot, List.drop_replicate]
    -- behind the blob lie the zeros of the table at boot
    have hzeros : (blob ++ List.replicate (sizeofNodes - blob.length) 0).getD (sizeofNode * i) 0 =
        blob.getD (sizeofNode * i) 0 := by
      by_cases hin : sizeofNode * i < blob.length
      · exact List.getD_append _ _ _ _ hin
      · rw [List.getD_append_right _ _ _ _ (not_lt.mp hin),
          List.getD_eq_default _ _ (not_lt.mp hin), List.getD_eq_getElem?_getD,
          List.getElem?_replicate]
        split_ifs
        · rfl
        · rfl
    rw [hget]
    dsimp only
    rw [used_reloaded, used_nodesOfBytes, hzeros, decide_eq_true hfits, Bool.true_and]
  · have hget : nvsGetBlob blob (nodesToBytes nodesAtBoot) = none := by
      rw [nvsGetBlob, length_nodesToBytes, if_neg hfits]
    rw [hget, decide_eq_false hfits, Bool.false_and]
    rfl

theorem refusesForeign_iff (blob : Bytes) : RefusesForeign blob ↔ NothingUsed blob := by
  unfold RefusesForeign NothingUsed
  simp only [used_loadBlob]
  refine ⟨?_, ?_⟩
  · intro h hlt i
    have hunused := h hlt.ne i
    rw [decide_eq_true hlt.le, Bool.true_and] at hunused
    simpa using hunused
  · intro h hne i
    by_cases hlt : blob.length < sizeofNodes
    · rw [h hlt i]
      exact Bool.and_false _
    · rw [decide_eq_false (by omega), Bool.false_and]

/-- A saved table comes back, and a blob of another size is refused just if it is longer than the
table or has no byte set where the table has a `used`. -/
theorem node_table_persists_iff (blob : Bytes) :
    SavesTable ∧ RefusesForeign blob ↔ NothingUsed blob := by
  rw [refusesForeign_iff]
  exact and_iff_right savesTable

/-- The blob of a firmware with `BMT_MAX_NODES` 1: a relay at address 5. -/
def oneNodeBlob : Bytes := NodeStruct.toBytes { used := true, isRelay := true, addr := 5 }

theorem oneNodeBlob_populates : ¬(SavesTable ∧ RefusesForeign oneNodeBlob) := by
  rintro ⟨-, h⟩
  have hunused := h (by decide) ⟨0, by decide⟩
  rw [used_loadBlob] at hunused
  exact absurd hunused (by decide)

def NodeStruct.toNode (n : NodeStruct) : Node where
  used := n.used
  isRelay := n.isRelay
  isScan := n.isScan
  configDone := n.configDone
  online := n.online
  lastSeenMs := n.lastSeenMs
  addr := n.addr
  uuid := n.uuid
  mac := n.mac
  name := String.ofList (((List.ofFn n.name).takeWhile (· ≠ 0)).map fun b => Char.ofNat b.toNat)

theorem toNode_reloaded (n : NodeStruct) : n.reloaded.toNode = n.toNode.reloaded := by
  unfold NodeStruct.reloaded Node.reloaded
  change NodeStruct.toNode (if n.used && (n.isRelay || n.isScan) then _ else _) =
    if n.used && (n.isRelay || n.isScan) then _ else _
  split_ifs
  · rfl
  · rfl

/-- Through NVS and back is the load of the saved table there. -/
theorem load_refines (nodes : NodeStructs) (nvs : Option Bytes) :
    (fun i => (bmtNodeTableLoadBlob (bmtNodeTableSave true nodes nvs) nodesAtBoot i).toNode) =
      bmtNodeTableLoad (some fun i => (nodes i).toNode) := by
  funext i
  rw [savesTable, toNode_reloaded]
  rfl

end BleMeshTracking.Gateway
