import BleMeshTracking.Library.Unwinding
import BleMeshTracking.Scanner.Replay

/-!
# Packets that fail verification

`bmt_auth_verify_tag` gives a tag id its epoch slot before any MAC is computed.  A packet that
fails leaves the table alone only when there is nothing to allocate.
-/

namespace BleMeshTracking.Scanner

open Protocol

/-- One call of `bmt_auth_verify_tag`: its arguments, the clock and the outcomes of its PSA
calls. -/
structure Packet where
  calls : Attempt → TryCalls := fun _ => {}
  tagId : UInt16
  data : Bytes
  receivedMac : UInt16
  nowUs : ℤ

section Packets

variable (hmac : Hmac) (keys : AuthKeys)

def Packet.verify (p : Packet) (tbl : EpochTable) : Option Attempt × EpochTable :=
  bmtAuthVerifyTag hmac p.calls keys p.tagId p.data p.receivedMac p.nowUs tbl

def Packet.Fails (p : Packet) (tbl : EpochTable) : Prop := (p.verify hmac keys tbl).1 = none

instance (p : Packet) (tbl : EpochTable) : Decidable (p.Fails hmac keys tbl) :=
  inferInstanceAs (Decidable (_ = none))

/-- The tag id has its slot already, or no slot is free. -/
def Packet.NothingToAllocate (p : Packet) (tbl : EpochTable) : Prop :=
  (∃ i, (tbl i).isOf p.tagId = true) ∨ ∀ i, (tbl i).isFree = false

instance (p : Packet) (tbl : EpochTable) : Decidable (p.NothingToAllocate tbl) :=
  inferInstanceAs (Decidable (_ ∨ _))

def epochsAfter (tbl : EpochTable) (p : Packet) : EpochTable := (p.verify hmac keys tbl).2

theorem findOrAlloc_eq_iff (tagId : UInt16) (tbl : EpochTable) :
    (findOrAllocEpochState tagId tbl).2 = tbl ↔
      (∃ i, (tbl i).isOf tagId = true) ∨ ∀ i, (tbl i).isFree = false := by
  rcases SlotTable.acquire_cases (EpochState.isOf tagId) EpochState.isFree
    (EpochState.fresh tagId) tbl with ⟨i, hfind, he⟩ | ⟨i, hnone, hfree, he⟩ | ⟨-, hfull, he⟩
  · rw [findOrAllocEpochState, he]
    exact ⟨fun _ => Or.inl ⟨i, SlotTable.find_sat hfind⟩, fun _ => rfl⟩
  · -- a free slot has been taken: it was not valid, and is now
    rw [findOrAllocEpochState, he]
    have hi := SlotTable.find_sat hfree
    refine ⟨?_, ?_⟩
    · intro h
      have hvalid := congrArg EpochState.valid (congrFun h i)
      dsimp only at hvalid
      rw [Function.update_self] at hvalid
      rw [EpochState.isFree, ← hvalid] at hi
      cases hi
    · intro h
      rcases h with ⟨j, hj⟩ | hfull
      · rw [SlotTable.find_eq_none_iff.mp hnone j] at hj
        cases hj
      · rw [hfull i] at hi
        cases hi
  · rw [findOrAllocEpochState, he]
    exact ⟨fun _ => Or.inr (SlotTable.find_eq_none_iff.mp hfull), fun _ => rfl⟩

/-- A packet that fails leaves the epoch table exactly as it was if and only if there is nothing
to allocate for its tag id. -/
theorem fails_keeps_table_iff {p : Packet} {tbl : EpochTable} (h : p.Fails hmac keys tbl) :
    epochsAfter hmac keys tbl p = tbl ↔ p.NothingToAllocate tbl := by
  have hstore : epochsAfter hmac keys tbl p = (findOrAllocEpochState p.tagId tbl).2 := by
    unfold epochsAfter Packet.verify
    rw [bmtAuthVerifyTag_snd]
    have hnone : (bmtAuthVerifyTag hmac p.calls keys p.tagId p.data p.receivedMac p.nowUs tbl).1 =
        none := h
    rw [hnone]
    cases (findOrAllocEpochState p.tagId tbl).1 with
    | none => rfl
    | some i => rfl
  rw [hstore]
  exact findOrAlloc_eq_iff p.tagId tbl

/-- Packets marked as inserted fail where they are inserted, with nothing to allocate. -/
def HarmlessInsert (tbl : EpochTable) (e : Packet × Bool) : Prop :=
  e.2 = true → e.1.Fails hmac keys tbl ∧ e.1.NothingToAllocate tbl

/-- A packet and a mark are stepped through as the packet alone. -/
def markedStep (tbl : EpochTable) (e : Packet × Bool) : EpochTable := epochsAfter hmac keys tbl e.1

theorem inserted_unseen {tbl : EpochTable} {es pre : List (Packet × Bool)}
    (h : Run.Meets (Run.total (markedStep hmac keys)) (HarmlessInsert hmac keys) tbl es)
    (hpre : pre <+: es) :
    pre.foldl (markedStep hmac keys) tbl =
      (Unwinding.visible Prod.snd pre).foldl (markedStep hmac keys) tbl := by
  refine Unwinding.related_prefix (R := fun s t => s = t) ?_ ?_ rfl h hpre
  · intro s t e hst hinserted hok
    obtain ⟨hfails, hnothing⟩ := hok hinserted
    rw [← hst]
    exact (fails_keeps_table_iff hmac keys hfails).mpr hnothing
  · intro s t e hst _ _
    rw [hst]

end Packets

/-- A packet that fails leaves no trace exactly when there is nothing to allocate for it; and in
any sequence in which that holds of every inserted packet that fails, each later packet of any tag
gets the verdict, and leaves the lock, that it would without the insertions. -/
theorem rejected_leaves_no_trace_iff (hmac : Hmac) (keys : AuthKeys) :
    (∀ (p : Packet) (tbl : EpochTable), p.Fails hmac keys tbl →
      (epochsAfter hmac keys tbl p = tbl ↔ p.NothingToAllocate tbl)) ∧
    ∀ (tbl : EpochTable) (es : List (Packet × Bool)),
      Run.Meets (Run.total (markedStep hmac keys)) (HarmlessInsert hmac keys) tbl es →
      ∀ pre, pre <+: es → ∀ (q : Packet) (tagId : UInt16),
        let full := pre.foldl (markedStep hmac keys) tbl
        let kept := (Unwinding.visible Prod.snd pre).foldl (markedStep hmac keys) tbl
        (q.verify hmac keys full).1 = (q.verify hmac keys kept).1 ∧
          bmtAuthGetLockedEpoch tagId (epochsAfter hmac keys full q) =
            bmtAuthGetLockedEpoch tagId (epochsAfter hmac keys kept q) := by
  refine ⟨?_, ?_⟩
  · intro p tbl h
    exact fails_keeps_table_iff hmac keys h
  · intro tbl es h pre hpre q tagId
    dsimp only
    rw [inserted_unseen hmac keys h hpre]
    exact ⟨rfl, rfl⟩

/-- A packet under a new tag id, signed with the key of an epoch that is not tried. -/
def forgedPacket (tagId : UInt16) : Packet where
  tagId := tagId
  data := (Tag.unsignedPayload ⟨100, tagId, -53, 0⟩).signedBytes
  receivedMac := tagMac16 echoHmac 0x8000 (Tag.unsignedPayload ⟨100, tagId, -53, 0⟩).signedBytes
  nowUs := 1

def tagOnePacket (epoch : UInt16) (nowUs : ℤ) : Packet where
  tagId := 1
  data := tagOneData
  receivedMac := tagMac16 echoHmac epoch tagOneData
  nowUs := nowUs

def forgedIds : List UInt16 := (List.range bmtAuthMaxTags).map fun k => UInt16.ofNat (100 + k)

def tagOneEpochs : EpochTable :=
  epochsAfter echoHmac tagOne.keys (fun _ => {}) (tagOnePacket 0 1)

/-- With a slot of its own, tag 1 is not disturbed by packets forged under its id. -/
theorem rejected_leaves_no_trace_tagOne :
    ((tagOnePacket 1 bmtEpochTickUs).verify echoHmac tagOne.keys
        ([(forgedPacket 1, true)].foldl (markedStep echoHmac tagOne.keys) tagOneEpochs)).1 =
      ((tagOnePacket 1 bmtEpochTickUs).verify echoHmac tagOne.keys
        ((Unwinding.visible Prod.snd [(forgedPacket 1, true)]).foldl
          (markedStep echoHmac tagOne.keys) tagOneEpochs)).1 := by
  have hfails : (forgedPacket 1).Fails echoHmac tagOne.keys tagOneEpochs := by decide +kernel
  have hnothing : (forgedPacket 1).NothingToAllocate tagOneEpochs := by decide +kernel
  have hok : Run.Meets (Run.total (markedStep echoHmac tagOne.keys))
      (HarmlessInsert echoHmac tagOne.keys) tagOneEpochs [(forgedPacket 1, true)] :=
    Run.meets_total_cons.mpr ⟨fun _ => ⟨hfails, hnothing⟩, trivial⟩
  exact ((rejected_leaves_no_trace_iff echoHmac tagOne.keys).2 tagOneEpochs _ hok _
    (List.prefix_refl _) (tagOnePacket 1 bmtEpochTickUs) 1).1

/-- One forged packet takes a slot of the empty table for good; twenty of them take them all, and
tag 1 gets no lock: it is rejected in epoch 201, where it is accepted without them. -/
theorem forged_ids_lock_out_tagOne :
    ((forgedPacket 100).Fails echoHmac tagOne.keys (fun _ => {}) ∧
      epochsAfter echoHmac tagOne.keys (fun _ => {}) (forgedPacket 100) ≠ fun _ => {}) ∧
    let attacked := epochsAfter echoHmac tagOne.keys
      (forgedIds.foldl (fun t id => epochsAfter echoHmac tagOne.keys t (forgedPacket id))
        fun _ => {})
      (tagOnePacket 0 1)
    ((tagOnePacket 201 (201 * bmtEpochTickUs + 1)).verify echoHmac tagOne.keys
        tagOneEpochs).1.isSome = true ∧
      ((tagOnePacket 201 (201 * bmtEpochTickUs + 1)).verify echoHmac tagOne.keys
        attacked).1.isSome = false := by
  have hfails : (forgedPacket 100).Fails echoHmac tagOne.keys fun _ => {} := by decide +kernel
  refine ⟨⟨hfails, ?_⟩, ?_⟩
  · intro h
    have hnothing := (fails_keeps_table_iff echoHmac tagOne.keys hfails).mp h
    exact absurd hnothing (by decide)
  · decide +kernel

end BleMeshTracking.Scanner
