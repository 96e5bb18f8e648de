import BleMeshTracking.Gateway.Provisioning
import BleMeshTracking.Library.Popping

/-!
# Beacons and configured nodes

In AUTO mode `mesh_prov_cb` takes a beacon under the UUID of a configured node for that node's own,
after a reset: it deletes the node and its entry.  Nobody proves anything with a beacon, so this
says which entries any sequence of beacons removes.
-/

namespace BleMeshTracking.Gateway

/-- A sequence of beacons, each with whether the table it may change reaches flash; and all that is
asked of the mesh stack. -/
def Provisioner.recvBeacons (s : Provisioner) : List (Beacon × Bool) → Provisioner × List ProvCall
  | [] => (s, [])
  | (b, saved) :: bs =>
    let first := s.recvUnprovAdvPkt b saved
    let rest := first.1.recvBeacons bs
    (rest.1, first.2 ++ rest.2)

def heardUuids (bs : List (Beacon × Bool)) : List Uuid := bs.map fun b => b.1.uuid

/-- Entry `i` and every entry before it under its UUID is configured, and there are at least as many
beacons of the UUID as such entries. -/
def Provisioner.RemovedBy (s : Provisioner) (bs : List (Beacon × Bool)) (i : Fin bmtMaxNodes) :
    Prop :=
  SlotTable.Popped Node.isOf Node.configDone Node.uuid Node.used s.nodes (heardUuids bs) i

instance (s : Provisioner) (bs : List (Beacon × Bool)) (i : Fin bmtMaxNodes) :
    Decidable (s.RemovedBy bs i) :=
  inferInstanceAs (Decidable (SlotTable.Popped _ _ _ _ _ _ _))

theorem Node.isOf_iff (uuid : Uuid) (n : Node) :
    n.isOf uuid = true ↔ n.used = true ∧ n.uuid = uuid := by
  simp [Node.isOf]

/-- What a beacon does in AUTO mode: its UUID clears a configured entry, and the node is deleted, or
the table stays as it is. -/
theorem recvUnprovAdvPkt_auto {s : Provisioner} (hmode : s.scanList.mode = .auto) (b : Beacon)
    (saved : Bool) :
    (s.recvUnprovAdvPkt b saved).1.scanList.mode = .auto ∧
      (s.recvUnprovAdvPkt b saved).1.nodes =
        SlotTable.pop Node.isOf Node.configDone {} s.nodes b.uuid ∧
      ∀ uuid, .deleteNodeWithUuid uuid ∈ (s.recvUnprovAdvPkt b saved).2 ↔
        (SlotTable.firstReady Node.isOf Node.configDone b.uuid s.nodes).isSome = true ∧
          uuid = b.uuid := by
  unfold Provisioner.recvUnprovAdvPkt SlotTable.pop SlotTable.firstReady
  dsimp only
  rw [hmode]
  cases SlotTable.find (Node.isOf b.uuid) s.nodes with
  | none => exact ⟨hmode, rfl, by simp⟩
  | some stale =>
    simp only [Option.filter_some]
    cases hdone : (s.nodes stale).configDone with
    | true => exact ⟨hmode, rfl, by simp⟩
    | false => exact ⟨hmode, rfl, by simp⟩

theorem nodes_recvBeacons {s : Provisioner} (hmode : s.scanList.mode = .auto)
    (bs : List (Beacon × Bool)) :
    (s.recvBeacons bs).1.nodes =
      (heardUuids bs).foldl (SlotTable.pop Node.isOf Node.configDone {}) s.nodes := by
  induction bs generalizing s with
  | nil => rfl
  | cons b bs ih =>
    obtain ⟨hmode', hnodes, -⟩ := recvUnprovAdvPkt_auto hmode b.1 b.2
    calc (s.recvBeacons (b :: bs)).1.nodes
        = ((s.recvUnprovAdvPkt b.1 b.2).1.recvBeacons bs).1.nodes := rfl
      _ = _ := by rw [ih hmode', hnodes]; rfl

theorem deleted_recvBeacons {s : Provisioner} (hmode : s.scanList.mode = .auto)
    (bs : List (Beacon × Bool)) (uuid : Uuid) :
    .deleteNodeWithUuid uuid ∈ (s.recvBeacons bs).2 ↔
      uuid ∈ SlotTable.pops Node.isOf Node.configDone {} s.nodes (heardUuids bs) := by
  induction bs generalizing s with
  | nil =>
    unfold Provisioner.recvBeacons heardUuids SlotTable.pops
    simp
  | cons b bs ih =>
    obtain ⟨hmode', hnodes, hdeleted⟩ := recvUnprovAdvPkt_auto hmode b.1 b.2
    have hcalls : (s.recvBeacons (b :: bs)).2 =
        (s.recvUnprovAdvPkt b.1 b.2).2 ++ ((s.recvUnprovAdvPkt b.1 b.2).1.recvBeacons bs).2 := rfl
    have hpops : SlotTable.pops Node.isOf Node.configDone {} s.nodes (heardUuids (b :: bs)) =
        if (SlotTable.firstReady Node.isOf Node.configDone b.1.uuid s.nodes).isSome then
          b.1.uuid :: SlotTable.pops Node.isOf Node.configDone {}
            (SlotTable.pop Node.isOf Node.configDone {} s.nodes b.1.uuid) (heardUuids bs)
        else SlotTable.pops Node.isOf Node.configDone {} s.nodes (heardUuids bs) := rfl
    rw [hcalls, List.mem_append, hdeleted, ih hmode', hnodes, hpops]
    split_ifs with hsome
    · simp [hsome]
    · have hpop : SlotTable.pop Node.isOf Node.configDone {} s.nodes b.1.uuid = s.nodes := by
        have hnone := Option.not_isSome_iff_eq_none.mp hsome
        rw [SlotTable.pop, hnone]
      rw [hpop]
      simp [hsome]

/-- While no provisioning completes, a sequence of beacons in AUTO mode removes exactly the entries
that its UUIDs clear, leaves every other entry as it was, and deletes from the mesh stack the
UUIDs of the entries it removes. -/
theorem beacons_remove_stale_entries (s : Provisioner) (hmode : s.scanList.mode = .auto)
    (bs : List (Beacon × Bool)) :
    (∀ i, (s.recvBeacons bs).1.nodes i = if s.RemovedBy bs i then {} else s.nodes i) ∧
      ∀ uuid, .deleteNodeWithUuid uuid ∈ (s.recvBeacons bs).2 ↔
        ∃ i, s.RemovedBy bs i ∧ (s.nodes i).uuid = uuid := by
  refine ⟨?_, ?_⟩
  · intro i
    rw [nodes_recvBeacons hmode]
    exact SlotTable.foldl_pop Node.isOf_iff rfl (heardUuids bs) s.nodes i
  · intro uuid
    rw [deleted_recvBeacons hmode]
    exact SlotTable.mem_pops_iff Node.isOf_iff rfl (heardUuids bs) s.nodes uuid

def relayBeacon : Beacon := { uuid := relayUuid, mac := fun _ => 0xEE, addrType := 0, oobInfo := 0 }

def relayConfigured : Provisioner :=
  (Provisioner.configured ⟨5, false⟩ true (Provisioner.provComplete 5 relayUuid true {})).1

theorem beacons_remove_stale_entries_relay :
    (relayConfigured.recvBeacons [(relayBeacon, true)]).1.nodes ⟨0, by decide⟩ = {} :=
  ((beacons_remove_stale_entries relayConfigured (by decide) [(relayBeacon, true)]).1
    ⟨0, by decide⟩).trans (if_pos (by decide +kernel))

/-- One beacon with the UUID of the configured relay removes its entry and deletes it. -/
theorem beacon_deletes_configured_relay :
    Run.run Provisioner.step {}
        [.provComplete 5 relayUuid true, .configured ⟨5, false⟩ true] = some relayConfigured ∧
      relayConfigured.scanList.mode = .auto ∧
      (∃ i, (relayConfigured.nodes i).configDone = true ∧
        ((relayConfigured.recvBeacons [(relayBeacon, true)]).1.nodes i).configDone = false) ∧
      ProvCall.deleteNodeWithUuid relayUuid ∈
        (relayConfigured.recvBeacons [(relayBeacon, true)]).2 := by
  refine ⟨?_, ?_, ?_, ?_⟩
  · rfl
  · decide
  · refine ⟨⟨0, by decide⟩, ?_⟩
    decide +kernel
  · decide +kernel

end BleMeshTracking.Gateway
