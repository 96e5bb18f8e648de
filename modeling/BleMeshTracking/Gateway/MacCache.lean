import BleMeshTracking.Gateway.Provisioning
import BleMeshTracking.Library.FirstCome

/-!
# The MAC cache

`bmt_mac_cache.c` beside the map it stands for: every UUID heard since the boot, with the MAC of its
most recent beacon.  The cache is filled by whatever beacons and never emptied, so it is that map
for the first sixteen UUIDs only.
-/

namespace BleMeshTracking.Gateway

def lastHeard (uuid : Uuid) (heard : List Beacon) : Option Mac :=
  (heard.reverse.find? fun b => b.uuid == uuid).map Beacon.mac

def storeAll (heard : List Beacon) : MacCache :=
  heard.foldl (fun cache b => bmtMacCacheStore b.uuid b.mac cache) fun _ => {}

/-- Fewer than `BMT_MAX_MAC_CACHE` other UUIDs were heard before the first beacon with this one. -/
def HasRoom (uuid : Uuid) (heard : List Beacon) : Prop :=
  uuid ∈ heard.map Beacon.uuid →
    ((heard.map Beacon.uuid).takeWhile (· ≠ uuid)).toFinset.card < bmtMaxMacCache

instance (uuid : Uuid) (heard : List Beacon) : Decidable (HasRoom uuid heard) :=
  inferInstanceAs (Decidable (_ → _))

theorem lastHeard_append (uuid : Uuid) (heard : List Beacon) (b : Beacon) :
    lastHeard uuid (heard ++ [b]) =
      if b.uuid = uuid then some b.mac else lastHeard uuid heard := by
  unfold lastHeard
  rw [List.reverse_append, List.reverse_singleton, List.singleton_append, List.find?_cons]
  split_ifs with h
  · rw [h, beq_self_eq_true]
    rfl
  · rw [beq_false_of_ne h]

theorem lastHeard_isSome_iff {uuid : Uuid} {heard : List Beacon} :
    (lastHeard uuid heard).isSome ↔ uuid ∈ heard.map Beacon.uuid := by
  simp [lastHeard]

theorem MacCacheEntry.isOf_iff {uuid : Uuid} {e : MacCacheEntry} :
    e.isOf uuid = true ↔ e.used = true ∧ e.uuid = uuid := by
  simp [MacCacheEntry.isOf]

def cachedUuids (cache : MacCache) : Finset Uuid :=
  FirstCome.keys MacCacheEntry.used MacCacheEntry.uuid cache

theorem bmtMacCacheGet_eq (uuid : Uuid) (cache : MacCache) :
    bmtMacCacheGet uuid cache =
      (SlotTable.lookup (MacCacheEntry.isOf uuid) cache).map MacCacheEntry.mac := by
  rw [bmtMacCacheGet, SlotTable.lookup, Option.map_map]
  rfl

theorem get_isSome_iff {uuid : Uuid} {cache : MacCache} :
    (bmtMacCacheGet uuid cache).isSome ↔ uuid ∈ cachedUuids cache := by
  rw [bmtMacCacheGet, Option.isSome_map, SlotTable.find_isSome_iff, cachedUuids,
    FirstCome.mem_keys_iff]
  simp only [MacCacheEntry.isOf_iff]

/-- What a store does: it writes the slot of the UUID, or a free one, with the MAC, or finds the
cache full. -/
theorem store_cases (uuid : Uuid) (mac : Mac) (cache : MacCache) :
    (∃ i a, bmtMacCacheStore uuid mac cache = Function.update cache i a ∧
        a.isOf uuid = true ∧ a.mac = mac ∧
        SlotTable.find (MacCacheEntry.isOf uuid) cache = some i) ∨
      (∃ i a, bmtMacCacheStore uuid mac cache = Function.update cache i a ∧
        a.isOf uuid = true ∧ a.mac = mac ∧ (cache i).used = false ∧
        SlotTable.find (MacCacheEntry.isOf uuid) cache = none) ∨
      bmtMacCacheStore uuid mac cache = cache ∧ (∀ i, (cache i).used = true) ∧
        SlotTable.find (MacCacheEntry.isOf uuid) cache = none := by
  unfold bmtMacCacheStore
  cases hfind : SlotTable.find (MacCacheEntry.isOf uuid) cache with
  | some i =>
    obtain ⟨hused, huuid⟩ := MacCacheEntry.isOf_iff.mp (SlotTable.find_sat hfind)
    exact Or.inl ⟨i, _, rfl, MacCacheEntry.isOf_iff.mpr ⟨hused, huuid⟩, rfl, rfl⟩
  | none =>
    cases hfree : SlotTable.find (fun e : MacCacheEntry => !e.used) cache with
    | some i =>
      refine Or.inr (Or.inl ⟨i, _, rfl, MacCacheEntry.isOf_iff.mpr ⟨rfl, rfl⟩, rfl, ?_, rfl⟩)
      simpa using SlotTable.find_sat hfree
    | none =>
      refine Or.inr (Or.inr ⟨rfl, ?_, rfl⟩)
      intro i
      simpa using SlotTable.find_eq_none_iff.mp hfree i

theorem find_absent {uuid : Uuid} {cache : MacCache}
    (h : SlotTable.find (MacCacheEntry.isOf uuid) cache = none) (i : Fin bmtMaxMacCache)
    (hi : (cache i).used = true) : (cache i).uuid ≠ uuid :=
  SlotTable.key_ne_of_find (fun _ => MacCacheEntry.isOf_iff) h hi

theorem gives_store (uuid : Uuid) (mac : Mac) (cache : MacCache) :
    FirstCome.Gives MacCacheEntry.used MacCacheEntry.uuid uuid cache
      (bmtMacCacheStore uuid mac cache) := by
  rcases store_cases uuid mac cache with hown | hnew | hfull
  · obtain ⟨i, a, heq, ha, -, hfind⟩ := hown
    obtain ⟨hused, huuid⟩ := MacCacheEntry.isOf_iff.mp ha
    have hi := MacCacheEntry.isOf_iff.mp (SlotTable.find_sat hfind)
    rw [heq]
    refine ⟨Or.inr ⟨i, a, rfl, hused, huuid, Or.inl hi⟩, Or.inl ?_⟩
    exact FirstCome.mem_keys_iff.mpr ⟨i, by rw [Function.update_self]; exact ⟨hused, huuid⟩⟩
  · obtain ⟨i, a, heq, ha, -, hi, hfind⟩ := hnew
    obtain ⟨hused, huuid⟩ := MacCacheEntry.isOf_iff.mp ha
    rw [heq]
    refine ⟨Or.inr ⟨i, a, rfl, hused, huuid, Or.inr ⟨hi, find_absent hfind⟩⟩, Or.inl ?_⟩
    exact FirstCome.mem_keys_iff.mpr ⟨i, by rw [Function.update_self]; exact ⟨hused, huuid⟩⟩
  · rw [hfull.1]
    exact ⟨Or.inl rfl, Or.inr hfull.2.1⟩

/-- After a store every UUID that has a slot has its latest MAC. -/
theorem get_store (uuid other : Uuid) (mac : Mac) (cache : MacCache) :
    bmtMacCacheGet other (bmtMacCacheStore uuid mac cache) =
      if uuid = other then
        (if other ∈ cachedUuids (bmtMacCacheStore uuid mac cache) then some mac else none)
      else bmtMacCacheGet other cache := by
  split_ifs with heq hin
  · subst heq
    rw [bmtMacCacheGet_eq]
    rcases store_cases uuid mac cache with hown | hnew | hfull
    · obtain ⟨i, a, heq, ha, hmac, hfind⟩ := hown
      rw [heq, SlotTable.lookup_update_self hfind ha, Option.map_some, hmac]
    · obtain ⟨i, a, heq, ha, hmac, -, hfind⟩ := hnew
      rw [heq, SlotTable.lookup_update_absent (by rw [SlotTable.lookup, hfind]; rfl) ha,
        Option.map_some, hmac]
    · rw [hfull.1] at hin
      obtain ⟨i, hi, huuid⟩ := FirstCome.mem_keys_iff.mp hin
      exact absurd huuid (find_absent hfull.2.2 i hi)
  · rw [← get_isSome_iff] at hin
    subst heq
    simpa using hin
  · rw [bmtMacCacheGet_eq, bmtMacCacheGet_eq]
    have hof : ∀ k a, MacCacheEntry.isOf k a = true ↔ a.used = true ∧ a.uuid = k :=
      fun _ _ => MacCacheEntry.isOf_iff
    rw [(gives_store uuid mac cache).1.lookup_other hof (Ne.symm heq)]

/-- The cache after these beacons: distinct UUIDs, the first sixteen heard, each with its latest
MAC. -/
theorem storeAll_spec (heard : List Beacon) :
    SlotTable.Distinct MacCacheEntry.used MacCacheEntry.uuid (storeAll heard) ∧
      cachedUuids (storeAll heard) =
        FirstCome.kept bmtMaxMacCache (heard.map Beacon.uuid) ∧
      ∀ uuid ∈ cachedUuids (storeAll heard),
        bmtMacCacheGet uuid (storeAll heard) = lastHeard uuid heard := by
  induction heard using List.reverseRecOn with
  | nil =>
    have hempty : cachedUuids (storeAll []) = ∅ := FirstCome.keys_of_unused fun _ => rfl
    refine ⟨?_, hempty, ?_⟩
    · intro i j hi
      cases hi
    · intro uuid huuid
      rw [hempty] at huuid
      cases huuid
  | append_singleton heard b ih =>
    obtain ⟨hdistinct, hcached, hget⟩ := ih
    have hstep : storeAll (heard ++ [b]) = bmtMacCacheStore b.uuid b.mac (storeAll heard) := by
      rw [storeAll, List.foldl_append]
      rfl
    have hgives := gives_store b.uuid b.mac (storeAll heard)
    have haccept : cachedUuids (storeAll (heard ++ [b])) =
        FirstCome.accept bmtMaxMacCache (cachedUuids (storeAll heard)) b.uuid := by
      rw [hstep]
      exact hgives.keys_eq hdistinct
    refine ⟨?_, ?_, ?_⟩
    · rw [hstep]
      exact hdistinct.writesFor hgives.1
    · rw [haccept, hcached, List.map_append, List.map_singleton,
        FirstCome.kept_append_singleton]
    · intro uuid huuid
      rw [hstep] at huuid
      rw [hstep, get_store, lastHeard_append]
      split_ifs with heq
      · rfl
      · -- another UUID had its slot before
        apply hget
        rw [← hstep, haccept, FirstCome.accept] at huuid
        split_ifs at huuid
        · exact (Finset.mem_insert.mp huuid).resolve_left (Ne.symm heq)
        · exact huuid

/-- A lookup gives the most recent MAC just if the UUID was not heard or there was room for it. -/
theorem get_storeAll_iff (uuid : Uuid) (heard : List Beacon) :
    bmtMacCacheGet uuid (storeAll heard) = lastHeard uuid heard ↔ HasRoom uuid heard := by
  obtain ⟨-, hcached, hget⟩ := storeAll_spec heard
  unfold HasRoom
  refine ⟨?_, ?_⟩
  · intro heq hheard
    rw [← lastHeard_isSome_iff, ← heq, get_isSome_iff, hcached] at hheard
    exact (FirstCome.mem_kept_iff.mp hheard).2
  · intro hroom
    by_cases hheard : uuid ∈ heard.map Beacon.uuid
    · apply hget
      rw [hcached]
      exact FirstCome.mem_kept_iff.mpr ⟨hheard, hroom hheard⟩
    · have hget' : ¬(bmtMacCacheGet uuid (storeAll heard)).isSome := by
        rw [get_isSome_iff, hcached]
        intro hmem
        exact hheard (FirstCome.mem_kept_iff.mp hmem).1
      rw [← lastHeard_isSome_iff] at hheard
      simp only [Option.isSome_iff_ne_none, ne_eq, not_not] at hget' hheard
      rw [hget', hheard]

theorem find_bmtNodeTableAdd (addr : UInt16) (uuid : Uuid) (mac : Mac) (nodes : NodeTable) :
    bmtNodeTableFind addr (bmtNodeTableAdd addr uuid mac nodes).2 =
        (bmtNodeTableAdd addr uuid mac nodes).1 ∧
      ∀ j ∈ (bmtNodeTableAdd addr uuid mac nodes).1,
        ((bmtNodeTableAdd addr uuid mac nodes).2 j).mac = mac := by
  rcases bmtNodeTableAdd_cases addr uuid mac nodes with hown | hnew | hfull
  · obtain ⟨j, hfind, heq⟩ := hown
    rw [heq]
    refine ⟨SlotTable.find_update_self hfind (SlotTable.find_sat hfind), ?_⟩
    rintro _ ⟨⟩
    dsimp only
    rw [Function.update_self]
  · obtain ⟨j, hfind, -, heq⟩ := hnew
    rw [heq]
    refine ⟨SlotTable.find_update_absent hfind (isAt_iff.mpr ⟨rfl, rfl⟩), ?_⟩
    rintro _ ⟨⟩
    dsimp only
    rw [Function.update_self]
    rfl
  · obtain ⟨hfind, -, heq⟩ := hfull
    rw [heq]
    refine ⟨hfind, ?_⟩
    rintro _ ⟨⟩

theorem provComplete_mac {s : Provisioner} {addr : UInt16} {uuid : Uuid} {saved : Bool}
    {i : Fin bmtMaxNodes}
    (h : bmtNodeTableFind addr (s.provComplete addr uuid saved).nodes = some i) :
    ((s.provComplete addr uuid saved).nodes i).mac =
      (bmtMacCacheGet uuid s.macCache).getD fun _ => 0 := by
  unfold Provisioner.provComplete at h ⊢
  dsimp only at h ⊢
  generalize ((bmtMacCacheGet uuid s.macCache).getD fun _ => 0) = mac at h ⊢
  obtain ⟨hfind, hmac⟩ := find_bmtNodeTableAdd addr uuid mac s.nodes
  generalize bmtNodeTableAdd addr uuid mac s.nodes = added at h hfind hmac ⊢
  obtain ⟨slot, nodes⟩ := added
  cases slot with
  | none =>
    rw [hfind] at h
    cases h
  | some j =>
    dsimp only at h hfind ⊢
    split_ifs at h ⊢
    · -- the entry is configured at the same address
      have hj : bmtNodeTableFind addr (Function.update nodes j ((nodes j).configuring uuid)) =
          some j := SlotTable.find_update_self hfind (SlotTable.find_sat hfind)
      simp only [Provisioner.write, hj, Option.some_inj] at h
      simp only [Provisioner.write, ← h, Function.update_self]
      exact hmac j rfl
    · simp only [Provisioner.write, hfind, Option.some_inj] at h
      simp only [Provisioner.write, ← h]
      exact hmac j rfl

/-- The gateway, and the beacons it has heard since it booted. -/
structure Listening where
  prov : Provisioner := {}
  heard : List Beacon := []

def ProvEvent.heardAfter (heard : List Beacon) : ProvEvent → List Beacon
  | .beacon b _ => heard ++ [b]
  | .reboot => []
  | _ => heard

namespace Listening

def step (s : Listening) (e : ProvEvent) : Option Listening :=
  (s.prov.step e).map fun prov => { prov, heard := e.heardAfter s.heard }

/-- A lookup of the UUID gives the MAC of its most recent beacon, and so does the entry that
`PROV_COMPLETE` would make now, if it was heard. -/
structure KeepsMac (s : Listening) (uuid : Uuid) : Prop where
  get : bmtMacCacheGet uuid s.prov.macCache = lastHeard uuid s.heard
  entry : ∀ mac ∈ lastHeard uuid s.heard, ∀ addr saved i,
    bmtNodeTableFind addr (s.prov.provComplete addr uuid saved).nodes = some i →
      ((s.prov.provComplete addr uuid saved).nodes i).mac = mac

def Stored (s : Listening) : Prop := s.prov.macCache = storeAll s.heard

theorem macCache_recvUnprovAdvPkt (s : Provisioner) (b : Beacon) (saved : Bool) :
    (s.recvUnprovAdvPkt b saved).1.macCache = bmtMacCacheStore b.uuid b.mac s.macCache := by
  unfold Provisioner.recvUnprovAdvPkt
  dsimp only
  split
  · rfl
  · split
    · split_ifs
      · rfl
      · rfl
    · rfl

theorem macCache_provComplete (s : Provisioner) (addr : UInt16) (uuid : Uuid) (saved : Bool) :
    (s.provComplete addr uuid saved).macCache = s.macCache := by
  unfold Provisioner.provComplete
  dsimp only
  split
  · rfl
  · split_ifs
    · rfl
    · rfl

theorem stored_step {s s' : Listening} {e : ProvEvent} (h : s.Stored)
    (hs : s.step e = some s') : s'.Stored := by
  obtain ⟨prov, hprov, hs'⟩ := Option.map_eq_some_iff.mp hs
  subst hs'
  unfold Stored at h ⊢
  cases e with
  | beacon b saved =>
    cases hprov
    dsimp only [ProvEvent.heardAfter]
    rw [macCache_recvUnprovAdvPkt, h, storeAll, storeAll, List.foldl_append]
    rfl
  | provComplete addr uuid saved =>
    cases hprov
    exact (macCache_provComplete ..).trans h
  | configured t saved =>
    obtain ⟨-, hprov'⟩ := Option.ite_none_right_eq_some.mp hprov
    cases hprov'
    unfold Provisioner.configured
    dsimp only
    split
    · exact h
    · exact h
  | configFailed t saved =>
    obtain ⟨-, hprov'⟩ := Option.ite_none_right_eq_some.mp hprov
    cases hprov'
    unfold Provisioner.cfgAbortCleanup
    dsimp only
    split
    · exact h
    · exact h
  | reboot =>
    cases hprov
    rfl
  | setMode mode =>
    cases hprov
    exact h
  | scanStart =>
    cases hprov
    exact h
  | scanEnd =>
    obtain ⟨-, hprov'⟩ := Option.ite_none_right_eq_some.mp hprov
    cases hprov'
    exact h

theorem keepsMac_iff {s : Listening} (h : s.Stored) (uuid : Uuid) :
    s.KeepsMac uuid ↔ HasRoom uuid s.heard := by
  rw [← get_storeAll_iff, ← h]
  refine ⟨KeepsMac.get, ?_⟩
  intro hget
  refine ⟨hget, ?_⟩
  intro mac hmac addr saved i hi
  rw [provComplete_mac hi, hget, Option.mem_def.mp hmac]
  rfl

end Listening

/-- In every state of every run, a UUID is looked up with the MAC of its most recent beacon just
if it was not heard since the boot, or fewer than sixteen others were heard before it. -/
theorem mac_cache_refines_map_iff (es : List ProvEvent) :
    Run.Throughout Listening.step (fun s => ∀ uuid, s.KeepsMac uuid ↔ HasRoom uuid s.heard) {}
      es := by
  have hstored : Run.Throughout Listening.step Listening.Stored {} es :=
    Run.throughout_of_forall (fun _ _ _ h hs => Listening.stored_step h hs) es rfl
  exact hstored.mono fun _ h uuid => Listening.keepsMac_iff h uuid

/-- A beacon of a device that is neither a relay nor a scanner. -/
def foreignBeacon (n : ℕ) : ProvEvent :=
  .beacon ⟨fun _ => UInt8.ofNat n, fun _ => UInt8.ofNat n, 0, 0⟩ false

/-- Sixteen of them, and then a relay. -/
def foreignFirst : List ProvEvent :=
  (List.range 16).map foreignBeacon ++ [.beacon ⟨relayUuid, fun _ => 0x24, 0, 0⟩ false]

/-- The relay has no slot, and its entry the MAC 00:00:00:00:00:00. -/
theorem mac_of_relay_lost :
    ¬Run.Throughout Listening.step (fun s => ∀ uuid, s.KeepsMac uuid) {} foreignFirst := by
  intro h
  have hkeeps : ((Run.run Listening.step {} foreignFirst).getD {}).KeepsMac relayUuid :=
    h.last rfl relayUuid
  exact absurd hkeeps.get (by decide +kernel)

end BleMeshTracking.Gateway
