import BleMeshTracking.Gateway.Heartbeat
import BleMeshTracking.Gateway.Provisioning
import BleMeshTracking.Library.Fluent

/-!
# The reset cycle of the watchdog

`data_watchdog_task` from a window of its to the restart, the nodes' handling of `RESET_CMD`, and
the provisioning that goes on meanwhile.  A broadcast is not acknowledged, and each node may miss
it.
-/

namespace BleMeshTracking.Gateway

def bmtWdgResetTries : ℕ := 5

/-- A node on the mesh: its unicast address while it is provisioned, and whether its vendor model is
bound to the AppKey, without which it takes no vendor message. -/
structure MeshMember where
  addr : Option UInt16 := none
  bound : Bool := false

/-- `bmt_mesh_local_reset`, up to the restart of the node.  It is over within the 12 s that the
gateway waits, and is taken as one step. -/
def MeshMember.localReset (_ : MeshMember) : MeshMember := {}

def MeshMember.resetCmd (n : MeshMember) : MeshMember :=
  if n.addr.isSome && n.bound then n.localReset else n

inductive ResetPhase
  | monitoring
  | watching
  | broadcasting (tries sentOk : ℕ)
  | waiting
  | restarted
  deriving DecidableEq

/-- The gateway with the node table of its mesh stack, and the nodes by UUID. -/
structure MeshSystem where
  prov : Provisioner := {}
  stack : Uuid → Option UInt16 := fun _ => none
  node : Uuid → MeshMember := fun _ => {}
  watchdog : ResetPhase := .monitoring

def Provisioner.clear (s : Provisioner) : Provisioner :=
  { s with nodes := fun _ => {}, saved := none }

def ProvCall.onStack (stack : Uuid → Option UInt16) : ProvCall → Uuid → Option UInt16
  | .deleteNodeWithUuid uuid => Function.update stack uuid none
  | .addUnprovDev _ => stack
  | .scanConfigured _ => stack

inductive CycleEvent
  | snap
  | windowEnd (changed : Bool)
  | resetCmd (otaRunning ok : Bool) (reached : Uuid → Bool)
  | triesDone
  | wipe
  | bound (uuid : Uuid)
  | prov (e : ProvEvent)

namespace MeshSystem

/-- One `RESET_CMD` of the loop: skipped while an OTA is running, and on the air if the publish is
`ok`. -/
def resetCmd (s : MeshSystem) (otaRunning ok : Bool) (reached : Uuid → Bool) (tries sentOk : ℕ) :
    MeshSystem :=
  if !otaRunning && ok then
    { s with
      watchdog := .broadcasting (tries + 1) (sentOk + 1)
      node := fun uuid => if reached uuid then (s.node uuid).resetCmd else s.node uuid }
  else { s with watchdog := .broadcasting (tries + 1) sentOk }

/-- A step of the provisioning.  Only an unprovisioned node beacons, or is provisioned. -/
def provStep (s : MeshSystem) : ProvEvent → Option MeshSystem
  | .reboot => none
  | .beacon b saved =>
    if (s.node b.uuid).addr.isNone then
      let r := s.prov.recvUnprovAdvPkt b saved
      some { s with prov := r.1, stack := r.2.foldl ProvCall.onStack s.stack }
    else none
  | .provComplete addr uuid saved =>
    if (s.node uuid).addr.isNone then
      some { s with
        prov := s.prov.provComplete addr uuid saved
        stack := Function.update s.stack uuid (some addr)
        node := Function.update s.node uuid { addr := some addr } }
    else none
  | .configFailed t saved =>
    if t ∈ s.prov.tasks then
      let r := s.prov.cfgAbortCleanup t saved
      some { s with prov := r.1, stack := r.2.foldl ProvCall.onStack s.stack }
    else none
  | e => (s.prov.step e).map fun prov => { s with prov }

/-- A step before the gateway restarts.  The wipe of both node tables and the restart a second later
are one step: what is provisioned in that second is in the tables again, and no orphan. -/
def running (s : MeshSystem) : CycleEvent → Option MeshSystem
  | .snap =>
    match s.watchdog with
    | .monitoring =>
      if hasConfiguredScanner s.prov.nodes then some { s with watchdog := .watching } else none
    | _ => none
  | .windowEnd changed =>
    match s.watchdog with
    | .watching =>
      some { s with watchdog := if changed then .monitoring else .broadcasting 0 0 }
    | _ => none
  | .resetCmd otaRunning ok reached =>
    match s.watchdog with
    | .broadcasting tries sentOk =>
      if tries < bmtWdgResetTries then some (s.resetCmd otaRunning ok reached tries sentOk)
      else none
    | _ => none
  | .triesDone =>
    match s.watchdog with
    | .broadcasting tries sentOk =>
      if tries < bmtWdgResetTries then none
      -- nothing went out: the gateway stays as it is
      else if sentOk = 0 then some { s with watchdog := .monitoring }
      else some { s with watchdog := .waiting }
    | _ => none
  | .wipe =>
    match s.watchdog with
    | .waiting =>
      some { s with prov := s.prov.clear.reboot, stack := fun _ => none, watchdog := .restarted }
    | _ => none
  | .bound uuid =>
    if (s.node uuid).addr.isSome then
      some { s with node := Function.update s.node uuid { s.node uuid with bound := true } }
    else none
  | .prov e => s.provStep e

def step (s : MeshSystem) (e : CycleEvent) : Option MeshSystem :=
  if s.watchdog = .restarted then none else s.running e

def Configured (s : MeshSystem) (uuid : Uuid) : Prop :=
  ∃ i, (s.prov.nodes i).used = true ∧ (s.prov.nodes i).configDone = true ∧
    (s.prov.nodes i).uuid = uuid

/-- A cycle from `s` to `s'` leaves no orphan: what was configured is unprovisioned, and no node has
an address that the gateway does not know. -/
def Healed (s s' : MeshSystem) : Prop :=
  (∀ uuid, s.Configured uuid → (s'.node uuid).addr = none) ∧
    ∀ uuid addr, (s'.node uuid).addr = some addr → s'.stack uuid = some addr

def Provisioned (uuid : Uuid) (s : MeshSystem) : Prop := (s.node uuid).addr.isSome = true

def Provisions (uuid : Uuid) (_ : MeshSystem) : CycleEvent → Prop
  | .prov (.provComplete _ uuid' _) => uuid' = uuid
  | _ => False

/-- The step is a `RESET_CMD` that goes out, reaches the node and finds it bound. -/
def Hears (uuid : Uuid) (s : MeshSystem) : CycleEvent → Prop
  | .resetCmd otaRunning ok reached =>
    otaRunning = false ∧ ok = true ∧ reached uuid = true ∧ (s.node uuid).bound = true
  | _ => False

/-- The node hears a `RESET_CMD` after which the gateway does not provision it again, or is never
provisioned at all. -/
def StaysReset (s : MeshSystem) (es : List CycleEvent) (uuid : Uuid) : Prop :=
  Fluent.EndsOff step (Provisioned uuid) (Provisions uuid) (Hears uuid) s es

variable {s s' : MeshSystem} {uuid : Uuid}

theorem running_of_step {e : CycleEvent} (hs : s.step e = some s') :
    s.watchdog ≠ .restarted ∧ s.running e = some s' :=
  Option.ite_none_left_eq_some.mp hs

inductive Move (s : MeshSystem) : CycleEvent → MeshSystem → Prop
  | snap (hw : s.watchdog = .monitoring) (hscanner : hasConfiguredScanner s.prov.nodes = true) :
      Move s .snap { s with watchdog := .watching }
  | windowEnd (changed : Bool) (hw : s.watchdog = .watching) :
      Move s (.windowEnd changed)
        { s with watchdog := if changed then .monitoring else .broadcasting 0 0 }
  | resetCmd {otaRunning ok : Bool} {reached : Uuid → Bool} {tries sentOk : ℕ}
      (hw : s.watchdog = .broadcasting tries sentOk) (hmore : tries < bmtWdgResetTries) :
      Move s (.resetCmd otaRunning ok reached) (s.resetCmd otaRunning ok reached tries sentOk)
  | noneSent {tries : ℕ} (hw : s.watchdog = .broadcasting tries 0)
      (hdone : ¬tries < bmtWdgResetTries) : Move s .triesDone { s with watchdog := .monitoring }
  | triesDone {tries sentOk : ℕ} (hw : s.watchdog = .broadcasting tries sentOk)
      (hdone : ¬tries < bmtWdgResetTries) (hsent : ¬sentOk = 0) :
      Move s .triesDone { s with watchdog := .waiting }
  | wipe (hw : s.watchdog = .waiting) :
      Move s .wipe
        { s with prov := s.prov.clear.reboot, stack := fun _ => none, watchdog := .restarted }
  | bound {uuid : Uuid} (haddr : (s.node uuid).addr.isSome = true) :
      Move s (.bound uuid)
        { s with node := Function.update s.node uuid { s.node uuid with bound := true } }
  | prov {e : ProvEvent} {s' : MeshSystem} (hs : s.provStep e = some s') : Move s (.prov e) s'

theorem running_move {e : CycleEvent} (hs : s.running e = some s') : s.Move e s' := by
  unfold running at hs
  cases e with
  | snap =>
    cases hw : s.watchdog with
    | monitoring =>
      simp only [hw] at hs
      obtain ⟨hscanner, hs'⟩ := Option.ite_none_right_eq_some.mp hs
      cases hs'
      exact .snap hw hscanner
    | _ => simp [hw] at hs
  | windowEnd changed =>
    cases hw : s.watchdog with
    | watching =>
      simp only [hw] at hs
      cases hs
      exact .windowEnd changed hw
    | _ => simp [hw] at hs
  | resetCmd otaRunning ok reached =>
    cases hw : s.watchdog with
    | broadcasting tries sentOk =>
      simp only [hw] at hs
      obtain ⟨hmore, hs'⟩ := Option.ite_none_right_eq_some.mp hs
      cases hs'
      exact .resetCmd hw hmore
    | _ => simp [hw] at hs
  | triesDone =>
    cases hw : s.watchdog with
    | broadcasting tries sentOk =>
      simp only [hw] at hs
      split_ifs at hs with hmore hsent
      · cases hs
        rw [hsent] at hw
        exact .noneSent hw hmore
      · cases hs
        exact .triesDone hw hmore hsent
    | _ => simp [hw] at hs
  | wipe =>
    cases hw : s.watchdog with
    | waiting =>
      simp only [hw] at hs
      cases hs
      exact .wipe hw
    | _ => simp [hw] at hs
  | bound uuid =>
    obtain ⟨haddr, hs'⟩ := Option.ite_none_right_eq_some.mp hs
    cases hs'
    exact .bound haddr
  | prov e => exact .prov hs

/-- Provisioning writes a node only when it completes, and leaves the watchdog where it is. -/
theorem provStep_frame {e : ProvEvent} (hs : s.provStep e = some s') (uuid : Uuid) :
    s'.watchdog = s.watchdog ∧
      (¬s.Provisions uuid (.prov e) → s'.node uuid = s.node uuid) := by
  unfold provStep at hs
  cases e with
  | reboot => cases hs
  | beacon b saved =>
    obtain ⟨-, hs'⟩ := Option.ite_none_right_eq_some.mp hs
    cases hs'
    exact ⟨rfl, fun _ => rfl⟩
  | provComplete addr uuid' saved =>
    obtain ⟨-, hs'⟩ := Option.ite_none_right_eq_some.mp hs
    cases hs'
    refine ⟨rfl, ?_⟩
    intro hother
    exact Function.update_of_ne (fun hsame => hother hsame.symm) _ _
  | configFailed t saved =>
    obtain ⟨-, hs'⟩ := Option.ite_none_right_eq_some.mp hs
    cases hs'
    exact ⟨rfl, fun _ => rfl⟩
  | _ =>
    obtain ⟨prov, -, hs'⟩ := Option.map_eq_some_iff.mp hs
    cases hs'
    exact ⟨rfl, fun _ => rfl⟩

theorem provisioned_resetCmd {otaRunning ok : Bool} {reached : Uuid → Bool} {tries sentOk : ℕ} :
    Provisioned uuid (s.resetCmd otaRunning ok reached tries sentOk) ↔
      Provisioned uuid s ∧ ¬s.Hears uuid (.resetCmd otaRunning ok reached) := by
  unfold resetCmd Provisioned Hears
  cases otaRunning with
  | true => simp
  | false =>
    cases ok with
    | false => simp
    | true =>
      cases hreached : reached uuid with
      | false => simp [hreached]
      | true =>
        unfold MeshMember.resetCmd MeshMember.localReset
        cases hbound : (s.node uuid).bound with
        | false => simp [hreached, hbound]
        | true => cases haddr : (s.node uuid).addr <;> simp [hreached, hbound, haddr]

/-- A step that neither provisions a node nor is heard by it leaves it provisioned or not. -/
theorem provisioned_step {e : CycleEvent} (hprov : ¬s.Provisions uuid e) (hs : s.step e = some s') :
    Provisioned uuid s' ↔ Provisioned uuid s ∧ ¬s.Hears uuid e := by
  cases running_move (running_of_step hs).2 with
  | resetCmd hw hmore => exact provisioned_resetCmd
  | @bound uuid' haddr =>
    unfold Provisioned
    dsimp only
    rw [show s.Hears uuid (.bound uuid') = False from rfl, not_false_eq_true, and_true]
    by_cases hsame : uuid = uuid'
    · rw [hsame, Function.update_self]
    · rw [Function.update_of_ne hsame]
  | prov hs' =>
    have hnode := (provStep_frame hs' uuid).2 hprov
    unfold Provisioned
    rw [hnode]
    exact (and_iff_left id).symm
  | _ => exact (and_iff_left id).symm

theorem provisioned_of_provisions {e : CycleEvent} (hprov : s.Provisions uuid e)
    (hs : s.step e = some s') : Provisioned uuid s' := by
  obtain ⟨-, hs⟩ := running_of_step hs
  cases e with
  | prov e =>
    cases e with
    | provComplete addr uuid' saved =>
      cases hprov
      obtain ⟨-, hs'⟩ := Option.ite_none_right_eq_some.mp hs
      cases hs'
      unfold Provisioned
      dsimp only
      rw [Function.update_self]
      rfl
    | _ => exact absurd hprov id
  | _ => exact absurd hprov id

/-- Provisioning a node and its hearing a `RESET_CMD` are all that matter to it. -/
theorem governs_provisioned (uuid : Uuid) :
    Fluent.Governs step (Provisioned uuid) (Provisions uuid) (Hears uuid) := by
  refine ⟨?_, ?_, ?_⟩
  · intro s e s' hprov hs
    exact provisioned_of_provisions hprov hs
  · intro s e s' hhears hs hP
    have hprov : ¬s.Provisions uuid e := by
      intro hprov
      cases e with
      | resetCmd otaRunning ok reached => exact hprov
      | _ => exact hhears
    exact ((provisioned_step hprov hs).mp hP).2 hhears
  · intro s e s' hprov hhears hs
    rw [provisioned_step hprov hs]
    exact and_iff_left hhears

def Forgotten (s : MeshSystem) : Prop := s.watchdog = .restarted → ∀ uuid, s.stack uuid = none

theorem forgotten_step {e : CycleEvent} (hs : s.step e = some s') : s'.Forgotten := by
  obtain ⟨hup, hs⟩ := running_of_step hs
  intro hend
  cases running_move hs with
  | wipe hw =>
    intro uuid
    rfl
  | windowEnd changed hw =>
    dsimp only at hend
    split_ifs at hend
  | resetCmd hw hmore =>
    unfold resetCmd at hend
    split_ifs at hend
  | bound haddr => exact absurd hend hup
  | prov hs' =>
    rw [(provStep_frame hs' fun _ => 0).1] at hend
    exact absurd hend hup
  | _ => cases hend

/-- Once the gateway has restarted, the nodes that are still provisioned are the orphans. -/
theorem healed_iff_unprovisioned (s : MeshSystem) (hforgotten : ∀ uuid, s'.stack uuid = none) :
    s.Healed s' ↔ ∀ uuid, ¬Provisioned uuid s' := by
  unfold Healed Provisioned
  refine ⟨?_, ?_⟩
  · intro h uuid hP
    obtain ⟨addr, haddr⟩ := Option.isSome_iff_exists.mp hP
    have hknown := h.2 uuid addr haddr
    rw [hforgotten uuid] at hknown
    cases hknown
  · intro h
    have hnone : ∀ uuid, (s'.node uuid).addr = none := by
      intro uuid
      simpa using h uuid
    refine ⟨fun uuid _ => hnone uuid, ?_⟩
    intro uuid addr haddr
    rw [hnone uuid] at haddr
    cases haddr

/-- Whatever nodes there are and whatever they miss: the cycle leaves no orphan just when every node
ends it reset, by a `RESET_CMD` that it hears and after which it is not provisioned again before the
wipe. -/
theorem healed_iff_all_stay_reset {es : List CycleEvent} (hstart : s.watchdog = .monitoring)
    (hrun : Run.run step s es = some s') (hend : s'.watchdog = .restarted) :
    s.Healed s' ↔ ∀ uuid, s.StaysReset es uuid := by
  have hforgotten : Run.Throughout step Forgotten s es := by
    refine Run.throughout_of_forall (fun _ _ _ _ hs => forgotten_step hs) es ?_
    intro hrestarted
    rw [hstart] at hrestarted
    cases hrestarted
  rw [healed_iff_unprovisioned s (hforgotten.last hrun hend)]
  apply forall_congr'
  intro uuid
  exact Fluent.not_iff_endsOff (governs_provisioned uuid) hrun

def scanUuid : Uuid := fun i => ([0x53, 0x43, 0x41, 0x4E] : List UInt8).getD i 0

def oneScanner : MeshSystem where
  prov := (Provisioner.configured ⟨5, true⟩ true (Provisioner.provComplete 5 scanUuid true {})).1
  stack := Function.update (fun _ => none) scanUuid (some 5)
  node := Function.update (fun _ => {}) scanUuid { addr := some 5, bound := true }

/-- A silent window and five broadcasts, of which the scanner hears the first or none. -/
def broadcasts (heard : Bool) : List CycleEvent :=
  .snap :: .windowEnd false :: .resetCmd false true (fun _ => heard) ::
    List.replicate 4 (.resetCmd false true fun _ => false) ++ [.triesDone]

def rejoins : List CycleEvent :=
  [.prov (.beacon ⟨scanUuid, fun _ => 0xEE, 0, 0⟩ true), .prov (.provComplete 5 scanUuid true)]

theorem healed_iff_all_stay_reset_oneScanner :
    ∃ s', Run.run step oneScanner (broadcasts true ++ [.wipe]) = some s' ∧
      (oneScanner.Healed s' ↔ ∀ uuid, oneScanner.StaysReset (broadcasts true ++ [.wipe]) uuid) :=
  ⟨_, rfl, healed_iff_all_stay_reset rfl rfl rfl⟩

/-- The scanner misses all five broadcasts, or hears the first and is back before the wipe: it stays
provisioned, and the gateway has forgotten it. -/
theorem scanner_orphaned :
    oneScanner.Configured scanUuid ∧
      (∃ s', Run.run step oneScanner (broadcasts false ++ [.wipe]) = some s' ∧
        s'.watchdog = .restarted ∧ ¬oneScanner.Healed s') ∧
      ∃ s', Run.run step oneScanner (broadcasts true ++ rejoins ++ [.wipe]) = some s' ∧
        s'.watchdog = .restarted ∧ ¬oneScanner.Healed s' := by
  have hconfigured : oneScanner.Configured scanUuid := ⟨⟨0, by decide⟩, rfl, rfl, rfl⟩
  refine ⟨hconfigured, ⟨_, rfl, rfl, ?_⟩, ⟨_, rfl, rfl, ?_⟩⟩
  · intro h
    cases h.1 scanUuid hconfigured
  · intro h
    cases h.1 scanUuid hconfigured

end MeshSystem

end BleMeshTracking.Gateway
