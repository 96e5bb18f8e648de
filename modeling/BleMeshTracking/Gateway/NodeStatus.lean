import BleMeshTracking.Gateway.Heartbeat
import BleMeshTracking.Gateway.Provisioning

/-!
# The status of nodes on the server

ONLINE and OFFLINE are published by `cfg_client_cb`, `vnd_client_cb` and `node_ping_task`, each
beside its own writes of `online`, and not at all while MQTT is down.  The server and the table
agree as long as every write of a flag is published, and nothing else is.
-/

namespace BleMeshTracking.Gateway

def bmtScanStatusRefreshMs : UInt32 := 30000

def bmtNodeOfflineTimeoutMs : UInt32 := 60000

/-- The gateway, its MQTT connection, whether `bmt_tb_reconnect_all_devices` has completed since the
last connect, and the last status the server received for the device of a MAC; none is OFFLINE. -/
structure StatusSystem where
  prov : Provisioner := {}
  connected : Bool := false
  announced : Bool := false
  server : Mac → Bool := fun _ => false

def Node.isTyped (n : Node) : Bool := n.isScan || n.isRelay

def Node.shown (n : Node) : Bool := n.used && n.isTyped

namespace StatusSystem

def setNode (s : StatusSystem) (i : Fin bmtMaxNodes) (n : Node) : StatusSystem :=
  { s with prov := { s.prov with nodes := Function.update s.prov.nodes i n } }

def pubNodeStatus (s : StatusSystem) (mac : Mac) (online : Bool) : StatusSystem :=
  if s.connected then { s with server := Function.update s.server mac online } else s

/-- `cfg_client_cb` for the ACK of `MODEL_APP_BIND`. -/
def bindAck (s : StatusSystem) (addr : UInt16) (errorCode : ℤ) : StatusSystem :=
  if errorCode = 0 then
    match bmtNodeTableFind addr s.prov.nodes with
    | some i =>
      if (s.prov.nodes i).isTyped then s.pubNodeStatus (s.prov.nodes i).mac true else s
    | none => s
  else s

def due (n : Node) (now : UInt32) : Bool :=
  n.lastSeenMs == 0 || now - n.lastSeenMs > bmtScanStatusRefreshMs

/-- `vnd_client_cb` for `TAG_STATUS`, up to the queue. -/
def tagStatus (s : StatusSystem) (src : UInt16) (now : UInt32) : StatusSystem :=
  match bmtNodeTableFind src s.prov.nodes with
  | some i =>
    let n := s.prov.nodes i
    if n.isScan && due n now then
      (s.setNode i { n with lastSeenMs := now, online := true }).pubNodeStatus n.mac true
    else s
  | none => s

/-- `cfg_client_cb` for the ACK of a ping. -/
def pingAck (s : StatusSystem) (addr : UInt16) (errorCode : ℤ) (now : UInt32) : StatusSystem :=
  if errorCode ≠ 0 then s
  else
    match bmtNodeTableFind addr s.prov.nodes with
    | some i =>
      let n := s.prov.nodes i
      if n.configDone && n.isTyped then
        -- nothing is published for a node that was online
        if n.online then s.setNode i { n with lastSeenMs := now }
        else (s.setNode i { n with lastSeenMs := now, online := true }).pubNodeStatus n.mac true
      else s
    | none => s

def timedOut (n : Node) (now : UInt32) : Bool :=
  decide (n.lastSeenMs > 0) && decide (now - n.lastSeenMs > bmtNodeOfflineTimeoutMs)

/-- The loop body of `node_ping_task` after its ping. -/
def pingRound (s : StatusSystem) (i : Fin bmtMaxNodes) (now : UInt32) : StatusSystem :=
  let n := s.prov.nodes i
  if n.pinged && timedOut n now && n.online then
    (s.setNode i { n with online := false }).pubNodeStatus n.mac false
  else s

end StatusSystem

inductive StatusEvent
  | prov (e : ProvEvent)
  | bindAck (addr : UInt16) (errorCode : ℤ)
  | tagStatus (src : UInt16) (now : UInt32)
  | pingAck (addr : UInt16) (errorCode : ℤ) (now : UInt32)
  | pingRound (i : Fin bmtMaxNodes) (now : UInt32)
  | mqttConnected
  | reannounced
  | mqttDisconnected

namespace StatusSystem

/-- `bmt_tb_reconnect_all_devices` publishes no status. -/
def step (s : StatusSystem) : StatusEvent → Option StatusSystem
  | .prov .reboot => some { s with prov := s.prov.reboot, connected := false, announced := false }
  | .prov e => (s.prov.step e).map fun prov => { s with prov }
  | .bindAck addr errorCode => some (s.bindAck addr errorCode)
  | .tagStatus src now => some (s.tagStatus src now)
  | .pingAck addr errorCode now => some (s.pingAck addr errorCode now)
  | .pingRound i now => some (s.pingRound i now)
  | .mqttConnected => some { s with connected := true, announced := false }
  | .reannounced => if s.connected then some { s with announced := true } else none
  | .mqttDisconnected => some { s with connected := false, announced := false }

def Agrees (s : StatusSystem) : Prop :=
  ∀ i, (s.prov.nodes i).shown = true →
    s.server (s.prov.nodes i).mac = (s.prov.nodes i).online

/-- The server has it whenever MQTT is up and the devices have been announced. -/
def AgreesWhenUp (s : StatusSystem) : Prop :=
  s.connected = true → s.announced = true → s.Agrees

/-- A write of a flag changes nothing, or is published, under a MAC that no other scanner or relay
has. -/
def MaySet (s : StatusSystem) (i : Fin bmtMaxNodes) (online : Bool) : Prop :=
  (s.prov.nodes i).online = online ∨ s.connected = true ∧
    ∀ j, j ≠ i → (s.prov.nodes j).shown = true → (s.prov.nodes j).mac ≠ (s.prov.nodes i).mac

def cachedMac (s : StatusSystem) (uuid : Uuid) : Mac :=
  (bmtMacCacheGet uuid s.prov.macCache).getD fun _ => 0

/-- The step publishes what it writes, and publishes ONLINE for a bound node only if that is what
its flag says; an entry gets a MAC which the server has as the entry's flag says, OFFLINE for a new
entry; and a reboot finds everything OFFLINE on the server. -/
def Published (s : StatusSystem) : StatusEvent → Prop
  | .bindAck addr errorCode =>
    errorCode = 0 → s.connected = true → ∀ i ∈ bmtNodeTableFind addr s.prov.nodes,
      (s.prov.nodes i).isTyped = true → (s.prov.nodes i).online = true
  | .tagStatus src now =>
    ∀ i ∈ bmtNodeTableFind src s.prov.nodes,
      ((s.prov.nodes i).isScan && due (s.prov.nodes i) now) = true → s.MaySet i true
  | .pingAck addr errorCode _ =>
    errorCode = 0 → ∀ i ∈ bmtNodeTableFind addr s.prov.nodes,
      ((s.prov.nodes i).configDone && (s.prov.nodes i).isTyped) = true → s.MaySet i true
  | .pingRound i now =>
    ((s.prov.nodes i).pinged && timedOut (s.prov.nodes i) now) = true → s.MaySet i false
  | .prov (.provComplete addr uuid _) =>
    match bmtNodeTableFind addr s.prov.nodes with
    | some i =>
      (bmtUuidIsRelay uuid || bmtUuidIsScan uuid || (s.prov.nodes i).isTyped) = true →
        s.server (s.cachedMac uuid) = (s.prov.nodes i).online
    | none =>
      (bmtUuidIsRelay uuid || bmtUuidIsScan uuid) = true →
        (SlotTable.find (fun n => !n.used) s.prov.nodes).isSome = true →
          s.server (s.cachedMac uuid) = false
  | .prov .reboot =>
    ∀ blob ∈ s.prov.saved, ∀ i, (blob i).shown = true → s.server (blob i).mac = false
  | _ => True

instance (s : StatusSystem) (i : Fin bmtMaxNodes) (online : Bool) : Decidable (s.MaySet i online) :=
  inferInstanceAs (Decidable (_ ∨ _))

instance (s : StatusSystem) (e : StatusEvent) : Decidable (s.Published e) :=
  match e with
  | .bindAck _ _ => inferInstanceAs (Decidable (_ → _ → _))
  | .tagStatus _ _ => inferInstanceAs (Decidable (∀ i ∈ _, _))
  | .pingAck _ _ _ => inferInstanceAs (Decidable (_ → ∀ i ∈ _, _))
  | .pingRound _ _ => inferInstanceAs (Decidable (_ → _))
  | .prov (.provComplete addr uuid _) =>
    match h : bmtNodeTableFind addr s.prov.nodes with
    | some i => decidable_of_iff ((bmtUuidIsRelay uuid || bmtUuidIsScan uuid ||
        (s.prov.nodes i).isTyped) = true → s.server (s.cachedMac uuid) = (s.prov.nodes i).online)
        (by simp only [Published, h])
    | none => decidable_of_iff ((bmtUuidIsRelay uuid || bmtUuidIsScan uuid) = true →
        (SlotTable.find (fun n => !n.used) s.prov.nodes).isSome = true →
          s.server (s.cachedMac uuid) = false) (by simp only [Published, h])
  | .prov .reboot => inferInstanceAs (Decidable (∀ blob ∈ _, _))
  | .prov (.beacon _ _) => isTrue trivial
  | .prov (.configured _ _) => isTrue trivial
  | .prov (.configFailed _ _) => isTrue trivial
  | .prov (.setMode _) => isTrue trivial
  | .prov .scanStart => isTrue trivial
  | .prov .scanEnd => isTrue trivial
  | .mqttConnected => isTrue trivial
  | .reannounced => isTrue trivial
  | .mqttDisconnected => isTrue trivial

variable {s : StatusSystem}

theorem agrees_setNode_iff (h : s.Agrees) (i : Fin bmtMaxNodes) (n : Node) :
    (s.setNode i n).Agrees ↔ (n.shown = true → s.server n.mac = n.online) := by
  refine ⟨?_, ?_⟩
  · intro hset
    have hi := hset i
    unfold setNode at hi
    dsimp only at hi
    rwa [Function.update_self] at hi
  · intro hn j hj
    unfold setNode at hj ⊢
    dsimp only at hj ⊢
    by_cases hji : j = i
    · rw [hji, Function.update_self] at hj ⊢
      exact hn hj
    · rw [Function.update_of_ne hji] at hj ⊢
      exact h j hj

theorem agrees_pub_iff (h : s.Agrees) {i : Fin bmtMaxNodes} (hi : (s.prov.nodes i).shown = true)
    (online : Bool) : (s.pubNodeStatus (s.prov.nodes i).mac online).Agrees ↔
      (s.connected = true → (s.prov.nodes i).online = online) := by
  unfold pubNodeStatus
  by_cases hconn : s.connected = true
  · rw [if_pos hconn]
    refine ⟨?_, ?_⟩
    · intro hpub _
      have hown := hpub i hi
      dsimp only at hown
      rw [Function.update_self] at hown
      exact hown.symm
    · intro hsame j hj
      dsimp only at hj ⊢
      by_cases hmac : (s.prov.nodes j).mac = (s.prov.nodes i).mac
      · rw [hmac, Function.update_self, ← h j hj, hmac, h i hi, hsame hconn]
      · rw [Function.update_of_ne hmac]
        exact h j hj
  · rw [if_neg hconn]
    exact ⟨fun _ hup => absurd hup hconn, fun _ => h⟩

theorem agrees_write_iff (h : s.Agrees) {i : Fin bmtMaxNodes}
    (hi : (s.prov.nodes i).shown = true) (lastSeenMs : UInt32) (online : Bool) :
    ((s.setNode i { s.prov.nodes i with lastSeenMs, online }).pubNodeStatus
        (s.prov.nodes i).mac online).Agrees ↔ s.MaySet i online := by
  have hother : ∀ j, j ≠ i → ((s.setNode i { s.prov.nodes i with lastSeenMs, online }).prov.nodes
      j) = s.prov.nodes j := fun j hj => Function.update_of_ne hj _ _
  have hown : ((s.setNode i { s.prov.nodes i with lastSeenMs, online }).prov.nodes i) =
      { s.prov.nodes i with lastSeenMs, online } := Function.update_self _ _ _
  unfold pubNodeStatus MaySet
  by_cases hconn : s.connected = true
  · rw [if_pos (show (s.setNode i _).connected = true from hconn)]
    refine ⟨?_, ?_⟩
    · intro hpub
      by_contra hnot
      obtain ⟨hne, halone⟩ := not_or.mp hnot
      apply halone
      refine ⟨hconn, ?_⟩
      intro j hji hj hmac
      have hjpub : Function.update s.server (s.prov.nodes i).mac online (s.prov.nodes j).mac =
          (s.prov.nodes j).online := by
        have hj' := hpub j
        dsimp only at hj'
        rw [hother j hji] at hj'
        exact hj' hj
      rw [hmac, Function.update_self] at hjpub
      apply hne
      rw [hjpub, ← h j hj, hmac, h i hi]
    · intro hset j hj
      dsimp only at hj ⊢
      by_cases hji : j = i
      · rw [hji, hown]
        exact Function.update_self _ _ _
      · rw [hother j hji] at hj ⊢
        by_cases hmac : (s.prov.nodes j).mac = (s.prov.nodes i).mac
        · rcases hset with hsame | halone
          · rw [← h j hj, hmac, h i hi, hsame]
            exact Function.update_self _ _ _
          · exact absurd hmac (halone.2 j hji hj)
        · rw [← h j hj]
          exact Function.update_of_ne hmac _ _
  · rw [if_neg (show ¬(s.setNode i _).connected = true from hconn), agrees_setNode_iff h]
    refine ⟨?_, ?_⟩
    · intro hset
      exact Or.inl ((h i hi).symm.trans (hset hi))
    · intro hset _
      rcases hset with hsame | halone
      · exact (h i hi).trans hsame
      · exact absurd halone.1 hconn

theorem shown_of_find {addr : UInt16} {nodes : NodeTable} {i : Fin bmtMaxNodes}
    (hfind : bmtNodeTableFind addr nodes = some i) (htyped : (nodes i).isTyped = true) :
    (nodes i).shown = true := by
  rw [Node.shown, (isAt_iff.mp (SlotTable.find_sat hfind)).1, htyped]
  rfl

theorem agrees_bindAck_iff (h : s.Agrees) (addr : UInt16) (errorCode : ℤ) :
    (s.bindAck addr errorCode).Agrees ↔ s.Published (.bindAck addr errorCode) := by
  unfold bindAck Published
  dsimp only
  by_cases herr : errorCode = 0
  · rw [if_pos herr]
    cases hfind : bmtNodeTableFind addr s.prov.nodes with
    | none => simp [h]
    | some i =>
      dsimp only
      by_cases htyped : (s.prov.nodes i).isTyped = true
      · rw [if_pos htyped, agrees_pub_iff h (shown_of_find hfind htyped)]
        simp [herr, htyped]
      · rw [if_neg htyped]
        simp [h, htyped]
  · rw [if_neg herr]
    exact ⟨fun _ hzero => absurd hzero herr, fun _ => h⟩

theorem agrees_tagStatus_iff (h : s.Agrees) (src : UInt16) (now : UInt32) :
    (s.tagStatus src now).Agrees ↔ s.Published (.tagStatus src now) := by
  unfold tagStatus Published
  dsimp only
  cases hfind : bmtNodeTableFind src s.prov.nodes with
  | none => simp [h]
  | some i =>
    dsimp only
    by_cases hdue : ((s.prov.nodes i).isScan && due (s.prov.nodes i) now) = true
    · have htyped : (s.prov.nodes i).isTyped = true := by
        rw [Node.isTyped, (Bool.and_eq_true_iff.mp hdue).1]
        rfl
      rw [if_pos hdue, agrees_write_iff h (shown_of_find hfind htyped)]
      refine ⟨?_, fun hset => hset i rfl hdue⟩
      intro hset j hj _
      cases hj
      exact hset
    · rw [if_neg hdue]
      refine ⟨?_, fun _ => h⟩
      intro _ j hj hjdue
      cases hj
      exact absurd hjdue hdue

theorem agrees_pingAck_iff (h : s.Agrees) (addr : UInt16) (errorCode : ℤ) (now : UInt32) :
    (s.pingAck addr errorCode now).Agrees ↔ s.Published (.pingAck addr errorCode now) := by
  unfold pingAck Published
  dsimp only
  by_cases herr : errorCode = 0
  · rw [if_neg (not_not.mpr herr)]
    cases hfind : bmtNodeTableFind addr s.prov.nodes with
    | none => simp [h]
    | some i =>
      dsimp only
      by_cases hping : ((s.prov.nodes i).configDone && (s.prov.nodes i).isTyped) = true
      · have hi := shown_of_find hfind (Bool.and_eq_true_iff.mp hping).2
        rw [if_pos hping]
        by_cases honline : (s.prov.nodes i).online = true
        · -- only the time of the last sign of life is written
          rw [if_pos honline, agrees_setNode_iff h]
          refine ⟨?_, ?_⟩
          · intro _ _ j hj _
            cases hj
            exact Or.inl honline
          · intro _ _
            exact h i hi
        · rw [if_neg honline, agrees_write_iff h hi]
          refine ⟨?_, fun hset => hset herr i rfl hping⟩
          intro hset _ j hj _
          cases hj
          exact hset
      · rw [if_neg hping]
        refine ⟨?_, fun _ => h⟩
        intro _ _ j hj hjping
        cases hj
        exact absurd hjping hping
  · rw [if_pos herr]
    exact ⟨fun _ hzero => absurd hzero herr, fun _ => h⟩

theorem agrees_pingRound_iff (h : s.Agrees) (i : Fin bmtMaxNodes) (now : UInt32) :
    (s.pingRound i now).Agrees ↔ s.Published (.pingRound i now) := by
  unfold pingRound Published
  dsimp only
  by_cases hlost : ((s.prov.nodes i).pinged && timedOut (s.prov.nodes i) now) = true
  · rw [hlost, Bool.true_and]
    have hi : (s.prov.nodes i).shown = true := by
      have hpinged := (Bool.and_eq_true_iff.mp hlost).1
      unfold Node.pinged at hpinged
      unfold Node.shown Node.isTyped
      simp only [Bool.and_eq_true] at hpinged ⊢
      exact ⟨hpinged.1.1, hpinged.2⟩
    by_cases honline : (s.prov.nodes i).online = true
    · rw [if_pos honline, agrees_write_iff h hi (s.prov.nodes i).lastSeenMs false]
      exact ⟨fun hset _ => hset, fun hset => hset rfl⟩
    · rw [if_neg honline]
      exact ⟨fun _ _ => Or.inl (by simpa using honline), fun _ => h⟩
  · rw [Bool.eq_false_of_not_eq_true hlost, Bool.false_and, if_neg Bool.false_ne_true]
    exact ⟨(fun _ hpinged => by cases hpinged), fun _ => h⟩

theorem agrees_prov_iff (h : s.Agrees) {prov : Provisioner} {i : Fin bmtMaxNodes} {n : Node}
    (hnodes : prov.nodes = Function.update s.prov.nodes i n) :
    Agrees { s with prov } ↔ (n.shown = true → s.server n.mac = n.online) := by
  rw [← agrees_setNode_iff h i n]
  unfold Agrees setNode
  dsimp only
  rw [hnodes]

theorem agrees_prov_same (h : s.Agrees) {prov : Provisioner} (hnodes : prov.nodes = s.prov.nodes) :
    Agrees { s with prov } := by
  unfold Agrees
  dsimp only
  rw [hnodes]
  exact h

theorem isTyped_configuring (uuid : Uuid) (n : Node) :
    (n.configuring uuid).isTyped = (bmtUuidIsRelay uuid || bmtUuidIsScan uuid) := by
  unfold Node.configuring Node.isTyped
  cases bmtUuidIsRelay uuid with
  | true => simp
  | false => simp

theorem provComplete_nodes {p : Provisioner} {addr : UInt16} {uuid : Uuid} {saved : Bool}
    {i : Fin bmtMaxNodes} {n : Node}
    (hadd : bmtNodeTableAdd addr uuid ((bmtMacCacheGet uuid p.macCache).getD fun _ => 0) p.nodes =
      (some i, Function.update p.nodes i n)) :
    (p.provComplete addr uuid saved).nodes = Function.update p.nodes i
      (if (bmtUuidIsRelay uuid || bmtUuidIsScan uuid) = true then n.configuring uuid else n) := by
  unfold Provisioner.provComplete
  dsimp only
  rw [hadd]
  dsimp only
  split_ifs
  · simp [Provisioner.write]
  · rfl

/-- A provisioned node with an entry is shown if it has a type now, or had one before. -/
theorem agrees_added_iff (h : s.Agrees) {addr : UInt16} {uuid : Uuid} (saved : Bool)
    {i : Fin bmtMaxNodes} {n : Node} (hused : n.used = true)
    (hadd : bmtNodeTableAdd addr uuid (s.cachedMac uuid) s.prov.nodes =
      (some i, Function.update s.prov.nodes i n)) :
    Agrees { s with prov := s.prov.provComplete addr uuid saved } ↔
      ((bmtUuidIsRelay uuid || bmtUuidIsScan uuid || n.isTyped) = true →
        s.server n.mac = n.online) := by
  rw [agrees_prov_iff h (provComplete_nodes hadd)]
  split_ifs with htype
  · have hshown : (n.configuring uuid).shown = true := by
      rw [Node.shown, isTyped_configuring, htype, Bool.and_true]
      exact hused
    rw [hshown, htype, Bool.true_or]
    exact Iff.rfl
  · rw [Bool.eq_false_of_not_eq_true htype, Bool.false_or, Node.shown, hused, Bool.true_and]

theorem agrees_provComplete_iff (h : s.Agrees) (addr : UInt16) (uuid : Uuid) (saved : Bool) :
    Agrees { s with prov := s.prov.provComplete addr uuid saved } ↔
      s.Published (.prov (.provComplete addr uuid saved)) := by
  unfold Published
  dsimp only
  rcases bmtNodeTableAdd_cases addr uuid (s.cachedMac uuid) s.prov.nodes with hown | hnew | hfull
  · obtain ⟨i, hfind, hadd⟩ := hown
    have hused := (isAt_iff.mp (SlotTable.find_sat hfind)).1
    rw [agrees_added_iff (n := { s.prov.nodes i with uuid, mac := s.cachedMac uuid }) h saved hused
      hadd, hfind]
    exact Iff.rfl
  · obtain ⟨i, hfind, hfree, hadd⟩ := hnew
    rw [agrees_added_iff h saved rfl hadd, hfind, hfree]
    dsimp only
    -- a fresh entry has no type of its own
    rw [show (Node.fresh addr uuid (s.cachedMac uuid)).isTyped = false from rfl, Bool.or_false]
    exact ⟨fun hserver htype _ => hserver htype, fun hserver htype => hserver htype rfl⟩
  · obtain ⟨hfind, hfull, hadd⟩ := hfull
    rw [hfind, hfull]
    dsimp only
    refine ⟨(fun _ _ hsome => by cases hsome), fun _ => ?_⟩
    apply agrees_prov_same h
    unfold Provisioner.provComplete
    unfold cachedMac at hadd
    simp [hadd]

theorem agrees_reboot_iff :
    Agrees { s with prov := s.prov.reboot, connected := false, announced := false } ↔
      s.Published (.prov .reboot) := by
  unfold Published Agrees Provisioner.reboot
  dsimp only
  cases hsaved : s.prov.saved with
  | none =>
    refine ⟨(fun _ _ hblob => by cases hblob), ?_⟩
    intro _ i hi
    cases hi
  | some blob =>
    have hload : ∀ i, (bmtNodeTableLoad (some blob) i).shown = (blob i).shown ∧
        ((blob i).shown = true → (bmtNodeTableLoad (some blob) i).mac = (blob i).mac ∧
          (bmtNodeTableLoad (some blob) i).online = false) := by
      intro i
      have hkind : ((blob i).used && ((blob i).isRelay || (blob i).isScan)) = (blob i).shown := by
        unfold Node.shown Node.isTyped
        rw [Bool.or_comm]
      change (blob i).reloaded.shown = _ ∧ (_ → (blob i).reloaded.mac = _ ∧
        (blob i).reloaded.online = false)
      unfold Node.reloaded
      rw [hkind]
      split_ifs with hshown
      · exact ⟨rfl, fun _ => ⟨rfl, rfl⟩⟩
      · exact ⟨rfl, fun hyes => absurd hyes hshown⟩
    refine ⟨?_, ?_⟩
    · intro hall b hb i hi
      cases hb
      obtain ⟨hshown, hfields⟩ := hload i
      obtain ⟨hmac, honline⟩ := hfields hi
      have hserver := hall i (hshown.trans hi)
      rwa [hmac, honline] at hserver
    · intro hall i hi
      obtain ⟨hshown, hfields⟩ := hload i
      have hi' := hshown.symm.trans hi
      obtain ⟨hmac, honline⟩ := hfields hi'
      rw [hmac, honline]
      exact hall blob rfl i hi'

theorem agrees_beacon (h : s.Agrees) (b : Beacon) (saved : Bool) :
    Agrees { s with prov := (s.prov.recvUnprovAdvPkt b saved).1 } := by
  unfold Provisioner.recvUnprovAdvPkt
  dsimp only
  cases s.prov.scanList.mode with
  | manual => exact agrees_prov_same h rfl
  | auto =>
    cases SlotTable.find (Node.isOf b.uuid) s.prov.nodes with
    | none => exact agrees_prov_same h rfl
    | some stale =>
      dsimp only
      split_ifs
      · exact (agrees_prov_iff h rfl).mpr fun hshown => by cases hshown
      · exact agrees_prov_same h rfl

theorem agrees_configured (h : s.Agrees) (t : ConfigTask) (saved : Bool) :
    Agrees { s with prov := (s.prov.configured t saved).1 } := by
  unfold Provisioner.configured
  dsimp only
  cases bmtNodeTableFind t.addr s.prov.nodes with
  | none => exact agrees_prov_same h rfl
  | some i =>
    exact (agrees_prov_iff h (i := i) (n := { s.prov.nodes i with configDone := true }) rfl).mpr
      fun hshown => h i hshown

theorem agrees_cfgAbortCleanup (h : s.Agrees) (t : ConfigTask) (saved : Bool) :
    Agrees { s with prov := (s.prov.cfgAbortCleanup t saved).1 } := by
  unfold Provisioner.cfgAbortCleanup
  dsimp only
  cases bmtNodeTableFind t.addr s.prov.nodes with
  | none => exact agrees_prov_same h rfl
  | some i =>
    exact (agrees_prov_iff h (i := i) (n := {}) rfl).mpr fun hshown => by cases hshown

theorem agrees_provStep_iff (h : s.Agrees) {e : ProvEvent} {s' : StatusSystem}
    (hs : s.step (.prov e) = some s') : s'.Agrees ↔ s.Published (.prov e) := by
  cases e with
  | reboot =>
    cases hs
    exact agrees_reboot_iff
  | provComplete addr uuid saved =>
    cases hs
    exact agrees_provComplete_iff h addr uuid saved
  | beacon b saved =>
    cases hs
    exact ⟨fun _ => trivial, fun _ => agrees_beacon h b saved⟩
  | configured t saved =>
    obtain ⟨prov, hprov, hs'⟩ := Option.map_eq_some_iff.mp hs
    obtain ⟨-, hprov⟩ := Option.ite_none_right_eq_some.mp hprov
    cases hprov
    cases hs'
    exact ⟨fun _ => trivial, fun _ => agrees_configured h t saved⟩
  | configFailed t saved =>
    obtain ⟨prov, hprov, hs'⟩ := Option.map_eq_some_iff.mp hs
    obtain ⟨-, hprov⟩ := Option.ite_none_right_eq_some.mp hprov
    cases hprov
    cases hs'
    exact ⟨fun _ => trivial, fun _ => agrees_cfgAbortCleanup h t saved⟩
  | setMode mode =>
    cases hs
    exact ⟨fun _ => trivial, fun _ => agrees_prov_same h rfl⟩
  | scanStart =>
    cases hs
    exact ⟨fun _ => trivial, fun _ => agrees_prov_same h rfl⟩
  | scanEnd =>
    obtain ⟨prov, hprov, hs'⟩ := Option.map_eq_some_iff.mp hs
    obtain ⟨-, hprov⟩ := Option.ite_none_right_eq_some.mp hprov
    cases hprov
    cases hs'
    exact ⟨fun _ => trivial, fun _ => agrees_prov_same h rfl⟩

/-- Exactly the steps that publish what they write keep server and table in agreement. -/
theorem agrees_step_iff (h : s.Agrees) {e : StatusEvent} {s' : StatusSystem}
    (hs : s.step e = some s') : s'.Agrees ↔ s.Published e := by
  cases e with
  | prov e => exact agrees_provStep_iff h hs
  | bindAck addr errorCode =>
    cases hs
    exact agrees_bindAck_iff h addr errorCode
  | tagStatus src now =>
    cases hs
    exact agrees_tagStatus_iff h src now
  | pingAck addr errorCode now =>
    cases hs
    exact agrees_pingAck_iff h addr errorCode now
  | pingRound i now =>
    cases hs
    exact agrees_pingRound_iff h i now
  | mqttConnected =>
    cases hs
    exact ⟨fun _ => trivial, fun _ => h⟩
  | reannounced =>
    obtain ⟨-, hs'⟩ := Option.ite_none_right_eq_some.mp hs
    cases hs'
    exact ⟨fun _ => trivial, fun _ => h⟩
  | mqttDisconnected =>
    cases hs
    exact ⟨fun _ => trivial, fun _ => h⟩

theorem agrees_start : Agrees {} := by
  intro i hi
  cases hi

theorem agrees_iff_published (es : List StatusEvent) :
    Run.Throughout step Agrees {} es ↔ Run.Meets step Published {} es := by
  refine Run.throughout_iff_meets_of_invariant (A := fun _ => True) ?_ ?_ trivial agrees_start
  · intro s e s' _ _
    trivial
  · intro s e s' _ h hs
    exact agrees_step_iff h hs

/-- In a run whose steps publish what they write, server and table agree whenever MQTT is up and the
devices have been announced; and those are the runs in which they never disagree. -/
theorem server_agrees_when_published (es : List StatusEvent) :
    (Run.Meets step Published {} es → Run.Throughout step AgreesWhenUp {} es) ∧
      (Run.Throughout step Agrees {} es ↔ Run.Meets step Published {} es) := by
  refine ⟨?_, agrees_iff_published es⟩
  intro hpublished
  apply ((agrees_iff_published es).mpr hpublished).mono
  intro s h _ _
  exact h

def relayJoins : List StatusEvent :=
  [.mqttConnected, .reannounced, .prov (.provComplete 5 relayUuid true)]

theorem bmtMaxNodes_pos : 0 < bmtMaxNodes := by decide

def relayPinged : List StatusEvent :=
  relayJoins ++ [.prov (.configured ⟨5, false⟩ true), .pingAck 5 0 31000, .bindAck 5 0,
    .pingRound ⟨0, bmtMaxNodes_pos⟩ 92000]

theorem server_agrees_when_published_relay :
    Run.Throughout step AgreesWhenUp {} relayPinged :=
  (server_agrees_when_published relayPinged).1 (by decide +kernel)

/-- The ACK of `MODEL_APP_BIND` publishes ONLINE and leaves `online` false. -/
theorem server_disagrees_relay_bound :
    ¬Run.Throughout step AgreesWhenUp {} (relayJoins ++ [.bindAck 5 0]) := by
  intro h
  have hbound := h.last rfl
  have honline := hbound rfl rfl ⟨0, by decide⟩ rfl
  revert honline
  decide +kernel

end StatusSystem

end BleMeshTracking.Gateway
