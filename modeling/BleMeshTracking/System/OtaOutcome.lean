import BleMeshTracking.Ota.WifiSession
import BleMeshTracking.System.Telemetry

/-!
# The outcome of an update, from the node to the dashboard

Any number of nodes with their updates, the mesh, the gateway, and the rule chain
`ble_mesh_node.json`, which saves `ota_last_result` of each device.  The mesh loses, repeats and
reorders `OTA_RESULT` messages, and only nodes can send them; nodes and gateway reboot at any time.
-/

namespace BleMeshTracking.System

open Gateway Ota Protocol

def nodeDevice (mac : Mac) : String :=
  String.ofList ("bmt_node_".toList ++ Hex.row 2 ((List.ofFn mac).map UInt8.toNat))

theorem nodeDevice_inj {mac mac' : Mac} (h : nodeDevice mac = nodeDevice mac') : mac = mac' := by
  have hrow := List.append_cancel_left (String.ofList_injective h)
  exact macKey_inj (congrArg String.ofList hrow)

def otaResultText (success : Bool) : String := if success then "SUCCESS" else "FAILED"

/-- What the gateway sends for a node: telemetry with or without an `ota_result`, or attributes. -/
inductive NodeMessage
  | telemetry (otaResult : Option String)
  | attributes

structure NodeAttributes where
  otaLastResult : Option String := none
  otaLastTime : Option ℤ := none

/-- A message through the chain.  "Save telemetry" fails on attributes, which ends there; "Has
ota_result?" lets only the results through to "Build OTA attrs" and "Save OTA attrs". -/
def NodeAttributes.process (attrs : NodeAttributes) (a : NodeMessage × ℤ) : NodeAttributes :=
  match a.1 with
  | .attributes => attrs
  | .telemetry none => attrs
  | .telemetry (some result) => { otaLastResult := some result, otaLastTime := some a.2 }

def nodeAttributes (as : List (NodeMessage × ℤ)) : NodeAttributes :=
  as.foldl NodeAttributes.process {}

/-- The result saved is one that came. -/
theorem exists_of_otaLastResult {as : List (NodeMessage × ℤ)} {text : String}
    (h : (nodeAttributes as).otaLastResult = some text) :
    ∃ a ∈ as, a.1 = .telemetry (some text) := by
  induction as using List.reverseRecOn with
  | nil => cases h
  | append_singleton as a ih =>
    have hkept : (nodeAttributes as).otaLastResult = some text →
        ∃ a' ∈ as ++ [a], a'.1 = .telemetry (some text) := by
      intro hold
      obtain ⟨a', ha', hmsg⟩ := ih hold
      exact ⟨a', List.mem_append_left _ ha', hmsg⟩
    unfold nodeAttributes at h
    rw [List.foldl_append] at h
    obtain ⟨msg, time⟩ := a
    cases msg with
    | attributes => exact hkept h
    | telemetry result =>
      cases result with
      | none => exact hkept h
      | some result =>
        cases h
        exact ⟨_, List.mem_append_right _ List.mem_cons_self, rfl⟩

/-- Messages that the chain processes for the device of a node: any of the results published, in
any order and as often as they come, and messages without a result. -/
def OutcomesOf (results : List (Mac × Bool)) (mac : Mac) (as : List (NodeMessage × ℤ)) : Prop :=
  ∀ a ∈ as, ∀ text, a.1 = .telemetry (some text) →
    ∃ result ∈ results, nodeDevice result.1 = nodeDevice mac ∧ text = otaResultText result.2

def sentStatus? : OtaLog → Option UInt8
  | .result status .ok => some status
  | _ => none

def otaResultsSent (s : WifiOta) : List UInt8 := s.log.filterMap sentStatus?

/-- Success is reported only after an update was marked, and there is no other result but failure. -/
structure Genuine (n : OtaNode) : Prop where
  status : ∀ status err, OtaLog.result status err ∈ n.log → status = 0 ∨ status = 1
  marked : OtaLog.marked ∈ n.log ∨
    n.flag = 0 ∧ (n.report = .delay ∨ n.report = .opened ∨ n.report = .done) ∧
      ∀ err, OtaLog.result 0 err ∉ n.log

variable {n n' : OtaNode}

theorem genuine_boot : Genuine {} :=
  ⟨nofun, Or.inr ⟨rfl, Or.inl rfl, nofun⟩⟩

theorem Genuine.quiet (h : Genuine n) (hlog : n'.log = n.log) (hflag : n'.flag = n.flag)
    (hreport : n'.report = n.report ∨ n'.report = .delay ∨ n'.report = .opened ∨ n'.report = .done) :
    Genuine n' := by
  refine ⟨?_, ?_⟩
  · rw [hlog]
    exact h.status
  · rw [hlog, hflag]
    rcases h.marked with hmarked | ⟨hzero, hidle, hnone⟩
    · exact Or.inl hmarked
    · refine Or.inr ⟨hzero, ?_, hnone⟩
      rcases hreport with heq | hnew
      · rw [heq]
        exact hidle
      · exact hnew

theorem Genuine.result (h : Genuine n) {status : UInt8} {err : EspErr}
    (hlog : n'.log = n.log ++ [.result status err]) (hflag : n'.flag = n.flag)
    (hreport : n'.report = n.report ∨ n'.report = .done)
    (hstatus : status = 1 ∨ status = 0 ∧ OtaLog.marked ∈ n.log) : Genuine n' := by
  refine ⟨?_, ?_⟩
  · intro status' err' hmem
    rw [hlog] at hmem
    rcases List.mem_append.mp hmem with hold | hnew
    · exact h.status status' err' hold
    · cases List.mem_singleton.mp hnew
      rcases hstatus with hone | ⟨hzero, -⟩
      · exact Or.inr hone
      · exact Or.inl hzero
  · rw [hlog, hflag]
    rcases h.marked with hmarked | ⟨hflag, hidle, hnone⟩
    · exact Or.inl (List.mem_append_left _ hmarked)
    · rcases hstatus with hone | ⟨-, hmarked⟩
      · refine Or.inr ⟨hflag, ?_, ?_⟩
        · rcases hreport with heq | hdone
          · rw [heq]
            exact hidle
          · exact Or.inr (Or.inr hdone)
        · intro err' hmem
          rcases List.mem_append.mp hmem with hold | hnew
          · exact hnone err' hold
          · cases List.mem_singleton.mp hnew
            exact absurd hone (by decide)
      · exact Or.inl (List.mem_append_left _ hmarked)

theorem Genuine.reportPending (h : Genuine n) (c : Ota.ReportCalls) :
    Genuine (n.reportPendingTask c) := by
  -- the flag is 0 and the task before its check, or an update was marked
  have hmarked : n.report = .clearing ∨ (∃ stored, n.report = .reporting stored) →
      OtaLog.marked ∈ n.log := by
    intro hbusy
    refine h.marked.resolve_right ?_
    rintro ⟨-, hidle, -⟩
    rcases hbusy with hclear | ⟨stored, hreporting⟩
    · rw [hclear] at hidle
      simp at hidle
    · rw [hreporting] at hidle
      simp at hidle
  unfold OtaNode.reportPendingTask
  cases hreport : n.report with
  | delay =>
    refine h.quiet rfl rfl (Or.inr ?_)
    dsimp only
    split_ifs
    · exact Or.inr (Or.inl rfl)
    · exact Or.inr (Or.inr rfl)
  | opened =>
    dsimp only
    split_ifs with hflag
    · exact h.quiet rfl rfl (Or.inr (Or.inr (Or.inr rfl)))
    · rcases h.marked with hmem | ⟨hzero, -⟩
      · exact ⟨h.status, Or.inl hmem⟩
      · exact absurd hzero hflag
  | clearing =>
    have hmem := hmarked (Or.inl hreport)
    dsimp only
    split_ifs
    · refine ⟨?_, Or.inl (List.mem_append_left _ hmem)⟩
      intro status err hresult
      rcases List.mem_append.mp hresult with hold | hnew
      · exact h.status status err hold
      · cases List.mem_singleton.mp hnew
    · exact ⟨h.status, Or.inl hmem⟩
  | reporting stored =>
    exact h.result rfl rfl (Or.inr rfl) (Or.inr ⟨rfl, hmarked (Or.inr ⟨stored, hreport⟩)⟩)
  | done => exact h

structure Sound (s : WifiOta) : Prop where
  genuine : Genuine s.pending
  accounted : s.Accounted
  installed : s.Installed

variable {s : WifiOta} {silenceLog : Bool}

theorem Genuine.after (h : Genuine s.pending) (e : SessionEvent) :
    Genuine (s.after silenceLog e).pending := by
  have hmove := WifiOta.pending_after silenceLog s e
  generalize (s.after silenceLog e).pending = n' at hmove ⊢
  cases hmove with
  | quiet => exact h
  | reboot => exact h.quiet rfl rfl (Or.inr (Or.inl rfl))
  | failed mesh => exact h.result rfl rfl (Or.inl rfl) (Or.inl rfl)
  | marked k _ =>
    refine ⟨?_, Or.inl (List.mem_append_right _ List.mem_cons_self)⟩
    intro status err hmem
    rcases List.mem_append.mp hmem with hold | hnew
    · exact h.status status err hold
    · cases List.mem_singleton.mp hnew
  | report c => exact h.reportPending c

theorem log_after (s : WifiOta) (e : SessionEvent) : s.log <+: (s.after silenceLog e).log := by
  have hlog : (s.after silenceLog e).log = (s.after silenceLog e).pending.log := rfl
  rw [hlog]
  have hmove := WifiOta.pending_after silenceLog s e
  generalize (s.after silenceLog e).pending = n' at hmove ⊢
  cases hmove with
  | quiet => exact List.prefix_refl _
  | reboot => exact List.prefix_refl _
  | failed mesh => exact List.prefix_append _ _
  | marked k _ => exact List.prefix_append _ _
  | report c =>
    have hreport := OtaNode.reportPendingTask_move c s.pending
    generalize s.pending.reportPendingTask c = n' at hreport ⊢
    cases hreport with
    | quiet _ _ _ => exact List.prefix_refl _
    | cleared _ => exact List.prefix_append _ _
    | sent _ _ => exact List.prefix_append _ _

theorem sound_after (h : Sound s) (e : SessionEvent) : Sound (s.after silenceLog e) :=
  ⟨h.genuine.after e, WifiOta.accounted_after h.accounted silenceLog e, h.installed.after e⟩

theorem sound_boot : Sound (WifiOta.boot 0) := by
  refine ⟨genuine_boot, WifiOta.accounted_boot 0, ?_⟩
  rintro (hmarked | ⟨k, hk⟩)
  · cases hmarked
  · exact absurd hk (by decide : ¬ WifiStage.none.Updating)

/-- What a node has sent it has reason to send. -/
theorem sent_cases (h : Sound s) {status : UInt8} (hsent : status ∈ otaResultsSent s) :
    status = 0 ∧ 0 < s.installs ∧ OtaLog.marked ∈ s.log ∨
      status = 1 ∧ ∃ k, (k, SessionEnd.failed) ∈ s.ends := by
  obtain ⟨entry, hentry, hsome⟩ := List.mem_filterMap.mp hsent
  have hresult : OtaLog.result status .ok ∈ s.log := by
    unfold sentStatus? at hsome
    split at hsome
    · cases hsome
      exact hentry
    · cases hsome
  rcases h.genuine.status _ _ hresult with rfl | rfl
  · have hmarked : OtaLog.marked ∈ s.log := by
      refine h.genuine.marked.resolve_right ?_
      rintro ⟨-, -, hnone⟩
      exact hnone _ hresult
    exact Or.inl ⟨rfl, h.installed (Or.inl hmarked), hmarked⟩
  · have hcount : 0 < s.log.countP WifiOta.isFailure :=
      List.countP_pos_iff.mpr ⟨_, hresult, rfl⟩
    rw [h.accounted.failures] at hcount
    obtain ⟨⟨k, how⟩, hmem, hfailed⟩ := List.countP_pos_iff.mp hcount
    cases of_decide_eq_true hfailed
    exact Or.inr ⟨rfl, k, hmem⟩

def newOutcomes (g g' : ReportRun) : List (Mac × Bool) :=
  g'.path.otaResults.drop g.path.otaResults.length

theorem newOutcomes_of_eq {g g' : ReportRun} (h : g'.path.otaResults = g.path.otaResults) :
    newOutcomes g g' = [] := by
  rw [newOutcomes, h, List.drop_length]

/-- A result comes from an `OTA_RESULT` message, under the MAC of the node table's entry. -/
theorem newOutcomes_step {g g' : ReportRun} {e : ReportEvent} (hs : g.step e = some g')
    {result : Mac × Bool} (h : result ∈ newOutcomes g g') :
    ∃ src data now i, e = .vnd bmtOpVndOtaResult src data now ∧
      bmtNodeTableFind src g.path.status.prov.nodes = some i ∧
      result = ((g.path.status.prov.nodes i).mac, data.getD 0 0 == 0) := by
  have hquiet : g'.path.otaResults ≠ g.path.otaResults := by
    intro heq
    rw [newOutcomes_of_eq heq] at h
    cases h
  cases e with
  | vnd opcode src data now =>
    unfold ReportRun.step at hs
    dsimp only at hs
    split_ifs at hs with hreport
    · cases hs
      exfalso
      apply hquiet
      dsimp only
      rw [ReportRun.vndClientCb_report hreport]
      unfold ReportPath.enqueueTagReport
      split
      · rfl
      · split
        · rfl
        · rfl
    · cases hs
      unfold newOutcomes at h
      dsimp only at h hquiet
      unfold ReportPath.vndClientCb at h hquiet
      split_ifs at h hquiet with hop hshort hota hempty
      · exact absurd rfl hquiet
      · exact absurd (by simp [ReportRun.isReport, hop]; omega) hreport
      · exact absurd rfl hquiet
      · unfold ReportPath.pubOtaResult at h hquiet
        split_ifs at h hquiet with hoff
        · exact absurd rfl hquiet
        · cases hfind : bmtNodeTableFind src g.path.status.prov.nodes with
          | none =>
            rw [hfind] at hquiet
            exact absurd rfl hquiet
          | some i =>
            rw [hfind] at h
            dsimp only at h
            rw [List.drop_left, List.mem_singleton] at h
            exact ⟨src, data, now, i, by rw [hota], hfind, h⟩
      · exact absurd rfl hquiet
  | status e =>
    rcases ReportRun.step_status hs with ⟨-, status, rfl⟩ | ⟨-, status, meshReceived, rfl⟩
    · -- a reboot forgets what was published
      unfold newOutcomes at h
      dsimp only at h
      rw [List.drop_nil] at h
      cases h
    · exact absurd rfl hquiet
  | take =>
    obtain ⟨path, htake, rfl⟩ := Option.map_eq_some_iff.mp hs
    obtain ⟨q, item, q', -, -, -, rfl⟩ := ReportRun.takeItem_eq htake
    exact absurd rfl hquiet
  | handled calls now =>
    obtain ⟨item, -, hs⟩ := Option.bind_eq_some_iff.mp hs
    cases hs
    exact absurd rfl hquiet
  | zoneTimeout ok now =>
    cases hs
    exact absurd rfl hquiet
  | reannounce calls ok =>
    obtain ⟨status, -, rfl⟩ := Option.map_eq_some_iff.mp hs
    exact absurd rfl hquiet

/-- The nodes, the gateway, and the results that ever reached the server. -/
structure UpdateRun (ι : Type*) where
  nodes : ι → WifiOta := fun _ => WifiOta.boot 0
  gateway : ReportRun := {}
  results : List (Mac × Bool) := []

/-- A step of a node's update, the arrival of its `k`-th result from an address, and whatever else
happens at the gateway. -/
inductive UpdateEvent (ι : Type*)
  | node (i : ι) (e : SessionEvent)
  | deliver (i : ι) (k : ℕ) (src : UInt16) (now : UInt32)
  | gateway (e : ReportEvent)

def isOtaResult : ReportEvent → Bool
  | .vnd opcode _ _ _ => opcode == bmtOpVndOtaResult
  | _ => false

namespace UpdateRun

variable {ι : Type*} [DecidableEq ι]

def gatewayStep (s : UpdateRun ι) (e : ReportEvent) : Option (UpdateRun ι) :=
  (s.gateway.step e).map fun gateway =>
    { s with gateway, results := s.results ++ newOutcomes s.gateway gateway }

/-- `silenceLog i` is the node's `bmt_ota_config_t`. -/
def step (silenceLog : ι → Bool) (s : UpdateRun ι) : UpdateEvent ι → Option (UpdateRun ι)
  | .node i e =>
    some { s with nodes := Function.update s.nodes i ((s.nodes i).after (silenceLog i) e) }
  | .deliver i k src now =>
    (otaResultsSent (s.nodes i))[k]?.bind fun status =>
      s.gatewayStep (.vnd bmtOpVndOtaResult src [status] now)
  | .gateway e => if isOtaResult e then none else s.gatewayStep e

/-- The node table has no other node's MAC under the address from which a result of node `i` comes,
whose own MAC is `macs i`. -/
def Resolved (macs : ι → Mac) (s : UpdateRun ι) : UpdateEvent ι → Prop
  | .deliver i _ src _ =>
    ∀ j ∈ bmtNodeTableFind src s.gateway.path.status.prov.nodes,
      (s.gateway.path.status.prov.nodes j).mac = macs i
  | _ => True

instance (macs : ι → Mac) (s : UpdateRun ι) (e : UpdateEvent ι) :
    Decidable (s.Resolved macs e) :=
  match e with
  | .deliver _ _ src _ => inferInstanceAs (Decidable (∀ j ∈ bmtNodeTableFind src _, _ = _))
  | .node _ _ => isTrue trivial
  | .gateway _ => isTrue trivial

/-- Every result at the server is one that its node sent. -/
structure Traced (macs : ι → Mac) (s : UpdateRun ι) : Prop where
  sound : ∀ i, Sound (s.nodes i)
  results : ∀ result ∈ s.results, ∃ i, macs i = result.1 ∧
    ∃ status ∈ otaResultsSent (s.nodes i), result.2 = (status == 0)

variable {macs : ι → Mac} {silenceLog : ι → Bool} {s s' : UpdateRun ι}

omit [DecidableEq ι] in
theorem traced_start : Traced macs ({} : UpdateRun ι) where
  sound _ := sound_boot
  results := nofun

theorem Traced.node (h : s.Traced macs) (i : ι) (e : SessionEvent)
    (hs : s.step silenceLog (.node i e) = some s') : s'.Traced macs := by
  cases hs
  refine ⟨?_, ?_⟩
  · intro j
    dsimp only
    by_cases hji : j = i
    · rw [hji, Function.update_self]
      exact sound_after (h.sound i) e
    · rw [Function.update_of_ne hji]
      exact h.sound j
  · intro result hresult
    obtain ⟨j, hmac, status, hstatus, hok⟩ := h.results result hresult
    refine ⟨j, hmac, status, ?_, hok⟩
    dsimp only
    by_cases hji : j = i
    · rw [hji, Function.update_self]
      rw [hji] at hstatus
      exact ((log_after (s.nodes i) e).filterMap sentStatus?).subset hstatus
    · rwa [Function.update_of_ne hji]

omit [DecidableEq ι] in
/-- A step of the gateway whose results, if any, are sent by their nodes. -/
theorem Traced.gatewayStep (h : s.Traced macs) {e : ReportEvent} (hs : s.gatewayStep e = some s')
    (hsent : ∀ src data now i, e = .vnd bmtOpVndOtaResult src data now →
      bmtNodeTableFind src s.gateway.path.status.prov.nodes = some i →
      ∃ j, macs j = (s.gateway.path.status.prov.nodes i).mac ∧
        ∃ status ∈ otaResultsSent (s.nodes j), data.getD 0 0 = status) :
    s'.Traced macs := by
  obtain ⟨gateway, hstep, rfl⟩ := Option.map_eq_some_iff.mp hs
  refine ⟨h.sound, ?_⟩
  intro result hresult
  rcases List.mem_append.mp hresult with hold | hnew
  · exact h.results result hold
  · obtain ⟨src, data, now, i, he, hfind, rfl⟩ := newOutcomes_step hstep hnew
    obtain ⟨j, hmac, status, hstatus, hdata⟩ := hsent src data now i he hfind
    exact ⟨j, hmac, status, hstatus, by rw [hdata]⟩

theorem traced_step (h : s.Traced macs) {e : UpdateEvent ι} (hok : s.Resolved macs e)
    (hs : s.step silenceLog e = some s') : s'.Traced macs := by
  cases e with
  | node i e => exact h.node i e hs
  | deliver i k src now =>
    obtain ⟨status, hstatus, hs⟩ := Option.bind_eq_some_iff.mp hs
    apply h.gatewayStep hs
    intro src' data now' j he hfind
    cases he
    exact ⟨i, (hok j hfind).symm, status, List.mem_of_getElem? hstatus, rfl⟩
  | gateway e =>
    unfold step at hs
    dsimp only at hs
    split_ifs at hs with hno
    apply h.gatewayStep hs
    rintro src data now _ rfl
    exact absurd (beq_self_eq_true bmtOpVndOtaResult) hno

end UpdateRun

open UpdateRun

variable {ι : Type*} [DecidableEq ι]

/-- Whatever the mesh loses, repeats or reorders and whoever reboots: the result that the rule chain
saves for a device is one of its node's own, success only if the node has installed and marked an
update, failure only if a session of the node failed. -/
theorem ota_outcome_genuine (silenceLog : ι → Bool) (macs : ι → Mac) (es : List (UpdateEvent ι))
    (hmacs : Run.Meets (UpdateRun.step silenceLog) (Resolved macs) {} es) :
    Run.Throughout (UpdateRun.step silenceLog)
      (fun s => ∀ mac as text, OutcomesOf s.results mac as →
        (nodeAttributes as).otaLastResult = some text →
        ∃ i, macs i = mac ∧
          (text = otaResultText true ∧ 0 < (s.nodes i).installs ∧
              OtaLog.marked ∈ (s.nodes i).log ∨
            text = otaResultText false ∧ ∃ k, (k, SessionEnd.failed) ∈ (s.nodes i).ends)) {} es := by
  have hall : Run.Throughout (UpdateRun.step silenceLog) (Traced macs) {} es :=
    Run.throughout_of_meets (fun _ _ _ h hok hs => traced_step h hok hs) traced_start hmacs
  apply hall.mono
  intro s h mac as text has hsaved
  obtain ⟨a, ha, hmsg⟩ := exists_of_otaLastResult hsaved
  obtain ⟨result, hresult, hdevice, rfl⟩ := has a ha text hmsg
  obtain ⟨i, hmac, status, hstatus, hok⟩ := h.results result hresult
  refine ⟨i, hmac.trans (nodeDevice_inj hdevice), ?_⟩
  rw [hok]
  rcases sent_cases (h.sound i) hstatus with ⟨rfl, hinstalled⟩ | ⟨rfl, hfailed⟩
  · exact Or.inl ⟨rfl, hinstalled⟩
  · exact Or.inr ⟨rfl, hfailed⟩

def relayBeacon : Beacon where
  uuid := relayUuid
  mac := ![0x24, 0x6F, 0x28, 0x01, 0x02, 0x03]
  addrType := 0
  oobInfo := 0

def relayUpdate : List SessionEvent :=
  firstTrigger ++ List.replicate 7 (.task 0 {}) ++ [.wifiEvent .staGotIp false] ++
    List.replicate 5 (.task 0 {}) ++ [.init true] ++ List.replicate 4 (.report {})

def relayUpdated : List (UpdateEvent Unit) :=
  [.gateway (.status .mqttConnected), .gateway (.status (.prov (.beacon relayBeacon true))),
    .gateway (.status (.prov (.provComplete 5 relayBeacon.uuid true)))] ++
    relayUpdate.map (.node ()) ++ [.deliver () 0 5 1000]

theorem ota_outcome_genuine_relay :
    Run.Throughout (UpdateRun.step fun _ => true)
      (fun s => ∀ mac as text, OutcomesOf s.results mac as →
        (nodeAttributes as).otaLastResult = some text →
        ∃ i, (fun _ => relayBeacon.mac) i = mac ∧
          (text = otaResultText true ∧ 0 < (s.nodes i).installs ∧
              OtaLog.marked ∈ (s.nodes i).log ∨
            text = otaResultText false ∧ ∃ k, (k, SessionEnd.failed) ∈ (s.nodes i).ends)) {}
      relayUpdated :=
  ota_outcome_genuine (fun _ => true) (fun _ => relayBeacon.mac) relayUpdated (by decide +kernel)

/-- The success gets through. -/
example : ((Run.run (UpdateRun.step fun _ => true) {} relayUpdated).map fun s =>
    s.results) = some [(relayBeacon.mac, true)] := by
  decide +kernel

end BleMeshTracking.System
