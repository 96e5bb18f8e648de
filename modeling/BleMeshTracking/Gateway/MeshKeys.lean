import BleMeshTracking.Gateway.ConfigAcks
import BleMeshTracking.Library.Run

/-!
# The keys of the mesh

`bmt_mesh_generate_keys_if_needed`, `bmt_mesh_init` and the `APP_KEY_ADD` of `node_config_task`:
where the NetKey and the AppKey come from and who gets them, over restarts that may come between
any two calls.  The stack keeps its keys in NVS of its own.
-/

namespace BleMeshTracking.Gateway

abbrev MeshKey := Fin 16 → UInt8

/-- The next call of `app_main`: `bmt_mesh_generate_keys_if_needed`, `bmt_mesh_init` up to
`esp_ble_mesh_provisioner_prov_enable`, its look-ups of the two keys, and the binding. -/
inductive InitStage
  | generateKeys
  | enable
  | netKey
  | appKey
  | bind
  | up
  | failed
  deriving DecidableEq

inductive BindResult
  | ok
  | invalidState
  | fail
  deriving DecidableEq

structure NodeKeys where
  net : Option MeshKey := none
  app : Option MeshKey := none

/-- The gateway's provisioning, its copies of the keys, the keys of the stack, and the nodes by
their addresses. -/
structure MeshKeys where
  cfg : CfgSystem := {}
  stage : InitStage := .generateKeys
  sNetKey : MeshKey := fun _ => 0
  sAppKey : MeshKey := fun _ => 0
  /-- `esp_ble_mesh_provisioner_prov_enable` has been called: the callbacks may run. -/
  enabled : Bool := false
  netKey : Option MeshKey := none
  appKey : Option MeshKey := none
  /-- `app_key_add.app_key` of each `node_config_task`. -/
  added : ℕ → Option MeshKey := fun _ => none
  /-- The AppKeys on their way to a node. -/
  inFlight : UInt16 → List MeshKey := fun _ => []
  nodes : UInt16 → NodeKeys := fun _ => {}
  /-- Every AppKey drawn at random so far. -/
  drawn : List MeshKey := []

/-- What a restart leaves in NVS: the keys of the stack, and the node table. -/
structure NvsKept where
  netKey : Bool := true
  appKey : Bool := true
  table : Bool := true

/-- What can happen.  `netExists` is a NetKey in the stack before its initialisation; `created` is
the primary NetKey that the stack makes when it has none. -/
inductive MeshKeyEvent
  | generateKeys (netExists : Bool) (net app : MeshKey)
  | enable (ok : Bool) (created : Option MeshKey)
  | netKey (ok : Bool)
  | appKey (ok : Bool)
  | bind (result : BindResult)
  | cfg (e : CfgEvent)
  | deliver (addr : UInt16) (m : ℕ) (stored : Bool)
  | nodeReset (addr : UInt16)
  | restart (kept : NvsKept)

def MeshKeyEvent.isInit : MeshKeyEvent → Bool
  | .generateKeys _ _ _ => true
  | .enable _ _ => true
  | .netKey _ => true
  | .appKey _ => true
  | .bind _ => true
  | _ => false

namespace MeshKeys

/-- Whether the callback or the task can run.  A node is provisioned with the NetKey of the stack,
and `node_ping_task` is created at the end of `app_main`. -/
def enables (s : MeshKeys) : CfgEvent → Bool
  | .provComplete _ _ _ => s.enabled && s.netKey.isSome
  | .ping _ _ => s.stage = .up
  | _ => s.enabled

def handOn (s : MeshKeys) : CfgEvent → MeshKeys
  | .provComplete addr _ _ =>
    { s with nodes := Function.update s.nodes addr { net := s.netKey, app := none } }
  | .config i ok =>
    match (s.cfg.threads i).phase with
    -- after the delay `s_app_key` is copied, for all the attempts
    | .delay => { s with added := Function.update s.added i (some s.sAppKey) }
    | .send .appKeyAdd _ =>
      let addr := (s.cfg.threads i).task.addr
      if ok then
        { s with
          inFlight := Function.update s.inFlight addr (s.inFlight addr ++ (s.added i).toList) }
      else s
    | _ => s
  | _ => s

/-- An `APP_KEY_ADD` reaches the node; a node that is not provisioned stores nothing. -/
def arrive (addr : UInt16) (m : ℕ) (stored : Bool) (key : MeshKey) (s : MeshKeys) : MeshKeys :=
  { s with
    inFlight := Function.update s.inFlight addr ((s.inFlight addr).eraseIdx m)
    nodes := Function.update s.nodes addr
      (if stored && (s.nodes addr).net.isSome then { s.nodes addr with app := some key }
        else s.nodes addr) }

def restart (kept : NvsKept) (s : MeshKeys) : MeshKeys :=
  let prov := s.cfg.prov
  { cfg := { prov := { prov with saved := if kept.table then prov.saved else none }.reboot }
    netKey := if kept.netKey then s.netKey else none
    appKey := if kept.appKey then s.appKey else none
    inFlight := s.inFlight
    nodes := s.nodes
    drawn := s.drawn }

def step (s : MeshKeys) : MeshKeyEvent → Option MeshKeys
  | .generateKeys netExists net app =>
    if s.stage = .generateKeys then
      some (if netExists then { s with stage := .enable }
        else
          { s with
            sNetKey := net
            sAppKey := app
            drawn := s.drawn ++ [app]
            stage := .enable })
    else none
  | .enable ok created =>
    if s.stage = .enable then
      some (if ok then
          { s with netKey := s.netKey.or created, enabled := true, stage := .netKey }
        else { s with stage := .failed })
    else none
  | .netKey ok =>
    if s.stage = .netKey then
      match s.netKey with
      | none =>
        some (if ok then { s with netKey := some s.sNetKey, stage := .appKey }
          else { s with stage := .failed })
      | some existNet => some { s with sNetKey := existNet, stage := .appKey }
    else none
  | .appKey ok =>
    if s.stage = .appKey then
      match s.appKey with
      | none =>
        some (if ok then { s with appKey := some s.sAppKey, stage := .bind }
          else { s with stage := .failed })
      | some existApp => some { s with sAppKey := existApp, stage := .bind }
    else none
  | .bind result =>
    if s.stage = .bind then
      some { s with stage := if result = .fail then .failed else .up }
    else none
  | .cfg e =>
    if s.enables e then (s.cfg.step e).map fun cfg => { s.handOn e with cfg } else none
  | .deliver addr m stored =>
    (s.inFlight addr)[m]?.map fun key => s.arrive addr m stored key
  | .nodeReset addr => some { s with nodes := Function.update s.nodes addr {} }
  | .restart kept => some (s.restart kept)

def InStep (s : MeshKeys) : Prop := s.netKey = some s.sNetKey ∧ s.appKey = some s.sAppKey

structure Only (net app : Option MeshKey) (n : NodeKeys) : Prop where
  net : ∀ key, n.net = some key → net = some key
  app : ∀ key, n.app = some key → app = some key

/-- Every key that a node has, that is on its way to one or that a `node_config_task` is about to
send is the key of the stack. -/
structure Shared (s : MeshKeys) : Prop where
  nodes : ∀ addr, Only s.netKey s.appKey (s.nodes addr)
  inFlight : ∀ addr, ∀ key ∈ s.inFlight addr, s.appKey = some key
  added : ∀ i key, s.added i = some key → s.appKey = some key

/-- An AppKey is copied for a node when the copy of the gateway is the key of the stack, and no
restart loses a key that a node has or that is on its way to one. -/
def KeepsShared (s : MeshKeys) : MeshKeyEvent → Prop
  | .cfg (.config i _) => (s.cfg.threads i).phase = .delay → s.appKey = some s.sAppKey
  | .restart kept =>
    (kept.netKey = true ∨ ∀ addr, (s.nodes addr).net = none) ∧
      (kept.appKey = true ∨ ∀ addr, (s.nodes addr).app = none ∧ s.inFlight addr = [])
  | _ => True

structure AllDrawn (s : MeshKeys) : Prop where
  stack : ∀ key, s.appKey = some key → key ∈ s.drawn
  nodes : ∀ addr key, (s.nodes addr).app = some key → key ∈ s.drawn
  inFlight : ∀ addr, ∀ key ∈ s.inFlight addr, key ∈ s.drawn
  added : ∀ i key, s.added i = some key → key ∈ s.drawn

/-- A gateway whose stack has a NetKey before its initialisation, and which draws no keys then, has
an AppKey too; and an AppKey is copied for a node after the look-up of the AppKey. -/
def Draws (s : MeshKeys) : MeshKeyEvent → Prop
  | .generateKeys netExists _ _ => netExists = true → s.appKey.isSome = true
  | .cfg (.config i _) =>
    (s.cfg.threads i).phase = .delay → s.stage = .bind ∨ s.stage = .up
  | _ => True

variable {s s' : MeshKeys}

def NoCopy (s : MeshKeys) (e : CfgEvent) : Prop :=
  ∀ i ok, e = .config i ok → (s.cfg.threads i).phase ≠ .delay

inductive HandOn (s : MeshKeys) (e : CfgEvent) : MeshKeys → Prop
  | provisioned (addr : UInt16) (he : s.NoCopy e) :
      HandOn s e
        { s with nodes := Function.update s.nodes addr { net := s.netKey, app := none } }
  | copied (i : ℕ) (ok : Bool) (he : e = .config i ok)
      (hphase : (s.cfg.threads i).phase = .delay) :
      HandOn s e { s with added := Function.update s.added i (some s.sAppKey) }
  | sent (i : ℕ) (addr : UInt16) (key : MeshKey) (he : s.NoCopy e)
      (hadded : s.added i = some key) :
      HandOn s e { s with inFlight := Function.update s.inFlight addr (s.inFlight addr ++ [key]) }
  | nothing (he : s.NoCopy e) : HandOn s e s

theorem noCopy_config {i : ℕ} (hphase : (s.cfg.threads i).phase ≠ .delay) (ok : Bool) :
    s.NoCopy (.config i ok) := by
  rintro j ok' he
  cases he
  exact hphase

theorem handOn_cases (s : MeshKeys) (e : CfgEvent) : HandOn s e (s.handOn e) := by
  cases e with
  | provComplete addr uuid saved => exact .provisioned addr nofun
  | config i ok =>
    unfold handOn
    dsimp only
    split
    · exact .copied i ok rfl ‹_›
    · rename_i attempt hphase
      have hno : s.NoCopy (.config i ok) := noCopy_config (by rw [hphase]; nofun) ok
      cases ok with
      | false => exact .nothing hno
      | true =>
        cases hadded : s.added i with
        | none =>
          rw [if_pos rfl, Option.toList_none, List.append_nil, Function.update_eq_self]
          exact .nothing hno
        | some key => exact .sent i _ key hno hadded
    · exact .nothing (noCopy_config ‹_› ok)
  | _ => exact .nothing nofun

theorem HandOn.frame {e : CfgEvent} {t : MeshKeys} (h : HandOn s e t) :
    t.stage = s.stage ∧ t.netKey = s.netKey ∧ t.appKey = s.appKey ∧ t.sNetKey = s.sNetKey ∧
      t.sAppKey = s.sAppKey ∧ t.drawn = s.drawn := by
  cases h <;> exact ⟨rfl, rfl, rfl, rfl, rfl, rfl⟩

inductive Move (s : MeshKeys) : MeshKeyEvent → MeshKeys → Prop
  | skipped (net app : MeshKey) :
      Move s (.generateKeys true net app) { s with stage := .enable }
  | drew (net app : MeshKey) :
      Move s (.generateKeys false net app)
        { s with sNetKey := net, sAppKey := app, drawn := s.drawn ++ [app], stage := .enable }
  | enabled (created : Option MeshKey) (hstage : s.stage = .enable) :
      Move s (.enable true created)
        { s with netKey := s.netKey.or created, enabled := true, stage := .netKey }
  | addedNet (hstage : s.stage = .netKey) (hnet : s.netKey = none) :
      Move s (.netKey true) { s with netKey := some s.sNetKey, stage := .appKey }
  | foundNet (ok : Bool) {existNet : MeshKey} (hstage : s.stage = .netKey)
      (hnet : s.netKey = some existNet) :
      Move s (.netKey ok) { s with sNetKey := existNet, stage := .appKey }
  | addedApp (hstage : s.stage = .appKey) (happ : s.appKey = none) :
      Move s (.appKey true) { s with appKey := some s.sAppKey, stage := .bind }
  | foundApp (ok : Bool) {existApp : MeshKey} (hstage : s.stage = .appKey)
      (happ : s.appKey = some existApp) :
      Move s (.appKey ok) { s with sAppKey := existApp, stage := .bind }
  | bound (result : BindResult) (hstage : s.stage = .bind) :
      Move s (.bind result) { s with stage := .up }
  | failed (e : MeshKeyEvent) (he : e.isInit = true) : Move s e { s with stage := .failed }
  | handedOn {e : CfgEvent} {t : MeshKeys} (ht : HandOn s e t) (cfg : CfgSystem) :
      Move s (.cfg e) { t with cfg }
  | delivered (addr : UInt16) (m : ℕ) (stored : Bool) {key : MeshKey}
      (hkey : key ∈ s.inFlight addr) :
      Move s (.deliver addr m stored) (s.arrive addr m stored key)
  | nodeReset (addr : UInt16) :
      Move s (.nodeReset addr) { s with nodes := Function.update s.nodes addr {} }
  | restarted (kept : NvsKept) : Move s (.restart kept) (s.restart kept)

theorem step_move {e : MeshKeyEvent} (hs : s.step e = some s') : Move s e s' := by
  cases e with
  | generateKeys netExists net app =>
    obtain ⟨-, hs⟩ := Option.ite_none_right_eq_some.mp hs
    cases netExists <;> cases hs
    · exact .drew net app
    · exact .skipped net app
  | enable ok created =>
    obtain ⟨hstage, hs⟩ := Option.ite_none_right_eq_some.mp hs
    cases ok <;> cases hs
    · exact .failed _ rfl
    · exact .enabled created hstage
  | netKey ok =>
    obtain ⟨hstage, hs⟩ := Option.ite_none_right_eq_some.mp hs
    split at hs
    · rename_i hnet
      cases ok <;> cases hs
      · exact .failed _ rfl
      · exact .addedNet hstage hnet
    · rename_i existNet hnet
      cases hs
      exact .foundNet ok hstage hnet
  | appKey ok =>
    obtain ⟨hstage, hs⟩ := Option.ite_none_right_eq_some.mp hs
    split at hs
    · rename_i happ
      cases ok <;> cases hs
      · exact .failed _ rfl
      · exact .addedApp hstage happ
    · rename_i existApp happ
      cases hs
      exact .foundApp ok hstage happ
  | bind result =>
    obtain ⟨hstage, hs⟩ := Option.ite_none_right_eq_some.mp hs
    cases result <;> cases hs
    · exact .bound _ hstage
    · exact .bound _ hstage
    · exact .failed _ rfl
  | cfg e =>
    obtain ⟨-, hs⟩ := Option.ite_none_right_eq_some.mp hs
    obtain ⟨cfg, -, rfl⟩ := Option.map_eq_some_iff.mp hs
    exact .handedOn (handOn_cases s e) cfg
  | deliver addr m stored =>
    obtain ⟨key, hkey, rfl⟩ := Option.map_eq_some_iff.mp hs
    exact .delivered addr m stored (List.mem_of_getElem? hkey)
  | nodeReset addr =>
    cases hs
    exact .nodeReset addr
  | restart kept =>
    cases hs
    exact .restarted kept

def Loaded (s : MeshKeys) : Prop :=
  match s.stage with
  | .appKey => s.netKey = some s.sNetKey
  | .bind | .up => s.InStep
  | _ => True

theorem Loaded.congr (h : s.Loaded) (hstage : s'.stage = s.stage) (hnet : s'.netKey = s.netKey)
    (happ : s'.appKey = s.appKey) (hsnet : s'.sNetKey = s.sNetKey)
    (hsapp : s'.sAppKey = s.sAppKey) : s'.Loaded := by
  unfold Loaded InStep at h ⊢
  rw [hstage, hnet, happ, hsnet, hsapp]
  exact h

theorem Loaded.step (h : s.Loaded) {e : MeshKeyEvent} (hs : s.step e = some s') : s'.Loaded := by
  cases step_move hs with
  | skipped net app => trivial
  | drew net app => trivial
  | enabled created hstage => trivial
  | addedNet hstage hnet => exact rfl
  | foundNet ok hstage hnet => exact hnet
  | addedApp hstage happ =>
    unfold Loaded at h
    rw [hstage] at h
    exact ⟨h, rfl⟩
  | foundApp ok hstage happ =>
    unfold Loaded at h
    rw [hstage] at h
    exact ⟨h, happ⟩
  | bound result hstage =>
    unfold Loaded at h
    rw [hstage] at h
    exact h
  | failed e he => trivial
  | handedOn ht cfg =>
    obtain ⟨hstage, hnet, happ, hsnet, hsapp, -⟩ := ht.frame
    exact h.congr hstage hnet happ hsnet hsapp
  | delivered addr m stored hkey => exact h.congr rfl rfl rfl rfl rfl
  | nodeReset addr => exact h.congr rfl rfl rfl rfl rfl
  | restarted kept => trivial

theorem Shared.mono (h : s.Shared) (hnet : ∀ key, s.netKey = some key → s'.netKey = some key)
    (happ : ∀ key, s.appKey = some key → s'.appKey = some key) (hnodes : s'.nodes = s.nodes)
    (hin : s'.inFlight = s.inFlight) (hadded : s'.added = s.added) : s'.Shared := by
  refine ⟨?_, ?_, ?_⟩
  · intro addr
    rw [hnodes]
    exact ⟨fun key hkey => hnet key ((h.nodes addr).net key hkey),
      fun key hkey => happ key ((h.nodes addr).app key hkey)⟩
  · rw [hin]
    exact fun addr key hkey => happ key (h.inFlight addr key hkey)
  · rw [hadded]
    exact fun i key hkey => happ key (h.added i key hkey)

theorem keepsShared_of_noCopy {e : CfgEvent} (he : s.NoCopy e) : s.KeepsShared (.cfg e) := by
  cases e with
  | config i ok => exact fun hphase => absurd hphase (he i ok rfl)
  | _ => trivial

theorem keepsShared_of_isInit {e : MeshKeyEvent} (he : e.isInit = true) : s.KeepsShared e := by
  cases e with
  | cfg e => cases he
  | restart kept => cases he
  | _ => trivial

theorem forall_inFlight_update_iff {f : UInt16 → List MeshKey} {addr : UInt16}
    {keys : List MeshKey} (P : MeshKey → Prop) :
    (∀ addr', ∀ key ∈ Function.update f addr keys addr', P key) ↔
      (∀ key ∈ keys, P key) ∧ ∀ addr', addr' ≠ addr → ∀ key ∈ f addr', P key :=
  Function.forall_update_iff f fun _ keys => ∀ key ∈ keys, P key

theorem forall_added_update_iff {f : ℕ → Option MeshKey} {i : ℕ} {o : Option MeshKey}
    (P : MeshKey → Prop) :
    (∀ j key, Function.update f i o j = some key → P key) ↔
      (∀ key, o = some key → P key) ∧ ∀ j, j ≠ i → ∀ key, f j = some key → P key :=
  Function.forall_update_iff f fun _ o => ∀ key, o = some key → P key

theorem forall_app_update_iff {f : UInt16 → NodeKeys} {addr : UInt16} {n : NodeKeys}
    (P : MeshKey → Prop) :
    (∀ addr' key, (Function.update f addr n addr').app = some key → P key) ↔
      (∀ key, n.app = some key → P key) ∧
        ∀ addr', addr' ≠ addr → ∀ key, (f addr').app = some key → P key :=
  Function.forall_update_iff f fun _ (n : NodeKeys) => ∀ key, n.app = some key → P key

theorem shared_handOn_iff (h : s.Shared) {e : CfgEvent} {t : MeshKeys} (ht : HandOn s e t) :
    t.Shared ↔ s.KeepsShared (.cfg e) := by
  cases ht with
  | provisioned addr he =>
    refine iff_of_true ⟨?_, h.inFlight, h.added⟩ (keepsShared_of_noCopy he)
    exact (Function.forall_update_iff _ fun _ => Only s.netKey s.appKey).mpr
      ⟨⟨fun _ hkey => hkey, nofun⟩, fun addr' _ => h.nodes addr'⟩
  | copied i ok he hphase =>
    subst he
    refine ⟨?_, ?_⟩
    · intro hshared _
      exact hshared.added i s.sAppKey (Function.update_self i _ s.added)
    · intro hkeeps
      refine ⟨h.nodes, h.inFlight, ?_⟩
      refine (forall_added_update_iff (s.appKey = some ·)).mpr ⟨?_, fun j _ => h.added j⟩
      intro key hkey
      cases hkey
      exact hkeeps hphase
  | sent i addr key he hadded =>
    refine iff_of_true ⟨h.nodes, ?_, h.added⟩ (keepsShared_of_noCopy he)
    refine (forall_inFlight_update_iff (s.appKey = some ·)).mpr
      ⟨?_, fun addr' _ => h.inFlight addr'⟩
    intro key' hkey'
    rcases List.mem_append.mp hkey' with hold | hnew
    · exact h.inFlight addr key' hold
    · rw [List.mem_singleton.mp hnew]
      exact h.added i key hadded
  | nothing he => exact iff_of_true h (keepsShared_of_noCopy he)

theorem eq_none_of_lost {o : Option MeshKey} (h : ∀ key, o = some key → none = some key) :
    o = none := by
  cases o with
  | none => rfl
  | some key => cases h key rfl

/-- A key that is lost may be missed by nobody. -/
theorem shared_restart_iff (h : s.Shared) (kept : NvsKept) :
    (s.restart kept).Shared ↔ s.KeepsShared (.restart kept) := by
  unfold restart
  refine ⟨?_, ?_⟩
  · intro hshared
    refine ⟨?_, ?_⟩
    · by_cases hkept : kept.netKey = true
      · exact Or.inl hkept
      · right
        intro addr
        have honly := (hshared.nodes addr).net
        rw [if_neg hkept] at honly
        exact eq_none_of_lost honly
    · by_cases hkept : kept.appKey = true
      · exact Or.inl hkept
      · right
        intro addr
        have honly := (hshared.nodes addr).app
        have hin := hshared.inFlight addr
        dsimp only at hin
        rw [if_neg hkept] at honly hin
        refine ⟨eq_none_of_lost honly, List.eq_nil_iff_forall_not_mem.mpr ?_⟩
        intro key hkey
        cases hin key hkey
  · rintro ⟨hnet, happ⟩
    refine ⟨?_, ?_, nofun⟩
    · intro addr
      refine ⟨?_, ?_⟩
      · intro key hkey
        rcases hnet with hkept | hnone
        · rw [if_pos hkept]
          exact (h.nodes addr).net key hkey
        · cases (hnone addr).symm.trans hkey
      · intro key hkey
        rcases happ with hkept | hnone
        · rw [if_pos hkept]
          exact (h.nodes addr).app key hkey
        · cases (hnone addr).1.symm.trans hkey
    · intro addr key hkey
      rcases happ with hkept | hnone
      · dsimp only
        rw [if_pos hkept]
        exact h.inFlight addr key hkey
      · dsimp only at hkey
        rw [(hnone addr).2] at hkey
        cases hkey

theorem shared_step_iff (h : s.Shared) {e : MeshKeyEvent} (hs : s.step e = some s') :
    s'.Shared ↔ s.KeepsShared e := by
  cases step_move hs with
  | skipped net app => exact iff_of_true (h.mono (fun _ => id) (fun _ => id) rfl rfl rfl) trivial
  | drew net app => exact iff_of_true (h.mono (fun _ => id) (fun _ => id) rfl rfl rfl) trivial
  | enabled created hstage =>
    refine iff_of_true (h.mono ?_ (fun _ => id) rfl rfl rfl) trivial
    exact fun key hkey => Option.or_eq_some_iff.mpr (Or.inl hkey)
  | addedNet hstage hnet =>
    refine iff_of_true (h.mono ?_ (fun _ => id) rfl rfl rfl) trivial
    exact fun key hkey => absurd (hnet.symm.trans hkey) nofun
  | foundNet ok hstage hnet =>
    exact iff_of_true (h.mono (fun _ => id) (fun _ => id) rfl rfl rfl) trivial
  | addedApp hstage happ =>
    refine iff_of_true (h.mono (fun _ => id) ?_ rfl rfl rfl) trivial
    exact fun key hkey => absurd (happ.symm.trans hkey) nofun
  | foundApp ok hstage happ =>
    exact iff_of_true (h.mono (fun _ => id) (fun _ => id) rfl rfl rfl) trivial
  | bound result hstage =>
    exact iff_of_true (h.mono (fun _ => id) (fun _ => id) rfl rfl rfl) trivial
  | failed e he =>
    exact iff_of_true (h.mono (fun _ => id) (fun _ => id) rfl rfl rfl) (keepsShared_of_isInit he)
  | handedOn ht cfg =>
    rw [← shared_handOn_iff h ht]
    refine ⟨?_, ?_⟩
    · exact fun h' => ⟨h'.nodes, h'.inFlight, h'.added⟩
    · exact fun h' => ⟨h'.nodes, h'.inFlight, h'.added⟩
  | delivered addr m stored hkey =>
    refine iff_of_true ⟨?_, ?_, h.added⟩ trivial
    · refine (Function.forall_update_iff _ fun _ => Only s.netKey s.appKey).mpr
        ⟨?_, fun addr' _ => h.nodes addr'⟩
      split_ifs
      · refine ⟨(h.nodes addr).net, ?_⟩
        intro key' hkey'
        cases hkey'
        exact h.inFlight addr _ hkey
      · exact h.nodes addr
    · refine (forall_inFlight_update_iff (s.appKey = some ·)).mpr
        ⟨?_, fun addr' _ => h.inFlight addr'⟩
      exact fun key' hkey' => h.inFlight addr key' (List.mem_of_mem_eraseIdx hkey')
  | nodeReset addr =>
    refine iff_of_true ⟨?_, h.inFlight, h.added⟩ trivial
    exact (Function.forall_update_iff _ fun _ => Only s.netKey s.appKey).mpr
      ⟨⟨nofun, nofun⟩, fun addr' _ => h.nodes addr'⟩
  | restarted kept => exact shared_restart_iff h kept

def Candidate (s : MeshKeys) : Prop :=
  match s.stage with
  | .enable | .netKey | .appKey => s.appKey = none → s.sAppKey ∈ s.drawn
  | _ => True

theorem AllDrawn.congr (h : s.AllDrawn) (happ : s'.appKey = s.appKey)
    (hnodes : s'.nodes = s.nodes) (hin : s'.inFlight = s.inFlight) (hadded : s'.added = s.added)
    (hsub : s.drawn ⊆ s'.drawn) : s'.AllDrawn := by
  refine ⟨?_, ?_, ?_, ?_⟩
  · rw [happ]
    exact fun key hkey => hsub (h.stack key hkey)
  · rw [hnodes]
    exact fun addr key hkey => hsub (h.nodes addr key hkey)
  · rw [hin]
    exact fun addr key hkey => hsub (h.inFlight addr key hkey)
  · rw [hadded]
    exact fun i key hkey => hsub (h.added i key hkey)

theorem candidate_of_stage (h : s.Candidate)
    (hstage : s.stage = .enable ∨ s.stage = .netKey ∨ s.stage = .appKey)
    (happ : s.appKey = none) : s.sAppKey ∈ s.drawn := by
  unfold Candidate at h
  rcases hstage with hstage | hstage | hstage <;> rw [hstage] at h <;> exact h happ

theorem drawn_handOn (h : s.AllDrawn) (hload : s.Loaded) {e : CfgEvent} {t : MeshKeys}
    (ht : HandOn s e t) (hdraws : s.Draws (.cfg e)) : t.AllDrawn := by
  cases ht with
  | provisioned addr he =>
    refine ⟨h.stack, ?_, h.inFlight, h.added⟩
    exact (forall_app_update_iff (· ∈ s.drawn)).mpr ⟨nofun, fun addr' _ => h.nodes addr'⟩
  | copied i ok he hphase =>
    subst he
    have hstep : s.InStep := by
      unfold Loaded at hload
      rcases hdraws hphase with hstage | hstage <;> rw [hstage] at hload <;> exact hload
    refine ⟨h.stack, h.nodes, h.inFlight, ?_⟩
    refine (forall_added_update_iff (· ∈ s.drawn)).mpr ⟨?_, fun j _ => h.added j⟩
    intro key hkey
    cases hkey
    exact h.stack s.sAppKey hstep.2
  | sent i addr key he hadded =>
    refine ⟨h.stack, h.nodes, ?_, h.added⟩
    refine (forall_inFlight_update_iff (· ∈ s.drawn)).mpr ⟨?_, fun addr' _ => h.inFlight addr'⟩
    intro key' hkey'
    rcases List.mem_append.mp hkey' with hold | hnew
    · exact h.inFlight addr key' hold
    · rw [List.mem_singleton.mp hnew]
      exact h.added i key hadded
  | nothing he => exact h

theorem AllDrawn.step (h : s.AllDrawn) (hcand : s.Candidate) (hload : s.Loaded)
    {e : MeshKeyEvent} (hs : s.step e = some s') (hdraws : s.Draws e) :
    s'.AllDrawn ∧ s'.Candidate := by
  have hkeep : s.drawn ⊆ s.drawn := List.Subset.refl s.drawn
  cases step_move hs with
  | skipped net app =>
    refine ⟨h.congr rfl rfl rfl rfl hkeep, ?_⟩
    intro hnone
    have hsome : s.appKey.isSome = true := hdraws rfl
    rw [hnone] at hsome
    cases hsome
  | drew net app =>
    refine ⟨h.congr rfl rfl rfl rfl (List.subset_append_left _ _), ?_⟩
    intro _
    exact List.mem_append_right _ List.mem_cons_self
  | enabled created hstage =>
    have hcandidate := candidate_of_stage hcand (Or.inl hstage)
    exact ⟨h.congr rfl rfl rfl rfl hkeep, hcandidate⟩
  | addedNet hstage hnet =>
    have hcandidate := candidate_of_stage hcand (Or.inr (Or.inl hstage))
    exact ⟨h.congr rfl rfl rfl rfl hkeep, hcandidate⟩
  | foundNet ok hstage hnet =>
    have hcandidate := candidate_of_stage hcand (Or.inr (Or.inl hstage))
    exact ⟨h.congr rfl rfl rfl rfl hkeep, hcandidate⟩
  | addedApp hstage happ =>
    have hcandidate := candidate_of_stage hcand (Or.inr (Or.inr hstage)) happ
    refine ⟨⟨?_, h.nodes, h.inFlight, h.added⟩, trivial⟩
    intro key hkey
    cases hkey
    exact hcandidate
  | foundApp ok hstage happ => exact ⟨h.congr rfl rfl rfl rfl hkeep, trivial⟩
  | bound result hstage => exact ⟨h.congr rfl rfl rfl rfl hkeep, trivial⟩
  | failed e he => exact ⟨h.congr rfl rfl rfl rfl hkeep, trivial⟩
  | handedOn ht cfg =>
    obtain ⟨hstage, -, happ, -, hsapp, hdrawn⟩ := ht.frame
    refine ⟨(drawn_handOn h hload ht hdraws).congr rfl rfl rfl rfl (List.Subset.refl _), ?_⟩
    unfold Candidate at hcand ⊢
    dsimp only
    rw [hstage, happ, hsapp, hdrawn]
    exact hcand
  | delivered addr m stored hkey =>
    refine ⟨⟨h.stack, ?_, ?_, h.added⟩, hcand⟩
    · refine (forall_app_update_iff (· ∈ s.drawn)).mpr ⟨?_, fun addr' _ => h.nodes addr'⟩
      split_ifs
      · intro key' hkey'
        cases hkey'
        exact h.inFlight addr _ hkey
      · exact h.nodes addr
    · refine (forall_inFlight_update_iff (· ∈ s.drawn)).mpr ⟨?_, fun addr' _ => h.inFlight addr'⟩
      exact fun key' hkey' => h.inFlight addr key' (List.mem_of_mem_eraseIdx hkey')
  | nodeReset addr =>
    refine ⟨⟨h.stack, ?_, h.inFlight, h.added⟩, hcand⟩
    exact (forall_app_update_iff (· ∈ s.drawn)).mpr ⟨nofun, fun addr' _ => h.nodes addr'⟩
  | restarted kept =>
    refine ⟨⟨?_, h.nodes, h.inFlight, nofun⟩, trivial⟩
    intro key hkey
    have hkept : (if kept.appKey = true then s.appKey else none) = some key := hkey
    exact h.stack key (Option.ite_none_right_eq_some.mp hkept).2

end MeshKeys

/-- A gateway that is up has the keys of its stack.  Every node, message and task has them too, over
every run of restarts, provisionings and configurations, exactly as long as AppKeys are copied
from a gateway whose copy is the stack's, and no key is lost that a node has. -/
theorem mesh_keys_shared (es : List MeshKeyEvent) :
    Run.Throughout MeshKeys.step (fun s => s.stage = .up → s.InStep) {} es ∧
      (Run.Throughout MeshKeys.step MeshKeys.Shared {} es ↔
        Run.Meets MeshKeys.step MeshKeys.KeepsShared {} es) := by
  refine ⟨?_, ?_⟩
  · have hloaded : Run.Throughout MeshKeys.step MeshKeys.Loaded {} es :=
      Run.throughout_of_forall (fun s e s' h hs => h.step hs) es trivial
    refine hloaded.mono ?_
    intro s h hup
    unfold MeshKeys.Loaded at h
    rw [hup] at h
    exact h
  · refine Run.throughout_iff_meets_of_invariant (A := fun _ => True) (fun _ _ _ _ _ => trivial)
      ?_ trivial ⟨fun _ => ⟨nofun, nofun⟩, nofun, nofun⟩
    exact fun s e s' _ h hs => MeshKeys.shared_step_iff h hs

/-- Every AppKey in the mesh was drawn at random, over every run in which a gateway that draws no
keys has an AppKey already, and copies for nodes come after the look-up of the AppKey. -/
theorem app_key_drawn (es : List MeshKeyEvent)
    (h : Run.Meets MeshKeys.step MeshKeys.Draws {} es) :
    Run.Throughout MeshKeys.step MeshKeys.AllDrawn {} es := by
  have hall : Run.Throughout MeshKeys.step
      (fun s => s.AllDrawn ∧ s.Candidate ∧ s.Loaded) {} es := by
    refine Run.throughout_of_meets ?_ ⟨⟨nofun, nofun, nofun, nofun⟩, trivial, trivial⟩ h
    rintro s e s' ⟨hdrawn, hcand, hload⟩ hdraws hs
    obtain ⟨hdrawn', hcand'⟩ := hdrawn.step hcand hload hs hdraws
    exact ⟨hdrawn', hcand', hload.step hs⟩
  exact hall.mono fun _ hs => hs.1

def firstRelay : List MeshKeyEvent :=
  [.generateKeys false (fun _ => 1) (fun _ => 2), .enable true none, .netKey true, .appKey true,
    .bind .ok, .cfg (.provComplete 5 relayUuid true), .cfg (.config 0 true),
    .cfg (.config 0 true), .cfg (.config 0 true), .deliver 5 0 true]

theorem app_key_drawn_firstRelay :
    ∃ s, Run.run MeshKeys.step {} firstRelay = some s ∧ (s.nodes 5).app = some (fun _ => 2) ∧
      s.AllDrawn := by
  have hdraws : Run.Meets MeshKeys.step MeshKeys.Draws {} firstRelay := by
    refine Run.Meets.cons rfl nofun (Run.Meets.cons rfl trivial (Run.Meets.cons rfl trivial ?_))
    refine Run.Meets.cons rfl trivial (Run.Meets.cons rfl trivial (Run.Meets.cons rfl trivial ?_))
    refine Run.Meets.cons rfl nofun (Run.Meets.cons rfl (fun _ => Or.inr rfl) ?_)
    exact Run.Meets.cons rfl nofun (Run.Meets.cons rfl trivial trivial)
  refine ⟨_, rfl, rfl, ?_⟩
  exact (app_key_drawn firstRelay hdraws).last rfl

end BleMeshTracking.Gateway
