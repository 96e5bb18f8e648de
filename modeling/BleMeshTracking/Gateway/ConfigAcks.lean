import BleMeshTracking.Gateway.Provisioning

/-!
# The acknowledgements of a configuration

`node_config_task`, `node_ping_task` and `cfg_client_cb`, statement by statement where they share
`BMT_CFG_ACK_BIT` and the two wait variables.  `s_cfg_mutex` keeps the tasks apart, but not the
callback, which may run between any two statements.
-/

namespace BleMeshTracking.Gateway

def modelOpAppKeyAdd : UInt32 := 0x00

def modelOpModelAppBind : UInt32 := 0x803D

def modelOpDefaultTtlGet : UInt32 := 0x800C

def bmtCfgRetry : ℕ := 3

/-- `BMT_CFG_ACK_BIT`, `s_cfg_wait_addr` and `s_cfg_wait_opcode`. -/
structure AckWait where
  bit : Bool := false
  addr : UInt16 := 0
  opcode : UInt32 := 0

inductive WaitPhase
  | clearBits
  | setAddr
  | setOpcode
  | waitBits
  | resetAddr (acked : Bool)
  | resetOpcode (acked : Bool)
  deriving DecidableEq

/-- One statement of `wait_cfg_ack`; the last one returns whether the bit was seen. -/
def waitCfgAck (addr : UInt16) (opcode : UInt32) (timedOut : Bool) (w : AckWait) :
    WaitPhase → Option ((WaitPhase ⊕ Bool) × AckWait)
  | .clearBits => some (.inl .setAddr, { w with bit := false })
  | .setAddr => some (.inl .setOpcode, { w with addr := addr })
  | .setOpcode => some (.inl .waitBits, { w with opcode := opcode })
  | .waitBits =>
    if w.bit then some (.inl (.resetAddr true), { w with bit := false })
    else if timedOut then some (.inl (.resetAddr false), w)
    else none
  | .resetAddr acked => some (.inl (.resetOpcode acked), { w with addr := 0 })
  | .resetOpcode acked => some (.inr acked, { w with opcode := 0 })

inductive CfgStep
  | appKeyAdd
  | modelAppBind
  deriving DecidableEq

def CfgStep.opcode : CfgStep → UInt32
  | .appKeyAdd => modelOpAppKeyAdd
  | .modelAppBind => modelOpModelAppBind

/-- Where a `node_config_task` is; `attempt` counts in `cfg_send_retry`. -/
inductive CfgPhase
  | absent
  | takeMutex
  | delay
  | send (step : CfgStep) (attempt : ℕ)
  | wait (step : CfgStep) (attempt : ℕ) (w : WaitPhase)
  | finish
  | abort
  | giveMutex
  | ended

/-- A `node_config_task`, with the number of ACKs received before each of its steps started. -/
structure CfgThread where
  task : ConfigTask := ⟨0, false⟩
  phase : CfgPhase := .absent
  acksBefore : CfgStep → ℕ := fun _ => 0

/-- Where `node_ping_task` is, in its round for the entry in a slot. -/
inductive PingPhase
  | idle
  | takeMutex (i : Fin bmtMaxNodes)
  | send (i : Fin bmtMaxNodes)
  | wait (addr : UInt16) (w : WaitPhase)
  | giveMutex

inductive CfgOwner
  | config (i : ℕ)
  | ping
  deriving DecidableEq

/-- The gateway's provisioning, the shared variables, the tasks, and all ACKs without an error so
far. -/
structure CfgSystem where
  prov : Provisioner := {}
  wait : AckWait := {}
  mutex : Option CfgOwner := none
  threads : ℕ → CfgThread := fun _ => {}
  created : ℕ := 0
  ping : PingPhase := .idle
  acks : List (UInt16 × UInt32) := []

def CfgSystem.setThread (s : CfgSystem) (i : ℕ) (th : CfgThread) : CfgSystem :=
  { s with threads := Function.update s.threads i th }

def CfgThread.start (th : CfgThread) (step : CfgStep) (acks : ℕ) : CfgThread :=
  { th with phase := .send step 1, acksBefore := Function.update th.acksBefore step acks }

def CfgThread.retry (th : CfgThread) (step : CfgStep) (attempt : ℕ) : CfgThread :=
  { th with phase := if attempt < bmtCfgRetry then .send step (attempt + 1) else .abort }

def CfgThread.waited (th : CfgThread) (step : CfgStep) (attempt acks : ℕ) :
    WaitPhase ⊕ Bool → CfgThread
  | .inl w => { th with phase := .wait step attempt w }
  | .inr false => th.retry step attempt
  | .inr true =>
    match step with
    | .appKeyAdd => th.start .modelAppBind acks
    | .modelAppBind => { th with phase := .finish }

/-- One statement of a `node_config_task`; `ok` says whether a send, or a write of the table to
flash, succeeds, and is `false` for a timeout. -/
def CfgSystem.configStep (s : CfgSystem) (i : ℕ) (ok : Bool) : Option CfgSystem :=
  let th := s.threads i
  match th.phase with
  | .absent => none
  -- blocks while another task has the mutex
  | .takeMutex =>
    if s.mutex = none then
      some ({ s with mutex := some (.config i) }.setThread i { th with phase := .delay })
    else none
  | .delay => some (s.setThread i (th.start .appKeyAdd s.acks.length))
  | .send step attempt =>
    if ok then some (s.setThread i { th with phase := .wait step attempt .clearBits })
    else some (s.setThread i (th.retry step attempt))
  | .wait step attempt w =>
    (waitCfgAck th.task.addr step.opcode (!ok) s.wait w).map fun r =>
      { s with wait := r.2 }.setThread i (th.waited step attempt s.acks.length r.1)
  | .finish =>
    some ({ s with prov := (s.prov.configured th.task ok).1 }.setThread i
      { th with phase := .giveMutex })
  | .abort =>
    some ({ s with prov := (s.prov.cfgAbortCleanup th.task ok).1 }.setThread i
      { th with phase := .giveMutex })
  | .giveMutex => some ({ s with mutex := none }.setThread i { th with phase := .ended })
  | .ended => none

/-- One statement of `node_ping_task`; from `idle` it turns to slot `i`. -/
def CfgSystem.pingStep (s : CfgSystem) (i : Fin bmtMaxNodes) (ok : Bool) : Option CfgSystem :=
  match s.ping with
  | .idle =>
    let n := s.prov.nodes i
    if n.used && n.configDone && (n.isScan || n.isRelay) then some { s with ping := .takeMutex i }
    else none
  | .takeMutex i =>
    if s.mutex = none then some { s with mutex := some .ping, ping := .send i } else none
  | .send i =>
    if ok then some { s with ping := .wait (s.prov.nodes i).addr .clearBits }
    else some { s with ping := .giveMutex }
  | .wait addr w =>
    (waitCfgAck addr modelOpDefaultTtlGet (!ok) s.wait w).map fun r =>
      { s with
        wait := r.2
        ping := match r.1 with
          | .inl w => .wait addr w
          | .inr _ => .giveMutex }
  | .giveMutex => some { s with mutex := none, ping := .idle }

inductive CfgClientEvent
  | setState
  | getState
  | timeout
  deriving DecidableEq

/-- A set-state or get-state event without an error. -/
def CfgClientEvent.isAck (event : CfgClientEvent) (errorCode : ℤ) : Bool :=
  event != .timeout && errorCode == 0

/-- The part of `cfg_client_cb` about the ACK bit. -/
def CfgSystem.cfgClientCb (s : CfgSystem) (event : CfgClientEvent) (addr : UInt16)
    (opcode : UInt32) (errorCode : ℤ) : CfgSystem :=
  if event.isAck errorCode then
    { s with
      wait := if addr = s.wait.addr ∧ opcode = s.wait.opcode then { s.wait with bit := true }
        else s.wait
      acks := s.acks ++ [(addr, opcode)] }
  else s

def CfgSystem.provComplete (s : CfgSystem) (addr : UInt16) (uuid : Uuid) (saved : Bool) :
    CfgSystem :=
  let prov := s.prov.provComplete addr uuid saved
  match prov.tasks.drop s.prov.tasks.length with
  -- neither a relay nor a scanner, or no room
  | [] => { s with prov }
  | task :: _ =>
    { s with prov, created := s.created + 1 }.setThread s.created { task, phase := .takeMutex }

inductive CfgEvent
  | beacon (b : Beacon) (saved : Bool)
  | provComplete (addr : UInt16) (uuid : Uuid) (saved : Bool)
  | config (i : ℕ) (ok : Bool)
  | ping (i : Fin bmtMaxNodes) (ok : Bool)
  | clientCb (event : CfgClientEvent) (addr : UInt16) (opcode : UInt32) (errorCode : ℤ)

def CfgSystem.step (s : CfgSystem) : CfgEvent → Option CfgSystem
  | .beacon b saved => some { s with prov := (s.prov.recvUnprovAdvPkt b saved).1 }
  | .provComplete addr uuid saved => some (s.provComplete addr uuid saved)
  | .config i ok => s.configStep i ok
  | .ping i ok => s.pingStep i ok
  | .clientCb event addr opcode errorCode => some (s.cfgClientCb event addr opcode errorCode)

def CfgPhase.waiting : CfgPhase → Option (CfgStep × WaitPhase)
  | .wait step _ w => some (step, w)
  | _ => none

def PingPhase.waiting : PingPhase → Option (UInt16 × WaitPhase)
  | .wait addr w => some (addr, w)
  | _ => none

/-- What a task waits for in `wait_cfg_ack`, and the statement it is at. -/
def CfgSystem.waitsFor (s : CfgSystem) : CfgOwner → Option (UInt16 × UInt32 × WaitPhase)
  | .config i =>
    (s.threads i).phase.waiting.map fun r => ((s.threads i).task.addr, r.1.opcode, r.2)
  | .ping => s.ping.waiting.map fun r => (r.1, modelOpDefaultTtlGet, r.2)

def CfgSystem.AtMostOneWaits (s : CfgSystem) : Prop :=
  ∀ o o', (s.waitsFor o).isSome → (s.waitsFor o').isSome → o = o'

/-- The step was acknowledged without an error, by the node's own address, after it started. -/
def CfgThread.Acked (th : CfgThread) (acks : List (UInt16 × UInt32)) (step : CfgStep) : Prop :=
  (th.task.addr, step.opcode) ∈ acks.drop (th.acksBefore step)

instance (th : CfgThread) (acks : List (UInt16 × UInt32)) (step : CfgStep) :
    Decidable (th.Acked acks step) :=
  inferInstanceAs (Decidable (_ ∈ _))

/-- The event is one of a task of the entry's address, both of whose steps were acknowledged. -/
def CfgSystem.OfAckedTask (s : CfgSystem) (addr : UInt16) : CfgEvent → Prop
  | .config i _ =>
    (s.threads i).task.addr = addr ∧ ∀ step, (s.threads i).Acked s.acks step
  | _ => False

/-- `config_done` is set to true only after both steps were acknowledged. -/
def CfgSystem.DoneOnlyAcked (s : CfgSystem) (e : CfgEvent) : Prop :=
  ∀ s' ∈ s.step e, ∀ j, (s.prov.nodes j).configDone = false →
    (s'.prov.nodes j).configDone = true → s.OfAckedTask (s'.prov.nodes j).addr e

instance (s : CfgSystem) (addr : UInt16) (e : CfgEvent) : Decidable (s.OfAckedTask addr e) :=
  match e with
  | .config i _ =>
    have : Decidable (∀ step, (s.threads i).Acked s.acks step) :=
      decidable_of_iff
        ((s.threads i).Acked s.acks .appKeyAdd ∧ (s.threads i).Acked s.acks .modelAppBind)
        ⟨fun h step => by cases step <;> simp [h], fun h => ⟨h _, h _⟩⟩
    inferInstanceAs (Decidable (_ ∧ _))
  | .beacon _ _ => isFalse id
  | .provComplete _ _ _ => isFalse id
  | .ping _ _ => isFalse id
  | .clientCb _ _ _ _ => isFalse id

instance (s : CfgSystem) (e : CfgEvent) : Decidable (s.DoneOnlyAcked e) :=
  inferInstanceAs (Decidable (∀ s' ∈ s.step e, ∀ _, _ → _ → _))

/-- The step that a configuration task is about to wait for: it has cleared the bit and has not
written both wait variables. -/
def CfgSystem.arming (s : CfgSystem) : Option (UInt16 × UInt32) :=
  match s.mutex with
  | some (.config i) =>
    match s.waitsFor (.config i) with
    | some (addr, opcode, .setAddr) => some (addr, opcode)
    | some (addr, opcode, .setOpcode) => some (addr, opcode)
    | _ => none
  | _ => none

/-- An ACK that matches the wait variables while a step is being armed is that step's own. -/
def CfgSystem.OwnAckWhileArming (s : CfgSystem) : CfgEvent → Prop
  | .clientCb event addr opcode errorCode =>
    event.isAck errorCode = true → addr = s.wait.addr → opcode = s.wait.opcode →
      ∀ own ∈ s.arming, own = (addr, opcode)
  | _ => True

instance (s : CfgSystem) (e : CfgEvent) : Decidable (s.OwnAckWhileArming e) :=
  match e with
  | .clientCb _ addr opcode _ =>
    have : Decidable (∀ own ∈ s.arming, own = (addr, opcode)) := Option.decidableForallMem _
    inferInstanceAs (Decidable (_ → _ → _ → _))
  | .beacon _ _ => isTrue trivial
  | .provComplete _ _ _ => isTrue trivial
  | .config _ _ => isTrue trivial
  | .ping _ _ => isTrue trivial

section Step

variable {s s' : CfgSystem}

inductive ConfigMove (s : CfgSystem) (i : ℕ) (ok : Bool) : CfgSystem → Prop
  | lock (hphase : (s.threads i).phase = .takeMutex) (hfree : s.mutex = none) :
      ConfigMove s i ok
        ({ s with mutex := some (.config i) }.setThread i { s.threads i with phase := .delay })
  | start (hphase : (s.threads i).phase = .delay) :
      ConfigMove s i ok (s.setThread i ((s.threads i).start .appKeyAdd s.acks.length))
  | sent {step : CfgStep} {attempt : ℕ} (hphase : (s.threads i).phase = .send step attempt) :
      ConfigMove s i ok (s.setThread i { s.threads i with phase := .wait step attempt .clearBits })
  | notSent {step : CfgStep} {attempt : ℕ} (hphase : (s.threads i).phase = .send step attempt) :
      ConfigMove s i ok (s.setThread i ((s.threads i).retry step attempt))
  | waited {step : CfgStep} {attempt : ℕ} {w : WaitPhase} {out : WaitPhase ⊕ Bool} {v : AckWait}
      (hphase : (s.threads i).phase = .wait step attempt w)
      (hwait : waitCfgAck (s.threads i).task.addr step.opcode (!ok) s.wait w = some (out, v)) :
      ConfigMove s i ok
        ({ s with wait := v }.setThread i ((s.threads i).waited step attempt s.acks.length out))
  | finish (hphase : (s.threads i).phase = .finish) :
      ConfigMove s i ok
        ({ s with prov := (s.prov.configured (s.threads i).task ok).1 }.setThread i
          { s.threads i with phase := .giveMutex })
  | abort (hphase : (s.threads i).phase = .abort) :
      ConfigMove s i ok
        ({ s with prov := (s.prov.cfgAbortCleanup (s.threads i).task ok).1 }.setThread i
          { s.threads i with phase := .giveMutex })
  | unlock (hphase : (s.threads i).phase = .giveMutex) :
      ConfigMove s i ok
        ({ s with mutex := none }.setThread i { s.threads i with phase := .ended })

theorem configStep_move {i : ℕ} {ok : Bool} (hs : s.configStep i ok = some s') :
    ConfigMove s i ok s' := by
  unfold CfgSystem.configStep at hs
  dsimp only at hs
  cases hphase : (s.threads i).phase with
  | absent =>
    rw [hphase] at hs
    cases hs
  | takeMutex =>
    rw [hphase] at hs
    obtain ⟨hfree, hs'⟩ := Option.ite_none_right_eq_some.mp hs
    cases hs'
    exact .lock hphase hfree
  | delay =>
    rw [hphase] at hs
    cases hs
    exact .start hphase
  | send step attempt =>
    rw [hphase] at hs
    dsimp only at hs
    split_ifs at hs
    · cases hs
      exact .sent hphase
    · cases hs
      exact .notSent hphase
  | wait step attempt w =>
    rw [hphase] at hs
    obtain ⟨r, hr, hs'⟩ := Option.map_eq_some_iff.mp hs
    obtain ⟨out, v⟩ := r
    cases hs'
    exact .waited hphase hr
  | finish =>
    rw [hphase] at hs
    cases hs
    exact .finish hphase
  | abort =>
    rw [hphase] at hs
    cases hs
    exact .abort hphase
  | giveMutex =>
    rw [hphase] at hs
    cases hs
    exact .unlock hphase
  | ended =>
    rw [hphase] at hs
    cases hs

inductive PingMove (s : CfgSystem) (ok : Bool) : CfgSystem → Prop
  | turn {i : Fin bmtMaxNodes} (hping : s.ping = .idle) :
      PingMove s ok { s with ping := .takeMutex i }
  | lock {i : Fin bmtMaxNodes} (hping : s.ping = .takeMutex i) (hfree : s.mutex = none) :
      PingMove s ok { s with mutex := some .ping, ping := .send i }
  | sent {i : Fin bmtMaxNodes} (hping : s.ping = .send i) :
      PingMove s ok { s with ping := .wait (s.prov.nodes i).addr .clearBits }
  | notSent {i : Fin bmtMaxNodes} (hping : s.ping = .send i) :
      PingMove s ok { s with ping := .giveMutex }
  | waits {addr : UInt16} {w w' : WaitPhase} {v : AckWait} (hping : s.ping = .wait addr w)
      (hwait : waitCfgAck addr modelOpDefaultTtlGet (!ok) s.wait w = some (.inl w', v)) :
      PingMove s ok { s with wait := v, ping := .wait addr w' }
  | waited {addr : UInt16} {w : WaitPhase} {acked : Bool} {v : AckWait}
      (hping : s.ping = .wait addr w)
      (hwait : waitCfgAck addr modelOpDefaultTtlGet (!ok) s.wait w = some (.inr acked, v)) :
      PingMove s ok { s with wait := v, ping := .giveMutex }
  | unlock (hping : s.ping = .giveMutex) : PingMove s ok { s with mutex := none, ping := .idle }

theorem pingStep_move {i : Fin bmtMaxNodes} {ok : Bool} (hs : s.pingStep i ok = some s') :
    PingMove s ok s' := by
  unfold CfgSystem.pingStep at hs
  dsimp only at hs
  cases hping : s.ping with
  | idle =>
    rw [hping] at hs
    obtain ⟨-, hs'⟩ := Option.ite_none_right_eq_some.mp hs
    cases hs'
    exact .turn hping
  | takeMutex j =>
    rw [hping] at hs
    obtain ⟨hfree, hs'⟩ := Option.ite_none_right_eq_some.mp hs
    cases hs'
    exact .lock hping hfree
  | send j =>
    rw [hping] at hs
    dsimp only at hs
    split_ifs at hs
    · cases hs
      exact .sent hping
    · cases hs
      exact .notSent hping
  | wait addr w =>
    rw [hping] at hs
    obtain ⟨r, hr, hs'⟩ := Option.map_eq_some_iff.mp hs
    obtain ⟨out, v⟩ := r
    cases hs'
    cases out with
    | inl w' => exact .waits hping hr
    | inr acked => exact .waited hping hr
  | giveMutex =>
    rw [hping] at hs
    cases hs
    exact .unlock hping

end Step

def CfgPhase.inside : CfgPhase → Bool
  | .absent => false
  | .takeMutex => false
  | .ended => false
  | _ => true

def PingPhase.inside : PingPhase → Bool
  | .idle => false
  | .takeMutex _ => false
  | _ => true

def CfgSystem.Holds (s : CfgSystem) : CfgOwner → Prop
  | .config i => (s.threads i).phase.inside = true
  | .ping => s.ping.inside = true

def WaitPhase.Armed (addr : UInt16) (opcode : UInt32) (v : AckWait) : WaitPhase → Prop
  | .setOpcode => v.addr = addr
  | .waitBits => v.addr = addr ∧ v.opcode = opcode
  | _ => True

/-- Who is inside holds the mutex, and finds the wait variables as it wrote them. -/
structure CfgSystem.Exclusive (s : CfgSystem) : Prop where
  holds : ∀ o, s.Holds o → s.mutex = some o
  armed : ∀ o addr opcode w, s.waitsFor o = some (addr, opcode, w) → w.Armed addr opcode s.wait

section Exclusive

variable {s s' : CfgSystem}

theorem holds_config {i : ℕ} : s.Holds (.config i) ↔ (s.threads i).phase.inside = true := Iff.rfl

/-- A task in the locked part of its run is the one inside. -/
theorem holds_of_phase {i : ℕ} {phase : CfgPhase} (h : (s.threads i).phase = phase)
    (hin : phase.inside = true) : s.Holds (.config i) := by
  rw [holds_config, h]
  exact hin

theorem waitsFor_config {i : ℕ} : s.waitsFor (.config i) =
    (s.threads i).phase.waiting.map fun r => ((s.threads i).task.addr, r.1.opcode, r.2) := rfl

theorem holds_of_waitsFor {o : CfgOwner} (h : (s.waitsFor o).isSome = true) : s.Holds o := by
  cases o with
  | config i =>
    unfold CfgSystem.waitsFor at h
    rw [Option.isSome_map] at h
    show (s.threads i).phase.inside = true
    cases hphase : (s.threads i).phase with
    | wait step attempt w => rfl
    | _ =>
      rw [hphase] at h
      first | rfl | cases h
  | ping =>
    unfold CfgSystem.waitsFor at h
    rw [Option.isSome_map] at h
    show s.ping.inside = true
    cases hphase : s.ping with
    | wait addr w => rfl
    | _ =>
      rw [hphase] at h
      cases h

theorem CfgSystem.Exclusive.eq_of_holds (h : s.Exclusive) {o o' : CfgOwner} (ho : s.Holds o)
    (ho' : s.Holds o') : o = o' :=
  Option.some.inj ((h.holds o ho).symm.trans (h.holds o' ho'))

theorem CfgSystem.Exclusive.not_holds_of_free (h : s.Exclusive) (hfree : s.mutex = none)
    (o : CfgOwner) : ¬s.Holds o := by
  intro ho
  have hmutex := h.holds o ho
  rw [hfree] at hmutex
  cases hmutex

theorem CfgSystem.Exclusive.atMostOneWaits (h : s.Exclusive) : s.AtMostOneWaits := by
  intro o o' ho ho'
  exact h.eq_of_holds (holds_of_waitsFor ho) (holds_of_waitsFor ho')

/-- Where at most task `o` is inside, only `o` has to be checked. -/
theorem exclusive_of_only {o : CfgOwner} (honly : ∀ o', o' ≠ o → ¬s.Holds o')
    (hmutex : s.Holds o → s.mutex = some o)
    (harmed : ∀ addr opcode w, s.waitsFor o = some (addr, opcode, w) →
      w.Armed addr opcode s.wait) : s.Exclusive := by
  refine ⟨?_, ?_⟩
  · intro o' ho'
    by_cases heq : o' = o
    · rw [heq] at ho' ⊢
      exact hmutex ho'
    · exact absurd ho' (honly o' heq)
  · intro o' addr opcode w hw
    by_cases heq : o' = o
    · rw [heq] at hw
      exact harmed addr opcode w hw
    · exact absurd (holds_of_waitsFor (by rw [hw]; rfl)) (honly o' heq)

theorem threads_setThread_self (s : CfgSystem) (i : ℕ) (th : CfgThread) :
    (s.setThread i th).threads i = th := Function.update_self _ _ _

theorem threads_setThread_other (s : CfgSystem) (th : CfgThread) {i j : ℕ} (h : j ≠ i) :
    (s.setThread i th).threads j = s.threads j := Function.update_of_ne h _ _

/-- What a configuration task does leaves the place of every other task. -/
theorem holds_setThread (s : CfgSystem) (i : ℕ) (th : CfgThread) {o : CfgOwner}
    (ho : o ≠ .config i) : (s.setThread i th).Holds o ↔ s.Holds o := by
  cases o with
  | ping => exact Iff.rfl
  | config j =>
    have hji : j ≠ i := by
      intro hji
      rw [hji] at ho
      exact ho rfl
    rw [holds_config, holds_config, threads_setThread_other _ _ hji]

/-- `wait_cfg_ack` writes the wait variables before it relies on them. -/
theorem waitCfgAck_armed {addr : UInt16} {opcode : UInt32} {timedOut : Bool} {v v' : AckWait}
    {w w' : WaitPhase} (hw : w.Armed addr opcode v)
    (h : waitCfgAck addr opcode timedOut v w = some (.inl w', v')) : w'.Armed addr opcode v' := by
  cases w with
  | clearBits =>
    cases h
    trivial
  | setAddr =>
    cases h
    rfl
  | setOpcode =>
    cases h
    exact ⟨hw, rfl⟩
  | waitBits =>
    unfold waitCfgAck at h
    split_ifs at h
    · cases h
      trivial
    · cases h
      trivial
  | resetAddr acked =>
    cases h
    trivial
  | resetOpcode acked => cases h

theorem waited_phase (th : CfgThread) (step : CfgStep) (attempt acks : ℕ) (r : WaitPhase ⊕ Bool) :
    (th.waited step attempt acks r).task = th.task ∧
      ∀ step' attempt' w, (th.waited step attempt acks r).phase = .wait step' attempt' w →
        r = .inl w ∧ step' = step := by
  cases r with
  | inl w =>
    refine ⟨rfl, ?_⟩
    intro step' attempt' w' h
    cases h
    exact ⟨rfl, rfl⟩
  | inr acked =>
    cases acked with
    | false =>
      refine ⟨rfl, ?_⟩
      intro step' attempt' w' h
      unfold CfgThread.waited CfgThread.retry at h
      dsimp only at h
      split_ifs at h
    | true =>
      cases step with
      | appKeyAdd => exact ⟨rfl, fun _ _ _ h => by cases h⟩
      | modelAppBind => exact ⟨rfl, fun _ _ _ h => by cases h⟩

/-- A task inside the mutex moves on, still with the mutex or giving it up. -/
theorem CfgSystem.Exclusive.setThread (h : s.Exclusive) {i : ℕ} {th : CfgThread}
    (hs : s.Holds (.config i)) {s₁ : CfgSystem} (hthreads : s₁.threads = s.threads)
    (hping : s₁.ping = s.ping)
    (hmutex : th.phase.inside = true → s₁.mutex = some (.config i))
    (harmed : ∀ step attempt w, th.phase = .wait step attempt w →
      w.Armed th.task.addr step.opcode s₁.wait) : (s₁.setThread i th).Exclusive := by
  have hown := threads_setThread_self s₁ i th
  apply exclusive_of_only (o := .config i)
  · intro o ho
    rw [holds_setThread _ _ _ ho]
    intro hold
    apply ho
    apply h.eq_of_holds _ hs
    cases o with
    | ping =>
      unfold CfgSystem.Holds at hold ⊢
      rw [← hping]
      exact hold
    | config j =>
      unfold CfgSystem.Holds at hold ⊢
      rw [← hthreads]
      exact hold
  · intro hinside
    rw [holds_config, hown] at hinside
    exact hmutex hinside
  · intro addr opcode w hw
    rw [waitsFor_config, hown] at hw
    obtain ⟨r, hr, hw⟩ := Option.map_eq_some_iff.mp hw
    cases hw
    cases hphase : th.phase with
    | wait step attempt w' =>
      rw [hphase] at hr
      cases hr
      exact harmed step attempt w' hphase
    | _ =>
      rw [hphase] at hr
      cases hr

theorem exclusive_configStep (h : s.Exclusive) {i : ℕ} {ok : Bool}
    (hs : s.configStep i ok = some s') : s'.Exclusive := by
  cases configStep_move hs with
  | lock hphase hfree =>
    apply exclusive_of_only (o := .config i)
    · intro o ho
      rw [holds_setThread _ _ _ ho]
      exact h.not_holds_of_free hfree o
    · intro _
      rfl
    · intro addr opcode w hw
      rw [waitsFor_config, threads_setThread_self] at hw
      cases hw
  | sent hphase =>
    have hhold := holds_of_phase hphase rfl
    refine h.setThread hhold rfl rfl (fun _ => h.holds _ hhold) ?_
    intro step attempt w hw
    cases hw
    trivial
  | @notSent step attempt hphase =>
    have hhold := holds_of_phase hphase rfl
    refine h.setThread hhold rfl rfl (fun _ => h.holds _ hhold) ?_
    intro step' attempt' w hw
    have hretry := (waited_phase (s.threads i) step attempt 0 (.inr false)).2 step' attempt' w hw
    cases hretry.1
  | @waited step attempt w out v hphase hwait =>
    have hhold := holds_of_phase hphase rfl
    have harmed : w.Armed (s.threads i).task.addr step.opcode s.wait := by
      apply h.armed (.config i)
      rw [waitsFor_config, hphase]
      rfl
    refine h.setThread hhold rfl rfl (fun _ => h.holds _ hhold) ?_
    intro step' attempt' w' hw'
    obtain ⟨htask, hstay⟩ := waited_phase (s.threads i) step attempt s.acks.length out
    obtain ⟨hinl, hstep⟩ := hstay step' attempt' w' hw'
    rw [htask, hstep]
    apply waitCfgAck_armed harmed
    rw [hwait, ← hinl]
  | unlock hphase =>
    exact h.setThread (holds_of_phase hphase rfl) rfl rfl (fun hw => by cases hw)
      (fun _ _ _ hw => by cases hw)
  | start hphase | finish hphase | abort hphase =>
    -- still inside, and not waiting for an ACK
    have hhold := holds_of_phase hphase rfl
    exact h.setThread hhold rfl rfl (fun _ => h.holds _ hhold) (fun _ _ _ hw => by cases hw)

theorem exclusive_pingStep (h : s.Exclusive) {i : Fin bmtMaxNodes} {ok : Bool}
    (hs : s.pingStep i ok = some s') : s'.Exclusive := by
  have honly : s'.threads = s.threads → (s.Holds .ping ∨ s.mutex = none) →
      ∀ o, o ≠ .ping → ¬s'.Holds o := by
    intro hthreads hping o ho hold
    cases o with
    | ping => exact ho rfl
    | config j =>
      rw [holds_config, hthreads] at hold
      rcases hping with hinside | hfree
      · exact ho (h.eq_of_holds (o := .config j) hold hinside)
      · exact h.not_holds_of_free hfree (.config j) hold
  have hinside : ∀ {phase : PingPhase}, s.ping = phase → phase.inside = true → s.Holds .ping := by
    intro phase hping hin
    unfold CfgSystem.Holds
    rw [hping]
    exact hin
  cases pingStep_move hs with
  | turn hping =>
    refine ⟨?_, ?_⟩
    · intro o ho
      cases o with
      | ping => cases ho
      | config j => exact h.holds (.config j) ho
    · intro o addr opcode w hw
      cases o with
      | ping => cases hw
      | config j => exact h.armed (.config j) addr opcode w hw
  | lock hping hfree =>
    exact exclusive_of_only (honly rfl (Or.inr hfree)) (fun _ => rfl) (fun _ _ _ hw => by cases hw)
  | sent hping =>
    have hhold := hinside hping rfl
    refine exclusive_of_only (honly rfl (Or.inl hhold)) (fun _ => h.holds _ hhold) ?_
    intro addr opcode w hw
    cases hw
    trivial
  | @waits addr w w' v hping hwait =>
    have hhold := hinside hping rfl
    have harmed : w.Armed addr modelOpDefaultTtlGet s.wait := by
      apply h.armed .ping
      unfold CfgSystem.waitsFor
      rw [hping]
      rfl
    refine exclusive_of_only (honly rfl (Or.inl hhold)) (fun _ => h.holds _ hhold) ?_
    intro addr' opcode' w₁ hw₁
    cases hw₁
    exact waitCfgAck_armed harmed hwait
  | unlock hping =>
    exact exclusive_of_only (honly rfl (Or.inl (hinside hping rfl))) (fun hw => by cases hw)
      (fun _ _ _ hw => by cases hw)
  | notSent hping | waited hping _ =>
    have hhold := hinside hping rfl
    exact exclusive_of_only (honly rfl (Or.inl hhold)) (fun _ => h.holds _ hhold)
      (fun _ _ _ hw => by cases hw)

theorem CfgSystem.Exclusive.congr (h : s.Exclusive) (hthreads : s'.threads = s.threads)
    (hping : s'.ping = s.ping) (hmutex : s'.mutex = s.mutex) (haddr : s'.wait.addr = s.wait.addr)
    (hopcode : s'.wait.opcode = s.wait.opcode) : s'.Exclusive := by
  have hholds : ∀ o, s'.Holds o ↔ s.Holds o := by
    intro o
    unfold CfgSystem.Holds
    rw [hthreads, hping]
  refine ⟨?_, ?_⟩
  · intro o ho
    rw [hmutex]
    exact h.holds o ((hholds o).mp ho)
  · intro o addr opcode w hw
    have hold : s.waitsFor o = some (addr, opcode, w) := by
      unfold CfgSystem.waitsFor at hw ⊢
      rwa [hthreads, hping] at hw
    have harmed := h.armed o addr opcode w hold
    cases w with
    | setOpcode => exact haddr.trans harmed
    | waitBits => exact ⟨haddr.trans harmed.1, hopcode.trans harmed.2⟩
    | _ => trivial

theorem exclusive_provComplete (h : s.Exclusive) (addr : UInt16) (uuid : Uuid) (saved : Bool) :
    (s.provComplete addr uuid saved).Exclusive := by
  unfold CfgSystem.provComplete
  dsimp only
  cases (s.prov.provComplete addr uuid saved).tasks.drop s.prov.tasks.length with
  | nil => exact h.congr rfl rfl rfl rfl rfl
  | cons task rest =>
    have hprov : CfgSystem.Exclusive { s with
        prov := s.prov.provComplete addr uuid saved, created := s.created + 1 } :=
      h.congr rfl rfl rfl rfl rfl
    refine ⟨?_, ?_⟩
    · intro o ho
      by_cases heq : o = .config s.created
      · rw [heq, holds_config, threads_setThread_self] at ho
        cases ho
      · exact hprov.holds o ((holds_setThread _ _ _ heq).mp ho)
    · intro o addr' opcode w hw
      by_cases heq : o = .config s.created
      · rw [heq, waitsFor_config, threads_setThread_self] at hw
        cases hw
      · apply hprov.armed o
        cases o with
        | ping => exact hw
        | config j =>
          have hji : j ≠ s.created := by
            intro hji
            rw [hji] at heq
            exact heq rfl
          rw [waitsFor_config, threads_setThread_other _ _ hji] at hw
          exact hw

theorem exclusive_step {e : CfgEvent} (h : s.Exclusive) (hs : s.step e = some s') :
    s'.Exclusive := by
  cases e with
  | beacon b saved =>
    cases hs
    exact h.congr rfl rfl rfl rfl rfl
  | provComplete addr uuid saved =>
    cases hs
    exact exclusive_provComplete h addr uuid saved
  | config i ok => exact exclusive_configStep h hs
  | ping i ok => exact exclusive_pingStep h hs
  | clientCb event addr opcode errorCode =>
    cases hs
    unfold CfgSystem.cfgClientCb
    split_ifs
    · exact h.congr rfl rfl rfl rfl rfl
    · exact h.congr rfl rfl rfl rfl rfl
    · exact h

end Exclusive

/-- The ACK bit, or the value `wait_cfg_ack` has read from it, counts as an ACK of the step. -/
def WaitPhase.counts (bit : Bool) : WaitPhase → Bool
  | .clearBits => false
  | .setAddr => bit
  | .setOpcode => bit
  | .waitBits => bit
  | .resetAddr acked => acked
  | .resetOpcode acked => acked

def CfgThread.Started (th : CfgThread) (acks : List (UInt16 × UInt32)) (step : CfgStep) : Prop :=
  th.acksBefore step ≤ acks.length ∧ (step = .modelAppBind → th.Acked acks .appKeyAdd)

def CfgThread.Sound (th : CfgThread) (acks : List (UInt16 × UInt32)) (bit : Bool) : Prop :=
  match th.phase with
  | .send step _ => th.Started acks step
  | .wait step _ w => th.Started acks step ∧ (w.counts bit = true → th.Acked acks step)
  | .finish => ∀ step, th.Acked acks step
  | _ => True

def CfgSystem.AllSound (s : CfgSystem) : Prop := ∀ i, (s.threads i).Sound s.acks s.wait.bit

section Sound

variable {s s' : CfgSystem} {th : CfgThread} {acks : List (UInt16 × UInt32)}

theorem CfgThread.Acked.append {step : CfgStep} (h : th.Acked acks step)
    (ack : UInt16 × UInt32) : th.Acked (acks ++ [ack]) step := by
  unfold CfgThread.Acked at h ⊢
  rw [List.drop_append]
  exact List.mem_append_left _ h

theorem CfgThread.Started.append {step : CfgStep} (h : th.Started acks step)
    (ack : UInt16 × UInt32) : th.Started (acks ++ [ack]) step := by
  refine ⟨?_, ?_⟩
  · rw [List.length_append]
    exact h.1.trans (Nat.le_add_right _ _)
  · intro hbind
    exact (h.2 hbind).append ack

theorem CfgThread.Started.acked {step : CfgStep} (h : th.Started acks step) :
    th.Acked (acks ++ [(th.task.addr, step.opcode)]) step := by
  unfold CfgThread.Acked
  rw [List.drop_append_of_le_length h.1]
  exact List.mem_append_right _ (List.mem_singleton.mpr rfl)

theorem sound_of_outside (hout : ¬th.phase.inside = true) (bit : Bool) : th.Sound acks bit := by
  unfold CfgThread.Sound
  cases hphase : th.phase with
  | send step attempt => exact absurd (by rw [hphase]; rfl) hout
  | wait step attempt w => exact absurd (by rw [hphase]; rfl) hout
  | finish => exact absurd (by rw [hphase]; rfl) hout
  | _ => trivial

theorem retry_sound {step : CfgStep} (h : th.Started acks step) (attempt : ℕ) (bit : Bool) :
    (th.retry step attempt).Sound acks bit := by
  unfold CfgThread.retry CfgThread.Sound
  by_cases hmore : attempt < bmtCfgRetry
  · simp only [hmore, if_true]
    exact h
  · simp only [hmore, if_false]

theorem start_sound {step : CfgStep} (h : step = .modelAppBind → th.Acked acks .appKeyAdd)
    (bit : Bool) : (th.start step acks.length).Sound acks bit := by
  unfold CfgThread.start CfgThread.Sound
  refine ⟨?_, ?_⟩
  · dsimp only
    rw [Function.update_self]
  · intro hbind
    have hacked := h hbind
    unfold CfgThread.Acked at hacked ⊢
    dsimp only
    rw [hbind, Function.update_of_ne (by decide)]
    exact hacked

/-- What `xEventGroupWaitBits` returns is the bit it was called with, unless it is still waiting. -/
theorem waitCfgAck_waitBits {addr : UInt16} {opcode : UInt32} {timedOut : Bool} {v v' : AckWait}
    {out : WaitPhase ⊕ Bool} (h : waitCfgAck addr opcode timedOut v .waitBits = some (out, v')) :
    (v.bit = true ∨ timedOut = true) ∧ out = .inl (.resetAddr v.bit) := by
  unfold waitCfgAck at h
  split_ifs at h with hbit htimeout
  · cases h
    rw [hbit]
    exact ⟨Or.inl rfl, rfl⟩
  · cases h
    rw [Bool.eq_false_iff.mpr hbit]
    exact ⟨Or.inr htimeout, rfl⟩

/-- A statement of `wait_cfg_ack` leaves what counts as it was, and the last one returns it. -/
theorem waitCfgAck_counts {addr : UInt16} {opcode : UInt32} {timedOut : Bool} {v v' : AckWait}
    {w : WaitPhase} {out : WaitPhase ⊕ Bool}
    (h : waitCfgAck addr opcode timedOut v w = some (out, v')) :
    out.elim (fun w' => w'.counts v'.bit) id = w.counts v.bit := by
  cases w with
  | waitBits =>
    obtain ⟨-, rfl⟩ := waitCfgAck_waitBits h
    rfl
  | _ =>
    cases h
    rfl

theorem waited_sound {step : CfgStep} {attempt : ℕ} {timedOut : Bool} {v v' : AckWait}
    {w : WaitPhase} {out : WaitPhase ⊕ Bool} (hstarted : th.Started acks step)
    (hacked : w.counts v.bit = true → th.Acked acks step)
    (h : waitCfgAck th.task.addr step.opcode timedOut v w = some (out, v')) :
    (th.waited step attempt acks.length out).Sound acks v'.bit := by
  have hcounts := waitCfgAck_counts h
  cases out with
  | inl w' => exact ⟨hstarted, fun hbit => hacked (hcounts.symm.trans hbit)⟩
  | inr acked =>
    cases acked with
    | false => exact retry_sound hstarted attempt v'.bit
    | true =>
      have hown := hacked hcounts.symm
      cases step with
      | appKeyAdd => exact start_sound (fun _ => hown) v'.bit
      | modelAppBind =>
        intro step'
        cases step' with
        | appKeyAdd => exact hstarted.2 rfl
        | modelAppBind => exact hown

/-- Where at most one configuration task is inside, only that one has to be checked. -/
theorem allSound_setThread {i : ℕ} (honly : ∀ j, j ≠ i → ¬s.Holds (.config j)) {s₁ : CfgSystem}
    (hthreads : s₁.threads = s.threads) (hth : th.Sound s₁.acks s₁.wait.bit) :
    (s₁.setThread i th).AllSound := by
  intro j
  by_cases hji : j = i
  · rw [hji, threads_setThread_self]
    exact hth
  · rw [threads_setThread_other _ _ hji, hthreads]
    exact sound_of_outside (honly j hji) _

theorem allSound_configStep (hex : s.Exclusive) (h : s.AllSound) {i : ℕ} {ok : Bool}
    (hs : s.configStep i ok = some s') : s'.AllSound := by
  have honly : s.Holds (.config i) → ∀ j, j ≠ i → ¬s.Holds (.config j) := by
    intro hinside j hji hj
    have heq : CfgOwner.config j = .config i := hex.eq_of_holds hj hinside
    cases heq
    exact hji rfl
  have hi := h i
  unfold CfgThread.Sound at hi
  cases configStep_move hs with
  | lock hphase hfree =>
    exact allSound_setThread (fun j _ => hex.not_holds_of_free hfree (.config j)) rfl trivial
  | start hphase =>
    apply allSound_setThread (honly (holds_of_phase hphase rfl)) rfl
    apply start_sound
    intro hbind
    cases hbind
  | sent hphase =>
    rw [hphase] at hi
    exact allSound_setThread (honly (holds_of_phase hphase rfl)) rfl
      ⟨hi, fun hcounts => by cases hcounts⟩
  | @notSent step attempt hphase =>
    rw [hphase] at hi
    exact allSound_setThread (honly (holds_of_phase hphase rfl)) rfl (retry_sound hi attempt _)
  | waited hphase hwait =>
    rw [hphase] at hi
    exact allSound_setThread (honly (holds_of_phase hphase rfl)) rfl (waited_sound hi.1 hi.2 hwait)
  | finish hphase | abort hphase | unlock hphase =>
    exact allSound_setThread (honly (holds_of_phase hphase rfl)) rfl trivial

/-- The ping task writes the shared variables only while no configuration task is inside. -/
theorem allSound_pingStep (hex : s.Exclusive) (h : s.AllSound) {i : Fin bmtMaxNodes} {ok : Bool}
    (hs : s.pingStep i ok = some s') : s'.AllSound := by
  have hmove := pingStep_move hs
  have hthreads : s'.threads = s.threads := by
    cases hmove with
    | _ => rfl
  have hshared : (s'.acks = s.acks ∧ s'.wait = s.wait) ∨ s.Holds .ping := by
    unfold CfgSystem.Holds
    cases hmove with
    | waits hping _ | waited hping _ =>
      rw [hping]
      exact Or.inr rfl
    | _ => exact Or.inl ⟨rfl, rfl⟩
  intro j
  rw [hthreads]
  rcases hshared with hkept | hinside
  · rw [hkept.1, hkept.2]
    exact h j
  · apply sound_of_outside
    intro hj
    have heq : CfgOwner.config j = .ping := hex.eq_of_holds hj hinside
    cases heq

theorem allSound_provComplete (h : s.AllSound) (addr : UInt16) (uuid : Uuid) (saved : Bool) :
    (s.provComplete addr uuid saved).AllSound := by
  unfold CfgSystem.provComplete
  dsimp only
  cases (s.prov.provComplete addr uuid saved).tasks.drop s.prov.tasks.length with
  | nil => exact h
  | cons task rest =>
    intro j
    by_cases hj : j = s.created
    · rw [hj, threads_setThread_self]
      trivial
    · rw [threads_setThread_other _ _ hj]
      exact h j

/-- The callback sets the bit for the step that waits, or is being armed, by an ACK of its own. -/
theorem allSound_cfgClientCb (hex : s.Exclusive) (h : s.AllSound) {event : CfgClientEvent}
    {addr : UInt16} {opcode : UInt32} {errorCode : ℤ}
    (hown : s.OwnAckWhileArming (.clientCb event addr opcode errorCode)) :
    (s.cfgClientCb event addr opcode errorCode).AllSound := by
  unfold CfgSystem.cfgClientCb
  by_cases hack : event.isAck errorCode = true
  · rw [if_pos hack]
    intro i
    have hi := h i
    unfold CfgThread.Sound at hi ⊢
    dsimp only
    cases hphase : (s.threads i).phase with
    | send step attempt =>
      rw [hphase] at hi
      exact hi.append _
    | finish =>
      rw [hphase] at hi
      exact fun step => (hi step).append _
    | wait step attempt w =>
      rw [hphase] at hi
      refine ⟨hi.1.append _, ?_⟩
      intro hcounts
      by_cases hold : w.counts s.wait.bit = true
      · exact (hi.2 hold).append _
      · -- the bit has just been set, so the ACK matched the wait variables
        have hwaits : s.waitsFor (.config i) =
            some ((s.threads i).task.addr, step.opcode, w) := by
          rw [waitsFor_config, hphase]
          rfl
        have hmatch : addr = s.wait.addr ∧ opcode = s.wait.opcode := by
          by_contra hno
          rw [if_neg hno] at hcounts
          exact hold hcounts
        have hmutex := hex.holds (.config i) (holds_of_waitsFor (by rw [hwaits]; rfl))
        have hack' : (addr, opcode) = ((s.threads i).task.addr, step.opcode) := by
          have harmed := hex.armed (.config i) _ _ _ hwaits
          have harming := hown hack hmatch.1 hmatch.2 ((s.threads i).task.addr, step.opcode)
          unfold CfgSystem.arming at harming
          rw [hmutex] at harming
          dsimp only at harming
          rw [hwaits] at harming
          cases w with
          | clearBits => cases hcounts
          | setAddr => exact (harming rfl).symm
          | setOpcode => exact (harming rfl).symm
          | waitBits => rw [hmatch.1, hmatch.2, harmed.1, harmed.2]
          | resetAddr acked => exact absurd hcounts hold
          | resetOpcode acked => exact absurd hcounts hold
        rw [hack']
        exact hi.1.acked
    | _ => trivial
  · rw [if_neg hack]
    exact h

theorem allSound_step {e : CfgEvent} (hex : s.Exclusive) (h : s.AllSound)
    (hown : s.OwnAckWhileArming e) (hs : s.step e = some s') : s'.AllSound := by
  cases e with
  | beacon b saved =>
    cases hs
    exact h
  | provComplete addr uuid saved =>
    cases hs
    exact allSound_provComplete h addr uuid saved
  | config i ok => exact allSound_configStep hex h hs
  | ping i ok => exact allSound_pingStep hex h hs
  | clientCb event addr opcode errorCode =>
    cases hs
    exact allSound_cfgClientCb hex h hown

end Sound

section Done

theorem done_of_update {nodes : NodeTable} {i j : Fin bmtMaxNodes} {n : Node}
    (hn : n.configDone = true → (nodes i).configDone = true)
    (h : (Function.update nodes i n j).configDone = true) : (nodes j).configDone = true := by
  by_cases hji : j = i
  · rw [hji, Function.update_self] at h
    rw [hji]
    exact hn h
  · rwa [Function.update_of_ne hji] at h

theorem done_recvUnprovAdvPkt {p : Provisioner} {b : Beacon} {saved : Bool}
    {j : Fin bmtMaxNodes} (h : ((p.recvUnprovAdvPkt b saved).1.nodes j).configDone = true) :
    (p.nodes j).configDone = true := by
  unfold Provisioner.recvUnprovAdvPkt at h
  dsimp only at h
  cases hmode : p.scanList.mode with
  | manual =>
    rw [hmode] at h
    exact h
  | auto =>
    rw [hmode] at h
    cases hfind : SlotTable.find (Node.isOf b.uuid) p.nodes with
    | none =>
      rw [hfind] at h
      exact h
    | some stale =>
      rw [hfind] at h
      dsimp only at h
      split_ifs at h
      · exact done_of_update (fun hdone => by cases hdone) h
      · exact h

theorem done_provComplete {p : Provisioner} {addr : UInt16} {uuid : Uuid} {saved : Bool}
    {j : Fin bmtMaxNodes} (h : ((p.provComplete addr uuid saved).nodes j).configDone = true) :
    (p.nodes j).configDone = true := by
  have hadd : ∀ mac, ((bmtNodeTableAdd addr uuid mac p.nodes).2 j).configDone = true →
      (p.nodes j).configDone = true := by
    intro mac hj
    rcases bmtNodeTableAdd_cases addr uuid mac p.nodes with hown | hnew | hfull
    · obtain ⟨i, -, heq⟩ := hown
      rw [heq] at hj
      exact done_of_update (n := { p.nodes i with uuid := uuid, mac := mac }) id hj
    · obtain ⟨i, -, -, heq⟩ := hnew
      rw [heq] at hj
      exact done_of_update (fun hdone => by cases hdone) hj
    · rw [hfull.2.2] at hj
      exact hj
  unfold Provisioner.provComplete at h
  dsimp only at h
  split at h
  · exact hadd _ h
  · split_ifs at h
    · exact hadd _ (done_of_update (fun hdone => by cases hdone) h)
    · exact hadd _ h

theorem done_cfgAbortCleanup {p : Provisioner} {t : ConfigTask} {saved : Bool}
    {j : Fin bmtMaxNodes} (h : ((p.cfgAbortCleanup t saved).1.nodes j).configDone = true) :
    (p.nodes j).configDone = true := by
  unfold Provisioner.cfgAbortCleanup at h
  dsimp only at h
  cases hfind : bmtNodeTableFind t.addr p.nodes with
  | none =>
    rw [hfind] at h
    exact h
  | some i =>
    rw [hfind] at h
    exact done_of_update (fun hdone => by cases hdone) h

theorem done_configured {p : Provisioner} {t : ConfigTask} {saved : Bool} {j : Fin bmtMaxNodes}
    (hold : (p.nodes j).configDone = false)
    (h : ((p.configured t saved).1.nodes j).configDone = true) :
    ((p.configured t saved).1.nodes j).addr = t.addr := by
  unfold Provisioner.configured at h ⊢
  dsimp only at h ⊢
  cases hfind : bmtNodeTableFind t.addr p.nodes with
  | none =>
    rw [hfind] at h
    dsimp only at h
    rw [hold] at h
    cases h
  | some i =>
    rw [hfind] at h
    dsimp only [Provisioner.write] at h ⊢
    by_cases hji : j = i
    · rw [hji, Function.update_self]
      exact (isAt_iff.mp (SlotTable.find_sat hfind)).2
    · rw [Function.update_of_ne hji, hold] at h
      cases h

variable {s s' : CfgSystem}

theorem configStep_prov {i : ℕ} {ok : Bool} (hs : s.configStep i ok = some s') :
    s'.prov = s.prov ∨ s'.prov = (s.prov.cfgAbortCleanup (s.threads i).task ok).1 ∨
      (s.threads i).phase = .finish ∧ s'.prov = (s.prov.configured (s.threads i).task ok).1 := by
  cases configStep_move hs with
  | finish hphase => exact Or.inr (Or.inr ⟨hphase, rfl⟩)
  | abort hphase => exact Or.inr (Or.inl rfl)
  | _ => exact Or.inl rfl

theorem pingStep_prov {i : Fin bmtMaxNodes} {ok : Bool} (hs : s.pingStep i ok = some s') :
    s'.prov = s.prov := by
  cases pingStep_move hs with
  | _ => rfl

theorem provComplete_prov (s : CfgSystem) (addr : UInt16) (uuid : Uuid) (saved : Bool) :
    (s.provComplete addr uuid saved).prov = s.prov.provComplete addr uuid saved := by
  unfold CfgSystem.provComplete
  dsimp only
  split
  · rfl
  · rfl

theorem cfgClientCb_prov (s : CfgSystem) (event : CfgClientEvent) (addr : UInt16)
    (opcode : UInt32) (errorCode : ℤ) :
    (s.cfgClientCb event addr opcode errorCode).prov = s.prov := by
  unfold CfgSystem.cfgClientCb
  split_ifs
  · rfl
  · rfl
  · rfl

/-- Where every task has come by ACKs of its own, `config_done` is set by these alone. -/
theorem doneOnlyAcked_of_allSound (h : s.AllSound) (e : CfgEvent) : s.DoneOnlyAcked e := by
  intro s' hs j hold hnew
  have hkept : ¬(s.prov.nodes j).configDone = true := by
    rw [hold]
    exact Bool.false_ne_true
  cases e with
  | beacon b saved =>
    cases hs
    exact absurd (done_recvUnprovAdvPkt hnew) hkept
  | provComplete addr uuid saved =>
    cases hs
    rw [provComplete_prov] at hnew
    exact absurd (done_provComplete hnew) hkept
  | config i ok =>
    rcases configStep_prov hs with hsame | habort | hfinish
    · rw [hsame] at hnew
      exact absurd hnew hkept
    · rw [habort] at hnew
      exact absurd (done_cfgAbortCleanup hnew) hkept
    · obtain ⟨hphase, hprov⟩ := hfinish
      have hi := h i
      unfold CfgThread.Sound at hi
      rw [hphase] at hi
      rw [hprov] at hnew ⊢
      exact ⟨(done_configured hold hnew).symm, hi⟩
  | ping i ok =>
    rw [pingStep_prov hs] at hnew
    exact absurd hnew hkept
  | clientCb event addr opcode errorCode =>
    cases hs
    rw [cfgClientCb_prov] at hnew
    exact absurd hnew hkept

end Done

def CfgSystem.start (prov : Provisioner) : CfgSystem := { prov }

theorem exclusive_start (prov : Provisioner) : (CfgSystem.start prov).Exclusive := by
  refine ⟨?_, ?_⟩
  · intro o ho
    cases o with
    | config i => cases ho
    | ping => cases ho
  · intro o addr opcode w hw
    cases o with
    | config i => cases hw
    | ping => cases hw

/-- In every interleaving at most one step or ping waits for an ACK; and where no foreign ACK
matches the wait variables while a step is being armed, `config_done` is set only after both steps
were acknowledged by the node itself. -/
theorem config_done_only_acked (prov : Provisioner) (es : List CfgEvent) :
    Run.Throughout CfgSystem.step CfgSystem.AtMostOneWaits (.start prov) es ∧
      (Run.Meets CfgSystem.step CfgSystem.OwnAckWhileArming (.start prov) es →
        Run.Meets CfgSystem.step CfgSystem.DoneOnlyAcked (.start prov) es) := by
  refine ⟨?_, ?_⟩
  · have hex : Run.Throughout CfgSystem.step CfgSystem.Exclusive (.start prov) es :=
      Run.throughout_of_forall (fun _ _ _ h hs => exclusive_step h hs) es (exclusive_start prov)
    exact hex.mono fun _ h => h.atMostOneWaits
  · intro hown
    refine Run.meets_of_meets (P := fun s => s.Exclusive ∧ s.AllSound) ?_ ?_ ?_ hown
    · intro s e s' h he hs
      exact ⟨exclusive_step h.1 hs, allSound_step h.1 h.2 he hs⟩
    · intro s e _ h _ _
      exact doneOnlyAcked_of_allSound h.2 e
    · exact ⟨exclusive_start prov, fun _ => trivial⟩

def relayStarts : List CfgEvent :=
  [.provComplete 5 relayUuid true, .config 0 true, .config 0 true, .config 0 true]

def relayAck (opcode : UInt32) : CfgEvent := .clientCb .setState 5 opcode 0

def relayRuns (n : ℕ) : List CfgEvent := List.replicate n (.config 0 true)

/-- Both steps are acknowledged in turn, and the relay is configured. -/
def relayAcked : List CfgEvent :=
  relayStarts ++ relayRuns 3 ++ [relayAck modelOpAppKeyAdd] ++ relayRuns 7 ++
    [relayAck modelOpModelAppBind] ++ relayRuns 5

/-- The ACK of step 1 arrives once more after step 2 has written `s_cfg_wait_addr`. -/
def relayAckedTwice : List CfgEvent :=
  relayStarts ++ relayRuns 3 ++ [relayAck modelOpAppKeyAdd] ++ relayRuns 6 ++
    [relayAck modelOpAppKeyAdd] ++ relayRuns 5

theorem config_done_only_acked_relay :
    Run.Meets CfgSystem.step CfgSystem.DoneOnlyAcked (.start {}) relayAcked :=
  (config_done_only_acked {} relayAcked).2 (by decide +kernel)

/-- `s_cfg_wait_opcode` of a step being armed is 0, which is the opcode of step 1: its second ACK is
taken for the one of step 2, which the relay has never sent. -/
theorem config_done_without_bind_relay :
    ¬Run.Meets CfgSystem.step CfgSystem.DoneOnlyAcked (.start {}) relayAckedTwice := by
  decide +kernel

end BleMeshTracking.Gateway
