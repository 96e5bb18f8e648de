import BleMeshTracking.Gateway.ConfigAcks

/-!
# Acknowledgements that come too soon

`cfg_send_retry` hands a request to the mesh stack before `wait_cfg_ack` clears the ACK bit and
writes the wait variables.  Beside each configuration task stands what its node has answered in the
current attempt, which the code does not see.
-/

namespace BleMeshTracking.Gateway

/-- The answers of the node of one `node_config_task`. -/
structure AttemptWatch where
  /-- An ACK of the node for the opcode came after the request of this attempt was handed to the
  stack, and before its wait was over. -/
  inTime : Bool := false
  /-- One of them came before the wait was armed for it. -/
  early : Bool := false
  /-- The stack took a request of the current step. -/
  handed : Bool := false
  /-- A request that the stack took was not acknowledged in time. -/
  missed : Bool := false

def WaitPhase.isOpen : WaitPhase → Bool
  | .resetAddr _ => false
  | .resetOpcode _ => false
  | _ => true

def WaitPhase.result : WaitPhase → Option Bool
  | .resetAddr acked => some acked
  | .resetOpcode acked => some acked
  | _ => none

/-- An ACK would set the bit, which is not cleared any more. -/
def CfgSystem.Catches (s : CfgSystem) (w : WaitPhase) (addr : UInt16) (opcode : UInt32) : Prop :=
  w ≠ .clearBits ∧ addr = s.wait.addr ∧ opcode = s.wait.opcode

instance (s : CfgSystem) (w : WaitPhase) (addr : UInt16) (opcode : UInt32) :
    Decidable (s.Catches w addr opcode) :=
  inferInstanceAs (Decidable (_ ∧ _))

def AttemptWatch.ack (s : CfgSystem) (i : ℕ) (addr : UInt16) (opcode : UInt32)
    (a : AttemptWatch) : AttemptWatch :=
  match (s.threads i).phase with
  | .wait step _ w =>
    if w.isOpen = true ∧ addr = (s.threads i).task.addr ∧ opcode = step.opcode then
      { a with inTime := true, early := a.early || !decide (s.Catches w addr opcode) }
    else a
  | _ => a

def AttemptWatch.config (s : CfgSystem) (i : ℕ) (ok : Bool) (a : AttemptWatch) : AttemptWatch :=
  match (s.threads i).phase with
  | .delay => { a with handed := false }
  | .send _ _ => if ok then { a with inTime := false, early := false, handed := true } else a
  | .wait _ _ (.resetOpcode acked) =>
    if acked then { a with handed := false } else { a with missed := a.missed || !a.inTime }
  | _ => a

def AttemptWatch.after (s : CfgSystem) (i : ℕ) (a : AttemptWatch) : CfgEvent → AttemptWatch
  | .config j ok => if j = i then a.config s i ok else a
  | .clientCb event addr opcode errorCode =>
    if event.isAck errorCode then a.ack s i addr opcode else a
  | _ => a

structure WatchedSystem where
  sys : CfgSystem
  watch : ℕ → AttemptWatch := fun _ => {}

def WatchedSystem.step (t : WatchedSystem) (e : CfgEvent) : Option WatchedSystem :=
  (t.sys.step e).map fun s' => { sys := s', watch := fun i => (t.watch i).after t.sys i e }

/-- The watch is only an observer. -/
theorem WatchedSystem.step_sys (t : WatchedSystem) (e : CfgEvent) :
    (t.step e).map WatchedSystem.sys = t.sys.step e := by
  unfold WatchedSystem.step
  rw [Option.map_map]
  exact Option.map_id'

/-- An attempt that was acknowledged in time returns success. -/
def AttemptWatch.Returned (a : AttemptWatch) (phase : CfgPhase) : Prop :=
  ∀ step attempt w, phase = .wait step attempt w →
    ∀ acked ∈ w.result, a.inTime = true → acked = true

/-- So does every attempt, and an entry is deleted only where a request was not acknowledged in
time, or the stack took none of the failing step. -/
structure WatchedSystem.NoAckLost (t : WatchedSystem) : Prop where
  returned : ∀ i, (t.watch i).Returned (t.sys.threads i).phase
  aborted : ∀ i, (t.sys.threads i).phase = .abort →
    (t.watch i).missed = true ∨ (t.watch i).handed = false

/-- Where a wait times out, no ACK had come before it was armed. -/
def WatchedSystem.NoneEarly (t : WatchedSystem) : CfgEvent → Prop
  | .config i ok => ∀ step attempt, (t.sys.threads i).phase = .wait step attempt .waitBits →
    ok = false → t.sys.wait.bit = false → (t.watch i).early = false
  | _ => True

section Step

variable {s s' : CfgSystem} {i : ℕ} {e : CfgEvent}

/-- A task is changed by its own statements, and when it is created. -/
theorem threads_of_ne (hs : s.step e = some s') (hne : ∀ ok, e ≠ .config i ok) :
    s'.threads i = s.threads i ∨ (s'.threads i).phase = .takeMutex := by
  cases e with
  | beacon b saved =>
    cases hs
    exact Or.inl rfl
  | provComplete addr uuid saved =>
    cases hs
    unfold CfgSystem.provComplete
    dsimp only
    split
    · exact Or.inl rfl
    · by_cases hi : i = s.created
      · rw [hi, threads_setThread_self]
        exact Or.inr rfl
      · exact Or.inl (threads_setThread_other _ _ hi)
  | config j ok =>
    have hij : i ≠ j := fun h => hne ok (by rw [h])
    cases configStep_move hs <;> exact Or.inl (threads_setThread_other _ _ hij)
  | ping j ok =>
    cases pingStep_move hs <;> exact Or.inl rfl
  | clientCb event addr opcode errorCode =>
    cases hs
    unfold CfgSystem.cfgClientCb
    split_ifs <;> exact Or.inl rfl

/-- While a task is inside the mutex, only its own statements clear the ACK bit. -/
theorem bit_of_ne (hex : s.Exclusive) (hin : s.Holds (.config i)) (hs : s.step e = some s')
    (hne : ∀ ok, e ≠ .config i ok) (hbit : s.wait.bit = true) : s'.wait.bit = true := by
  cases e with
  | beacon b saved =>
    cases hs
    exact hbit
  | provComplete addr uuid saved =>
    cases hs
    unfold CfgSystem.provComplete
    dsimp only
    split <;> exact hbit
  | config j ok =>
    cases configStep_move hs with
    | waited hphase hwait =>
      -- the other task would be inside as well
      have heq := hex.eq_of_holds hin (holds_of_phase hphase rfl)
      cases heq
      exact absurd rfl (hne ok)
    | _ => exact hbit
  | ping j ok =>
    have houtside : ¬s.Holds .ping := by
      intro hping
      cases hex.eq_of_holds hin hping
    unfold CfgSystem.Holds at houtside
    cases pingStep_move hs with
    | waits hping _ | waited hping _ =>
      rw [hping] at houtside
      exact absurd rfl houtside
    | _ => exact hbit
  | clientCb event addr opcode errorCode =>
    cases hs
    unfold CfgSystem.cfgClientCb
    split_ifs
    · rfl
    · exact hbit
    · exact hbit

theorem configStep_send {ok : Bool} {step : CfgStep} {attempt : ℕ}
    (hphase : (s.threads i).phase = .send step attempt) (hs : s.configStep i ok = some s') :
    s' = s.setThread i (if ok then { s.threads i with phase := .wait step attempt .clearBits }
      else (s.threads i).retry step attempt) := by
  unfold CfgSystem.configStep at hs
  dsimp only at hs
  rw [hphase] at hs
  cases ok with
  | false =>
    cases hs
    rfl
  | true =>
    cases hs
    rfl

theorem configStep_wait {ok : Bool} {step : CfgStep} {attempt : ℕ} {w : WaitPhase}
    (hphase : (s.threads i).phase = .wait step attempt w) (hs : s.configStep i ok = some s') :
    ∃ out v, waitCfgAck (s.threads i).task.addr step.opcode (!ok) s.wait w = some (out, v) ∧
      s' = { s with wait := v }.setThread i
        ((s.threads i).waited step attempt s.acks.length out) := by
  unfold CfgSystem.configStep at hs
  dsimp only at hs
  rw [hphase] at hs
  obtain ⟨⟨out, v⟩, hr, hs'⟩ := Option.map_eq_some_iff.mp hs
  cases hs'
  exact ⟨out, v, hr, rfl⟩

end Step

def AttemptWatch.Fits (a : AttemptWatch) (bit : Bool) (phase : CfgPhase) : Prop :=
  ∀ step attempt w, phase = .wait step attempt w →
    (a.early = true → a.inTime = true) ∧
      (a.inTime = true → a.early = true ∨ w.counts bit = true)

def AttemptWatch.Unanswered (a : AttemptWatch) (phase : CfgPhase) : Prop :=
  (phase = .abort ∨ ∃ step attempt, phase = .send step attempt) →
    a.missed = true ∨ a.handed = false

section Attempt

variable {s s' : CfgSystem} {i : ℕ} {a : AttemptWatch}

theorem fits_of_phase {bit : Bool} {phase : CfgPhase}
    (h : ∀ step attempt w, phase ≠ .wait step attempt w) : a.Fits bit phase :=
  fun step attempt w hphase => absurd hphase (h step attempt w)

theorem returned_of_phase {phase : CfgPhase}
    (h : ∀ step attempt w, phase ≠ .wait step attempt w) : a.Returned phase :=
  fun step attempt w hphase => absurd hphase (h step attempt w)

theorem waited_inr_phase (th : CfgThread) (step : CfgStep) (attempt acks : ℕ) (acked : Bool) :
    ∀ step' attempt' w, (th.waited step attempt acks (.inr acked)).phase ≠
      .wait step' attempt' w := by
  intro step' attempt' w hw
  have h := (waited_phase th step attempt acks (.inr acked)).2 step' attempt' w hw
  cases h.1

theorem configStep_phase {ok : Bool} (hs : s.configStep i ok = some s')
    (hwait : ∀ step attempt w, (s.threads i).phase ≠ .wait step attempt w)
    (hsend : ∀ step attempt, (s.threads i).phase ≠ .send step attempt) :
    ∀ step attempt w, (s'.threads i).phase ≠ .wait step attempt w := by
  intro step attempt w hw
  cases configStep_move hs with
  | sent hphase => exact hsend _ _ hphase
  | notSent hphase => exact hsend _ _ hphase
  | waited hphase _ => exact hwait _ _ _ hphase
  | _ =>
    rw [threads_setThread_self] at hw
    cases hw

theorem config_of_inl {ok : Bool} {step : CfgStep} {attempt : ℕ} {w w' : WaitPhase}
    {addr : UInt16} {opcode : UInt32} {timedOut : Bool} {v v' : AckWait}
    (hphase : (s.threads i).phase = .wait step attempt w)
    (h : waitCfgAck addr opcode timedOut v w = some (.inl w', v')) : a.config s i ok = a := by
  unfold AttemptWatch.config
  rw [hphase]
  cases w with
  | resetOpcode acked => cases h
  | _ => rfl

theorem fits_config {ok : Bool} (h : a.Fits s.wait.bit (s.threads i).phase)
    (hs : s.configStep i ok = some s') :
    (a.config s i ok).Fits s'.wait.bit (s'.threads i).phase := by
  cases hphase : (s.threads i).phase with
  | send step attempt =>
    rw [configStep_send hphase hs, threads_setThread_self]
    cases ok with
    | false =>
      apply fits_of_phase
      exact waited_inr_phase (s.threads i) step attempt 0 false
    | true =>
      -- a new attempt: nothing has come yet
      unfold AttemptWatch.config
      rw [hphase]
      intro step' attempt' w hw
      cases hw
      exact ⟨fun he => absurd he Bool.false_ne_true, fun hi => absurd hi Bool.false_ne_true⟩
  | wait step attempt w =>
    obtain ⟨out, v, hwait, rfl⟩ := configStep_wait hphase hs
    rw [threads_setThread_self]
    cases out with
    | inr acked => exact fits_of_phase (waited_inr_phase _ _ _ _ _)
    | inl w' =>
      rw [config_of_inl hphase hwait]
      obtain ⟨hearly, hcounts⟩ := h step attempt w hphase
      intro step' attempt' w'' hw
      cases hw
      exact ⟨hearly, fun hi => (hcounts hi).imp_right (waitCfgAck_counts hwait).trans⟩
  | _ =>
    apply fits_of_phase
    apply configStep_phase hs
    · exact fun _ _ _ hw => by cases hphase.symm.trans hw
    · exact fun _ _ hw => by cases hphase.symm.trans hw

/-- An ACK is caught, or it is early. -/
theorem fits_ack (h : a.Fits s.wait.bit (s.threads i).phase) {addr : UInt16} {opcode : UInt32} :
    (a.ack s i addr opcode).Fits
      (if addr = s.wait.addr ∧ opcode = s.wait.opcode then true else s.wait.bit)
      (s.threads i).phase := by
  intro step attempt w hphase
  obtain ⟨hearly, hcounts⟩ := h step attempt w hphase
  have hset : w.counts s.wait.bit = true → w.counts
      (if addr = s.wait.addr ∧ opcode = s.wait.opcode then true else s.wait.bit) = true := by
    intro hc
    split_ifs
    · cases w with
      | clearBits => exact hc
      | resetAddr acked => exact hc
      | resetOpcode acked => exact hc
      | _ => rfl
    · exact hc
  unfold AttemptWatch.ack
  rw [hphase]
  dsimp only
  split_ifs with hown hmatch hmatch
  · refine ⟨fun _ => rfl, fun _ => ?_⟩
    cases w with
    | clearBits =>
      left
      simp [CfgSystem.Catches]
    | resetAddr acked => exact absurd hown.1 Bool.false_ne_true
    | resetOpcode acked => exact absurd hown.1 Bool.false_ne_true
    | _ => exact Or.inr rfl
  · refine ⟨fun _ => rfl, fun _ => Or.inl ?_⟩
    simp [CfgSystem.Catches, hmatch]
  · rw [if_pos hmatch] at hset
    exact ⟨hearly, fun hi => (hcounts hi).imp_right hset⟩
  · exact ⟨hearly, hcounts⟩

theorem ack_of_closed {addr : UInt16} {opcode : UInt32} {step : CfgStep} {attempt : ℕ}
    {w : WaitPhase} (hphase : (s.threads i).phase = .wait step attempt w)
    (hw : w.isOpen = false) : a.ack s i addr opcode = a := by
  unfold AttemptWatch.ack
  rw [hphase]
  dsimp only
  rw [if_neg]
  rw [hw]
  exact fun h => Bool.false_ne_true h.1

theorem ack_kept (addr : UInt16) (opcode : UInt32) :
    (a.ack s i addr opcode).missed = a.missed ∧ (a.ack s i addr opcode).handed = a.handed := by
  unfold AttemptWatch.ack
  split
  · split_ifs
    · exact ⟨rfl, rfl⟩
    · exact ⟨rfl, rfl⟩
  · exact ⟨rfl, rfl⟩

/-- One statement of a task: its attempt returns what came in time unless the wait times out on an
early ACK. -/
theorem returned_config_iff {ok : Bool} (hfits : a.Fits s.wait.bit (s.threads i).phase)
    (h : a.Returned (s.threads i).phase) (hs : s.configStep i ok = some s') :
    (a.config s i ok).Returned (s'.threads i).phase ↔
      ∀ step attempt, (s.threads i).phase = .wait step attempt .waitBits →
        ok = false → s.wait.bit = false → a.early = false := by
  cases hphase : (s.threads i).phase with
  | send step attempt =>
    refine iff_of_true ?_ fun _ _ hw => by cases hw
    rw [configStep_send hphase hs, threads_setThread_self]
    cases ok with
    | false => exact returned_of_phase (waited_inr_phase (s.threads i) step attempt 0 false)
    | true =>
      intro step' attempt' w hw acked hacked
      cases hw
      cases hacked
  | wait step attempt w =>
    obtain ⟨out, v, hwait, rfl⟩ := configStep_wait hphase hs
    rw [threads_setThread_self]
    cases w with
    | clearBits | setAddr | setOpcode =>
      cases hwait
      refine iff_of_true ?_ fun _ _ hw => by cases hw
      intro step' attempt' w hw acked hacked
      cases hw
      cases hacked
    | waitBits =>
      obtain ⟨hdone, rfl⟩ := waitCfgAck_waitBits hwait
      obtain ⟨hearly, hcounts⟩ := hfits step attempt .waitBits hphase
      rw [config_of_inl hphase hwait]
      refine ⟨?_, ?_⟩
      · intro hret _ _ _ _ hclear
        apply Bool.eq_false_iff.mpr
        intro he
        have hbit : s.wait.bit = true := hret step attempt _ rfl s.wait.bit rfl (hearly he)
        exact Bool.false_ne_true (hclear.symm.trans hbit)
      · intro hnone step' attempt' w hw acked hacked hi
        cases hw
        cases hacked
        rcases hcounts hi with hlate | hbit
        · -- an early ACK counts only if the wait does not time out
          by_contra hbit
          have hclear : s.wait.bit = false := Bool.eq_false_iff.mpr hbit
          have hok : ok = false := by simpa [hclear] using hdone
          exact Bool.false_ne_true ((hnone step attempt rfl hok hclear).symm.trans hlate)
        · exact hbit
    | resetAddr acked =>
      cases hwait
      refine iff_of_true ?_ fun _ _ hw => by cases hw
      intro step' attempt' w hw acked' hacked hi
      cases hw
      unfold AttemptWatch.config at hi
      rw [hphase] at hi
      exact h step attempt _ hphase acked' hacked hi
    | resetOpcode acked =>
      cases hwait
      exact iff_of_true (returned_of_phase (waited_inr_phase _ _ _ _ _)) fun _ _ hw => by cases hw
  | _ =>
    refine iff_of_true ?_ fun _ _ hw => by cases hw
    apply returned_of_phase
    apply configStep_phase hs
    · exact fun _ _ _ hw => by cases hphase.symm.trans hw
    · exact fun _ _ hw => by cases hphase.symm.trans hw

/-- A failed attempt whose result told of what came in time was not acknowledged. -/
theorem unanswered_config {ok : Bool} (hret : a.Returned (s.threads i).phase)
    (h : a.Unanswered (s.threads i).phase) (hs : s.configStep i ok = some s') :
    (a.config s i ok).Unanswered (s'.threads i).phase := by
  cases hphase : (s.threads i).phase with
  | delay =>
    intro _
    unfold AttemptWatch.config
    rw [hphase]
    exact Or.inr rfl
  | send step attempt =>
    rw [configStep_send hphase hs, threads_setThread_self]
    unfold AttemptWatch.config
    rw [hphase]
    cases ok with
    | false => exact fun _ => h (Or.inr ⟨step, attempt, hphase⟩)
    | true => rintro (hw | ⟨_, _, hw⟩) <;> cases hw
  | wait step attempt w =>
    obtain ⟨out, v, hwait, rfl⟩ := configStep_wait hphase hs
    rw [threads_setThread_self]
    cases w with
    | resetOpcode acked =>
      intro _
      unfold AttemptWatch.config
      rw [hphase]
      dsimp only
      cases acked with
      | true => exact Or.inr rfl
      | false =>
        left
        have hi : a.inTime = false := by
          apply Bool.eq_false_iff.mpr
          intro hi
          exact Bool.false_ne_true (hret step attempt _ hphase false rfl hi)
        simp [hi]
    | waitBits =>
      obtain ⟨-, rfl⟩ := waitCfgAck_waitBits hwait
      rintro (hw | ⟨_, _, hw⟩) <;> cases hw
    | _ =>
      cases hwait
      rintro (hw | ⟨_, _, hw⟩) <;> cases hw
  | _ =>
    cases configStep_move hs with
    | start hp | sent hp | notSent hp | waited hp _ => cases hphase.symm.trans hp
    | _ =>
      rw [threads_setThread_self]
      rintro (hw | ⟨_, _, hw⟩) <;> cases hw

end Attempt

section Run

variable {t t' : WatchedSystem} {e : CfgEvent}

inductive WatchMove (t t' : WatchedSystem) (i : ℕ) : CfgEvent → Prop
  | own {ok : Bool} (hs : t.sys.configStep i ok = some t'.sys)
      (hwatch : t'.watch i = (t.watch i).config t.sys i ok) : WatchMove t t' i (.config i ok)
  | ack {event : CfgClientEvent} {addr : UInt16} {opcode : UInt32} {errorCode : ℤ}
      (hthreads : t'.sys.threads = t.sys.threads)
      (hbit : t'.sys.wait.bit =
        if addr = t.sys.wait.addr ∧ opcode = t.sys.wait.opcode then true else t.sys.wait.bit)
      (hwatch : t'.watch i = (t.watch i).ack t.sys i addr opcode) :
      WatchMove t t' i (.clientCb event addr opcode errorCode)
  | other {e : CfgEvent} (hs : t.sys.step e = some t'.sys) (hne : ∀ ok, e ≠ .config i ok)
      (hwatch : t'.watch i = t.watch i) : WatchMove t t' i e

theorem watchMove (i : ℕ) (hs : t.step e = some t') : WatchMove t t' i e := by
  obtain ⟨s', hs', rfl⟩ := Option.map_eq_some_iff.mp hs
  cases e with
  | config j ok =>
    by_cases hji : j = i
    · subst hji
      exact .own hs' (if_pos rfl)
    · refine .other hs' ?_ (if_neg hji)
      intro ok' h
      cases h
      exact hji rfl
  | clientCb event addr opcode errorCode =>
    by_cases hack : event.isAck errorCode = true
    · cases hs'
      refine .ack ?_ ?_ (if_pos hack)
      · unfold CfgSystem.cfgClientCb
        rw [if_pos hack]
      · unfold CfgSystem.cfgClientCb
        rw [if_pos hack]
        dsimp only
        split_ifs <;> rfl
    · exact .other hs' (fun _ h => by cases h) (if_neg hack)
  | beacon b saved => exact .other hs' (fun _ h => by cases h) rfl
  | provComplete addr uuid saved => exact .other hs' (fun _ h => by cases h) rfl
  | ping j ok => exact .other hs' (fun _ h => by cases h) rfl

structure WatchedSystem.Sound (t : WatchedSystem) : Prop where
  exclusive : t.sys.Exclusive
  fits : ∀ i, (t.watch i).Fits t.sys.wait.bit (t.sys.threads i).phase

theorem WatchedSystem.Sound.step (h : t.Sound) (hs : t.step e = some t') : t'.Sound := by
  refine ⟨?_, ?_⟩
  · obtain ⟨s', hs', rfl⟩ := Option.map_eq_some_iff.mp hs
    exact exclusive_step h.exclusive hs'
  · intro i
    have hfits := h.fits i
    cases watchMove i hs with
    | own hs' hwatch =>
      rw [hwatch]
      exact fits_config hfits hs'
    | ack hthreads hbit hwatch =>
      rw [hwatch, hthreads, hbit]
      exact fits_ack hfits
    | other hs' hne hwatch =>
      rw [hwatch]
      rcases threads_of_ne hs' hne with hth | hnew
      · rw [hth]
        intro step attempt w hphase
        obtain ⟨hearly, hcounts⟩ := hfits step attempt w hphase
        refine ⟨hearly, fun hi => (hcounts hi).imp_right fun hc => ?_⟩
        cases w with
        | clearBits => exact hc
        | resetAddr acked => exact hc
        | resetOpcode acked => exact hc
        | _ => exact bit_of_ne h.exclusive (holds_of_phase hphase rfl) hs' hne hc
      · rw [hnew]
        exact fits_of_phase fun _ _ _ hw => by cases hw

/-- One event: every attempt returns what came in time exactly when none times out on an early
ACK. -/
theorem returned_step_iff (h : t.Sound)
    (hret : ∀ i, (t.watch i).Returned (t.sys.threads i).phase) (hs : t.step e = some t') :
    (∀ i, (t'.watch i).Returned (t'.sys.threads i).phase) ↔ t.NoneEarly e := by
  refine ⟨?_, ?_⟩
  · intro hret'
    cases e with
    | config i ok =>
      cases watchMove i hs with
      | own hs' hwatch =>
        have hi := hret' i
        rw [hwatch] at hi
        exact (returned_config_iff (h.fits i) (hret i) hs').mp hi
      | other _ hne _ => exact absurd rfl (hne ok)
    | _ => trivial
  · intro hnone i
    cases watchMove i hs with
    | own hs' hwatch =>
      rw [hwatch]
      exact (returned_config_iff (h.fits i) (hret i) hs').mpr hnone
    | ack hthreads hbit hwatch =>
      rw [hwatch, hthreads]
      intro step attempt w hphase acked hacked hi
      have hclosed : w.isOpen = false := by
        cases w with
        | resetAddr _ => rfl
        | resetOpcode _ => rfl
        | _ => cases hacked
      rw [ack_of_closed hphase hclosed] at hi
      exact hret i step attempt w hphase acked hacked hi
    | other hs' hne hwatch =>
      rw [hwatch]
      rcases threads_of_ne hs' hne with hth | hnew
      · rw [hth]
        exact hret i
      · rw [hnew]
        exact returned_of_phase fun _ _ _ hw => by cases hw

theorem unanswered_step (hret : ∀ i, (t.watch i).Returned (t.sys.threads i).phase)
    (h : ∀ i, (t.watch i).Unanswered (t.sys.threads i).phase) (hs : t.step e = some t') :
    ∀ i, (t'.watch i).Unanswered (t'.sys.threads i).phase := by
  intro i
  cases watchMove i hs with
  | own hs' hwatch =>
    rw [hwatch]
    exact unanswered_config (hret i) (h i) hs'
  | @ack event addr opcode errorCode hthreads hbit hwatch =>
    obtain ⟨hmissed, hhanded⟩ := ack_kept (s := t.sys) (i := i) (a := t.watch i) addr opcode
    rw [hwatch, hthreads]
    intro hp
    rw [hmissed, hhanded]
    exact h i hp
  | other hs' hne hwatch =>
    rw [hwatch]
    rcases threads_of_ne hs' hne with hth | hnew
    · rw [hth]
      exact h i
    · rw [hnew]
      rintro (hw | ⟨_, _, hw⟩) <;> cases hw

def WatchedSystem.start (prov : Provisioner) : WatchedSystem := { sys := .start prov }

theorem watched_sound_start (prov : Provisioner) : (WatchedSystem.start prov).Sound := by
  refine ⟨exclusive_start prov, ?_⟩
  exact fun i => fits_of_phase fun _ _ _ hw => by cases hw

theorem returned_start (prov : Provisioner) (i : ℕ) :
    ((WatchedSystem.start prov).watch i).Returned
      ((WatchedSystem.start prov).sys.threads i).phase :=
  returned_of_phase fun _ _ _ hw => by cases hw

/-- In every interleaving, every attempt acknowledged in time returns success, and so only nodes
that left a request unanswered are deleted, exactly when no wait times out after an ACK that came
before it was armed. -/
theorem no_ack_lost_iff (prov : Provisioner) (es : List CfgEvent) :
    Run.Throughout WatchedSystem.step WatchedSystem.NoAckLost (.start prov) es ↔
      Run.Meets WatchedSystem.step WatchedSystem.NoneEarly (.start prov) es := by
  refine ⟨?_, ?_⟩
  · intro h
    have hret : Run.Throughout WatchedSystem.step
        (fun t => ∀ i, (t.watch i).Returned (t.sys.threads i).phase) (.start prov) es :=
      h.mono fun _ h => h.returned
    refine (Run.throughout_iff_meets_of_invariant (A := WatchedSystem.Sound) ?_ ?_
      (watched_sound_start prov) (returned_start prov)).mp hret
    · exact fun _ _ _ h hs => h.step hs
    · exact fun _ _ _ h hret hs => returned_step_iff h hret hs
  · intro h
    have hall := Run.throughout_of_meets (P := fun t : WatchedSystem => t.Sound ∧
        (∀ i, (t.watch i).Returned (t.sys.threads i).phase) ∧
        ∀ i, (t.watch i).Unanswered (t.sys.threads i).phase) ?_
      ⟨watched_sound_start prov, returned_start prov, ?_⟩ h
    · exact hall.mono fun _ h => ⟨h.2.1, fun i hp => h.2.2 i (Or.inl hp)⟩
    · rintro t e t' ⟨hsound, hret, hun⟩ hnone hs
      exact ⟨hsound.step hs, (returned_step_iff hsound hret hs).mpr hnone,
        unanswered_step hret hun hs⟩
    · rintro i (hw | ⟨_, _, hw⟩) <;> cases hw

end Run

def CfgPhase.isAbort : CfgPhase → Bool
  | .abort => true
  | _ => false

/-- The relay acknowledges each of the three requests of step 1 before `wait_cfg_ack` has cleared
the bit, and each wait times out. -/
def relayTooSoon : List CfgEvent :=
  [.provComplete 5 relayUuid true] ++ relayRuns 2 ++
    (List.replicate bmtCfgRetry (relayRuns 1 ++ [relayAck modelOpAppKeyAdd] ++ relayRuns 3 ++
      [.config 0 false] ++ relayRuns 2)).flatten

/-- It is deleted with no request of its left unanswered. -/
theorem relayTooSoon_deleted :
    ¬Run.Throughout WatchedSystem.step WatchedSystem.NoAckLost (.start {}) relayTooSoon ∧
      (Run.run WatchedSystem.step (.start {}) relayTooSoon).map
        (fun t => (bmtNodeTableFind 5 t.sys.prov.nodes).isSome) = some true ∧
      (Run.run WatchedSystem.step (.start {}) (relayTooSoon ++ [.config 0 true])).map
        (fun t => ((t.watch 0).missed, (bmtNodeTableFind 5 t.sys.prov.nodes).isSome)) =
          some (false, false) := by
  refine ⟨?_, by decide +kernel, by decide +kernel⟩
  have hend : (Run.run WatchedSystem.step (.start {}) relayTooSoon).map
      (fun t => ((t.sys.threads 0).phase.isAbort, (t.watch 0).missed, (t.watch 0).handed)) =
        some (true, false, true) := by decide +kernel
  obtain ⟨t, ht, hobs⟩ := Option.map_eq_some_iff.mp hend
  simp only [Prod.mk.injEq] at hobs
  obtain ⟨habort, hmissed, hhanded⟩ := hobs
  apply Run.not_throughout_of_run ht
  intro hkept
  have hphase : (t.sys.threads 0).phase = .abort := by
    cases hp : (t.sys.threads 0).phase with
    | abort => rfl
    | _ =>
      rw [hp] at habort
      cases habort
  rcases hkept.aborted 0 hphase with hm | hh
  · exact Bool.false_ne_true (hmissed.symm.trans hm)
  · exact Bool.false_ne_true (hh.symm.trans hhanded)

end BleMeshTracking.Gateway
