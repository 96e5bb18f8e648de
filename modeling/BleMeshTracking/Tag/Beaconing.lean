import BleMeshTracking.Tag.Battery
import BleMeshTracking.Tag.KeyCache

/-!
# The tag: its beacon

`bmt_beacon.c` of both firmwares: a new sequence number, interval and signature for each cycle.
The nRF52840 starts each cycle from a one-shot timer through the workqueue and calls the Bluetooth
host directly; the ESP32 has an auto-reload timer and hands commands to the Bluetooth task, which
answers through `gap_event_handler`.
-/

namespace BleMeshTracking.Tag

open Protocol

def bmtAdvIntervalMinMs : Firmware → ℕ
  | .esp32 => 450
  | .nrf52840 => 900

def bmtAdvIntervalMaxMs : Firmware → ℕ
  | .esp32 => 550
  | .nrf52840 => 1100

def bmtTagMinor : UInt16 := 0x0001

def bmtTagTxPower : Int8 := -53

def bmtTagBattery : UInt8 := 100

def randomIntervalMs (fw : Firmware) (rand : UInt32) : ℕ :=
  bmtAdvIntervalMinMs fw +
    rand.toNat % (bmtAdvIntervalMaxMs fw - bmtAdvIntervalMinMs fw + 1)

/-- In units of 0.625 ms. -/
def intervalUnits (ms : ℕ) : UInt16 := UInt16.ofNat (ms * 1000 / 625)

structure CycleCalls where
  rand : UInt32 := 0
  uptimeUs : ℕ := 0
  sign : SignCalls := {}

/-- The bytes of an advertisement of the tag with a sequence number, signed under the key of some
epoch or, where the crypto library failed, with 0. -/
def Carries (hmac : Hmac) (fw : Firmware) (sequence : UInt8) (data : Bytes) : Prop :=
  ∃ (battery : UInt8) (mac16 epoch : UInt16),
    let p := unsignedPayload ⟨battery, bmtTagMinor, bmtTagTxPower, sequence⟩
    data = advData fw { p with mac16 } ∧ battery ≤ 100 ∧
      (mac16 = 0 ∨ mac16 = epochMac16 hmac bmtTagMasterKey epoch p.signedBytes)

def Drawn (fw : Firmware) (units : UInt16) : Prop :=
  ∃ ms, bmtAdvIntervalMinMs fw ≤ ms ∧ ms ≤ bmtAdvIntervalMaxMs fw ∧ units = intervalUnits ms

theorem randomIntervalMs_bounds (fw : Firmware) (rand : UInt32) :
    bmtAdvIntervalMinMs fw ≤ randomIntervalMs fw rand ∧
      randomIntervalMs fw rand ≤ bmtAdvIntervalMaxMs fw := by
  have hpos : 0 < bmtAdvIntervalMaxMs fw - bmtAdvIntervalMinMs fw + 1 := Nat.succ_pos _
  have hlt := Nat.mod_lt rand.toNat hpos
  have hle : bmtAdvIntervalMinMs fw ≤ bmtAdvIntervalMaxMs fw := by cases fw <;> decide
  unfold randomIntervalMs
  omega

theorem drawn_randomIntervalMs (fw : Firmware) (rand : UInt32) :
    Drawn fw (intervalUnits (randomIntervalMs fw rand)) :=
  ⟨_, (randomIntervalMs_bounds fw rand).1, (randomIntervalMs_bounds fw rand).2, rfl⟩

/-- `build_adv_data` gives such bytes, whatever fails, and keeps the key cache sound. -/
theorem carries_buildAdvData {hmac : Hmac} {fw : Firmware} {s : Auth} (h : s.CacheSound hmac)
    (calls : SignCalls) {battery : UInt8} (hbattery : battery ≤ 100) (sequence : UInt8)
    (uptimeUs : ℕ) :
    let built := buildAdvData hmac calls fw
      ⟨battery, bmtTagMinor, bmtTagTxPower, sequence⟩ uptimeUs s
    Carries hmac fw sequence built.1 ∧ built.2.CacheSound hmac := by
  let p := unsignedPayload ⟨battery, bmtTagMinor, bmtTagTxPower, sequence⟩
  have hsigned := (signsCached_of_cacheSound h fw ⟨calls, uptimeUs, p.signedBytes⟩).1
  have hstate := sign_eq hmac s fw ⟨calls, uptimeUs, p.signedBytes⟩
  refine ⟨⟨battery, _, _, rfl, hbattery, hsigned⟩, ?_⟩
  have hsound := (cacheSound_ensureEpochKey h calls (currentEpoch fw uptimeUs)).1
  rw [← hstate] at hsound
  exact hsound

/-- `main`: before `bmt_battery_init`, in `bt_enable`, with the beacon started, or given up. -/
inductive MainStage
  | start
  | enabling
  | beaconing
  | failed
  deriving DecidableEq

/-- The tag between two callbacks; the advertisement on the air is the last one started. -/
structure NrfTag where
  stage : MainStage := .start
  auth : Auth := {}
  battery : Battery := {}
  battWork : Bool := false
  sequence : UInt8 := 0
  advActive : Bool := false
  /-- `s_seq_timer` when it is armed. -/
  seqTimer : Option ℕ := none
  seqWork : Bool := false
  radio : Option (Bytes × UInt16) := none
  /-- Runs of `seq_work_handler`, and of `bt_le_adv_stop` that failed. -/
  cycles : ℕ := 0
  failedStops : ℕ := 0

inductive NrfEvent
  | batteryInit (board : BatteryBoard) (boardInit channelSetup : ℤ) (adcReady : Bool) (r : AdcCalls)
  | btReady (err cryptoInit importMaster : Bool) (calls : SignCalls) (bootUs : ℕ) (advStart : Bool)
    (c : CycleCalls)
  | seqTimer
  | seqWork (advStop advStart : Bool) (c : CycleCalls)
  | battTimer
  | battWork (board : BatteryBoard) (r : AdcCalls)

namespace NrfTag

/-- `start_adv_random_interval`; `bt_le_adv_start` refuses while something is on the air. -/
def startAdvRandomInterval (hmac : Hmac) (advStart : Bool) (c : CycleCalls) (s : NrfTag) : NrfTag :=
  let ms := randomIntervalMs .nrf52840 c.rand
  let built := buildAdvData hmac c.sign .nrf52840
    ⟨s.battery.lastPercent, bmtTagMinor, bmtTagTxPower, s.sequence⟩ c.uptimeUs s.auth
  let s := { s with seqTimer := some ms, auth := built.2 }
  if advStart && s.radio.isNone then
    { s with radio := some (built.1, intervalUnits ms), advActive := true }
  else { s with advActive := false }

def seqWorkHandler (hmac : Hmac) (advStop advStart : Bool) (c : CycleCalls) (s : NrfTag) : NrfTag :=
  { s with
    sequence := s.sequence + 1
    cycles := s.cycles + 1
    radio := if advStop then none else s.radio
    failedStops := if advStop then s.failedStops else s.failedStops + 1 }.startAdvRandomInterval
      hmac advStart c

def btReady (hmac : Hmac) (err cryptoInit importMaster : Bool) (calls : SignCalls) (bootUs : ℕ)
    (advStart : Bool) (c : CycleCalls) (s : NrfTag) : NrfTag :=
  if err then { s with stage := .failed }
  else
    { s with
      stage := .beaconing
      auth := s.auth.bmtAuthInit hmac cryptoInit importMaster calls .nrf52840
        bootUs }.startAdvRandomInterval hmac advStart c

/-- The callbacks, each where it can come. -/
def step (hmac : Hmac) (s : NrfTag) : NrfEvent → Option NrfTag
  | .batteryInit board boardInit channelSetup adcReady r =>
    if s.stage = .start then
      let battery := s.battery.bmtBatteryInit board boardInit adcReady channelSetup r
      some { s with stage := .enabling, battery, battWork := battery.started }
    else none
  | .btReady err cryptoInit importMaster calls bootUs advStart c =>
    if s.stage = .enabling then
      some (s.btReady hmac err cryptoInit importMaster calls bootUs advStart c)
    else none
  | .seqTimer =>
    match s.seqTimer with
    | none => none
    | some _ => some { s with seqTimer := none, seqWork := true }
  | .seqWork advStop advStart c =>
    if s.seqWork then
      some ({ s with seqWork := false }.seqWorkHandler hmac advStop advStart c)
    else none
  | .battTimer => if s.battery.started then some { s with battWork := true } else none
  | .battWork board r =>
    if s.battWork then
      some { s with battWork := false, battery := s.battery.battLogWorkHandler board r }
    else none

/-- From the first cycle on the next one is on its way, by the timer or through the workqueue but
not both. -/
def Beating (s : NrfTag) : Prop :=
  if s.stage = .beaconing then s.seqTimer.isSome = !s.seqWork
  else s.seqTimer = none ∧ s.seqWork = false

structure Steady (hmac : Hmac) (s : NrfTag) : Prop where
  beating : s.Beating
  sequence : s.sequence = UInt8.ofNat s.cycles
  /-- `s_adv_active` tells that the current sequence number is on the air. -/
  active : s.advActive = true →
    ∃ data units, s.radio = some (data, units) ∧ Carries hmac .nrf52840 s.sequence data
  drawn : ∀ data units, s.radio = some (data, units) → Drawn .nrf52840 units
  /-- Nothing else is, unless the host did not stop it. -/
  silent : s.radio.isSome = true → s.advActive = true ∨ 0 < s.failedStops

structure Sound (hmac : Hmac) (s : NrfTag) : Prop extends s.Steady hmac where
  auth : s.auth.CacheSound hmac
  battery : s.battery.lastPercent ≤ 100
  booted : s.stage = .start ∨ s.stage = .enabling → s.auth = {} ∧ s.radio = none

variable {hmac : Hmac} {s s' : NrfTag}

/-- A cycle puts the current number on the air, or leaves the air as it is, and arms the timer. -/
theorem startAdv_cases (h : s.auth.CacheSound hmac) (hbattery : s.battery.lastPercent ≤ 100)
    (advStart : Bool) (c : CycleCalls) :
    ∃ (ms : ℕ) (auth : Auth) (data : Bytes), Drawn .nrf52840 (intervalUnits ms) ∧
      auth.CacheSound hmac ∧ Carries hmac .nrf52840 s.sequence data ∧
      (s.radio = none ∧ s.startAdvRandomInterval hmac advStart c =
          { s with
            seqTimer := some ms, auth, radio := some (data, intervalUnits ms), advActive := true } ∨
        s.startAdvRandomInterval hmac advStart c =
          { s with seqTimer := some ms, auth, advActive := false }) := by
  obtain ⟨hcarries, hauth⟩ := carries_buildAdvData h c.sign hbattery s.sequence c.uptimeUs
  refine ⟨_, _, _, drawn_randomIntervalMs .nrf52840 c.rand, hauth, hcarries, ?_⟩
  unfold startAdvRandomInterval
  dsimp only
  split_ifs with hstart
  · rw [Bool.and_eq_true] at hstart
    exact Or.inl ⟨Option.isNone_iff_eq_none.mp hstart.2, rfl⟩
  · exact Or.inr rfl

/-- The state in which a cycle starts: nothing armed, and nothing of the current number on the
air. -/
theorem sound_startAdv (hstage : s.stage = .beaconing) (hwork : s.seqWork = false)
    (hauth : s.auth.CacheSound hmac) (hbattery : s.battery.lastPercent ≤ 100)
    (hseq : s.sequence = UInt8.ofNat s.cycles)
    (hdrawn : ∀ data units, s.radio = some (data, units) → Drawn .nrf52840 units)
    (hsilent : s.radio.isSome = true → 0 < s.failedStops) (advStart : Bool) (c : CycleCalls) :
    (s.startAdvRandomInterval hmac advStart c).Sound hmac := by
  obtain ⟨ms, auth, data, hms, hauth', hcarries, ⟨hnone, heq⟩ | heq⟩ :=
    startAdv_cases hauth hbattery advStart c
  · rw [heq]
    refine ⟨⟨?_, hseq, ?_, ?_, fun _ => Or.inl rfl⟩, hauth', hbattery, ?_⟩
    · unfold Beating
      rw [if_pos hstage, hwork]
      rfl
    · intro _
      exact ⟨data, intervalUnits ms, rfl, hcarries⟩
    · rintro data' units ⟨⟩
      exact hms
    · rintro (h | h)
      · rw [hstage] at h; cases h
      · rw [hstage] at h; cases h
  · rw [heq]
    refine ⟨⟨?_, hseq, ?_, hdrawn, fun h => Or.inr (hsilent h)⟩, hauth', hbattery, ?_⟩
    · unfold Beating
      rw [if_pos hstage, hwork]
      rfl
    · intro hactive
      cases hactive
    · rintro (h | h)
      · rw [hstage] at h; cases h
      · rw [hstage] at h; cases h

theorem sound_start (hmac : Hmac) : Sound hmac {} := by
  refine ⟨⟨⟨rfl, rfl⟩, rfl, ?_, ?_, ?_⟩, cacheSound_off hmac, by decide, fun _ => ⟨rfl, rfl⟩⟩
  · intro h
    cases h
  · intro data units h
    cases h
  · intro h
    cases h

theorem Sound.batteryInit (h : s.Sound hmac) (board : BatteryBoard) (boardInit channelSetup : ℤ)
    (adcReady : Bool) (r : AdcCalls) (hstage : s.stage = .start) (battWork : Bool) :
    Sound hmac
      { s with
        stage := .enabling
        battery := s.battery.bmtBatteryInit board boardInit adcReady channelSetup r
        battWork } := by
  have hbeat := h.beating
  unfold Beating at hbeat
  rw [if_neg (by rw [hstage]; decide)] at hbeat
  refine ⟨⟨hbeat, h.sequence, h.active, h.drawn, h.silent⟩, h.auth, ?_,
    fun _ => h.booted (Or.inl hstage)⟩
  rcases bmtBatteryInit_cases board boardInit channelSetup adcReady r s.battery with heq | heq
  · dsimp only
    rw [heq]
    exact h.battery
  · dsimp only
    rw [heq]
    exact battLogWorkHandler_le h.battery board r

theorem Sound.btReady (h : s.Sound hmac) (hstage : s.stage = .enabling)
    (err cryptoInit importMaster : Bool) (calls : SignCalls) (bootUs : ℕ) (advStart : Bool)
    (c : CycleCalls) :
    (s.btReady hmac err cryptoInit importMaster calls bootUs advStart c).Sound hmac := by
  obtain ⟨hoff, hair⟩ := h.booted (Or.inr hstage)
  have hbeat := h.beating
  unfold Beating at hbeat
  rw [if_neg (by rw [hstage]; decide)] at hbeat
  unfold NrfTag.btReady
  split_ifs
  · refine ⟨⟨hbeat, h.sequence, h.active, h.drawn, h.silent⟩, h.auth, h.battery, ?_⟩
    rintro (hc | hc)
    · cases hc
    · cases hc
  · apply sound_startAdv
    · rfl
    · exact hbeat.2
    · dsimp only
      rw [hoff]
      exact cacheSound_bmtAuthInit hmac cryptoInit importMaster calls .nrf52840 bootUs
    · exact h.battery
    · exact h.sequence
    · exact h.drawn
    · dsimp only
      rw [hair]
      intro hsome
      cases hsome

theorem Sound.seqTimer (h : s.Sound hmac) {ms : ℕ} (htimer : s.seqTimer = some ms) :
    Sound hmac { s with seqTimer := none, seqWork := true } := by
  have hbeat := h.beating
  unfold Beating at hbeat
  refine ⟨⟨?_, h.sequence, h.active, h.drawn, h.silent⟩, h.auth, h.battery, h.booted⟩
  unfold Beating
  dsimp only
  split_ifs at hbeat ⊢
  · rfl
  · rw [htimer] at hbeat
    cases hbeat.1

theorem Sound.seqWork (h : s.Sound hmac) (hwork : s.seqWork = true) (advStop advStart : Bool)
    (c : CycleCalls) :
    ({ s with seqWork := false }.seqWorkHandler hmac advStop advStart c).Sound hmac := by
  have hbeat := h.beating
  unfold Beating at hbeat
  split_ifs at hbeat with hstage
  · unfold seqWorkHandler
    apply sound_startAdv
    · exact hstage
    · rfl
    · exact h.auth
    · exact h.battery
    · dsimp only
      rw [h.sequence]
      exact (UInt8.ofNat_add s.cycles 1).symm
    · intro data units hair
      dsimp only at hair
      split_ifs at hair
      exact h.drawn data units hair
    · dsimp only
      intro hair
      split_ifs at hair ⊢
      · cases hair
      · exact Nat.succ_pos s.failedStops
  · rw [hwork] at hbeat
    cases hbeat.2

theorem Sound.step (h : s.Sound hmac) {e : NrfEvent} (hs : s.step hmac e = some s') :
    s'.Sound hmac := by
  unfold NrfTag.step at hs
  cases e with
  | batteryInit board boardInit channelSetup adcReady r =>
    dsimp only at hs
    split_ifs at hs with hstage
    cases hs
    exact h.batteryInit board boardInit channelSetup adcReady r hstage _
  | btReady err cryptoInit importMaster calls bootUs advStart c =>
    dsimp only at hs
    split_ifs at hs with hstage
    cases hs
    exact h.btReady hstage err cryptoInit importMaster calls bootUs advStart c
  | seqTimer =>
    dsimp only at hs
    cases htimer : s.seqTimer with
    | none =>
      rw [htimer] at hs
      cases hs
    | some ms =>
      rw [htimer] at hs
      cases hs
      exact h.seqTimer htimer
  | seqWork advStop advStart c =>
    dsimp only at hs
    split_ifs at hs with hwork
    cases hs
    exact h.seqWork hwork advStop advStart c
  | battTimer =>
    dsimp only at hs
    split_ifs at hs
    cases hs
    exact ⟨⟨h.beating, h.sequence, h.active, h.drawn, h.silent⟩, h.auth, h.battery, h.booted⟩
  | battWork board r =>
    dsimp only at hs
    split_ifs at hs
    cases hs
    exact ⟨⟨h.beating, h.sequence, h.active, h.drawn, h.silent⟩, h.auth,
      battLogWorkHandler_le h.battery board r, h.booted⟩

theorem sound_throughout (hmac : Hmac) (es : List NrfEvent) :
    Run.Throughout (NrfTag.step hmac) (Sound hmac) {} es := by
  apply Run.throughout_of_forall
  · intro s e s' h hs
    exact h.step hs
  · exact sound_start hmac

end NrfTag

/-- Over every run of the nRF52840 tag, whatever the ADC, the crypto library and the Bluetooth host
refuse: the next cycle is always on its way, once, and while `s_adv_active` is set the air carries
the current number, signed. -/
theorem nrf_beacon_steady (hmac : Hmac) (es : List NrfEvent) :
    Run.Throughout (NrfTag.step hmac) (NrfTag.Steady hmac) {} es :=
  (NrfTag.sound_throughout hmac es).mono fun _ h => h.toSteady

inductive BtCommand
  | stopAdvertising
  | configAdvDataRaw (data : Bytes)
  | startAdvertising (units : UInt16)

def BtCommand.isStart : BtCommand → Bool
  | .startAdvertising _ => true
  | _ => false

structure EspTag where
  started : Bool := false
  auth : Auth := {}
  sequence : UInt8 := 0
  advActive : Bool := false
  advRaw : Bytes := []
  /-- `adv_int_min` and `adv_int_max`. -/
  advUnits : UInt16 := 0
  /-- The commands that the Bluetooth task has not come to. -/
  queue : List BtCommand := []
  /-- The data in the controller, and the interval while it advertises. -/
  airData : Bytes := []
  air : Option UInt16 := none
  /-- Runs of `seq_timer_cb`. -/
  cycles : ℕ := 0
  /-- Since the cycle began, no data and no start was refused. -/
  clean : Bool := true

inductive EspEvent
  | start (cryptoInit importMaster : Bool) (calls : SignCalls) (bootUs : ℕ) (configQueued : Bool)
    (c : CycleCalls)
  | seqTimer (stopQueued configQueued : Bool) (c : CycleCalls)
  | command (ok startQueued : Bool)

namespace EspTag

def startAdvRandomInterval (hmac : Hmac) (configQueued : Bool) (c : CycleCalls) (s : EspTag) :
    EspTag :=
  let built := buildAdvData hmac c.sign .esp32
    ⟨bmtTagBattery, bmtTagMinor, bmtTagTxPower, s.sequence⟩ c.uptimeUs s.auth
  { s with
    auth := built.2
    advRaw := built.1
    advUnits := intervalUnits (randomIntervalMs .esp32 c.rand)
    queue := s.queue ++ if configQueued then [.configAdvDataRaw built.1] else []
    clean := configQueued }

def bmtBeaconStart (hmac : Hmac) (cryptoInit importMaster : Bool) (calls : SignCalls) (bootUs : ℕ)
    (configQueued : Bool) (c : CycleCalls) (s : EspTag) : EspTag :=
  { s with
    started := true
    auth := s.auth.bmtAuthInit hmac cryptoInit importMaster calls .esp32
      bootUs }.startAdvRandomInterval hmac configQueued c

def seqTimerCb (hmac : Hmac) (stopQueued configQueued : Bool) (c : CycleCalls) (s : EspTag) :
    EspTag :=
  { s with
    sequence := s.sequence + 1
    cycles := s.cycles + 1
    queue := s.queue ++ if stopQueued then [BtCommand.stopAdvertising] else [] }.startAdvRandomInterval
      hmac configQueued c

/-- The Bluetooth task carries out a command and calls `gap_event_handler` with its result. -/
def command (ok startQueued : Bool) (s : EspTag) : BtCommand → EspTag
  | .stopAdvertising => { s with air := if ok then none else s.air, advActive := false }
  | .configAdvDataRaw data =>
    if ok then
      { s with
        airData := data
        queue := s.queue ++ if startQueued then [.startAdvertising s.advUnits] else []
        clean := s.clean && startQueued }
    else { s with clean := false }
  | .startAdvertising units =>
    if ok then { s with air := some units, advActive := true } else { s with clean := false }

def step (hmac : Hmac) (s : EspTag) : EspEvent → Option EspTag
  | .start cryptoInit importMaster calls bootUs configQueued c =>
    if s.started then none
    else some (s.bmtBeaconStart hmac cryptoInit importMaster calls bootUs configQueued c)
  | .seqTimer stopQueued configQueued c =>
    if s.started then some (s.seqTimerCb hmac stopQueued configQueued c) else none
  | .command ok startQueued =>
    match s.queue with
    | [] => none
    | cmd :: queue => some ({ s with queue }.command ok startQueued cmd)

structure Steady (hmac : Hmac) (s : EspTag) : Prop where
  sequence : s.sequence = UInt8.ofNat s.cycles
  /-- What is on the air was signed by the tag. -/
  onAir : ∀ units, s.air = some units →
    Drawn .esp32 units ∧ ∃ sequence, Carries hmac .esp32 sequence s.airData
  /-- Once the Bluetooth task has caught up, the current number is on the air. -/
  caughtUp : s.started = true → s.clean = true → s.queue = [] →
    s.advActive = true ∧ s.air.isSome = true ∧ Carries hmac .esp32 s.sequence s.airData

/-- The data of the current cycle is still queued, with nothing but starts behind it. -/
def Configuring (s : EspTag) : Prop :=
  ∃ pre post, s.queue = pre ++ .configAdvDataRaw s.advRaw :: post ∧
    ∀ cmd ∈ post, cmd.isStart = true

/-- The data of the current cycle is in the controller, which starts or has started. -/
def Starting (s : EspTag) : Prop :=
  (∀ cmd ∈ s.queue, cmd.isStart = true) ∧ s.airData = s.advRaw ∧
    (s.queue ≠ [] ∨ s.advActive = true ∧ s.air.isSome = true)

def Ours (hmac : Hmac) (s : EspTag) : BtCommand → Prop
  | .stopAdvertising => True
  | .configAdvDataRaw data => ∃ sequence, Carries hmac .esp32 sequence data
  | .startAdvertising units =>
    Drawn .esp32 units ∧ ∃ sequence, Carries hmac .esp32 sequence s.airData

structure Sound (hmac : Hmac) (s : EspTag) : Prop where
  auth : s.auth.CacheSound hmac
  booted : s.started = false → s = {}
  sequence : s.sequence = UInt8.ofNat s.cycles
  raw : s.started = true → Carries hmac .esp32 s.sequence s.advRaw ∧ Drawn .esp32 s.advUnits
  queue : ∀ cmd ∈ s.queue, s.Ours hmac cmd
  onAir : ∀ units, s.air = some units → s.Ours hmac (.startAdvertising units)
  phase : s.started = true → s.clean = true → s.Configuring ∨ s.Starting

variable {hmac : Hmac} {s s' : EspTag}

theorem steady_of_sound (h : s.Sound hmac) : s.Steady hmac := by
  refine ⟨h.sequence, h.onAir, ?_⟩
  intro hstarted hclean hempty
  have hraw := (h.raw hstarted).1
  rcases h.phase hstarted hclean with ⟨pre, post, hqueue, -⟩ | ⟨-, hdata, hair⟩
  · rw [hempty] at hqueue
    exact absurd hqueue (by simp)
  · obtain ⟨hactive, hon⟩ := hair.resolve_left (not_not_intro hempty)
    rw [hdata]
    exact ⟨hactive, hon, hraw⟩

theorem sound_startAdv (hauth : s.auth.CacheSound hmac) (hstarted : s.started = true)
    (hseq : s.sequence = UInt8.ofNat s.cycles) (hqueue : ∀ cmd ∈ s.queue, s.Ours hmac cmd)
    (honAir : ∀ units, s.air = some units → s.Ours hmac (.startAdvertising units))
    (configQueued : Bool) (c : CycleCalls) :
    (s.startAdvRandomInterval hmac configQueued c).Sound hmac := by
  obtain ⟨hcarries, hauth'⟩ := carries_buildAdvData hauth c.sign
    (by decide : bmtTagBattery ≤ 100) s.sequence c.uptimeUs
  refine ⟨hauth', ?_, hseq, fun _ => ⟨hcarries, drawn_randomIntervalMs .esp32 c.rand⟩, ?_, honAir, ?_⟩
  · intro hno
    cases hstarted.symm.trans hno
  · intro cmd hcmd
    rcases List.mem_append.mp hcmd with hold | hnew
    · exact hqueue cmd hold
    · split_ifs at hnew
      · rw [List.mem_singleton.mp hnew]
        exact ⟨s.sequence, hcarries⟩
      · cases hnew
  · intro _ hclean
    unfold startAdvRandomInterval at hclean ⊢
    dsimp only at hclean
    refine Or.inl ⟨s.queue, [], ?_, by simp⟩
    dsimp only
    rw [if_pos hclean]

theorem sound_start (hmac : Hmac) : Sound hmac {} := by
  refine ⟨cacheSound_off hmac, fun _ => rfl, rfl, ?_, ?_, ?_, ?_⟩
  · intro h
    cases h
  · intro cmd h
    cases h
  · intro units h
    cases h
  · intro h
    cases h

theorem Sound.seqTimerCb (h : s.Sound hmac) (hstarted : s.started = true)
    (stopQueued configQueued : Bool) (c : CycleCalls) :
    (s.seqTimerCb hmac stopQueued configQueued c).Sound hmac := by
  unfold EspTag.seqTimerCb
  apply sound_startAdv
  · exact h.auth
  · exact hstarted
  · dsimp only
    rw [h.sequence]
    exact (UInt8.ofNat_add s.cycles 1).symm
  · intro cmd hcmd
    rcases List.mem_append.mp hcmd with hold | hnew
    · cases cmd <;> exact h.queue _ hold
    · split_ifs at hnew
      · rw [List.mem_singleton.mp hnew]
        trivial
      · cases hnew
  · exact h.onAir

theorem Sound.start (h : s.Sound hmac) (hstarted : s.started = false)
    (cryptoInit importMaster : Bool) (calls : SignCalls) (bootUs : ℕ) (configQueued : Bool)
    (c : CycleCalls) :
    (s.bmtBeaconStart hmac cryptoInit importMaster calls bootUs configQueued c).Sound hmac := by
  have hoff := h.booted hstarted
  unfold EspTag.bmtBeaconStart
  apply sound_startAdv
  · dsimp only
    rw [hoff]
    exact cacheSound_bmtAuthInit hmac cryptoInit importMaster calls .esp32 bootUs
  · rfl
  · exact h.sequence
  · intro cmd hcmd
    cases cmd <;> exact h.queue _ hcmd
  · exact h.onAir

/-- A command that the Bluetooth task takes before it comes to the data of the cycle. -/
theorem configuring_tail {cmd : BtCommand} {queue : List BtCommand}
    (h : ∃ pre post, cmd :: queue = pre ++ .configAdvDataRaw s.advRaw :: post ∧
      ∀ d ∈ post, d.isStart = true) :
    cmd = .configAdvDataRaw s.advRaw ∧ (∀ d ∈ queue, d.isStart = true) ∨
      ∃ pre post, queue = pre ++ .configAdvDataRaw s.advRaw :: post ∧
        ∀ d ∈ post, d.isStart = true := by
  obtain ⟨pre, post, heq, hpost⟩ := h
  cases pre with
  | nil =>
    cases heq
    exact Or.inl ⟨rfl, hpost⟩
  | cons d pre =>
    cases heq
    exact Or.inr ⟨pre, post, rfl, hpost⟩

section Command

variable {queue : List BtCommand}

theorem Sound.started_of_queue (h : s.Sound hmac) {cmd : BtCommand} (hq : s.queue = cmd :: queue) :
    s.started = true := by
  by_contra hno
  rw [h.booted (Bool.eq_false_of_not_eq_true hno)] at hq
  cases hq

theorem Sound.stopped (h : s.Sound hmac) (hq : s.queue = .stopAdvertising :: queue) (ok : Bool) :
    Sound hmac { s with queue, air := if ok then none else s.air, advActive := false } := by
  have hstarted := h.started_of_queue hq
  have hours := h.queue
  rw [hq] at hours
  refine ⟨h.auth, fun hno => absurd (hstarted.symm.trans hno) (by decide), h.sequence, h.raw,
    ?_, ?_, ?_⟩
  · intro cmd hmem
    have hold := (List.forall_mem_cons.mp hours).2 cmd hmem
    cases cmd <;> exact hold
  · intro units hair
    dsimp only at hair
    split_ifs at hair
    exact h.onAir units hair
  · intro _ hclean
    have hphase := h.phase hstarted hclean
    unfold Configuring Starting at hphase
    rw [hq] at hphase
    rcases hphase with hconf | hstart
    · rcases configuring_tail hconf with ⟨hcmd, -⟩ | hconf
      · cases hcmd
      · exact Or.inl hconf
    · cases hstart.1 _ List.mem_cons_self

theorem Sound.configured (h : s.Sound hmac) {data : Bytes}
    (hq : s.queue = .configAdvDataRaw data :: queue) (startQueued : Bool) :
    Sound hmac
      { s with
        airData := data
        queue := queue ++ if startQueued then [.startAdvertising s.advUnits] else []
        clean := s.clean && startQueued } := by
  have hstarted := h.started_of_queue hq
  have hours := h.queue
  rw [hq] at hours
  obtain ⟨⟨sequence, hcarries⟩, hrest⟩ := List.forall_mem_cons.mp hours
  refine ⟨h.auth, fun hno => absurd (hstarted.symm.trans hno) (by decide), h.sequence, h.raw,
    ?_, ?_, ?_⟩
  · intro cmd hmem
    rcases List.mem_append.mp hmem with hold | hnew
    · have hcmd := hrest cmd hold
      cases cmd with
      | stopAdvertising => trivial
      | configAdvDataRaw data' => exact hcmd
      | startAdvertising units => exact ⟨hcmd.1, sequence, hcarries⟩
    · split_ifs at hnew
      · rw [List.mem_singleton.mp hnew]
        exact ⟨(h.raw hstarted).2, sequence, hcarries⟩
      · cases hnew
  · intro units hair
    exact ⟨(h.onAir units hair).1, sequence, hcarries⟩
  · intro _ hclean
    obtain ⟨hclean, hqueued⟩ := (Bool.and_eq_true _ _).mp hclean
    have hphase := h.phase hstarted hclean
    unfold Configuring Starting at hphase ⊢
    rw [hq] at hphase
    dsimp only
    rw [if_pos hqueued]
    have hlast : ∀ {post : List BtCommand}, (∀ d ∈ post, d.isStart = true) →
        ∀ d ∈ post ++ [BtCommand.startAdvertising s.advUnits], d.isStart = true := by
      intro post hpost d hd
      rcases List.mem_append.mp hd with hd | hd
      · exact hpost d hd
      · rw [List.mem_singleton.mp hd]
        rfl
    rcases hphase with hconf | hstart
    · rcases configuring_tail hconf with ⟨hcmd, hpost⟩ | ⟨pre, post, heq, hpost⟩
      · cases hcmd
        exact Or.inr ⟨hlast hpost, rfl, Or.inl (by simp)⟩
      · refine Or.inl ⟨pre, post ++ [.startAdvertising s.advUnits], ?_, hlast hpost⟩
        rw [heq, List.append_assoc, List.cons_append]
    · cases hstart.1 _ List.mem_cons_self

theorem Sound.onTheAir (h : s.Sound hmac) {units : UInt16}
    (hq : s.queue = .startAdvertising units :: queue) :
    Sound hmac { s with queue, air := some units, advActive := true } := by
  have hstarted := h.started_of_queue hq
  have hours := h.queue
  rw [hq] at hours
  obtain ⟨hcmd, hrest⟩ := List.forall_mem_cons.mp hours
  refine ⟨h.auth, fun hno => absurd (hstarted.symm.trans hno) (by decide), h.sequence, h.raw,
    ?_, ?_, ?_⟩
  · intro cmd hmem
    have hold := hrest cmd hmem
    cases cmd <;> exact hold
  · rintro units' ⟨⟩
    exact hcmd
  · intro _ hclean
    have hphase := h.phase hstarted hclean
    unfold Configuring Starting at hphase ⊢
    rw [hq] at hphase
    rcases hphase with hconf | ⟨hstarts, hdata, -⟩
    · rcases configuring_tail hconf with ⟨hcmd, -⟩ | hconf
      · cases hcmd
      · exact Or.inl hconf
    · exact Or.inr ⟨(List.forall_mem_cons.mp hstarts).2, hdata, Or.inr ⟨rfl, rfl⟩⟩

theorem Sound.refused (h : s.Sound hmac) {cmd : BtCommand} (hq : s.queue = cmd :: queue) :
    Sound hmac { s with queue, clean := false } := by
  have hstarted := h.started_of_queue hq
  have hours := h.queue
  rw [hq] at hours
  refine ⟨h.auth, fun hno => absurd (hstarted.symm.trans hno) (by decide), h.sequence, h.raw,
    ?_, h.onAir, ?_⟩
  · intro cmd hmem
    have hold := (List.forall_mem_cons.mp hours).2 cmd hmem
    cases cmd <;> exact hold
  · intro _ hclean
    cases hclean

end Command

theorem Sound.step (h : s.Sound hmac) {e : EspEvent} (hs : s.step hmac e = some s') :
    s'.Sound hmac := by
  unfold EspTag.step at hs
  cases e with
  | start cryptoInit importMaster calls bootUs configQueued c =>
    dsimp only at hs
    split_ifs at hs with hstarted
    cases hs
    exact h.start (Bool.eq_false_of_not_eq_true hstarted) cryptoInit importMaster calls bootUs
      configQueued c
  | seqTimer stopQueued configQueued c =>
    dsimp only at hs
    split_ifs at hs with hstarted
    cases hs
    exact h.seqTimerCb hstarted stopQueued configQueued c
  | command ok startQueued =>
    dsimp only at hs
    cases hq : s.queue with
    | nil =>
      rw [hq] at hs
      cases hs
    | cons cmd queue =>
      rw [hq] at hs
      cases hs
      unfold EspTag.command
      cases cmd with
      | stopAdvertising => exact h.stopped hq ok
      | configAdvDataRaw data =>
        cases ok with
        | true => exact h.configured hq startQueued
        | false => exact h.refused hq
      | startAdvertising units =>
        cases ok with
        | true => exact h.onTheAir hq
        | false => exact h.refused hq

theorem sound_throughout (hmac : Hmac) (es : List EspEvent) :
    Run.Throughout (EspTag.step hmac) (Sound hmac) {} es := by
  apply Run.throughout_of_forall
  · intro s e s' h hs
    exact h.step hs
  · exact sound_start hmac

end EspTag

/-- Over every run of the ESP32 tag, however the timer and the Bluetooth task interleave: what is on
the air is signed by the tag, and whenever the Bluetooth task has caught up and refused nothing, it
is the current number that is on the air and `s_adv_active` tells so. -/
theorem esp_beacon_steady (hmac : Hmac) (es : List EspEvent) :
    Run.Throughout (EspTag.step hmac) (EspTag.Steady hmac) {} es :=
  (EspTag.sound_throughout hmac es).mono fun _ h => EspTag.steady_of_sound h

end BleMeshTracking.Tag
