import BleMeshTracking.Ota.PendingResult
import Mathlib.Data.Bool.Basic

/-!
# What the WiFi session of a node takes

The calls of `ota_wifi_bring_up` and `ota_wifi_tear_down` in `bmt_ota.c`, and `wifi_event_handler`,
on the handles of the file and on what the libraries hold for them.  Any call may fail; a failed
`esp_event_handler_instance_unregister` or `esp_wifi_deinit` goes unnoticed.
-/

namespace BleMeshTracking.Ota

/-- The call that `ota_wifi_task` makes next, or `none` where the task is not running; `marking`,
`writing` and `restarting` from `mark_pending` on. -/
inductive WifiStage
  | none
  | silence
  | groupCreate
  | netifCreate
  | wifiInit
  | registerAnyId
  | registerGotIp
  | wifiStart
  | waitBits
  | fetch
  | marking
  | writing
  | restarting
  | wifiStop
  | unregisterAnyId
  | unregisterGotIp
  | wifiDeinit
  | netifDestroy
  | groupDelete
  | restoreLog
  | report
  deriving DecidableEq

inductive LogLevel
  | none
  | info
  deriving DecidableEq

structure Held where
  groups : ℕ := 0
  netifs : ℕ := 0
  anyIds : ℕ := 0
  gotIps : ℕ := 0
  driver : Bool := false

structure WifiNet where
  /-- `s_wifi_evgrp`: the `WIFI_CONNECTED_BIT` of the group. -/
  evgrp : Option Bool := Option.none
  staNetif : Bool := false
  evtAnyId : Bool := false
  evtGotIp : Bool := false
  held : Held := {}
  logLevel : LogLevel := .info
  /-- Two sessions have used the handles together since the boot. -/
  shared : Bool := false
  /-- Event groups, default stations and tasks that could not be created. -/
  nulls : ℕ := 0

structure SessionCalls where
  groupCreate : Bool := true
  netifInit : EspErr := .ok
  netifCreate : Bool := true
  wifiInit : EspErr := .ok
  register : Bool := true
  unregister : Bool := true
  wifiDeinit : Bool := true
  wifi : WifiCalls := {}
  /-- What the call comes to on handles that two sessions share: `none` if the node crashes. -/
  clash : Option Bool := some true

inductive WifiEvent
  | staStart
  | staDisconnected
  | otherWifi
  | staGotIp
  deriving DecidableEq

inductive WifiResource
  | group
  | netif
  | anyId
  | gotIp
  | driver
  | mute
  deriving DecidableEq

namespace WifiNet

def take (r : WifiResource) (n : WifiNet) : WifiNet :=
  match r with
  | .group => { n with evgrp := some false, held := { n.held with groups := n.held.groups + 1 } }
  | .netif => { n with staNetif := true, held := { n.held with netifs := n.held.netifs + 1 } }
  | .anyId => { n with evtAnyId := true, held := { n.held with anyIds := n.held.anyIds + 1 } }
  | .gotIp => { n with evtGotIp := true, held := { n.held with gotIps := n.held.gotIps + 1 } }
  | .driver => { n with held := { n.held with driver := true } }
  | .mute => { n with logLevel := .none }

def release (r : WifiResource) (n : WifiNet) : WifiNet :=
  match r with
  | .group => { n with evgrp := Option.none, held := { n.held with groups := n.held.groups - 1 } }
  | .netif => { n with staNetif := false, held := { n.held with netifs := n.held.netifs - 1 } }
  | .anyId => { n with evtAnyId := false, held := { n.held with anyIds := n.held.anyIds - 1 } }
  | .gotIp => { n with evtGotIp := false, held := { n.held with gotIps := n.held.gotIps - 1 } }
  | .driver => { n with held := { n.held with driver := false } }
  | .mute => { n with logLevel := .info }

def reboot (n : WifiNet) : WifiNet := { nulls := n.nulls }

/-- A call of `ota_wifi_bring_up` or `ota_wifi_tear_down`, or of `esp_log_level_set` around them: how
it returns, or `none` where a library's assertion fails, and what is held then. -/
def call (silenceLog : Bool) (c : SessionCalls) (t : WifiStage) (n : WifiNet) :
    Option Bool × WifiNet :=
  -- which session's handles these are is not followed any further
  if n.shared then (c.clash, n)
  else
    match t with
    | .silence => (some true, if silenceLog then n.take .mute else n)
    | .groupCreate =>
      (some true,
        if c.groupCreate then n.take .group
        else { n with evgrp := Option.none, nulls := n.nulls + 1 })
    | .netifCreate =>
      if c.netifInit ≠ .ok ∧ c.netifInit ≠ .invalidState then (some false, n)
      else if !c.netifCreate then (Option.none, { n with nulls := n.nulls + 1 })
      -- a second default station is refused with the same assertion
      else if n.held.netifs ≠ 0 then (Option.none, n)
      else (some true, n.take .netif)
    | .wifiInit => if c.wifiInit = .ok then (some true, n.take .driver) else (some false, n)
    | .registerAnyId => (some true, if c.register then n.take .anyId else n)
    | .registerGotIp => (some true, if c.register then n.take .gotIp else n)
    | .waitBits => (n.evgrp, n)
    | .unregisterAnyId =>
      (some true,
        if n.evtAnyId then
          if c.unregister then n.release .anyId else { n with evtAnyId := false }
        else n)
    | .unregisterGotIp =>
      (some true,
        if n.evtGotIp then
          if c.unregister then n.release .gotIp else { n with evtGotIp := false }
        else n)
    | .wifiDeinit => (some true, if c.wifiDeinit then n.release .driver else n)
    | .netifDestroy => (some true, if n.staNetif then n.release .netif else n)
    | .groupDelete => (some true, if n.evgrp.isSome then n.release .group else n)
    | .restoreLog => (some true, if silenceLog then n.release .mute else n)
    | _ => (some true, n)

/-- `wifi_event_handler`, `none` where an assertion fails. -/
def wifiEventHandler (e : WifiEvent) (n : WifiNet) : Option WifiNet :=
  match e with
  | .staDisconnected => n.evgrp.map fun _ => { n with evgrp := some false }
  | .staGotIp => n.evgrp.map fun _ => { n with evgrp := some true }
  | .staStart => some n
  | .otherWifi => some n

def registered (e : WifiEvent) (n : WifiNet) : ℕ :=
  if e = .staGotIp then n.held.gotIps else n.held.anyIds

def dispatch (e : WifiEvent) (clash : Bool) (n : WifiNet) : Option WifiNet :=
  if n.shared then if clash then Option.none else some n
  else if n.registered e = 0 then some n
  else n.wifiEventHandler e

end WifiNet

def WifiStage.next (ok : Bool) : WifiStage → WifiStage
  | .silence => .groupCreate
  | .groupCreate => .netifCreate
  | .netifCreate => if ok then .wifiInit else .wifiStop
  | .wifiInit => if ok then .registerAnyId else .wifiStop
  | .registerAnyId => .registerGotIp
  | .registerGotIp => .wifiStart
  | .wifiStart => .waitBits
  | .waitBits => if ok then .fetch else .wifiStop
  | .wifiStop => .unregisterAnyId
  | .unregisterAnyId => .unregisterGotIp
  | .unregisterGotIp => .wifiDeinit
  | .wifiDeinit => .netifDestroy
  | .netifDestroy => .groupDelete
  | .groupDelete => .restoreLog
  | .restoreLog => .report
  | t => t

def WifiStage.index : WifiStage → ℕ
  | .none => 0
  | .silence => 1
  | .groupCreate => 2
  | .netifCreate => 3
  | .wifiInit => 4
  | .registerAnyId => 5
  | .registerGotIp => 6
  | .wifiStart => 7
  | .waitBits => 8
  | .fetch => 9
  | .marking => 10
  | .writing => 10
  | .restarting => 10
  | .wifiStop => 11
  | .unregisterAnyId => 12
  | .unregisterGotIp => 13
  | .wifiDeinit => 14
  | .netifDestroy => 15
  | .groupDelete => 16
  | .restoreLog => 17
  | .report => 18

def WifiResource.first : WifiResource → ℕ
  | .group => 3
  | .netif => 4
  | .anyId => 6
  | .gotIp => 7
  | .driver => 5
  | .mute => 2

def WifiResource.last : WifiResource → ℕ
  | .group => 16
  | .netif => 15
  | .anyId => 12
  | .gotIp => 13
  | .driver => 14
  | .mute => 17

theorem WifiResource.twelve_le_last (r : WifiResource) : 12 ≤ r.last := by
  cases r <;> decide

theorem WifiResource.last_inj {r r' : WifiResource} (h : r.last = r'.last) : r = r' := by
  cases r <;> cases r' <;> first | rfl | cases h

namespace WifiNet

def holds (n : WifiNet) : WifiResource → Prop
  | .group => n.evgrp.isSome = true
  | .netif => n.staNetif = true
  | .anyId => n.evtAnyId = true
  | .gotIp => n.evtGotIp = true
  | .driver => n.held.driver = true
  | .mute => n.logLevel = .none

/-- A handle for each thing held. -/
structure Counted (n : WifiNet) : Prop where
  groups : n.held.groups = n.evgrp.isSome.toNat
  netifs : n.held.netifs = n.staNetif.toNat
  anyIds : n.held.anyIds = n.evtAnyId.toNat
  gotIps : n.held.gotIps = n.evtGotIp.toNat

def Released (n : WifiNet) : Prop :=
  n.held = {} ∧ n.evgrp = Option.none ∧ n.staNetif = false ∧ n.evtAnyId = false ∧
    n.evtGotIp = false ∧ n.logLevel = .info

/-- A session at `t` that goes on without an event group has one failed creation to its account. -/
def owed (t : WifiStage) (n : WifiNet) : ℕ :=
  if n.evgrp = Option.none ∧ 3 ≤ t.index ∧ t.index ≤ 16 then 1 else 0

/-- The only session, at `t`, has every resource once, under its handle, from its creation to its
release. -/
structure Owned (silenceLog : Bool) (t : WifiStage) (n : WifiNet) : Prop where
  alone : n.shared = false
  counts : n.Counted
  within : ∀ r, n.holds r → r.first ≤ t.index ∧ t.index ≤ r.last
  muted : n.logLevel = .none → silenceLog = true

/-- Where the handle is set or the driver there, the library lets go. -/
def Lets (c : SessionCalls) (t : WifiStage) (n : WifiNet) : Prop :=
  match t with
  | .unregisterAnyId => n.evtAnyId = true → c.unregister = true
  | .unregisterGotIp => n.evtGotIp = true → c.unregister = true
  | .wifiDeinit => n.held.driver = true → c.wifiDeinit = true
  | _ => True

instance (c : SessionCalls) (t : WifiStage) (n : WifiNet) : Decidable (n.Lets c t) := by
  unfold Lets
  split <;> infer_instance

variable {silenceLog : Bool} {t t' : WifiStage} {n n' : WifiNet}

theorem holds_take {r r' : WifiResource} : (n.take r).holds r' ↔ r' = r ∨ n.holds r' := by
  cases r <;> cases r' <;> simp [take, holds]

theorem holds_release {r r' : WifiResource} : (n.release r).holds r' ↔ r' ≠ r ∧ n.holds r' := by
  cases r <;> cases r' <;> simp [release, holds]

theorem Counted.take (h : n.Counted) {r : WifiResource} (hr : ¬ n.holds r) :
    (n.take r).Counted := by
  cases r with
  | group =>
    have hnone : n.evgrp = Option.none := by simpa [holds] using hr
    have hzero := h.groups
    rw [hnone] at hzero
    exact ⟨congrArg Nat.succ hzero, h.netifs, h.anyIds, h.gotIps⟩
  | netif =>
    have hzero := h.netifs
    rw [Bool.eq_false_of_not_eq_true hr] at hzero
    exact ⟨h.groups, congrArg Nat.succ hzero, h.anyIds, h.gotIps⟩
  | anyId =>
    have hzero := h.anyIds
    rw [Bool.eq_false_of_not_eq_true hr] at hzero
    exact ⟨h.groups, h.netifs, congrArg Nat.succ hzero, h.gotIps⟩
  | gotIp =>
    have hzero := h.gotIps
    rw [Bool.eq_false_of_not_eq_true hr] at hzero
    exact ⟨h.groups, h.netifs, h.anyIds, congrArg Nat.succ hzero⟩
  | driver => exact ⟨h.groups, h.netifs, h.anyIds, h.gotIps⟩
  | mute => exact ⟨h.groups, h.netifs, h.anyIds, h.gotIps⟩

theorem Counted.release (h : n.Counted) (r : WifiResource) : (n.release r).Counted := by
  have hlast : ∀ {m : ℕ} {b : Bool}, m = b.toNat → m - 1 = 0 := by
    rintro m b rfl
    exact Nat.sub_eq_zero_of_le b.toNat_le
  cases r with
  | group => exact ⟨hlast h.groups, h.netifs, h.anyIds, h.gotIps⟩
  | netif => exact ⟨h.groups, hlast h.netifs, h.anyIds, h.gotIps⟩
  | anyId => exact ⟨h.groups, h.netifs, hlast h.anyIds, h.gotIps⟩
  | gotIp => exact ⟨h.groups, h.netifs, h.anyIds, hlast h.gotIps⟩
  | driver => exact ⟨h.groups, h.netifs, h.anyIds, h.gotIps⟩
  | mute => exact ⟨h.groups, h.netifs, h.anyIds, h.gotIps⟩

theorem Owned.free (h : n.Owned silenceLog t) {r : WifiResource} (hr : t.index < r.first) :
    ¬ n.holds r :=
  fun hold => absurd (h.within r hold).1 (Nat.not_le.mpr hr)

theorem Owned.take (h : n.Owned silenceLog t) (t' : WifiStage) {r : WifiResource}
    (hr : t'.index = r.first) (ht : t.index < t'.index) (hmute : r = .mute → silenceLog = true) :
    (n.take r).Owned silenceLog t' := by
  have hearly : ∀ r' : WifiResource, t'.index ≤ r'.last := by
    intro r'
    have hfirst : r.first ≤ 7 := by cases r <;> decide
    have hlast := r'.twelve_le_last
    omega
  refine ⟨?_, h.counts.take (h.free (by omega)), ?_, ?_⟩
  · cases r <;> exact h.alone
  · intro r' hold
    rcases holds_take.mp hold with rfl | hold
    · exact ⟨hr.ge, hearly _⟩
    · exact ⟨(h.within r' hold).1.trans ht.le, hearly r'⟩
  · intro hlog
    have hmuted : (n.take r).holds .mute := hlog
    rcases holds_take.mp hmuted with hr | hold
    · exact hmute hr.symm
    · exact h.muted hold

/-- A call that leaves everything as it is and passes no release of a thing held. -/
theorem Owned.pass (h : n.Owned silenceLog t) (t' : WifiStage) (ht : t.index ≤ t'.index)
    (hlast : ∀ r, n.holds r → t'.index ≤ r.last) : n.Owned silenceLog t' := by
  refine ⟨h.alone, h.counts, ?_, h.muted⟩
  intro r hold
  exact ⟨(h.within r hold).1.trans ht, hlast r hold⟩

theorem Owned.skip (h : n.Owned silenceLog t) (t' : WifiStage) (ht : t.index ≤ t'.index)
    (ht' : t'.index ≤ 12) : n.Owned silenceLog t' :=
  h.pass t' ht fun r _ => ht'.trans r.twelve_le_last

theorem Owned.release (h : n.Owned silenceLog t) (t' : WifiStage) {r : WifiResource}
    (hr : t.index = r.last) (ht : t'.index = t.index + 1) :
    (n.release r).Owned silenceLog t' := by
  refine ⟨?_, h.counts.release r, ?_, ?_⟩
  · cases r <;> exact h.alone
  · intro r' hold
    obtain ⟨hne, hold⟩ := holds_release.mp hold
    have hin := h.within r' hold
    have hlast : r.last ≠ r'.last := fun heq => hne (WifiResource.last_inj heq).symm
    omega
  · intro hlog
    have hmuted : (n.release r).holds .mute := hlog
    exact h.muted (holds_release.mp hmuted).2

/-- The call that would release a resource which is not there. -/
theorem Owned.without (h : n.Owned silenceLog t) (t' : WifiStage) {r : WifiResource}
    (hr : t.index = r.last) (ht : t'.index = t.index + 1) (hno : ¬ n.holds r) :
    n.Owned silenceLog t' := by
  apply h.pass t' (by omega)
  intro r' hold
  have hin := (h.within r' hold).2
  have hlast : r.last ≠ r'.last := by
    intro heq
    rw [WifiResource.last_inj heq] at hno
    exact hno hold
  omega

theorem nulls_take (r : WifiResource) : (n.take r).nulls = n.nulls := by
  cases r <;> rfl

theorem nulls_release (r : WifiResource) : (n.release r).nulls = n.nulls := by
  cases r <;> rfl

theorem evgrp_take {r : WifiResource} (hr : r ≠ .group) : (n.take r).evgrp = n.evgrp := by
  cases r <;> first | rfl | exact absurd rfl hr

theorem evgrp_release {r : WifiResource} (hr : r ≠ .group) : (n.release r).evgrp = n.evgrp := by
  cases r <;> first | rfl | exact absurd rfl hr

theorem owed_of_index (ht : t.index < 3 ∨ 16 < t.index) : n.owed t = 0 := by
  unfold owed
  rw [if_neg]
  rintro ⟨-, hlo, hhi⟩
  omega

theorem owed_of_some (hgrp : n.evgrp ≠ Option.none) : n.owed t = 0 :=
  if_neg fun h => hgrp h.1

theorem owed_of_none (hgrp : n.evgrp = Option.none) (hlo : 3 ≤ t.index) (hhi : t.index ≤ 16) :
    n.owed t = 1 :=
  if_pos ⟨hgrp, hlo, hhi⟩

theorem owed_le_one : n.owed t ≤ 1 := by
  unfold owed
  split_ifs
  · exact le_rfl
  · exact Nat.zero_le 1

/-- A session goes on with the account that it has. -/
theorem owed_mono (hgrp : n'.evgrp = n.evgrp) (hlo : 3 ≤ t.index) (ht : t.index ≤ t'.index) :
    n'.owed t' ≤ n.owed t := by
  by_cases hnone : n.evgrp = Option.none
  · by_cases hhi : t'.index ≤ 16
    · rw [owed_of_none hnone hlo (ht.trans hhi)]
      exact owed_le_one
    · rw [owed_of_index (Or.inr (Nat.lt_of_not_le hhi))]
      exact Nat.zero_le _
  · rw [owed_of_some (hgrp.trans_ne hnone)]
    exact Nat.zero_le _

/-- How a call of the only session ends: what it owns is in order, and an assertion fails at the
cost of a failed creation. -/
def Leads (silenceLog : Bool) (t : WifiStage) (n : WifiNet) : Option Bool × WifiNet → Prop
  | (some ok, n') =>
    n'.Owned silenceLog (t.next ok) ∧ n.nulls + n'.owed (t.next ok) ≤ n'.nulls + n.owed t
  | (Option.none, n') => n.nulls + 1 ≤ n'.nulls + n.owed t

theorem leads_of_owed {ok : Bool} (h : n'.Owned silenceLog (t.next ok)) (hnulls : n'.nulls = n.nulls)
    (howed : n'.owed (t.next ok) ≤ n.owed t) : n.Leads silenceLog t (some ok, n') :=
  ⟨h, by rw [hnulls]; exact Nat.add_le_add_left howed _⟩

theorem leads_of_evgrp {ok : Bool} (h : n'.Owned silenceLog (t.next ok))
    (hnulls : n'.nulls = n.nulls) (hgrp : n'.evgrp = n.evgrp) (hlo : 3 ≤ t.index)
    (ht : t.index ≤ (t.next ok).index) : n.Leads silenceLog t (some ok, n') :=
  leads_of_owed h hnulls (owed_mono hgrp hlo ht)

theorem leads_skip (h : n.Owned silenceLog t) (ok : Bool) (hlo : 3 ≤ t.index)
    (ht : t.index ≤ (t.next ok).index) (hhi : (t.next ok).index ≤ 12) :
    n.Leads silenceLog t (some ok, n) :=
  leads_of_evgrp (h.skip _ ht hhi) rfl rfl hlo ht

theorem leads_take (h : n.Owned silenceLog t) {r : WifiResource} (hr : (t.next true).index = r.first)
    (hlo : 3 ≤ t.index) (ht : t.index < (t.next true).index) :
    n.Leads silenceLog t (some true, n.take r) := by
  have hne : r ≠ .group := by
    rintro rfl
    exact absurd hr (by simp only [WifiResource.first]; omega)
  have hmute : r ≠ .mute := by
    rintro rfl
    exact absurd hr (by simp only [WifiResource.first]; omega)
  exact leads_of_evgrp (h.take _ hr ht fun heq => absurd heq hmute) (nulls_take r) (evgrp_take hne)
    hlo ht.le

theorem leads_without (h : n.Owned silenceLog t) {r : WifiResource} (hr : t.index = r.last)
    (ht : (t.next true).index = t.index + 1) (hno : ¬ n.holds r) :
    n.Leads silenceLog t (some true, n) := by
  have hlo : 3 ≤ t.index := (by decide : 3 ≤ 12).trans (r.twelve_le_last.trans hr.ge)
  exact leads_of_evgrp (h.without _ hr ht hno) rfl rfl hlo (by omega)

theorem leads_release (h : n.Owned silenceLog t) {r : WifiResource} (hr : t.index = r.last)
    (ht : (t.next true).index = t.index + 1) (hpast : r = .group → 16 < (t.next true).index) :
    n.Leads silenceLog t (some true, n.release r) := by
  have hlo : 3 ≤ t.index := (by decide : 3 ≤ 12).trans (r.twelve_le_last.trans hr.ge)
  have hown := h.release _ hr ht
  by_cases hne : r = .group
  · refine leads_of_owed hown (nulls_release r) ?_
    rw [owed_of_index (Or.inr (hpast hne))]
    exact Nat.zero_le _
  · exact leads_of_evgrp hown (nulls_release r) (evgrp_release hne) hlo (by omega)

/-- Each call of the only session, as long as the libraries let go of what it gives back. -/
theorem Owned.call (h : n.Owned silenceLog t) (c : SessionCalls) (hlets : n.Lets c t) :
    n.Leads silenceLog t (n.call silenceLog c t) := by
  unfold WifiNet.call
  rw [if_neg (by rw [h.alone]; exact Bool.false_ne_true)]
  cases t with
  | silence =>
    dsimp only
    split_ifs with hsilence
    · refine leads_of_owed (h.take .groupCreate rfl (by decide) fun _ => hsilence) rfl ?_
      exact (owed_of_index (Or.inl (by decide))).le.trans (Nat.zero_le _)
    · refine leads_of_owed (h.skip .groupCreate (by decide) (by decide)) rfl ?_
      exact (owed_of_index (Or.inl (by decide))).le.trans (Nat.zero_le _)
  | groupCreate =>
    have hfree : n.evgrp = Option.none := by
      have hno := h.free (r := .group) (by decide)
      simpa [holds] using hno
    dsimp only
    split_ifs with hcreate
    · refine leads_of_owed (h.take .netifCreate rfl (by decide) nofun) rfl ?_
      exact (owed_of_some (Option.some_ne_none _)).le.trans (Nat.zero_le _)
    · have hown := h.skip .netifCreate (by decide) (by decide)
      refine ⟨⟨hown.alone, ⟨?_, hown.counts.2, hown.counts.3, hown.counts.4⟩, ?_, hown.muted⟩, ?_⟩
      · rw [h.counts.groups, hfree]
      · intro r hold
        apply hown.within r
        cases r with
        | group => cases hold
        | _ => exact hold
      · dsimp only
        rw [owed_of_index (t := .groupCreate) (Or.inl (by decide))]
        exact Nat.add_le_add_left owed_le_one _
  | netifCreate =>
    dsimp only
    split_ifs with herr hcreate hnetif
    · exact leads_skip h false (by decide) (by decide) (by decide)
    · exact Nat.le_add_right _ _
    · have hno := h.free (r := .netif) (by decide)
      rw [h.counts.netifs, Bool.eq_false_of_not_eq_true hno] at hnetif
      exact absurd rfl hnetif
    · exact leads_take h rfl (by decide) (by decide)
  | wifiInit =>
    dsimp only
    split_ifs with hinit
    · exact leads_take h rfl (by decide) (by decide)
    · exact leads_skip h false (by decide) (by decide) (by decide)
  | registerAnyId =>
    dsimp only
    split_ifs with hreg
    · exact leads_take h rfl (by decide) (by decide)
    · exact leads_skip h true (by decide) (by decide) (by decide)
  | registerGotIp =>
    dsimp only
    split_ifs with hreg
    · exact leads_take h rfl (by decide) (by decide)
    · exact leads_skip h true (by decide) (by decide) (by decide)
  | wifiStart => exact leads_skip h true (by decide) (by decide) (by decide)
  | waitBits =>
    dsimp only
    cases hgrp : n.evgrp with
    | none =>
      have hone : n.owed .waitBits = 1 := owed_of_none hgrp (by decide) (by decide)
      exact Nat.add_le_add_left hone.ge n.nulls
    | some connected =>
      cases connected with
      | false => exact leads_skip h false (by decide) (by decide) (by decide)
      | true => exact leads_skip h true (by decide) (by decide) (by decide)
  | wifiStop => exact leads_skip h true (by decide) (by decide) (by decide)
  | unregisterAnyId =>
    dsimp only
    split_ifs with hany hlet
    · exact leads_release h rfl rfl nofun
    · exact absurd (hlets hany) hlet
    · exact leads_without (r := .anyId) h rfl rfl hany
  | unregisterGotIp =>
    dsimp only
    split_ifs with hip hlet
    · exact leads_release h rfl rfl nofun
    · exact absurd (hlets hip) hlet
    · exact leads_without (r := .gotIp) h rfl rfl hip
  | wifiDeinit =>
    dsimp only
    split_ifs with hlet
    · exact leads_release h rfl rfl nofun
    · exact leads_without (r := .driver) h rfl rfl fun hdriver => hlet (hlets hdriver)
  | netifDestroy =>
    dsimp only
    split_ifs with hnetif
    · exact leads_release h rfl rfl nofun
    · exact leads_without (r := .netif) h rfl rfl hnetif
  | groupDelete =>
    dsimp only
    split_ifs with hgrp
    · exact leads_release h rfl rfl fun _ => by decide
    · exact leads_without (r := .group) h rfl rfl hgrp
  | restoreLog =>
    dsimp only
    split_ifs with hsilence
    · exact leads_release h rfl rfl nofun
    · exact leads_without (r := .mute) h rfl rfl fun hlog => hsilence (h.muted hlog)
  | _ => exact leads_of_owed h rfl le_rfl

theorem Owned.setBits (h : n.Owned silenceLog t) {b : Bool} (hgrp : n.evgrp = some b) (b' : Bool) :
    WifiNet.Owned silenceLog t { n with evgrp := some b' } := by
  have hc := h.counts
  have hgroup : n.holds .group := by rw [holds, hgrp]; rfl
  refine ⟨h.alone, ⟨?_, hc.2, hc.3, hc.4⟩, ?_, h.muted⟩
  · rw [hc.1, hgrp]
    rfl
  · intro r hold
    cases r with
    | group => exact h.within .group hgroup
    | _ => exact h.within _ hold

/-- An event sets or clears the bit, or changes nothing. -/
theorem dispatch_cases {e : WifiEvent} {clash : Bool} (halone : n.shared = false)
    (hn : n.dispatch e clash = some n') :
    n' = n ∨ ∃ b b', n.evgrp = some b ∧ n' = { n with evgrp := some b' } := by
  unfold dispatch wifiEventHandler at hn
  rw [if_neg (by rw [halone]; exact Bool.false_ne_true)] at hn
  split_ifs at hn
  · exact Or.inl (Option.some.inj hn).symm
  · cases e with
    | staDisconnected =>
      obtain ⟨b, hb, rfl⟩ := Option.map_eq_some_iff.mp hn
      exact Or.inr ⟨b, false, hb, rfl⟩
    | staGotIp =>
      obtain ⟨b, hb, rfl⟩ := Option.map_eq_some_iff.mp hn
      exact Or.inr ⟨b, true, hb, rfl⟩
    | staStart => exact Or.inl (Option.some.inj hn).symm
    | otherWifi => exact Or.inl (Option.some.inj hn).symm

theorem Owned.dispatch (h : n.Owned silenceLog t) {e : WifiEvent} {clash : Bool}
    (hn : n.dispatch e clash = some n') :
    n'.Owned silenceLog t ∧ n'.nulls = n.nulls ∧ n'.owed t ≤ n.owed t := by
  rcases dispatch_cases h.alone hn with rfl | ⟨b, b', hgrp, rfl⟩
  · exact ⟨h, rfl, le_rfl⟩
  · refine ⟨h.setBits hgrp b', rfl, ?_⟩
    exact (owed_of_some (Option.some_ne_none _)).le.trans (Nat.zero_le _)

/-- A handler is registered while the group is there, unless there never was one. -/
theorem Owned.dispatch_none (h : n.Owned silenceLog t) {e : WifiEvent} {clash : Bool}
    (hn : n.dispatch e clash = Option.none) : n.owed t = 1 := by
  have hpaid : ∀ r, n.holds r → 3 ≤ r.first → r.last ≤ 16 → n.evgrp = Option.none →
      n.owed t = 1 := by
    intro r hold hfirst hlast hgrp
    have hin := h.within r hold
    exact owed_of_none hgrp (hfirst.trans hin.1) (hin.2.trans hlast)
  have hheld : ∀ {m : ℕ} {b : Bool}, m = b.toNat → m ≠ 0 → b = true := by
    rintro m b rfl hne
    cases b
    · exact absurd rfl hne
    · rfl
  unfold WifiNet.dispatch wifiEventHandler at hn
  rw [if_neg (by rw [h.alone]; exact Bool.false_ne_true)] at hn
  split_ifs at hn with hreg
  · cases e with
    | staDisconnected =>
      have hany : n.holds .anyId := hheld h.counts.anyIds hreg
      exact hpaid .anyId hany (by decide) (by decide) (Option.map_eq_none_iff.mp hn)
    | staGotIp =>
      have hip : n.holds .gotIp := hheld h.counts.gotIps hreg
      exact hpaid .gotIp hip (by decide) (by decide) (Option.map_eq_none_iff.mp hn)
    | staStart => cases hn
    | otherWifi => cases hn

theorem owned_reboot (silenceLog : Bool) (n : WifiNet) : n.reboot.Owned silenceLog .none := by
  refine ⟨rfl, ⟨rfl, rfl, rfl, rfl⟩, ?_, nofun⟩
  intro r hold
  cases r <;> cases hold

theorem released_of_none (h : n.Owned silenceLog .none) : n.Released := by
  have hno : ∀ r, ¬ n.holds r := fun r => h.free (by cases r <;> decide)
  have hgroup : n.evgrp = Option.none := by simpa [holds] using hno .group
  have hnetif : n.staNetif = false := Bool.eq_false_of_not_eq_true (hno .netif)
  have hany : n.evtAnyId = false := Bool.eq_false_of_not_eq_true (hno .anyId)
  have hip : n.evtGotIp = false := Bool.eq_false_of_not_eq_true (hno .gotIp)
  have hdriver : n.held.driver = false := Bool.eq_false_of_not_eq_true (hno .driver)
  have hlog : n.logLevel = .info := by
    cases hl : n.logLevel with
    | none => exact absurd hl (hno .mute)
    | info => rfl
  refine ⟨?_, hgroup, hnetif, hany, hip, hlog⟩
  have h1 := h.counts.1
  have h2 := h.counts.2
  have h3 := h.counts.3
  have h4 := h.counts.4
  rw [hgroup] at h1
  rw [hnetif] at h2
  rw [hany] at h3
  rw [hip] at h4
  cases hheld : n.held
  simp_all

/-- A handle that is dropped without its thing, or a driver left behind, shows. -/
theorem lets_of_counted (h : n.Owned silenceLog t) {c : SessionCalls}
    (hcounts : (n.call silenceLog c t).2.Counted)
    (hdriver : (n.call silenceLog c t).2.held.driver = true → (t.next true).index ≤ 14) :
    n.Lets c t := by
  unfold call at hcounts hdriver
  rw [if_neg (by rw [h.alone]; exact Bool.false_ne_true)] at hcounts hdriver
  unfold Lets
  cases t with
  | unregisterAnyId =>
    intro hany
    by_contra hlet
    dsimp only at hcounts
    rw [if_pos hany, if_neg hlet] at hcounts
    have hone := h.counts.anyIds
    rw [hany, hcounts.anyIds] at hone
    cases hone
  | unregisterGotIp =>
    intro hip
    by_contra hlet
    dsimp only at hcounts
    rw [if_pos hip, if_neg hlet] at hcounts
    have hone := h.counts.gotIps
    rw [hip, hcounts.gotIps] at hone
    cases hone
  | wifiDeinit =>
    intro hon
    by_contra hlet
    dsimp only at hdriver
    rw [if_neg hlet] at hdriver
    exact absurd (hdriver hon) (by decide)
  | _ => trivial

end WifiNet

end BleMeshTracking.Ota
