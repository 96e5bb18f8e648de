import BleMeshTracking.Gateway.NodeTable
import BleMeshTracking.Library.Run
import BleMeshTracking.Scanner.EpochAuth

/-!
# The OTA-beacon key on both sides

The gateway signs OTA beacons with a key it rotates; every configured scanner has a copy.  Each
side keeps the key in RAM and in NVS, and the gateway pushes it over the mesh: to all configured
scanners after a rotation, and to a scanner when its configuration ends.
-/

namespace BleMeshTracking.Ota

open Gateway Protocol Scanner

abbrev BeaconKey := { key : Bytes // key.length = 16 }

/-- Which PSA calls of a boot succeed, and whether a key written to NVS gets there. -/
structure BootCalls where
  cryptoInit : Bool := true
  importKey : Bool := true
  persist : Bool := true

/-- `beacon_key_import`: whether it succeeded, and the key in use afterwards. -/
def beaconKeyImport (ok : Bool) (key : BeaconKey) (ram : Option BeaconKey) :
    Bool × Option BeaconKey :=
  if ok then (true, some key) else (false, ram)

def beaconKeyPersist (ok : Bool) (key : BeaconKey) (nvs : Option BeaconKey) : Option BeaconKey :=
  if ok then some key else nvs

/-- `beacon_hmac_key_init` after a reboot: the key in use and the key in NVS. -/
def beaconHmacKeyInit (calls : BootCalls) (random : BeaconKey) (nvs : Option BeaconKey) :
    Option BeaconKey × Option BeaconKey :=
  if calls.cryptoInit then
    match nvs with
    | some key => ((beaconKeyImport calls.importKey key none).2, nvs)
    | none =>
      ((beaconKeyImport calls.importKey random none).2, beaconKeyPersist calls.persist random nvs)
  else (none, nvs)

/-- The keys of a scanner in RAM, and the blob of its OTA-beacon key in NVS. -/
structure ScannerKeys where
  keys : AuthKeys := bmtAuthInit {} {}
  nvsBlob : Option Bytes := none

def ScannerKeys.reload (sc : ScannerKeys) : Option Bytes :=
  (bmtAuthInit { nvsBlob := sc.nvsBlob } {}).otaBeacon

/-- `bmt_auth_set_ota_beacon_key`; `persisted` says whether the write to NVS gets there. -/
def bmtAuthSetOtaBeaconKey (imported persisted : Bool) (key : Bytes) (sc : ScannerKeys) :
    ScannerKeys :=
  if key.length = 16 then
    match importHmacKey imported key with
    | some newKey =>
      { keys := { sc.keys with otaBeacon := some newKey }
        nvsBlob := if persisted then some key else sc.nvsBlob }
    | none => sc
  else sc

/-- Where `beacon_key_rotate_and_push` is: not running, about to persist the imported key, or about
to go through the slots that are left. -/
inductive Rotation
  | idle
  | imported
  | pushing (slots : List (Fin bmtMaxNodes))

/-- The gateway, the scanner of each slot of its node table and the pushes under way to it, in the
order in which they were sent. -/
structure KeyNet where
  ram : Option BeaconKey := none
  nvs : Option BeaconKey := none
  rotation : Rotation := .idle
  /-- `used`, `is_scan` and `config_done` of the slot. -/
  configDone : Fin bmtMaxNodes → Bool := fun _ => false
  /-- A `node_config_task` has set `config_done` and not yet called `s_on_scan_configured`. -/
  configPush : Fin bmtMaxNodes → Bool := fun _ => false
  scanners : Fin bmtMaxNodes → ScannerKeys := fun _ => {}
  inFlight : Fin bmtMaxNodes → List BeaconKey := fun _ => []

/-- What can happen.  A reboot between two writes of a handler is the handler with the second
write lost, and then the reboot. -/
inductive KeyEvent
  | rotate (key : BeaconKey) (imported : Bool)
  | persist (ok : Bool)
  | pushNext
  | provisioned (i : Fin bmtMaxNodes)
  | configured (i : Fin bmtMaxNodes)
  | configPush (i : Fin bmtMaxNodes)
  | deliver (i : Fin bmtMaxNodes) (m : ℕ) (imported persisted : Bool)
  | gatewayReboot (calls : BootCalls) (random : BeaconKey)
  | scannerReboot (i : Fin bmtMaxNodes) (calls : InitCalls)

def KeyNet.push (s : KeyNet) (i : Fin bmtMaxNodes) : KeyNet :=
  match s.ram with
  | some key => { s with inFlight := Function.update s.inFlight i (s.inFlight i ++ [key]) }
  | none => s

def KeyNet.step (s : KeyNet) : KeyEvent → Option KeyNet
  | .rotate key imported =>
    match s.rotation with
    | .idle =>
      let res := beaconKeyImport imported key s.ram
      some (if res.1 then { s with ram := res.2, rotation := .imported } else s)
    | _ => none
  | .persist ok =>
    match s.rotation, s.ram with
    | .imported, some key =>
      some { s with
        nvs := beaconKeyPersist ok key s.nvs
        rotation := .pushing (List.finRange bmtMaxNodes) }
    | _, _ => none
  | .pushNext =>
    match s.rotation with
    | .pushing [] => some { s with rotation := .idle }
    | .pushing (i :: slots) =>
      let s := { s with rotation := .pushing slots }
      some (if s.configDone i then s.push i else s)
    | _ => none
  | .provisioned i => some { s with configDone := Function.update s.configDone i false }
  | .configured i =>
    some { s with
      configDone := Function.update s.configDone i true
      configPush := Function.update s.configPush i true }
  | .configPush i =>
    if s.configPush i then
      some ({ s with configPush := Function.update s.configPush i false }.push i)
    else none
  | .deliver i m imported persisted =>
    match (s.inFlight i)[m]? with
    | some key =>
      some { s with
        inFlight := Function.update s.inFlight i ((s.inFlight i).eraseIdx m)
        scanners := Function.update s.scanners i
          (bmtAuthSetOtaBeaconKey imported persisted key.val (s.scanners i)) }
    | none => none
  | .gatewayReboot calls random =>
    let keys := beaconHmacKeyInit calls random s.nvs
    some { s with
      ram := keys.1
      nvs := keys.2
      rotation := .idle
      configPush := fun _ => false }
  | .scannerReboot i calls =>
    let sc := s.scanners i
    some { s with
      scanners := Function.update s.scanners i
        { sc with keys := bmtAuthInit { calls with nvsBlob := sc.nvsBlob } {} } }

/-- No rotation is in progress and no push is in flight or about to be sent. -/
structure KeyNet.Quiet (s : KeyNet) : Prop where
  rotation : s.rotation = .idle
  configPush : ∀ i, s.configPush i = false
  inFlight : ∀ i, s.inFlight i = []

/-- Every configured scanner and the gateway have one key, in RAM and in NVS. -/
def KeyNet.Agreed (s : KeyNet) : Prop :=
  ∀ i, s.configDone i = true → ∃ key, s.ram = some key ∧ s.nvs = some key ∧
    (s.scanners i).keys.otaBeacon = some key.val ∧ (s.scanners i).reload = some key.val

def KeyNet.Owed (s : KeyNet) (i : Fin bmtMaxNodes) : Prop :=
  s.configPush i = true ∨
    match s.rotation with
    | .idle => False
    | .imported => True
    | .pushing slots => i ∈ slots

/-- The last push under way to the scanner carries the key, or nothing is under way and the scanner
has it. -/
def KeyNet.HeadedFor (s : KeyNet) (i : Fin bmtMaxNodes) (key : BeaconKey) : Prop :=
  match (s.inFlight i).getLast? with
  | some last => last = key
  | none =>
    (s.scanners i).keys.otaBeacon = some key.val ∧ (s.scanners i).reload = some key.val

def KeyNet.KeepsKeys (s : KeyNet) : KeyEvent → Prop
  | .rotate _ _ => True
  | .persist ok => ok = true ∨ s.nvs = s.ram
  | .pushNext => True
  | .provisioned _ => True
  | .configured _ => True
  | .configPush _ => s.ram.isSome = true
  | .deliver i m imported persisted =>
    s.configDone i = true → ¬s.Owed i →
      if (s.inFlight i).eraseIdx m = [] then
        imported = true ∧
          (persisted = true ∨ (s.scanners i).nvsBlob = (s.inFlight i)[m]?.map Subtype.val)
      else ((s.inFlight i).eraseIdx m).getLast? = (s.inFlight i).getLast?
  | .gatewayReboot calls _ =>
    calls.cryptoInit = true ∧ calls.importKey = true ∧ (s.nvs = none → calls.persist = true) ∧
      ∀ i, s.configDone i = true → ∃ key, s.nvs = some key ∧ s.HeadedFor i key
  | .scannerReboot _ calls => calls.cryptoInit = true ∧ calls.importOta = true

section HeadedFor

variable {s s' : KeyNet} {i j : Fin bmtMaxNodes} {key : BeaconKey}

theorem KeyNet.HeadedFor.congr (h : s.HeadedFor i key) (hflight : s'.inFlight i = s.inFlight i)
    (hscanner : s'.scanners i = s.scanners i) : s'.HeadedFor i key := by
  unfold KeyNet.HeadedFor at h ⊢
  rw [hflight, hscanner]
  exact h

theorem headedFor_of_getLast (h : (s.inFlight i).getLast? = some key) : s.HeadedFor i key := by
  unfold KeyNet.HeadedFor
  rw [h]

theorem headedFor_of_nil (h : s.inFlight i = []) : s.HeadedFor i key ↔
    (s.scanners i).keys.otaBeacon = some key.val ∧ (s.scanners i).reload = some key.val := by
  unfold KeyNet.HeadedFor
  rw [h]
  rfl

theorem KeyNet.HeadedFor.getLast (h : s.HeadedFor i key) (hne : s.inFlight i ≠ []) :
    (s.inFlight i).getLast? = some key := by
  unfold KeyNet.HeadedFor at h
  rw [List.getLast?_eq_getLast_of_ne_nil hne] at h ⊢
  exact congrArg some h

theorem headedFor_push (h : s.ram = some key) : (s.push i).HeadedFor i key := by
  apply headedFor_of_getLast
  unfold KeyNet.push
  rw [h]
  simp

theorem push_frame (s : KeyNet) (i : Fin bmtMaxNodes) :
    (s.push i).ram = s.ram ∧ (s.push i).nvs = s.nvs ∧ (s.push i).rotation = s.rotation ∧
      (s.push i).configDone = s.configDone ∧ (s.push i).configPush = s.configPush ∧
        (s.push i).scanners = s.scanners := by
  unfold KeyNet.push
  split
  · exact ⟨rfl, rfl, rfl, rfl, rfl, rfl⟩
  · exact ⟨rfl, rfl, rfl, rfl, rfl, rfl⟩

theorem KeyNet.HeadedFor.push_other (h : s.HeadedFor j key) (hji : j ≠ i) :
    (s.push i).HeadedFor j key := by
  apply h.congr
  · unfold KeyNet.push
    cases s.ram with
    | none => rfl
    | some k => exact Function.update_of_ne hji _ _
  · rw [(push_frame s i).2.2.2.2.2]

end HeadedFor

theorem reload_of_blob {sc : ScannerKeys} {key : BeaconKey}
    (h : sc.nvsBlob = some key.val) : sc.reload = some key.val := by
  simp [ScannerKeys.reload, bmtAuthInit, importHmacKey, h, key.property]

theorem set_of_imported (persisted : Bool) (key : BeaconKey) (sc : ScannerKeys) :
    bmtAuthSetOtaBeaconKey true persisted key.val sc =
      { keys := { sc.keys with otaBeacon := some key.val }
        nvsBlob := if persisted then some key.val else sc.nvsBlob } := by
  unfold bmtAuthSetOtaBeaconKey
  rw [if_pos key.property]
  rfl

/-- A configured scanner is owed a push or headed for the gateway's key, and the gateway's key is
the one in its NVS but for the moment before it is written. -/
structure KeyNet.Tracked (s : KeyNet) : Prop where
  hasKey : s.rotation ≠ .idle → s.ram.isSome = true
  persisted : s.rotation ≠ .imported → s.nvs = s.ram
  headed : ∀ i, s.configDone i = true → s.Owed i ∨ ∃ key, s.ram = some key ∧ s.HeadedFor i key

theorem agreed_of_quiet {s : KeyNet} (h : s.Tracked) (hq : s.Quiet) : s.Agreed := by
  intro i hdone
  rcases h.headed i hdone with howed | hheaded
  · simp [KeyNet.Owed, hq.configPush, hq.rotation] at howed
  · obtain ⟨key, hram, hkey⟩ := hheaded
    obtain ⟨huse, hreload⟩ := (headedFor_of_nil (hq.inFlight i)).mp hkey
    have hnvs := h.persisted (by rw [hq.rotation]; exact Rotation.noConfusion)
    exact ⟨key, hram, hnvs.trans hram, huse, hreload⟩

theorem tracked_start : KeyNet.Tracked {} := by
  refine ⟨fun h => absurd rfl h, fun _ => rfl, ?_⟩
  intro i hdone
  cases hdone

section Step

variable {s s' : KeyNet}

theorem step_rotate {key : BeaconKey} {imported : Bool}
    (h : s.step (.rotate key imported) = some s') :
    s' = s ∨ s' = { s with ram := some key, rotation := .imported } := by
  simp only [KeyNet.step] at h
  cases hrot : s.rotation with
  | idle =>
    rw [hrot] at h
    cases imported with
    | true =>
      cases h
      exact Or.inr rfl
    | false =>
      cases h
      exact Or.inl rfl
  | imported =>
    rw [hrot] at h
    cases h
  | pushing slots =>
    rw [hrot] at h
    cases h

theorem step_persist {ok : Bool} (h : s.step (.persist ok) = some s') :
    ∃ key, s.ram = some key ∧ s' = { s with
      nvs := beaconKeyPersist ok key s.nvs
      rotation := .pushing (List.finRange bmtMaxNodes) } := by
  simp only [KeyNet.step] at h
  cases hrot : s.rotation with
  | idle =>
    rw [hrot] at h
    cases h
  | imported =>
    cases hram : s.ram with
    | none =>
      rw [hrot, hram] at h
      cases h
    | some key =>
      rw [hrot, hram] at h
      cases h
      exact ⟨key, rfl, rfl⟩
  | pushing slots =>
    rw [hrot] at h
    cases h

theorem step_pushNext (h : s.step .pushNext = some s') :
    (s.rotation = .pushing [] ∧ s' = { s with rotation := .idle }) ∨
      ∃ i slots, s.rotation = .pushing (i :: slots) ∧
        (s.configDone i = true ∧ s' = KeyNet.push { s with rotation := .pushing slots } i ∨
          s.configDone i = false ∧ s' = { s with rotation := .pushing slots }) := by
  simp only [KeyNet.step] at h
  cases hrot : s.rotation with
  | idle =>
    rw [hrot] at h
    cases h
  | imported =>
    rw [hrot] at h
    cases h
  | pushing slots =>
    rw [hrot] at h
    cases slots with
    | nil =>
      cases h
      exact Or.inl ⟨rfl, rfl⟩
    | cons i slots =>
      refine Or.inr ⟨i, slots, rfl, ?_⟩
      cases hdone : s.configDone i with
      | true =>
        simp only [hdone, if_true] at h
        cases h
        exact Or.inl ⟨rfl, rfl⟩
      | false =>
        simp only [hdone] at h
        cases h
        exact Or.inr ⟨rfl, rfl⟩

theorem step_deliver {i : Fin bmtMaxNodes} {m : ℕ} {imported persisted : Bool}
    (h : s.step (.deliver i m imported persisted) = some s') :
    ∃ key, (s.inFlight i)[m]? = some key ∧ s' = { s with
      inFlight := Function.update s.inFlight i ((s.inFlight i).eraseIdx m)
      scanners := Function.update s.scanners i
        (bmtAuthSetOtaBeaconKey imported persisted key.val (s.scanners i)) } := by
  simp only [KeyNet.step] at h
  cases hkey : (s.inFlight i)[m]? with
  | none =>
    rw [hkey] at h
    cases h
  | some key =>
    rw [hkey] at h
    cases h
    exact ⟨key, rfl, rfl⟩

theorem tracked_rotate (h : s.Tracked) {key : BeaconKey} {imported : Bool}
    (hs : s.step (.rotate key imported) = some s') : s'.Tracked := by
  rcases step_rotate hs with heq | heq
  · rw [heq]
    exact h
  · rw [heq]
    refine ⟨fun _ => rfl, fun hne => absurd rfl hne, ?_⟩
    intro i _
    exact Or.inl (Or.inr trivial)

theorem tracked_persist {ok : Bool} (hok : s.KeepsKeys (.persist ok))
    (hs : s.step (.persist ok) = some s') : s'.Tracked := by
  obtain ⟨key, hram, heq⟩ := step_persist hs
  rw [heq]
  refine ⟨fun _ => by simp [hram], ?_, ?_⟩
  · intro _
    rcases hok with hok | hsame
    · rw [hok]
      exact hram.symm
    · cases ok with
      | true => exact hram.symm
      | false => exact hsame
  · intro i _
    exact Or.inl (Or.inr (List.mem_finRange i))

theorem tracked_pushedAll (h : s.Tracked) (hrot : s.rotation = .pushing []) :
    KeyNet.Tracked { s with rotation := .idle } := by
  have hnvs : s.nvs = s.ram := h.persisted (by rw [hrot]; exact Rotation.noConfusion)
  refine ⟨fun hne => absurd rfl hne, fun _ => hnvs, ?_⟩
  intro j hdone
  rcases h.headed j hdone with howed | hheaded
  · rcases howed with hpush | hrotation
    · exact Or.inl (Or.inl hpush)
    · rw [hrot] at hrotation
      exact absurd hrotation List.not_mem_nil
  · exact Or.inr hheaded

/-- While a slot gets its push, the slots after it are still owed theirs. -/
theorem headed_others (h : s.Tracked) {i j : Fin bmtMaxNodes} {slots : List (Fin bmtMaxNodes)}
    (hrot : s.rotation = .pushing (i :: slots)) (hji : j ≠ i) (hdone : s.configDone j = true) :
    KeyNet.Owed { s with rotation := .pushing slots } j ∨
      ∃ key, s.ram = some key ∧ KeyNet.HeadedFor { s with rotation := .pushing slots } j key := by
  rcases h.headed j hdone with howed | hheaded
  · rcases howed with hpush | hrotation
    · exact Or.inl (Or.inl hpush)
    · rw [hrot] at hrotation
      rcases List.mem_cons.mp hrotation with hj | hj
      · exact absurd hj hji
      · exact Or.inl (Or.inr hj)
  · exact Or.inr hheaded

theorem tracked_pushNext (h : s.Tracked) (hs : s.step .pushNext = some s') : s'.Tracked := by
  rcases step_pushNext hs with hend | hslot
  · obtain ⟨hrot, heq⟩ := hend
    rw [heq]
    exact tracked_pushedAll h hrot
  · obtain ⟨i, slots, hrot, hcases⟩ := hslot
    have hsome : s.ram.isSome = true := h.hasKey (by rw [hrot]; exact Rotation.noConfusion)
    have hnvs : s.nvs = s.ram := h.persisted (by rw [hrot]; exact Rotation.noConfusion)
    obtain ⟨key, hram⟩ := Option.isSome_iff_exists.mp hsome
    rcases hcases with hpushed | hskipped
    · obtain ⟨-, heq⟩ := hpushed
      obtain ⟨hr, hn, hrt, hd, hp, -⟩ := push_frame { s with rotation := .pushing slots } i
      rw [heq]
      refine ⟨fun _ => by rw [hr]; exact hsome, fun _ => by rw [hn, hr]; exact hnvs, ?_⟩
      intro j hdone
      rw [hd] at hdone
      by_cases hji : j = i
      · rw [hji, hr]
        exact Or.inr ⟨key, hram, headedFor_push hram⟩
      · rcases headed_others h hrot hji hdone with howed | hheaded
        · left
          unfold KeyNet.Owed at howed ⊢
          rw [hp, hrt]
          exact howed
        · obtain ⟨k, hk, hheaded⟩ := hheaded
          rw [hr]
          exact Or.inr ⟨k, hk, hheaded.push_other hji⟩
    · obtain ⟨hnot, heq⟩ := hskipped
      rw [heq]
      refine ⟨fun _ => hsome, fun _ => hnvs, ?_⟩
      intro j hdone
      refine headed_others h hrot ?_ hdone
      intro hji
      rw [hji] at hdone
      exact absurd hdone (by simp [hnot])

theorem tracked_provisioned (h : s.Tracked) (i : Fin bmtMaxNodes) :
    KeyNet.Tracked { s with configDone := Function.update s.configDone i false } := by
  refine ⟨h.hasKey, h.persisted, ?_⟩
  intro j hdone
  by_cases hji : j = i
  · simp [hji] at hdone
  · simp only [Function.update_of_ne hji] at hdone
    exact h.headed j hdone

theorem tracked_configured (h : s.Tracked) (i : Fin bmtMaxNodes) :
    KeyNet.Tracked { s with
      configDone := Function.update s.configDone i true
      configPush := Function.update s.configPush i true } := by
  refine ⟨h.hasKey, h.persisted, ?_⟩
  intro j hdone
  by_cases hji : j = i
  · exact Or.inl (Or.inl (by simp [hji]))
  · simp only [Function.update_of_ne hji] at hdone
    rcases h.headed j hdone with howed | hheaded
    · left
      unfold KeyNet.Owed at howed ⊢
      simp only [Function.update_of_ne hji]
      exact howed
    · exact Or.inr hheaded

theorem tracked_configPush (h : s.Tracked) {i : Fin bmtMaxNodes}
    (hok : s.KeepsKeys (.configPush i)) :
    (KeyNet.push { s with configPush := Function.update s.configPush i false } i).Tracked := by
  obtain ⟨key, hram⟩ := Option.isSome_iff_exists.mp hok
  obtain ⟨hr, hn, hrt, hd, hp, -⟩ :=
    push_frame { s with configPush := Function.update s.configPush i false } i
  refine ⟨fun _ => by rw [hr]; exact hok, ?_, ?_⟩
  · intro hne
    rw [hrt] at hne
    rw [hn, hr]
    exact h.persisted hne
  · intro j hdone
    rw [hd] at hdone
    by_cases hji : j = i
    · rw [hji, hr]
      exact Or.inr ⟨key, hram, headedFor_push hram⟩
    · rcases h.headed j hdone with howed | hheaded
      · left
        unfold KeyNet.Owed at howed ⊢
        rw [hp, hrt]
        simp only [Function.update_of_ne hji]
        exact howed
      · obtain ⟨k, hk, hheaded⟩ := hheaded
        rw [hr]
        refine Or.inr ⟨k, hk, ?_⟩
        apply KeyNet.HeadedFor.push_other _ hji
        exact hheaded

/-- A list that loses its last element had no other. -/
theorem eq_singleton_of_eraseIdx_eq_nil {α : Type*} {l : List α} {m : ℕ} {a : α}
    (ha : l[m]? = some a) (h : l.eraseIdx m = []) : l = [a] := by
  have hlen := congrArg List.length h
  have hm := (List.getElem?_eq_some_iff.mp ha).1
  rw [List.length_eraseIdx_of_lt hm, List.length_nil] at hlen
  have hone : l.length = 1 := by omega
  obtain ⟨b, rfl⟩ := List.length_eq_one_iff.mp hone
  have hm0 : m = 0 := by simpa using hm
  subst hm0
  simpa using ha

theorem tracked_deliver (h : s.Tracked) {i : Fin bmtMaxNodes} {m : ℕ} {imported persisted : Bool}
    (hok : s.KeepsKeys (.deliver i m imported persisted))
    (hs : s.step (.deliver i m imported persisted) = some s') : s'.Tracked := by
  obtain ⟨last, hlast, heq⟩ := step_deliver hs
  rw [heq]
  refine ⟨h.hasKey, h.persisted, ?_⟩
  intro j hdone
  by_cases howed : s.Owed j
  · exact Or.inl howed
  · rcases h.headed j hdone with howed' | hheaded
    · exact absurd howed' howed
    · obtain ⟨key, hram, hkey⟩ := hheaded
      refine Or.inr ⟨key, hram, ?_⟩
      by_cases hji : j = i
      · rw [hji] at hdone howed hkey ⊢
        have hcond := hok hdone howed
        have hne : s.inFlight i ≠ [] := by
          intro hnil
          rw [hnil] at hlast
          cases hlast
        have hfinal := hkey.getLast hne
        by_cases hrest : (s.inFlight i).eraseIdx m = []
        · rw [if_pos hrest] at hcond
          obtain ⟨himported, hpersisted⟩ := hcond
          -- what is delivered is all there was, so it is the last push
          have hsingle := eq_singleton_of_eraseIdx_eq_nil hlast hrest
          have hkeyLast : key = last := by simpa [hsingle] using hfinal.symm
          rw [hlast] at hpersisted
          apply (headedFor_of_nil (by simp [hrest])).mpr
          simp only [Function.update_self, himported, set_of_imported, hkeyLast]
          refine ⟨trivial, ?_⟩
          apply reload_of_blob
          rcases hpersisted with hp | hp
          · simp [hp]
          · cases persisted with
            | true => rfl
            | false => simpa using hp
        · -- the most recent push is still to come
          rw [if_neg hrest, hfinal] at hcond
          apply headedFor_of_getLast
          simpa using hcond
      · apply hkey.congr
        · exact Function.update_of_ne hji _ _
        · exact Function.update_of_ne hji _ _

theorem tracked_gatewayReboot {calls : BootCalls} {random : BeaconKey}
    (hok : s.KeepsKeys (.gatewayReboot calls random))
    (hs : s.step (.gatewayReboot calls random) = some s') : s'.Tracked := by
  obtain ⟨hcrypto, himport, hpersist, hheaded⟩ := hok
  cases hs
  refine ⟨fun hne => absurd rfl hne, ?_, ?_⟩
  · intro _
    cases hnvs : s.nvs with
    | none =>
      simp [beaconHmacKeyInit, beaconKeyImport, beaconKeyPersist, hcrypto, himport, hpersist hnvs]
    | some key => simp [beaconHmacKeyInit, beaconKeyImport, hcrypto, himport]
  · intro i hdone
    obtain ⟨key, hnvs, hkey⟩ := hheaded i hdone
    refine Or.inr ⟨key, ?_, hkey⟩
    simp [beaconHmacKeyInit, beaconKeyImport, hcrypto, himport, hnvs]

theorem tracked_scannerReboot (h : s.Tracked) {i : Fin bmtMaxNodes} {calls : InitCalls}
    (hok : s.KeepsKeys (.scannerReboot i calls))
    (hs : s.step (.scannerReboot i calls) = some s') : s'.Tracked := by
  obtain ⟨hcrypto, himport⟩ := hok
  cases hs
  refine ⟨h.hasKey, h.persisted, ?_⟩
  intro j hdone
  rcases h.headed j hdone with howed | hheaded
  · exact Or.inl howed
  · obtain ⟨key, hram, hkey⟩ := hheaded
    refine Or.inr ⟨key, hram, ?_⟩
    by_cases hji : j = i
    · -- with nothing under way RAM and NVS hold the same key, so the reboot changes nothing
      rw [hji] at hkey ⊢
      by_cases hnil : s.inFlight i = []
      · obtain ⟨-, hreload⟩ := (headedFor_of_nil hnil).mp hkey
        refine (headedFor_of_nil ?_).mpr ?_
        · exact hnil
        · simp only [Function.update_self]
          refine ⟨?_, hreload⟩
          rw [← hreload]
          simp [ScannerKeys.reload, bmtAuthInit, hcrypto, himport]
      · apply headedFor_of_getLast
        exact hkey.getLast hnil
    · apply hkey.congr
      · rfl
      · exact Function.update_of_ne hji _ _

theorem tracked_step (h : s.Tracked) {e : KeyEvent} (hok : s.KeepsKeys e)
    (hs : s.step e = some s') : s'.Tracked := by
  cases e with
  | rotate key imported => exact tracked_rotate h hs
  | persist ok => exact tracked_persist hok hs
  | pushNext => exact tracked_pushNext h hs
  | provisioned i =>
    cases hs
    exact tracked_provisioned h i
  | configured i =>
    cases hs
    exact tracked_configured h i
  | configPush i =>
    obtain ⟨-, hs'⟩ := Option.ite_none_right_eq_some.mp hs
    cases hs'
    exact tracked_configPush h hok
  | deliver i m imported persisted => exact tracked_deliver h hok hs
  | gatewayReboot calls random => exact tracked_gatewayReboot hok hs
  | scannerReboot i calls => exact tracked_scannerReboot h hok hs

end Step

/-- In every run whose steps keep the copies of the key together, the gateway and its configured
scanners agree whenever nothing is going on. -/
theorem keys_agree_when_quiet (es : List KeyEvent)
    (h : Run.Meets KeyNet.step KeyNet.KeepsKeys {} es) :
    Run.Throughout KeyNet.step (fun s => s.Quiet → s.Agreed) {} es := by
  have htracked : Run.Throughout KeyNet.step KeyNet.Tracked {} es := by
    refine Run.throughout_of_meets ?_ tracked_start h
    intro s e s' ht hok hs
    exact tracked_step ht hok hs
  apply htracked.mono
  intro s ht
  exact agreed_of_quiet ht

theorem meets_pushNext (s : KeyNet) (n : ℕ) :
    Run.Meets KeyNet.step KeyNet.KeepsKeys s (List.replicate n .pushNext) := by
  induction n generalizing s with
  | zero => trivial
  | succ n ih => exact fun m _ => ⟨trivial, ih m⟩

def keyA : BeaconKey := ⟨List.replicate 16 1, rfl⟩

def keyB : BeaconKey := ⟨List.replicate 16 2, rfl⟩

def configureFirst : List KeyEvent :=
  [.gatewayReboot {} keyA, .configured ⟨0, by decide⟩, .configPush ⟨0, by decide⟩]

def rotateAll (persisted : Bool) : List KeyEvent :=
  [.rotate keyB true, .persist persisted] ++ List.replicate 11 .pushNext

def deliverFirst : KeyEvent := .deliver ⟨0, by decide⟩ 0 true true

theorem keys_agree_when_quiet_rotation :
    Run.Throughout KeyNet.step (fun s => s.Quiet → s.Agreed) {}
      ((configureFirst ++ [deliverFirst]) ++ (rotateAll true ++ [deliverFirst])) := by
  apply keys_agree_when_quiet
  have hfirst : Run.Meets KeyNet.step KeyNet.KeepsKeys {} (configureFirst ++ [deliverFirst]) := by
    refine Run.Meets.cons rfl ⟨rfl, rfl, fun _ => rfl, ?_⟩ ?_
    · intro i hdone
      cases hdone
    · refine Run.Meets.cons rfl trivial (Run.Meets.cons rfl rfl (Run.Meets.cons rfl ?_ trivial))
      intro _ _
      exact ⟨rfl, Or.inl rfl⟩
  refine hfirst.append rfl (Run.Meets.append ?_ rfl (Run.Meets.cons rfl ?_ trivial))
  · refine Run.Meets.cons rfl trivial (Run.Meets.cons rfl (Or.inl rfl) ?_)
    exact meets_pushNext _ 11
  · intro _ _
    exact ⟨rfl, Or.inl rfl⟩

/-- The gateway's key drifts from its NVS when the write fails; a scanner keeps an old key when it
arrives after the new one, or when the gateway reboots before the push. -/
theorem keys_drift :
    ¬Run.Throughout KeyNet.step (fun s => s.Quiet → s.Agreed) {}
        (configureFirst ++ [deliverFirst] ++ rotateAll false ++ [deliverFirst]) ∧
      ¬Run.Throughout KeyNet.step (fun s => s.Quiet → s.Agreed) {}
        (configureFirst ++ rotateAll true ++
          [.deliver ⟨0, by decide⟩ 1 true true, deliverFirst]) ∧
      ¬Run.Throughout KeyNet.step (fun s => s.Quiet → s.Agreed) {}
        (configureFirst ++ [deliverFirst, .rotate keyB true, .persist true,
          .gatewayReboot {} keyA]) := by
  refine ⟨?_, ?_, ?_⟩
  · intro h
    have hquiet := h.last rfl
    have hagreed := hquiet ⟨rfl, by decide, by decide⟩ ⟨0, by decide⟩ (by decide)
    obtain ⟨key, hram, hnvs, -⟩ := hagreed
    exact absurd (hnvs.trans hram.symm) (by decide)
  · intro h
    have hquiet := h.last rfl
    have hagreed := hquiet ⟨rfl, by decide, by decide⟩ ⟨0, by decide⟩ (by decide)
    obtain ⟨key, hram, -, huse, -⟩ := hagreed
    have hkey : keyB = key := Option.some_inj.mp hram
    rw [← hkey] at huse
    exact absurd huse (by decide)
  · intro h
    have hquiet := h.last rfl
    have hagreed := hquiet ⟨rfl, by decide, by decide⟩ ⟨0, by decide⟩ (by decide)
    obtain ⟨key, hram, -, huse, -⟩ := hagreed
    have hkey : keyB = key := Option.some_inj.mp hram
    rw [← hkey] at huse
    exact absurd huse (by decide)

end BleMeshTracking.Ota
