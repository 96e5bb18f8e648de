import BleMeshTracking.Ota.BeaconKeys
import BleMeshTracking.Ota.Broadcast

/-!
# OTA beacons while their key is rotated

What the gateway broadcasts under the key it has, and what a scanner answers under the key that has
reached it, over runs of rotations, pushes and reboots on both sides.
-/

namespace BleMeshTracking.System

open Gateway Ota Protocol Scanner

/-- The keys that a step draws: for a rotation, and at a boot that finds none in NVS. -/
def keysDrawn (net : KeyNet) : KeyEvent → List BeaconKey
  | .rotate key _ => [key]
  | .gatewayReboot calls random => if calls.cryptoInit && net.nvs.isNone then [random] else []
  | _ => []

structure KeyHistory where
  net : KeyNet := {}
  drawn : List BeaconKey := []

def KeyHistory.step (s : KeyHistory) (e : KeyEvent) : Option KeyHistory :=
  (s.net.step e).map fun net => { net, drawn := s.drawn ++ keysDrawn s.net e }

theorem KeyHistory.step_eq_some_iff {s s' : KeyHistory} {e : KeyEvent} :
    s.step e = some s' ↔
      s.net.step e = some s'.net ∧ s'.drawn = s.drawn ++ keysDrawn s.net e := by
  unfold KeyHistory.step
  rw [Option.map_eq_some_iff]
  refine ⟨?_, ?_⟩
  · rintro ⟨net, hnet, rfl⟩
    exact ⟨hnet, rfl⟩
  · rintro ⟨hnet, hdrawn⟩
    refine ⟨s'.net, hnet, ?_⟩
    rw [← hdrawn]

/-- A scanner has keys drawn by the gateway, or in RAM that of its firmware as long as it has none
in NVS. -/
structure ScannerFrom (drawn : List BeaconKey) (sc : ScannerKeys) : Prop where
  nvs : ∀ blob, sc.nvsBlob = some blob → ∃ key ∈ drawn, blob = key.val
  use : ∀ k, sc.keys.otaBeacon = some k →
    (∃ key ∈ drawn, k = key.val) ∨ sc.nvsBlob = none ∧ k = bmtOtaBeaconHmacKey

structure FromDrawn (drawn : List BeaconKey) (net : KeyNet) : Prop where
  ram : ∀ key, net.ram = some key → key ∈ drawn
  nvs : ∀ key, net.nvs = some key → key ∈ drawn
  inFlight : ∀ i, ∀ key ∈ net.inFlight i, key ∈ drawn
  scanner : ∀ i, ScannerFrom drawn (net.scanners i)

variable {drawn drawn' : List BeaconKey} {net net' : KeyNet} {sc : ScannerKeys}

theorem ScannerFrom.mono (h : ScannerFrom drawn sc) (hsub : drawn ⊆ drawn') :
    ScannerFrom drawn' sc := by
  refine ⟨?_, ?_⟩
  · intro blob hblob
    obtain ⟨key, hkey, heq⟩ := h.nvs blob hblob
    exact ⟨key, hsub hkey, heq⟩
  · intro k hk
    rcases h.use k hk with ⟨key, hkey, heq⟩ | hfirmware
    · exact Or.inl ⟨key, hsub hkey, heq⟩
    · exact Or.inr hfirmware

theorem FromDrawn.mono (h : FromDrawn drawn net) (hsub : drawn ⊆ drawn') :
    FromDrawn drawn' net := by
  refine ⟨?_, ?_, ?_, ?_⟩
  · exact fun key hkey => hsub (h.ram key hkey)
  · exact fun key hkey => hsub (h.nvs key hkey)
  · exact fun i key hkey => hsub (h.inFlight i key hkey)
  · exact fun i => (h.scanner i).mono hsub

theorem scannerFrom_set (h : ScannerFrom drawn sc) {key : BeaconKey} (hkey : key ∈ drawn)
    (imported persisted : Bool) :
    ScannerFrom drawn (bmtAuthSetOtaBeaconKey imported persisted key.val sc) := by
  cases imported with
  | false =>
    have hsame : bmtAuthSetOtaBeaconKey false persisted key.val sc = sc := by
      unfold bmtAuthSetOtaBeaconKey
      rw [if_pos key.property]
      rfl
    rw [hsame]
    exact h
  | true =>
    rw [set_of_imported]
    refine ⟨?_, ?_⟩
    · intro blob hblob
      cases persisted with
      | false => exact h.nvs blob hblob
      | true =>
        cases hblob
        exact ⟨key, hkey, rfl⟩
    · intro k hk
      cases hk
      exact Or.inl ⟨key, hkey, rfl⟩

/-- A reboot reads what is in NVS, and falls back on the key of the firmware only without it. -/
theorem scannerFrom_boot (h : ScannerFrom drawn sc) (calls : InitCalls) :
    ScannerFrom drawn { sc with keys := bmtAuthInit { calls with nvsBlob := sc.nvsBlob } {} } := by
  refine ⟨h.nvs, ?_⟩
  intro k hk
  dsimp only at hk
  unfold bmtAuthInit at hk
  by_cases hcrypto : calls.cryptoInit = true
  · rw [if_pos hcrypto] at hk
    dsimp only at hk
    unfold importHmacKey at hk
    obtain ⟨-, hk⟩ := Option.ite_none_right_eq_some.mp hk
    cases hblob : sc.nvsBlob with
    | none =>
      rw [hblob] at hk
      exact Or.inr ⟨rfl, (Option.some.inj hk).symm⟩
    | some blob =>
      obtain ⟨key, hkey, heq⟩ := h.nvs blob hblob
      rw [hblob, heq] at hk
      dsimp only at hk
      rw [if_pos key.property] at hk
      exact Or.inl ⟨key, hkey, (Option.some.inj hk).symm⟩
  · rw [if_neg hcrypto] at hk
    cases hk

theorem fromDrawn_push (h : FromDrawn drawn net) (i : Fin bmtMaxNodes) :
    FromDrawn drawn (net.push i) := by
  obtain ⟨hram, hnvs, -, -, -, hscanners⟩ := push_frame net i
  refine ⟨by rw [hram]; exact h.ram, by rw [hnvs]; exact h.nvs, ?_, by
    rw [hscanners]; exact h.scanner⟩
  unfold KeyNet.push
  cases hin : net.ram with
  | none => exact h.inFlight
  | some current =>
    refine (Function.forall_update_iff _ fun _ keys => ∀ key ∈ keys, key ∈ drawn).mpr
      ⟨?_, fun j _ => h.inFlight j⟩
    intro key hkey
    rcases List.mem_append.mp hkey with hold | hnew
    · exact h.inFlight i key hold
    · rw [List.mem_singleton.mp hnew]
      exact h.ram current hin

theorem eq_of_beaconHmacKeyInit {calls : BootCalls} {random key : BeaconKey}
    {nvs : Option BeaconKey}
    (h : (beaconHmacKeyInit calls random nvs).1 = some key ∨
      (beaconHmacKeyInit calls random nvs).2 = some key) :
    nvs = some key ∨ calls.cryptoInit = true ∧ nvs = none ∧ key = random := by
  unfold beaconHmacKeyInit at h
  cases hcrypto : calls.cryptoInit with
  | false =>
    rw [hcrypto] at h
    exact Or.inl (h.resolve_left nofun)
  | true =>
    rw [hcrypto] at h
    unfold beaconKeyImport beaconKeyPersist at h
    cases nvs with
    | some stored =>
      left
      rcases h with hram | hnvs
      · cases himport : calls.importKey with
        | false =>
          rw [himport] at hram
          cases hram
        | true =>
          rw [himport] at hram
          exact hram
      · exact hnvs
    | none =>
      refine Or.inr ⟨rfl, rfl, ?_⟩
      rcases h with hram | hnvs
      · cases himport : calls.importKey with
        | false =>
          rw [himport] at hram
          cases hram
        | true =>
          rw [himport] at hram
          cases hram
          rfl
      · cases hpersist : calls.persist with
        | false =>
          rw [hpersist] at hnvs
          cases hnvs
        | true =>
          rw [hpersist] at hnvs
          cases hnvs
          rfl

theorem mem_of_beaconHmacKeyInit (h : FromDrawn drawn net) {calls : BootCalls}
    {random key : BeaconKey} (hkey : (beaconHmacKeyInit calls random net.nvs).1 = some key ∨
      (beaconHmacKeyInit calls random net.nvs).2 = some key) :
    key ∈ drawn ++ keysDrawn net (.gatewayReboot calls random) := by
  rcases eq_of_beaconHmacKeyInit hkey with hstored | ⟨hcrypto, hnvs, rfl⟩
  · exact List.mem_append_left _ (h.nvs key hstored)
  · apply List.mem_append_right
    unfold keysDrawn
    simp [hcrypto, hnvs]

theorem FromDrawn.step (h : FromDrawn drawn net) {e : KeyEvent} (hs : net.step e = some net') :
    FromDrawn (drawn ++ keysDrawn net e) net' := by
  have hsub : drawn ⊆ drawn ++ keysDrawn net e := List.subset_append_left _ _
  have hkeep : FromDrawn (drawn ++ keysDrawn net e) net := h.mono hsub
  cases e with
  | rotate key imported =>
    rcases step_rotate hs with rfl | rfl
    · exact hkeep
    · refine ⟨?_, hkeep.nvs, hkeep.inFlight, hkeep.scanner⟩
      intro key' hkey'
      cases hkey'
      exact List.mem_append_right _ List.mem_cons_self
  | persist ok =>
    obtain ⟨key, hram, rfl⟩ := step_persist hs
    refine ⟨hkeep.ram, ?_, hkeep.inFlight, hkeep.scanner⟩
    intro key' hkey'
    cases ok with
    | true =>
      cases hkey'
      exact hkeep.ram key hram
    | false => exact hkeep.nvs key' hkey'
  | pushNext =>
    rcases step_pushNext hs with ⟨-, rfl⟩ | ⟨i, slots, -, ⟨-, rfl⟩ | ⟨-, rfl⟩⟩
    · exact ⟨hkeep.ram, hkeep.nvs, hkeep.inFlight, hkeep.scanner⟩
    · apply fromDrawn_push
      exact ⟨hkeep.ram, hkeep.nvs, hkeep.inFlight, hkeep.scanner⟩
    · exact ⟨hkeep.ram, hkeep.nvs, hkeep.inFlight, hkeep.scanner⟩
  | provisioned i =>
    cases hs
    exact ⟨hkeep.ram, hkeep.nvs, hkeep.inFlight, hkeep.scanner⟩
  | configured i =>
    cases hs
    exact ⟨hkeep.ram, hkeep.nvs, hkeep.inFlight, hkeep.scanner⟩
  | configPush i =>
    obtain ⟨-, hs'⟩ := Option.ite_none_right_eq_some.mp hs
    cases hs'
    apply fromDrawn_push
    exact ⟨hkeep.ram, hkeep.nvs, hkeep.inFlight, hkeep.scanner⟩
  | deliver i m imported persisted =>
    obtain ⟨key, hkey, rfl⟩ := step_deliver hs
    have hdrawn := hkeep.inFlight i key (List.mem_of_getElem? hkey)
    refine ⟨hkeep.ram, hkeep.nvs, ?_, ?_⟩
    · refine (Function.forall_update_iff _ fun _ keys => ∀ key ∈ keys, key ∈ _).mpr
        ⟨?_, fun j _ => hkeep.inFlight j⟩
      intro key' hkey'
      exact hkeep.inFlight i key' (List.mem_of_mem_eraseIdx hkey')
    · refine (Function.forall_update_iff _ fun _ => ScannerFrom _).mpr
        ⟨?_, fun j _ => hkeep.scanner j⟩
      exact scannerFrom_set (hkeep.scanner i) hdrawn imported persisted
  | gatewayReboot calls random =>
    cases hs
    refine ⟨?_, ?_, hkeep.inFlight, hkeep.scanner⟩
    · exact fun key hkey => mem_of_beaconHmacKeyInit h (Or.inl hkey)
    · exact fun key hkey => mem_of_beaconHmacKeyInit h (Or.inr hkey)
  | scannerReboot i calls =>
    cases hs
    refine ⟨hkeep.ram, hkeep.nvs, hkeep.inFlight, ?_⟩
    refine (Function.forall_update_iff _ fun _ => ScannerFrom _).mpr
      ⟨?_, fun j _ => hkeep.scanner j⟩
    exact scannerFrom_boot (hkeep.scanner i) calls

theorem fromDrawn_start : FromDrawn [] {} := by
  refine ⟨nofun, nofun, nofun, ?_⟩
  intro i
  refine ⟨nofun, ?_⟩
  intro k hk
  exact Or.inr ⟨rfl, (Option.some.inj hk).symm⟩

/-- A scanner answers only what is signed under a key that the gateway drew; without a pushed key in
NVS, also what is signed under the key of its firmware, and without any key a MAC of 0. -/
def AnswersGenuine (hmac : Hmac) (s : KeyHistory) : Prop :=
  ∀ i (o : OtaScanner) adv nowUs recvMac,
    o.Answers hmac (s.net.scanners i).keys adv nowUs recvMac →
      ∃ data, otaFieldFrom adv 0 = some (some (recvMac, data)) ∧
        ((∃ key ∈ s.drawn, recvMac = hmac16 hmac true (some key.val) data) ∨
          (s.net.scanners i).nvsBlob = none ∧
            recvMac = hmac16 hmac true (some bmtOtaBeaconHmacKey) data ∨
          (s.net.scanners i).keys.otaBeacon = none ∧ recvMac = 0)

/-- What `beacon_send` broadcasts under any key, behind fields of other vendors, starts an update of
a configured scanner that is ready for one exactly where the scanner is addressed and the MAC is
that of the gateway's own key. -/
def CurrentOnly (hmac : Hmac) (s : KeyHistory) : Prop :=
  ∀ i, s.net.configDone i = true → ∃ key, s.net.ram = some key ∧
    ∀ (signer : Bytes) (fs : List OtherField) (target t h l : UInt8) (nowUs : ℤ) (o : OtaScanner),
      o.otaTriggered = false ∧ (o.scanResult hmac (s.net.scanners i).keys
          ((fs.map OtherField.bytes).flatten ++
            beaconSend hmac true (some signer) target (beaconBytes t h l)) nowUs).otaTriggered =
              true ↔
        (o.inited = true ∧ o.otaTriggered = false ∧
          ¬o.CoolingDown (beaconMac hmac signer target) nowUs) ∧ IsTarget target ∧
            beaconMac hmac signer target = beaconMac hmac key.val target

variable {hmac : Hmac}

theorem answersGenuine_of_fromDrawn {s : KeyHistory} (h : FromDrawn s.drawn s.net) :
    AnswersGenuine hmac s := by
  rintro i o adv nowUs recvMac ⟨-, ⟨data, hfield, hmacs⟩, -⟩
  refine ⟨data, hfield, ?_⟩
  cases huse : (s.net.scanners i).keys.otaBeacon with
  | none =>
    rw [huse] at hmacs
    exact Or.inr (Or.inr ⟨rfl, hmacs⟩)
  | some k =>
    rw [huse] at hmacs
    rcases (h.scanner i).use k huse with ⟨key, hkey, rfl⟩ | ⟨hnvs, rfl⟩
    · exact Or.inl ⟨key, hkey, hmacs⟩
    · exact Or.inr (Or.inl ⟨hnvs, hmacs⟩)

/-- A beacon signed with another key is answered where the MACs agree. -/
theorem answers_signed_iff {master : Option Bytes} {key signer : Bytes} {target t h l : UInt8}
    (fs : List OtherField) {nowUs : ℤ} {o : OtaScanner} {recvMac : UInt16} :
    o.Answers hmac (sharedKeys master key) ((fs.map OtherField.bytes).flatten ++
        beaconSend hmac true (some signer) target (beaconBytes t h l)) nowUs recvMac ↔
      o.otaTriggered = false ∧ IsTarget target ∧ recvMac = beaconMac hmac signer target ∧
        beaconMac hmac signer target = beaconMac hmac key target ∧
          ¬o.CoolingDown recvMac nowUs := by
  unfold OtaScanner.Answers
  rw [otaFieldFrom_beaconSend]
  refine and_congr_right fun _ => ?_
  by_cases ht : IsTarget target
  · rw [if_pos ht]
    refine ⟨?_, ?_⟩
    · rintro ⟨⟨data, hfield, hmacs⟩, hcool⟩
      cases hfield
      exact ⟨ht, rfl, hmacs, hcool⟩
    · rintro ⟨-, rfl, hmacs, hcool⟩
      exact ⟨⟨signedBytes target, rfl, hmacs⟩, hcool⟩
  · rw [if_neg ht]
    refine iff_of_false ?_ fun h => ht h.1
    rintro ⟨⟨data, hfield, -⟩, -⟩
    cases hfield

theorem currentOnly_of_agreed {s : KeyHistory} (h : s.net.Agreed) : CurrentOnly hmac s := by
  intro i hdone
  obtain ⟨key, hram, -, huse, -⟩ := h i hdone
  refine ⟨key, hram, ?_⟩
  have hkeys : (s.net.scanners i).keys =
      sharedKeys (s.net.scanners i).keys.tagMaster key.val := by
    unfold sharedKeys
    rw [← huse]
  intro signer fs target t h l nowUs o
  rw [hkeys, OtaScanner.scanResult_triggers_iff]
  simp only [answers_signed_iff]
  refine ⟨?_, ?_⟩
  · rintro ⟨hinit, recvMac, hidle, ht, rfl, hmacs, hcool⟩
    exact ⟨⟨hinit, hidle, hcool⟩, ht, hmacs⟩
  · rintro ⟨⟨hinit, hidle, hcool⟩, ht, hmacs⟩
    exact ⟨hinit, _, hidle, ht, rfl, hmacs, hcool⟩

theorem meets_history {ok : KeyNet → KeyEvent → Prop} {es : List KeyEvent} {s : KeyHistory}
    (h : Run.Meets KeyNet.step ok s.net es) :
    Run.Meets KeyHistory.step (fun s e => ok s.net e) s es := by
  induction es generalizing s with
  | nil => trivial
  | cons e es ih =>
    intro s' hs
    obtain ⟨hok, hrest⟩ := h s'.net (KeyHistory.step_eq_some_iff.mp hs).1
    exact ⟨hok, ih hrest⟩

/-- Over every run of rotations, pushes and reboots scanners answer only beacons signed under keys
of the gateway, but for a scanner without a pushed key; and where the run keeps the copies of the
key together, a quiet network answers what is broadcast under the gateway's own key, and nothing
with another MAC. -/
theorem ota_beacon_keys (hmac : Hmac) (es : List KeyEvent) :
    Run.Throughout KeyHistory.step (AnswersGenuine hmac) {} es ∧
      (Run.Meets KeyNet.step KeyNet.KeepsKeys {} es →
        Run.Throughout KeyHistory.step (fun s => s.net.Quiet → CurrentOnly hmac s) {} es) := by
  refine ⟨?_, ?_⟩
  · have hfrom : Run.Throughout KeyHistory.step (fun s => FromDrawn s.drawn s.net) {} es := by
      refine Run.throughout_of_forall ?_ es fromDrawn_start
      intro s e s' h hs
      obtain ⟨hnet, hdrawn⟩ := KeyHistory.step_eq_some_iff.mp hs
      rw [hdrawn]
      exact h.step hnet
    exact hfrom.mono fun s h => answersGenuine_of_fromDrawn h
  · intro hkeeps
    have htracked : Run.Throughout KeyHistory.step (fun s => s.net.Tracked) {} es := by
      refine Run.throughout_of_meets ?_ tracked_start (meets_history hkeeps)
      intro s e s' ht hok hs
      exact tracked_step ht hok (KeyHistory.step_eq_some_iff.mp hs).1
    exact htracked.mono fun s ht hquiet => currentOnly_of_agreed (agreed_of_quiet ht hquiet)

def leadHmac : Hmac := fun key _ _ => key.headD 0

/-- After the first boot, once the key has reached the scanner configured in the first slot. -/
theorem ota_beacon_keys_configured :
    ∃ s, Run.run KeyHistory.step {} (configureFirst ++ [deliverFirst]) = some s ∧
      s.net.Quiet ∧ CurrentOnly leadHmac s := by
  have hkeeps : Run.Meets KeyNet.step KeyNet.KeepsKeys {} (configureFirst ++ [deliverFirst]) := by
    refine Run.Meets.cons rfl ⟨rfl, rfl, fun _ => rfl, ?_⟩ ?_
    · intro i hdone
      cases hdone
    · refine Run.Meets.cons rfl trivial (Run.Meets.cons rfl rfl (Run.Meets.cons rfl ?_ trivial))
      intro _ _
      exact ⟨rfl, Or.inl rfl⟩
  have hruns := (ota_beacon_keys leadHmac (configureFirst ++ [deliverFirst])).2 hkeeps
  refine ⟨_, rfl, ⟨rfl, by decide, by decide⟩, ?_⟩
  exact hruns.last rfl ⟨rfl, by decide, by decide⟩

end BleMeshTracking.System
