import BleMeshTracking.Library.Run
import BleMeshTracking.Tag.Signing

/-!
# The tag: the cached epoch key

Any sequence of `bmt_auth_hmac16` calls after a boot, at any uptimes, with any of their PSA calls
failing.  The cached epoch and the key handle are written at different points of
`ensure_epoch_key`, around the calls that can fail.
-/

namespace BleMeshTracking.Tag

open Protocol

structure SignRequest where
  calls : SignCalls := {}
  uptimeUs : ℕ
  data : Bytes

def Auth.sign (hmac : Hmac) (fw : Firmware) (s : Auth) (r : SignRequest) : Auth :=
  (s.bmtAuthHmac16 hmac r.calls fw r.uptimeUs r.data).2

/-- A non-zero epoch handle holds the key of the cached epoch, and no other epoch key is live. -/
structure Auth.OneEpochKey (hmac : Hmac) (s : Auth) : Prop where
  cached : s.epochKeyId ≠ 0 →
    s.keys.live s.epochKeyId = some (epochKey hmac bmtTagMasterKey s.cachedEpoch)
  only : ∀ id key, s.keys.live id = some key → id = s.masterKeyId ∨ id = s.epochKeyId

/-- The derive and import calls that `ensure_epoch_key` makes for this epoch succeed; for the
cached epoch it makes none. -/
def Auth.KeyCallsSucceed (hmac : Hmac) (calls : SignCalls) (epoch : UInt16) (s : Auth) : Prop :=
  epoch = s.cachedEpoch ∧ s.epochKeyId ≠ 0 ∨
    (psaMacCompute hmac calls.derive (s.keys.live s.masterKeyId) (leBytes epoch)).isSome ∧
      calls.importKey = true

/-- The call returns 0 or the MAC under the key of the cached epoch, which is the current one
unless a derive or import that was needed failed. -/
def Auth.SignsCached (hmac : Hmac) (fw : Firmware) (s : Auth) (r : SignRequest) : Prop :=
  let res := s.bmtAuthHmac16 hmac r.calls fw r.uptimeUs r.data
  (res.1 = 0 ∨ res.1 = epochMac16 hmac bmtTagMasterKey res.2.cachedEpoch r.data) ∧
    (s.KeyCallsSucceed hmac r.calls (currentEpoch fw r.uptimeUs) →
      res.2.cachedEpoch = currentEpoch fw r.uptimeUs ∧ res.2.epochKeyId ≠ 0)

/-- Handles in use were given out before, and never 0. -/
def KeyStore.Sound (ks : KeyStore) : Prop :=
  0 < ks.nextId ∧ ∀ id key, ks.live id = some key → id ≠ 0 ∧ id < ks.nextId

theorem KeyStore.destroyKey_live {ks : KeyStore} {id id' : ℕ} {key : Bytes}
    (h : (ks.destroyKey id).live id' = some key) : id' ≠ id ∧ ks.live id' = some key := by
  have hne : id' ≠ id := by
    intro heq
    have hnone : (ks.destroyKey id).live id = none := Function.update_self _ _ _
    rw [heq, hnone] at h
    cases h
  rw [ks.destroyKey_live_of_ne hne] at h
  exact ⟨hne, h⟩

theorem KeyStore.Sound.destroyKey {ks : KeyStore} (h : ks.Sound) (id : ℕ) :
    (ks.destroyKey id).Sound :=
  ⟨h.1, fun id' key hlive => h.2 id' key (destroyKey_live hlive).2⟩

theorem KeyStore.importKey_eq {ks ks' : KeyStore} {ok : Bool} {key : Bytes} {id : ℕ}
    (h : ks.importKey ok key = some (id, ks')) :
    ok = true ∧ id = ks.nextId ∧ ks'.nextId = ks.nextId + 1 ∧
      ks'.live = Function.update ks.live ks.nextId (some key) := by
  unfold KeyStore.importKey at h
  split_ifs at h with hok
  cases h
  exact ⟨hok, rfl, rfl, rfl⟩

theorem KeyStore.Sound.importKey {ks ks' : KeyStore} (hs : ks.Sound) {ok : Bool} {key : Bytes}
    {id : ℕ} (h : ks.importKey ok key = some (id, ks')) : ks'.Sound := by
  obtain ⟨-, -, hnext, hlive⟩ := KeyStore.importKey_eq h
  refine ⟨by omega, ?_⟩
  intro id' key' hid
  rw [hlive] at hid
  by_cases heq : id' = ks.nextId
  · have hpos := hs.1
    omega
  · rw [Function.update_of_ne heq] at hid
    obtain ⟨hne, hlt⟩ := hs.2 id' key' hid
    exact ⟨hne, by omega⟩

def Auth.withoutEpochKey (s : Auth) : KeyStore :=
  if s.epochKeyId ≠ 0 then s.keys.destroyKey s.epochKeyId else s.keys

/-- What `ensure_epoch_key` can do: nothing where the epoch is cached or its key cannot be derived,
or else the old key goes, and the new one comes unless its import fails. -/
theorem ensureEpochKey_cases (hmac : Hmac) (calls : SignCalls) (epoch : UInt16) (s : Auth) :
    (epoch = s.cachedEpoch ∧ s.epochKeyId ≠ 0 ∧ s.ensureEpochKey hmac calls epoch = s) ∨
      (¬s.KeyCallsSucceed hmac calls epoch ∧ s.ensureEpochKey hmac calls epoch = s) ∨
      (¬s.KeyCallsSucceed hmac calls epoch ∧ s.ensureEpochKey hmac calls epoch =
        { s with keys := s.withoutEpochKey, epochKeyId := 0 }) ∨
      ∃ master id keys, s.keys.live s.masterKeyId = some master ∧
        s.withoutEpochKey.importKey true (epochKey hmac master epoch) = some (id, keys) ∧
        s.ensureEpochKey hmac calls epoch =
          { s with keys := keys, epochKeyId := id, cachedEpoch := epoch } := by
  unfold Auth.ensureEpochKey Auth.KeyCallsSucceed Auth.withoutEpochKey
  by_cases hcached : epoch = s.cachedEpoch ∧ s.epochKeyId ≠ 0
  · rw [if_pos hcached]
    exact Or.inl ⟨hcached.1, hcached.2, rfl⟩
  · rw [if_neg hcached]
    cases hmaster : s.keys.live s.masterKeyId with
    | none => simp [psaMacCompute, hcached]
    | some master =>
      cases hderive : calls.derive with
      | false => simp [psaMacCompute, hcached]
      | true =>
        cases himport : calls.importKey with
        | false => simp [psaMacCompute, KeyStore.importKey, hcached]
        | true =>
          refine Or.inr (Or.inr (Or.inr ⟨master, _, _, rfl, rfl, ?_⟩))
          simp [psaMacCompute, KeyStore.importKey, epochKey]

/-- The handles are sound, the master handle is 0 or holds the master key, apart from the epoch
key. -/
structure Auth.CacheSound (hmac : Hmac) (s : Auth) : Prop extends s.OneEpochKey hmac where
  handles : s.keys.Sound
  master : ∀ key, s.keys.live s.masterKeyId = some key → key = bmtTagMasterKey
  masterOld : s.masterKeyId < s.keys.nextId
  apart : s.epochKeyId ≠ 0 → s.masterKeyId ≠ s.epochKeyId

section Cache

variable {hmac : Hmac} {s : Auth}

theorem withoutEpochKey_live (h : s.CacheSound hmac) {id : ℕ} {key : Bytes}
    (hlive : s.withoutEpochKey.live id = some key) :
    id = s.masterKeyId ∧ s.keys.live id = some key := by
  unfold Auth.withoutEpochKey at hlive
  split_ifs at hlive with hzero
  · obtain ⟨hne, hold⟩ := KeyStore.destroyKey_live hlive
    exact ⟨(h.only id key hold).resolve_right hne, hold⟩
  · refine ⟨?_, hlive⟩
    rcases h.only id key hlive with hmaster | hepoch
    · exact hmaster
    · rw [not_not.mp hzero] at hepoch
      exact absurd hepoch (h.handles.2 id key hlive).1

theorem withoutEpochKey_sound (h : s.CacheSound hmac) : s.withoutEpochKey.Sound := by
  unfold Auth.withoutEpochKey
  split_ifs
  · exact h.handles.destroyKey _
  · exact h.handles

theorem withoutEpochKey_nextId (s : Auth) : s.withoutEpochKey.nextId = s.keys.nextId := by
  unfold Auth.withoutEpochKey
  split_ifs
  · rfl
  · rfl

theorem cacheSound_dropped (h : s.CacheSound hmac) :
    Auth.CacheSound hmac { s with keys := s.withoutEpochKey, epochKeyId := 0 } := by
  refine ⟨⟨fun hne => absurd rfl hne, ?_⟩, withoutEpochKey_sound h, ?_, ?_,
    fun hne => absurd rfl hne⟩
  · intro id key hlive
    exact Or.inl (withoutEpochKey_live h hlive).1
  · intro key hlive
    exact h.master key (withoutEpochKey_live h hlive).2
  · exact h.masterOld.trans_eq (withoutEpochKey_nextId s).symm

theorem cacheSound_imported (h : s.CacheSound hmac) {epoch : UInt16} {id : ℕ} {keys : KeyStore}
    (himport : s.withoutEpochKey.importKey true (epochKey hmac bmtTagMasterKey epoch) =
      some (id, keys)) :
    Auth.CacheSound hmac { s with keys := keys, epochKeyId := id, cachedEpoch := epoch } := by
  have hsound := (withoutEpochKey_sound h).importKey himport
  obtain ⟨-, hid, hnext, hlive⟩ := KeyStore.importKey_eq himport
  rw [withoutEpochKey_nextId] at hid hnext hlive
  have hmaster : s.masterKeyId ≠ id := by
    rw [hid]
    exact h.masterOld.ne
  refine ⟨⟨?_, ?_⟩, hsound, ?_, ?_, fun _ => hmaster⟩
  · intro _
    dsimp only
    rw [hlive, hid, Function.update_self]
  · intro id' key hid'
    dsimp only at hid' ⊢
    rw [hlive] at hid'
    by_cases heq : id' = s.keys.nextId
    · exact Or.inr (heq.trans hid.symm)
    · rw [Function.update_of_ne heq] at hid'
      exact Or.inl (withoutEpochKey_live h hid').1
  · intro key hkey
    dsimp only at hkey
    rw [hlive, Function.update_of_ne h.masterOld.ne] at hkey
    exact h.master key (withoutEpochKey_live h hkey).2
  · dsimp only
    rw [hnext]
    exact h.masterOld.trans (Nat.lt_succ_self _)

/-- `ensure_epoch_key` keeps the invariant wherever it fails, and unless it fails the cached epoch
is the one asked for. -/
theorem cacheSound_ensureEpochKey (h : s.CacheSound hmac) (calls : SignCalls) (epoch : UInt16) :
    (s.ensureEpochKey hmac calls epoch).CacheSound hmac ∧
      (s.KeyCallsSucceed hmac calls epoch →
        (s.ensureEpochKey hmac calls epoch).cachedEpoch = epoch ∧
          (s.ensureEpochKey hmac calls epoch).epochKeyId ≠ 0) := by
  rcases ensureEpochKey_cases hmac calls epoch s with hcached | hfailed | hdropped | himported
  · obtain ⟨hepoch, hid, heq⟩ := hcached
    rw [heq]
    exact ⟨h, fun _ => ⟨hepoch.symm, hid⟩⟩
  · rw [hfailed.2]
    exact ⟨h, fun hcalls => absurd hcalls hfailed.1⟩
  · rw [hdropped.2]
    exact ⟨cacheSound_dropped h, fun hcalls => absurd hcalls hdropped.1⟩
  · obtain ⟨master, id, keys, hlive, himport, heq⟩ := himported
    rw [h.master master hlive] at himport
    rw [heq]
    refine ⟨cacheSound_imported h himport, fun _ => ⟨rfl, ?_⟩⟩
    obtain ⟨-, hid, -⟩ := KeyStore.importKey_eq himport
    dsimp only
    rw [hid]
    exact (withoutEpochKey_sound h).1.ne'

theorem sign_eq (hmac : Hmac) (s : Auth) (fw : Firmware) (r : SignRequest) :
    s.sign hmac fw r = s.ensureEpochKey hmac r.calls (currentEpoch fw r.uptimeUs) := by
  unfold Auth.sign Auth.bmtAuthHmac16
  dsimp only
  split
  · rfl
  · rfl

theorem signsCached_of_cacheSound (h : s.CacheSound hmac) (fw : Firmware) (r : SignRequest) :
    s.SignsCached hmac fw r := by
  obtain ⟨hsound, hcached⟩ :=
    cacheSound_ensureEpochKey h r.calls (currentEpoch fw r.uptimeUs)
  have hstate := sign_eq hmac s fw r
  unfold Auth.sign at hstate
  unfold Auth.SignsCached
  dsimp only
  rw [hstate]
  refine ⟨?_, hcached⟩
  unfold Auth.bmtAuthHmac16
  dsimp only
  generalize s.ensureEpochKey hmac r.calls (currentEpoch fw r.uptimeUs) = s' at hsound ⊢
  by_cases hzero : s'.epochKeyId = 0
  · -- the MAC is asked for under handle 0, where no key is
    have hnone : s'.keys.live s'.epochKeyId = none := by
      cases hlive : s'.keys.live s'.epochKeyId with
      | none => rfl
      | some key => exact absurd hzero (hsound.handles.2 _ key hlive).1
    rw [hnone]
    exact Or.inl rfl
  · rw [hsound.cached hzero]
    cases r.calls.mac with
    | false => exact Or.inl rfl
    | true => exact Or.inr rfl

end Cache

theorem cacheSound_off (hmac : Hmac) : Auth.CacheSound hmac {} := by
  refine ⟨⟨fun hne => absurd rfl hne, ?_⟩, ⟨Nat.one_pos, ?_⟩, ?_, Nat.one_pos,
    fun hne => absurd rfl hne⟩
  · intro id key hlive
    cases hlive
  · intro id key hlive
    cases hlive
  · intro key hlive
    cases hlive

theorem cacheSound_bmtAuthInit (hmac : Hmac) (cryptoInit importMaster : Bool) (calls : SignCalls)
    (fw : Firmware) (uptimeUs : ℕ) :
    (Auth.bmtAuthInit hmac cryptoInit importMaster calls fw uptimeUs {}).CacheSound hmac := by
  unfold Auth.bmtAuthInit
  cases cryptoInit with
  | false => exact cacheSound_off hmac
  | true =>
    cases importMaster with
    | false => exact cacheSound_off hmac
    | true =>
      refine (cacheSound_ensureEpochKey ?_ calls (currentEpoch fw uptimeUs)).1
      have hlive : ∀ id key, Function.update (fun _ => none : ℕ → Option Bytes) 1
          (some bmtTagMasterKey) id = some key → id = 1 ∧ key = bmtTagMasterKey := by
        intro id key hid
        by_cases hone : id = 1
        · rw [hone, Function.update_self] at hid
          exact ⟨hone, (Option.some_inj.mp hid).symm⟩
        · rw [Function.update_of_ne hone] at hid
          cases hid
      refine ⟨⟨fun hne => absurd rfl hne, ?_⟩, ⟨Nat.two_pos, ?_⟩, ?_, Nat.one_lt_two,
        fun hne => absurd rfl hne⟩
      · intro id key hid
        exact Or.inl (hlive id key hid).1
      · intro id key hid
        rw [(hlive id key hid).1]
        exact ⟨Nat.one_ne_zero, Nat.one_lt_two⟩
      · intro key hid
        exact (hlive 1 key hid).2

/-- From a boot on, whatever PSA calls fail and whatever the uptimes are: the epoch key in use is
that of the cached epoch and the only one live, and every call signs under it or returns 0. -/
theorem key_cache_sound (hmac : Hmac) (fw : Firmware) (cryptoInit importMaster : Bool)
    (calls : SignCalls) (bootUs : ℕ) (rs : List SignRequest) :
    let booted := Auth.bmtAuthInit hmac cryptoInit importMaster calls fw bootUs {}
    Run.Throughout (Run.total (Auth.sign hmac fw)) (Auth.OneEpochKey hmac) booted rs ∧
      Run.Meets (Run.total (Auth.sign hmac fw)) (Auth.SignsCached hmac fw) booted rs := by
  have hboot := cacheSound_bmtAuthInit hmac cryptoInit importMaster calls fw bootUs
  have hstep : ∀ s r s', Auth.CacheSound hmac s → Run.total (Auth.sign hmac fw) s r = some s' →
      Auth.CacheSound hmac s' := by
    rintro s r s' h ⟨⟩
    rw [sign_eq]
    exact (cacheSound_ensureEpochKey h r.calls (currentEpoch fw r.uptimeUs)).1
  refine ⟨?_, ?_⟩
  · have hsound := Run.throughout_of_forall hstep rs hboot
    exact hsound.mono fun _ h => h.toOneEpochKey
  · refine Run.meets_of_invariant hstep ?_ rs hboot
    intro s r s' h _
    exact signsCached_of_cacheSound h fw r

/-- The epoch 0xFFFF, which is also the initial `s_cached_epoch`, is not taken as cached. -/
example : ((Auth.bmtAuthInit (fun _ _ _ => 7) true true { importKey := false } .esp32 0 {}).sign
    (fun _ _ _ => 7) .esp32 { uptimeUs := 65535 * 3600000000, data := [] }).epochKeyId = 2 := by
  decide +kernel

end BleMeshTracking.Tag
