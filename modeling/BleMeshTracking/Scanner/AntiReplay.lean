import BleMeshTracking.Scanner.Replay

/-!
# Earlier epochs after later ones

A scanner hears advertisements that a tag signed in the epochs of one power cycle, in any order and
at any times, among those of other power cycles and of other tags.  Which of them are accepted after
a later epoch was, is decided by the two windows of `bmt_auth_verify_tag`.
-/

namespace BleMeshTracking.Scanner

open Protocol TickClock

/-- An advertisement signed in the `count`-th epoch of the power cycle in question; one of the same
tag from another power cycle; or one under another tag id. -/
inductive Capture
  | own (atUs : ℤ) (count : ℕ) (data : Bytes)
  | otherCycle (atUs : ℤ) (epoch : UInt16) (data : Bytes)
  | otherTag (atUs : ℤ) (tagId : UInt16) (data : Bytes) (receivedMac : UInt16)

def Capture.reception : Capture → Reception
  | .own atUs count data => .replay atUs (UInt16.ofNat count) data
  | .otherCycle atUs epoch data => .replay atUs epoch data
  | .otherTag atUs tagId data receivedMac => .other atUs tagId data receivedMac

/-- The radio, with the latest epoch of the power cycle that was accepted. -/
structure Listener where
  radio : Radio
  latest : Option ℕ := none

def Listener.start : Listener := { radio := ⟨fun _ => {}, 0⟩ }

namespace Target

variable (T : Target)

def acceptsOwn (s : Listener) (atUs : ℤ) (count : ℕ) (data : Bytes) : Bool :=
  (T.verify (UInt16.ofNat count) data atUs s.radio.table).1.isSome

def latestAfter (s : Listener) : Capture → Option ℕ
  | .own atUs count data =>
    if T.acceptsOwn s atUs count data then some (max (s.latest.getD 0) count) else s.latest
  | _ => s.latest

def hear (s : Listener) (c : Capture) : Option Listener :=
  (T.receive s.radio c.reception).map fun radio => ⟨radio, T.latestAfter s c⟩

/-- An advertisement that is accepted is not of an earlier epoch than one accepted before. -/
def NotEarlier (s : Listener) : Capture → Prop
  | .own atUs count data =>
    T.acceptsOwn s atUs count data = true → ∀ m ∈ s.latest, m ≤ count
  | _ => True

/-- An advertisement of an earlier epoch than one accepted before lies above the wide range, and
outside the window that the ticks since the last lock predict. -/
def OutsideWindows (s : Listener) : Capture → Prop
  | .own atUs count _ =>
    (∃ m ∈ s.latest, count < m) →
      bmtEpochWideMax < (UInt16.ofNat count).toNat ∧
        ∀ st ∈ slotFor T.tagId s.radio.table, 0 < st.lockedAtUs →
          ¬st.anchor.Covers bmtEpochTickUs atUs (UInt16.ofNat count)
  | _ => True

def NoCollisionHeard (s : Listener) (c : Capture) : Prop := T.NoCollision s.radio c.reception

instance (s : Listener) (c : Capture) : Decidable (T.NotEarlier s c) :=
  match c with
  | .own _ _ _ => inferInstanceAs (Decidable (_ → _))
  | .otherCycle _ _ _ => isTrue trivial
  | .otherTag _ _ _ _ => isTrue trivial

instance (s : Listener) (c : Capture) : Decidable (T.OutsideWindows s c) :=
  match c with
  | .own atUs count _ =>
    have : ∀ st : EpochState, Decidable
        (st.anchor.Covers bmtEpochTickUs atUs (UInt16.ofNat count)) :=
      fun _ => inferInstanceAs (Decidable (∃ _ ∈ _, _))
    inferInstanceAs (Decidable (_ → _))
  | .otherCycle _ _ _ => isTrue trivial
  | .otherTag _ _ _ _ => isTrue trivial

structure PastLocks (s : Listener) : Prop where
  now : 0 ≤ s.radio.nowUs
  locked : ∀ i, (s.radio.table i).lockedAtUs ≤ s.radio.nowUs

end Target

theorem lockedAtUs_findOrAlloc (tagId : UInt16) {tbl : EpochTable} {nowUs : ℤ} (hnow : 0 ≤ nowUs)
    (h : ∀ i, (tbl i).lockedAtUs ≤ nowUs) (i : Fin bmtAuthMaxTags) :
    ((findOrAllocEpochState tagId tbl).2 i).lockedAtUs ≤ nowUs := by
  rcases SlotTable.acquire_cases (EpochState.isOf tagId) EpochState.isFree
    (EpochState.fresh tagId) tbl with ⟨j, -, he⟩ | ⟨j, -, -, he⟩ | ⟨-, -, he⟩
  · rw [findOrAllocEpochState, he]
    exact h i
  · rw [findOrAllocEpochState, he]
    by_cases hij : i = j
    · subst hij
      simpa [EpochState.fresh] using hnow
    · simpa [Function.update_of_ne hij] using h i
  · rw [findOrAllocEpochState, he]
    exact h i

theorem lockedAtUs_storeLock (slot : Option (Fin bmtAuthMaxTags)) (verified : Option Attempt)
    {nowUs : ℤ} {tbl : EpochTable} (h : ∀ i, (tbl i).lockedAtUs ≤ nowUs)
    (i : Fin bmtAuthMaxTags) : (storeLock slot verified nowUs tbl i).lockedAtUs ≤ nowUs := by
  match slot, verified with
  | none, _ => exact h i
  | some _, none => exact h i
  | some j, some a =>
    by_cases hij : i = j
    · subst hij
      simp [storeLock]
    · simpa [storeLock, Function.update_of_ne hij] using h i

theorem lockedAtUs_verify (hmac : Hmac) (calls : Attempt → TryCalls) (keys : AuthKeys)
    (tagId : UInt16) (data : Bytes) (receivedMac : UInt16) {nowUs : ℤ} {tbl : EpochTable}
    (hnow : 0 ≤ nowUs) (h : ∀ i, (tbl i).lockedAtUs ≤ nowUs) (i : Fin bmtAuthMaxTags) :
    ((bmtAuthVerifyTag hmac calls keys tagId data receivedMac nowUs tbl).2 i).lockedAtUs ≤
      nowUs := by
  rw [bmtAuthVerifyTag_snd]
  exact lockedAtUs_storeLock _ _ (lockedAtUs_findOrAlloc tagId hnow h) i

namespace Target

variable {T : Target}

theorem pastLocks_start : PastLocks Listener.start := by
  refine ⟨le_rfl, ?_⟩
  intro i
  exact le_rfl

theorem pastLocks_hear {s s' : Listener} {c : Capture} (h : PastLocks s)
    (hs : T.hear s c = some s') : PastLocks s' := by
  obtain ⟨radio, hradio, hs'⟩ := Option.map_eq_some_iff.mp hs
  have hstep : s'.radio = radio := by rw [← hs']
  obtain ⟨hle, hcases⟩ := receive_cases hradio
  have hnow : 0 ≤ c.reception.atUs := h.now.trans hle
  have hlocked : ∀ i, (s.radio.table i).lockedAtUs ≤ c.reception.atUs := by
    intro i
    exact (h.locked i).trans hle
  rcases hcases with hgenuine | hreplay | hother
  · obtain ⟨atUs, data, hc, hr⟩ := hgenuine
    rw [hc] at hnow hlocked
    rw [hr] at hstep
    refine ⟨hstep ▸ hnow, hstep ▸ ?_⟩
    exact lockedAtUs_verify _ _ _ _ _ _ hnow hlocked
  · obtain ⟨atUs, epoch, data, hc, hr⟩ := hreplay
    rw [hc] at hnow hlocked
    rw [hr] at hstep
    refine ⟨hstep ▸ hnow, hstep ▸ ?_⟩
    exact lockedAtUs_verify _ _ _ _ _ _ hnow hlocked
  · obtain ⟨atUs, tagId, data, receivedMac, hc, -, hr⟩ := hother
    rw [hc] at hnow hlocked
    rw [hr] at hstep
    refine ⟨hstep ▸ hnow, hstep ▸ ?_⟩
    exact lockedAtUs_verify _ _ _ _ _ _ hnow hlocked

theorem PastLocks.slot {s : Listener} (h : PastLocks s) {st : EpochState}
    (hst : slotFor T.tagId s.radio.table = some st) : st.lockedAtUs ≤ s.radio.nowUs := by
  obtain ⟨i, -, hi⟩ := Option.map_eq_some_iff.mp hst
  rw [← hi]
  exact lockedAtUs_findOrAlloc T.tagId h.now h.locked i

/-- An epoch is tried in the wide range, or in the window of a locked slot. -/
theorem tries_slot_iff {s : Listener} (h : PastLocks s) {atUs : ℤ} (hat : s.radio.nowUs ≤ atUs)
    (epoch : UInt16) :
    Tries (slotFor T.tagId s.radio.table) atUs epoch ↔
      epoch.toNat ≤ bmtEpochWideMax ∨ ∃ st ∈ slotFor T.tagId s.radio.table,
        0 < st.lockedAtUs ∧ st.anchor.Covers bmtEpochTickUs atUs epoch := by
  cases hst : slotFor T.tagId s.radio.table with
  | none =>
    rw [tries_none_iff]
    simp
  | some st =>
    rw [tries_iff ((h.slot hst).trans hat), or_comm]
    simp

/-- What is accepted is not earlier exactly when what is earlier lies outside the windows. -/
theorem notEarlier_iff_outsideWindows {s s' : Listener} {c : Capture} (h : PastLocks s)
    (hcf : T.NoCollisionHeard s c) (hs : T.hear s c = some s') :
    T.NotEarlier s c ↔ T.OutsideWindows s c := by
  cases c with
  | otherCycle atUs epoch data => exact Iff.rfl
  | otherTag atUs tagId data receivedMac => exact Iff.rfl
  | own atUs count data =>
    obtain ⟨radio, hradio, -⟩ := Option.map_eq_some_iff.mp hs
    have hat : s.radio.nowUs ≤ atUs := (receive_cases hradio).1
    have haccept : T.acceptsOwn s atUs count data = true ↔
        Tries (slotFor T.tagId s.radio.table) atUs (UInt16.ofNat count) :=
      verify_signed_isSome_iff T.tagMaster_keys hcf
    show (T.acceptsOwn s atUs count data = true → ∀ m ∈ s.latest, m ≤ count) ↔ _
    rw [haccept, tries_slot_iff h hat]
    refine ⟨?_, ?_⟩
    · intro hnot hearlier
      obtain ⟨m, hm, hlt⟩ := hearlier
      refine ⟨?_, ?_⟩
      · by_contra hlow
        have hle := hnot (Or.inl (not_lt.mp hlow)) m hm
        omega
      · intro st hst hlocked hcovers
        have hle := hnot (Or.inr ⟨st, hst, hlocked, hcovers⟩) m hm
        omega
    · intro hout htried m hm
      by_contra hlt
      obtain ⟨hhigh, hwindow⟩ := hout ⟨m, hm, not_le.mp hlt⟩
      rcases htried with hlow | hcovered
      · omega
      · obtain ⟨st, hst, hlocked, hcovers⟩ := hcovered
        exact hwindow st hst hlocked hcovers

/-- From the scanner's boot on, no advertisement of an earlier epoch than one accepted before is
accepted, if and only if every such advertisement lies outside both windows when it is heard. -/
theorem anti_replay_iff_outside_windows (T : Target) (cs : List Capture)
    (hcf : Run.Meets T.hear T.NoCollisionHeard .start cs) :
    Run.Meets T.hear T.NotEarlier .start cs ↔ Run.Meets T.hear T.OutsideWindows .start cs := by
  refine Run.meets_congr (A := PastLocks) ?_ ?_ hcf pastLocks_start
  · intro s c s' h _ hs
    exact pastLocks_hear h hs
  · intro s c s' h hcf hs
    exact notEarlier_iff_outsideWindows h hcf hs

end Target

def tagOneCaptures (counts : List ℕ) : List Capture :=
  .own 1 0 tagOneData :: .own (300 * bmtEpochTickUs + 1) 300 tagOneData ::
    counts.map fun count => .own (300 * bmtEpochTickUs + 2) count tagOneData

theorem noCollision_tagOneCaptures (counts : List ℕ) :
    Run.Meets tagOne.hear tagOne.NoCollisionHeard .start (tagOneCaptures counts) := by
  have hlen : tagOneData.length ≠ 2 := by decide
  have hrest : ∀ s, Run.Meets tagOne.hear tagOne.NoCollisionHeard s
      (counts.map fun count => .own (300 * bmtEpochTickUs + 2) count tagOneData) := by
    induction counts with
    | nil => exact fun _ => trivial
    | cons count counts ih => exact fun s m _ => ⟨collisionFree_echoHmac _ hlen _ _ _, ih m⟩
  exact fun m _ => ⟨collisionFree_echoHmac _ hlen _ _ _,
    fun m' _ => ⟨collisionFree_echoHmac _ hlen _ _ _, hrest m'⟩⟩

/-- Epoch 250 lies outside both windows, and is rejected. -/
theorem anti_replay_iff_outside_windows_tagOne :
    Run.Meets tagOne.hear tagOne.NotEarlier .start (tagOneCaptures [250]) := by
  refine (Target.anti_replay_iff_outside_windows tagOne (tagOneCaptures [250])
    (noCollision_tagOneCaptures [250])).mpr ?_
  decide +kernel

/-- Of the epochs before 300, the one before is accepted in the narrow window, and epoch 0 by the
wide resync. -/
theorem earlier_epochs_accepted_tagOne :
    ¬Run.Meets tagOne.hear tagOne.NotEarlier .start (tagOneCaptures [299]) ∧
      ¬Run.Meets tagOne.hear tagOne.NotEarlier .start (tagOneCaptures [0]) := by
  refine ⟨?_, ?_⟩
  · decide +kernel
  · decide +kernel

end BleMeshTracking.Scanner
