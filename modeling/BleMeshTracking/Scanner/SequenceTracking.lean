import BleMeshTracking.Library.Run
import BleMeshTracking.Scanner.TagTable
import Mathlib.Data.FinEnum

/-!
# The scanner: sequence numbers

What `bmt_tag_table_update` does with a packet is decided by how far its sequence number is ahead of
`last_sequence`, modulo 256.
-/

namespace BleMeshTracking.Scanner

structure TagPacket where
  rssi : Int8
  sequence : UInt8
  battery : UInt8
  nowMs : UInt32

def TagEntry.receive (t : TagEntry) (p : TagPacket) : TagEntry :=
  t.update p.rssi p.sequence p.battery p.nowMs

inductive SequenceBranch
  | repeated
  | late
  | reset
  | inOrder
  deriving DecidableEq

def branchOfDiff (d : UInt8) : SequenceBranch :=
  if d = 0 then .repeated
  else if d.toInt8 < 0 ∧ d.toInt8 > -10 then .late
  else if d.toInt8 < -10 ∨ d.toInt8 > bmtMaxSeqJump then .reset
  -- -10 comes here as well
  else .inOrder

def sequenceBranch (last sequence : UInt8) : SequenceBranch := branchOfDiff (sequence - last)

inductive FilterCall
  | none
  | init
  | update
  deriving DecidableEq

def SequenceBranch.filterCall : SequenceBranch → FilterCall
  | .repeated => .update
  | .late => .none
  | .reset => .init
  | .inOrder => .update

def FilterCall.apply (rssi : Float32) (kf : Kalman) : FilterCall → Kalman
  | .none => kf
  | .init => kalmanInit rssi
  | .update => kalmanUpdate kf rssi

def missedOfDiff (d : UInt8) : UInt8 :=
  if d ≠ 1 ∧ d.toInt8 > 1 then
    let missed := (d.toInt8 - 1).toUInt8
    if missed > 0 ∧ missed < 200 then missed else 0
  else
    0

/-- An entry after a packet for which this branch was taken. -/
structure ReceivedBy (b : SequenceBranch) (t : TagEntry) (p : TagPacket) (t' : TagEntry) :
    Prop where
  kalman : t'.kalman = b.filterCall.apply p.rssi.toFloat32 t.kalman
  lastSequence : t'.lastSequence = if b = .late then t.lastSequence else p.sequence
  totalReceived : t'.totalReceived = if b = .late then t.totalReceived else t.totalReceived + 1
  totalMissed : t'.totalMissed =
    if b = .inOrder then t.totalMissed + (missedOfDiff (p.sequence - t.lastSequence)).toUInt32
    else t.totalMissed
  lastSeenMs : t'.lastSeenMs = if b = .late then t.lastSeenMs else p.nowMs

theorem TagEntry.log_fields (t : TagEntry) (rssi : Int8) (now : UInt32) :
    (t.log rssi now).kalman = t.kalman ∧ (t.log rssi now).lastSequence = t.lastSequence ∧
      (t.log rssi now).totalReceived = t.totalReceived ∧
      (t.log rssi now).totalMissed = t.totalMissed ∧
      (t.log rssi now).lastSeenMs = t.lastSeenMs := by
  unfold TagEntry.log
  dsimp only
  split_ifs
  · exact ⟨rfl, rfl, rfl, rfl, rfl⟩
  · exact ⟨rfl, rfl, rfl, rfl, rfl⟩

theorem diff_eq_zero_iff (last sequence : UInt8) : sequence - last = 0 ↔ sequence = last := by
  rw [UInt8.sub_eq_iff_eq_add, UInt8.zero_add]

theorem diff_eq_one_iff (last sequence : UInt8) : sequence - last = 1 ↔ sequence = last + 1 := by
  rw [UInt8.sub_eq_iff_eq_add, UInt8.add_comm]

theorem TagEntry.missed_eq (t : TagEntry) (sequence : UInt8) :
    t.missed sequence (sequence - t.lastSequence).toInt8 =
      missedOfDiff (sequence - t.lastSequence) := by
  unfold TagEntry.missed missedOfDiff
  simp only [ne_eq, diff_eq_one_iff]

theorem receivedBy_receive (t : TagEntry) (p : TagPacket) :
    ReceivedBy (sequenceBranch t.lastSequence p.sequence) t p (t.receive p) := by
  unfold TagEntry.receive TagEntry.update sequenceBranch branchOfDiff
  simp only [diff_eq_zero_iff]
  by_cases hrepeated : p.sequence = t.lastSequence
  · rw [if_pos hrepeated, if_pos hrepeated]
    exact ⟨rfl, hrepeated.symm, rfl, rfl, rfl⟩
  · rw [if_neg hrepeated, if_neg hrepeated]
    split_ifs with hlate hreset
    · exact ⟨rfl, rfl, rfl, rfl, rfl⟩
    · exact ⟨rfl, rfl, rfl, rfl, rfl⟩
    · rw [TagEntry.missed_eq]
      have hlog := fun t : TagEntry => t.log_fields p.rssi p.nowMs
      exact ⟨(hlog _).1, (hlog _).2.1, (hlog _).2.2.1, (hlog _).2.2.2.1, (hlog _).2.2.2.2⟩

/-- How far a sequence number is ahead of another one, modulo 256. -/
def ahead (last sequence : UInt8) : ℕ := (sequence - last).toNat

theorem branchOfDiff_eq (d : UInt8) :
    branchOfDiff d =
      if d.toNat = 0 then .repeated
      else if 247 ≤ d.toNat then .late
      else if d.toNat ≤ 30 ∨ d.toNat = 246 then .inOrder
      else .reset := by
  revert d
  decide +kernel

theorem missedOfDiff_eq (d : UInt8) (h : 1 ≤ d.toNat) (h30 : d.toNat ≤ 30) :
    (missedOfDiff d).toUInt32 = UInt32.ofNat (d.toNat - 1) := by
  revert d
  decide +kernel

theorem toInt_of_near (d : UInt8) (h30 : d.toNat ≤ 30) : d.toInt8.toInt = d.toNat := by
  revert d
  decide +kernel

theorem sequenceBranch_eq (last sequence : UInt8) :
    sequenceBranch last sequence =
      if ahead last sequence = 0 then .repeated
      else if 247 ≤ ahead last sequence then .late
      else if ahead last sequence ≤ 30 ∨ ahead last sequence = 246 then .inOrder
      else .reset := branchOfDiff_eq _

theorem branch_of_near {last sequence : UInt8} (h : 1 ≤ ahead last sequence)
    (h30 : ahead last sequence ≤ 30) : sequenceBranch last sequence = .inOrder := by
  rw [sequenceBranch_eq, if_neg (by omega), if_neg (by omega), if_pos (Or.inl h30)]

/-- One of four ways: a repeated number, one of the nine before, one of the thirty behind, and every
other number; the filter of the slot is what the call on it makes of the RSSI. -/
def TagEntry.Handled (t : TagEntry) (p : TagPacket) : Prop :=
  let t' := t.receive p
  let call := (sequenceBranch t.lastSequence p.sequence).filterCall
  t'.kalman = call.apply p.rssi.toFloat32 t.kalman ∧
    if ahead t.lastSequence p.sequence = 0 then
      call = .update ∧ t'.lastSequence = t.lastSequence ∧ t'.totalMissed = t.totalMissed
    else if 247 ≤ ahead t.lastSequence p.sequence then
      call = .none ∧ t'.lastSequence = t.lastSequence ∧ t'.totalReceived = t.totalReceived ∧
        t'.totalMissed = t.totalMissed ∧ t'.lastSeenMs = t.lastSeenMs
    else if ahead t.lastSequence p.sequence ≤ 30 then
      call = .update ∧ t'.lastSequence = p.sequence ∧
        t'.totalMissed = t.totalMissed + UInt32.ofNat (ahead t.lastSequence p.sequence - 1)
    else
      call = .init

/-- A slot of the table, and since the last reset of its filter: how far `last_sequence` went, the
packets that advanced it, and what was added to `total_missed`. -/
structure SequenceRun where
  entry : TagEntry
  unrolled : ℤ := 0
  advancing : ℕ := 0
  missed : ℕ := 0

namespace SequenceRun

def after (s : SequenceRun) (p : TagPacket) : SequenceRun :=
  let entry := s.entry.receive p
  let d := ahead s.entry.lastSequence p.sequence
  if (sequenceBranch s.entry.lastSequence p.sequence).filterCall = .init then { entry }
  else
    { entry
      unrolled := s.unrolled + (entry.lastSequence - s.entry.lastSequence).toInt8.toInt
      advancing := if 1 ≤ d ∧ d ≤ 30 then s.advancing + 1 else s.advancing
      missed := s.missed + (entry.totalMissed - s.entry.totalMissed).toNat }

/-- The packet is handled in one of the four ways, and unless the filter is reset `last_sequence`
does not go back. -/
def Tracks (s : SequenceRun) (p : TagPacket) : Prop :=
  s.entry.Handled p ∧
    ((sequenceBranch s.entry.lastSequence p.sequence).filterCall ≠ .init →
      s.unrolled ≤ (s.after p).unrolled)

/-- `last_sequence` went as far as packets advanced it and were missed. -/
def Accounted (s : SequenceRun) : Prop := s.unrolled = s.advancing + s.missed

def NotTenBehind (s : SequenceRun) (p : TagPacket) : Prop :=
  ahead s.entry.lastSequence p.sequence ≠ 246

instance (s : SequenceRun) (p : TagPacket) : Decidable (NotTenBehind s p) :=
  inferInstanceAs (Decidable (_ ≠ _))

variable {s : SequenceRun} {p : TagPacket}

theorem handled_iff : s.entry.Handled p ↔ NotTenBehind s p := by
  have hby := receivedBy_receive s.entry p
  have hbranch := sequenceBranch_eq s.entry.lastSequence p.sequence
  unfold TagEntry.Handled NotTenBehind
  dsimp only
  rw [and_iff_right hby.kalman]
  split_ifs with hzero hlate hnear
  · -- a repeated number
    rw [if_pos hzero] at hbranch
    rw [hbranch] at hby ⊢
    have hlast : p.sequence = s.entry.lastSequence :=
      (diff_eq_zero_iff _ _).mp (UInt8.toNat_inj.mp hzero)
    refine iff_of_true ⟨rfl, hby.lastSequence.trans hlast, hby.totalMissed⟩ ?_
    omega
  · -- one of the nine numbers before
    rw [if_neg hzero, if_pos hlate] at hbranch
    rw [hbranch] at hby ⊢
    refine iff_of_true ?_ (by omega)
    exact ⟨rfl, hby.lastSequence, hby.totalReceived, hby.totalMissed, hby.lastSeenMs⟩
  · -- one of the thirty behind
    rw [branch_of_near (by omega) hnear] at hby ⊢
    refine iff_of_true ⟨rfl, hby.lastSequence, ?_⟩ (by omega)
    have hmissed := hby.totalMissed
    rw [if_pos rfl, missedOfDiff_eq _ (Nat.pos_of_ne_zero hzero) hnear] at hmissed
    exact hmissed
  · -- ten behind is taken for the next in order
    rw [if_neg hzero, if_neg hlate] at hbranch
    rw [hbranch]
    split_ifs with hten
    · exact iff_of_false (by decide) (fun h => h (hten.resolve_left hnear))
    · exact iff_of_true rfl (fun h => hten (Or.inr h))

theorem after_of_kept (hcall : (sequenceBranch s.entry.lastSequence p.sequence).filterCall ≠ .init)
    (hlast : (s.entry.receive p).lastSequence = s.entry.lastSequence)
    (hmissed : (s.entry.receive p).totalMissed = s.entry.totalMissed)
    (hfar : ¬ (1 ≤ ahead s.entry.lastSequence p.sequence ∧
      ahead s.entry.lastSequence p.sequence ≤ 30)) :
    (s.after p).unrolled = s.unrolled ∧ (s.after p).advancing = s.advancing ∧
      (s.after p).missed = s.missed := by
  unfold after
  rw [if_neg hcall]
  refine ⟨?_, if_neg hfar, ?_⟩
  · dsimp only
    rw [hlast, UInt8.sub_self]
    exact add_zero _
  · dsimp only
    rw [hmissed, UInt32.sub_self]
    exact add_zero _

/-- What a packet adds that is not ten behind and resets no filter. -/
theorem advance_of_handled (h : NotTenBehind s p)
    (hcall : (sequenceBranch s.entry.lastSequence p.sequence).filterCall ≠ .init) :
    ∃ n m : ℕ, (s.after p).unrolled = s.unrolled + (n + m) ∧
      (s.after p).advancing = s.advancing + n ∧ (s.after p).missed = s.missed + m := by
  have hhandled := (handled_iff.mpr h).2
  split_ifs at hhandled with hzero hlate hnear
  · obtain ⟨-, hlast, hmissed⟩ := hhandled
    obtain ⟨hunrolled, hadvancing, hsame⟩ := after_of_kept hcall hlast hmissed (by omega)
    exact ⟨0, 0, hunrolled.trans (add_zero _).symm, hadvancing, hsame⟩
  · obtain ⟨-, hlast, -, hmissed, -⟩ := hhandled
    obtain ⟨hunrolled, hadvancing, hsame⟩ := after_of_kept hcall hlast hmissed (by omega)
    exact ⟨0, 0, hunrolled.trans (add_zero _).symm, hadvancing, hsame⟩
  · -- the numbers passed over are those counted as missed
    obtain ⟨-, hlast, hmissed⟩ := hhandled
    unfold after
    rw [if_neg hcall]
    refine ⟨1, ahead s.entry.lastSequence p.sequence - 1, ?_, ?_, ?_⟩
    · dsimp only
      rw [hlast, toInt_of_near _ hnear]
      unfold ahead at hzero ⊢
      omega
    · dsimp only
      rw [if_pos (by omega)]
    · dsimp only
      rw [hmissed, UInt32.add_comm, UInt32.add_sub_cancel, UInt32.toNat_ofNat']
      rw [Nat.mod_eq_of_lt (by omega)]
  · exact absurd hhandled hcall

theorem tracks_iff : Tracks s p ↔ NotTenBehind s p := by
  refine ⟨fun h => handled_iff.mp h.1, fun h => ⟨handled_iff.mpr h, ?_⟩⟩
  intro hcall
  obtain ⟨n, m, hunrolled, -, -⟩ := advance_of_handled h hcall
  omega

theorem Accounted.after (h : Accounted s) (hp : NotTenBehind s p) : Accounted (s.after p) := by
  by_cases hcall : (sequenceBranch s.entry.lastSequence p.sequence).filterCall = .init
  · unfold Accounted SequenceRun.after
    dsimp only
    rw [if_pos hcall]
    rfl
  · obtain ⟨n, m, hunrolled, hadvancing, hmissed⟩ := advance_of_handled hp hcall
    unfold Accounted at h ⊢
    rw [hunrolled, hadvancing, hmissed, h]
    push_cast
    omega

end SequenceRun

open SequenceRun

/-- In a run of packets of one slot every packet is handled by its distance, `last_sequence` goes
back at a filter reset only and every step of it is a packet or counted as missed, exactly if no
packet is ten behind. -/
theorem sequence_tracked_iff (t : TagEntry) (ps : List TagPacket) :
    (Run.Meets (Run.total SequenceRun.after) Tracks { entry := t } ps ∧
      Run.Throughout (Run.total SequenceRun.after) Accounted { entry := t } ps) ↔
      Run.Meets (Run.total SequenceRun.after) NotTenBehind { entry := t } ps := by
  have hsame : Tracks = NotTenBehind := by
    funext s p
    exact propext tracks_iff
  rw [hsame]
  refine ⟨And.left, fun h => ⟨h, ?_⟩⟩
  apply Run.throughout_of_meets _ _ h
  · rintro s p s' hs hp ⟨⟩
    exact hs.after hp
  · rfl

def packetOf (sequence : UInt8) : TagPacket := ⟨-60, sequence, 100, 1⟩

def firstTwenty : TagEntry := .fresh 1 100 (-53) (-60) 20 (fun _ => 0) 0

/-- Number 10 after number 20 resets no filter, and takes `last_sequence` back by ten. -/
theorem tenBehind_not_tracked :
    ¬ (Run.Meets (Run.total SequenceRun.after) Tracks { entry := firstTwenty } [packetOf 10] ∧
      Run.Throughout (Run.total SequenceRun.after) Accounted { entry := firstTwenty }
        [packetOf 10]) := by
  rw [sequence_tracked_iff]
  decide

end BleMeshTracking.Scanner
