import BleMeshTracking.Scanner.SequenceTracking
import Mathlib.Algebra.Order.Floor.Semifield
import Mathlib.Data.Rat.Floor

/-!
# The scanner: packet loss

`total_received` and `total_missed` over the packets of a tag, and the percentage that
`bmt_mesh_publish_tags` makes of them.
-/

namespace BleMeshTracking.Scanner

def nextSequence (last sequence : UInt8) : UInt8 :=
  if sequenceBranch last sequence = .late then last else sequence

def skippedBy (last sequence : UInt8) : ℕ :=
  if 1 ≤ ahead last sequence ∧ ahead last sequence ≤ 30 then ahead last sequence - 1 else 0

def skipped : UInt8 → List TagPacket → ℕ
  | _, [] => 0
  | last, p :: ps => skippedBy last p.sequence + skipped (nextSequence last p.sequence) ps

def TagEntry.receiveAll (t : TagEntry) (ps : List TagPacket) : TagEntry := ps.foldl receive t

theorem missedOfDiff_ten (d : UInt8) (h : branchOfDiff d = .inOrder) (hfar : 30 < d.toNat) :
    missedOfDiff d = 0 := by
  revert d
  decide +kernel

theorem totalMissed_receive (t : TagEntry) (p : TagPacket) :
    (t.receive p).totalMissed =
      t.totalMissed + UInt32.ofNat (skippedBy t.lastSequence p.sequence) := by
  have hmissed := (receivedBy_receive t p).totalMissed
  have hbranch := sequenceBranch_eq t.lastSequence p.sequence
  rw [hmissed]
  unfold skippedBy
  split_ifs with hin hnear hnear
  · rw [missedOfDiff_eq _ hnear.1 hnear.2]
    rfl
  · have hne : ahead t.lastSequence p.sequence ≠ 0 := by
      intro hzero
      rw [hin, if_pos hzero] at hbranch
      cases hbranch
    have hfar : 30 < (p.sequence - t.lastSequence).toNat := by
      unfold ahead at hne hnear
      omega
    rw [missedOfDiff_ten _ hin hfar]
    rfl
  · exact absurd (branch_of_near hnear.1 hnear.2) hin
  · exact (UInt32.add_zero _).symm

theorem lastSequence_receive (t : TagEntry) (p : TagPacket) :
    (t.receive p).lastSequence = nextSequence t.lastSequence p.sequence :=
  (receivedBy_receive t p).lastSequence

theorem totalMissed_receiveAll (t : TagEntry) (ps : List TagPacket) :
    (t.receiveAll ps).totalMissed =
      t.totalMissed + UInt32.ofNat (skipped t.lastSequence ps) := by
  induction ps generalizing t with
  | nil => exact (UInt32.add_zero _).symm
  | cons p ps ih =>
    have hrest := ih (t.receive p)
    rw [lastSequence_receive, totalMissed_receive] at hrest
    unfold skipped
    rw [UInt32.ofNat_add, ← UInt32.add_assoc]
    exact hrest

/-- The second list is the first one with `n` further receptions of the number last accepted. -/
inductive WithRepeats : UInt8 → ℕ → List TagPacket → List TagPacket → Prop
  | nil {last : UInt8} : WithRepeats last 0 [] []
  | keep {last : UInt8} {n : ℕ} {p : TagPacket} {ps ps' : List TagPacket}
    (h : WithRepeats (nextSequence last p.sequence) n ps ps') :
    WithRepeats last n (p :: ps) (p :: ps')
  | insert {last : UInt8} {n : ℕ} {q : TagPacket} {ps ps' : List TagPacket}
    (hq : q.sequence = last) (h : WithRepeats last n ps ps') :
    WithRepeats last (n + 1) ps (q :: ps')

/-- The two entries differ in `total_received` only, as far as the loss goes. -/
structure SameButReceived (n : UInt32) (t t' : TagEntry) : Prop where
  lastSequence : t'.lastSequence = t.lastSequence
  totalMissed : t'.totalMissed = t.totalMissed
  totalReceived : t'.totalReceived = t.totalReceived + n

theorem SameButReceived.receive {n : UInt32} {t t' : TagEntry} (h : SameButReceived n t t')
    (p : TagPacket) : SameButReceived n (t.receive p) (t'.receive p) := by
  refine ⟨?_, ?_, ?_⟩
  · rw [lastSequence_receive, lastSequence_receive, h.lastSequence]
  · rw [totalMissed_receive, totalMissed_receive, h.lastSequence, h.totalMissed]
  · rw [(receivedBy_receive t' p).totalReceived, (receivedBy_receive t p).totalReceived,
      h.lastSequence, h.totalReceived]
    split_ifs
    · rfl
    · rw [UInt32.add_assoc, UInt32.add_assoc, UInt32.add_comm n]

theorem branch_repeated (last : UInt8) : sequenceBranch last last = .repeated := by
  unfold sequenceBranch
  rw [UInt8.sub_self]
  rfl

/-- A repeated reception is counted as received, and nothing else. -/
theorem SameButReceived.insert {n : UInt32} {t t' : TagEntry} (h : SameButReceived n t t')
    {q : TagPacket} (hq : q.sequence = t.lastSequence) :
    SameButReceived (n + 1) t (t'.receive q) := by
  have hby := receivedBy_receive t' q
  rw [hq, h.lastSequence, branch_repeated] at hby
  refine ⟨?_, ?_, ?_⟩
  · exact hby.lastSequence.trans hq
  · exact hby.totalMissed.trans h.totalMissed
  · rw [← UInt32.add_assoc, ← h.totalReceived]
    exact hby.totalReceived

theorem WithRepeats.sameButReceived {last : UInt8} {n : ℕ} {ps ps' : List TagPacket}
    (h : WithRepeats last n ps ps') {k : UInt32} {t t' : TagEntry} (hlast : t.lastSequence = last)
    (ht : SameButReceived k t t') :
    SameButReceived (k + UInt32.ofNat n) (t.receiveAll ps) (t'.receiveAll ps') := by
  induction h generalizing k t t' with
  | nil =>
    rw [show UInt32.ofNat 0 = 0 from rfl, UInt32.add_zero]
    exact ht
  | keep h ih =>
    apply ih _ (ht.receive _)
    rw [lastSequence_receive, hlast]
  | insert hq h ih =>
    have hrest := ih hlast (ht.insert (hq.trans hlast.symm))
    rw [UInt32.ofNat_add, UInt32.add_comm (UInt32.ofNat _), ← UInt32.add_assoc]
    exact hrest

def TagEntry.lossRatio (t : TagEntry) : ℚ :=
  t.totalMissed.toNat / (t.totalReceived.toNat + t.totalMissed.toNat)

def TagEntry.lossPct (t : TagEntry) : UInt8 := (t.report 1).lossPct

structure SameLoss (t t' : TagEntry) : Prop where
  totalMissed : t'.totalMissed = t.totalMissed
  lossRatio : t'.lossRatio = t.lossRatio
  lossPct : t'.lossPct = t.lossPct

theorem lossPct_eq (t : TagEntry) :
    t.lossPct = if t.totalReceived + t.totalMissed > 0 then
      (t.totalMissed * 100 / (t.totalReceived + t.totalMissed)).toUInt8 else 0 := rfl

theorem lossPct_of_none_missed {t : TagEntry} (h : t.totalMissed = 0) : t.lossPct = 0 := by
  rw [lossPct_eq, h]
  split_ifs
  · rw [UInt32.zero_mul, UInt32.zero_div]
    rfl
  · rfl

/-- Receptions that are counted without a transmission leave the loss alone only if they are none
modulo 2^32, or nothing is missed. -/
theorem SameButReceived.sameLoss_iff {n : UInt32} {t t' : TagEntry} (h : SameButReceived n t t') :
    SameLoss t t' ↔ n = 0 ∨ t.totalMissed = 0 := by
  refine ⟨?_, ?_⟩
  · intro hsame
    by_cases hm : t.totalMissed = 0
    · exact Or.inr hm
    · have hne : (t.totalMissed.toNat : ℚ) ≠ 0 := by
        intro hzero
        exact hm (UInt32.toNat_inj.mp (Nat.cast_eq_zero.mp hzero))
      have hratio := hsame.lossRatio
      unfold TagEntry.lossRatio at hratio
      rw [h.totalMissed, div_eq_mul_inv, div_eq_mul_inv, mul_right_inj' hne, inv_inj, add_left_inj,
        Nat.cast_inj, UInt32.toNat_inj, h.totalReceived] at hratio
      left
      have hsub := congrArg (fun x => x - t.totalReceived) hratio
      simp only [UInt32.sub_self] at hsub
      rw [UInt32.add_comm, UInt32.add_sub_cancel] at hsub
      exact hsub
  · rintro (hn | hm)
    · have hreceived : t'.totalReceived = t.totalReceived := by
        rw [h.totalReceived, hn, UInt32.add_zero]
      refine ⟨h.totalMissed, ?_, ?_⟩
      · unfold TagEntry.lossRatio
        rw [hreceived, h.totalMissed]
      · rw [lossPct_eq, lossPct_eq, hreceived, h.totalMissed]
    · have hm' := h.totalMissed.trans hm
      refine ⟨h.totalMissed, ?_, ?_⟩
      · unfold TagEntry.lossRatio
        rw [hm', hm]
        simp
      · rw [lossPct_of_none_missed hm', lossPct_of_none_missed hm]

/-- A reception of the transmission with this index. -/
structure Heard where
  index : ℕ
  rssi : Int8
  battery : UInt8
  nowMs : UInt32

/-- Transmissions are numbered modulo 256. -/
def Heard.packet (h : Heard) : TagPacket := ⟨h.rssi, UInt8.ofNat h.index, h.battery, h.nowMs⟩

/-- No gap is above `BMT_MAX_SEQ_JUMP`, and what comes late is dropped. -/
def InReach : ℕ → List Heard → Prop
  | _, [] => True
  | last, h :: hs => h.index ≤ last + 30 ∧ last ≤ h.index + 9 ∧ InReach (max last h.index) hs

def lastIndex (last : ℕ) (hs : List Heard) : ℕ := hs.foldl (fun l h => max l h.index) last

/-- How many were received in order, after the first one. -/
def inOrderCount : ℕ → List Heard → ℕ
  | _, [] => 0
  | last, h :: hs => (if last < h.index then 1 else 0) + inOrderCount (max last h.index) hs

def repeatCount : ℕ → List Heard → ℕ
  | _, [] => 0
  | last, h :: hs => (if h.index = last then 1 else 0) + repeatCount (max last h.index) hs

theorem ahead_ofNat {last i : ℕ} (hle : last ≤ i) (h : i ≤ last + 30) :
    ahead (UInt8.ofNat last) (UInt8.ofNat i) = i - last := by
  unfold ahead
  rw [UInt8.toNat_sub, UInt8.toNat_ofNat', UInt8.toNat_ofNat']
  omega

theorem ahead_late {last i : ℕ} (hlt : i < last) (h : last ≤ i + 9) :
    ahead (UInt8.ofNat last) (UInt8.ofNat i) = 256 + i - last := by
  unfold ahead
  rw [UInt8.toNat_sub, UInt8.toNat_ofNat', UInt8.toNat_ofNat']
  omega

theorem branch_late {last i : ℕ} (hlt : i < last) (h : last ≤ i + 9) :
    sequenceBranch (UInt8.ofNat last) (UInt8.ofNat i) = .late := by
  rw [sequenceBranch_eq, ahead_late hlt h, if_neg (by omega), if_pos (by omega)]

/-- A reception within reach is counted once, with the transmissions it passes over. -/
theorem receive_heard {t : TagEntry} {last : ℕ} (ht : t.lastSequence = UInt8.ofNat last)
    {h : Heard} (hahead : h.index ≤ last + 30) (hlate : last ≤ h.index + 9) :
    (t.receive h.packet).lastSequence = UInt8.ofNat (max last h.index) ∧
      (t.receive h.packet).totalReceived = t.totalReceived +
        UInt32.ofNat ((if last < h.index then 1 else 0) + if h.index = last then 1 else 0) ∧
      (t.receive h.packet).totalMissed = t.totalMissed +
        UInt32.ofNat (if last < h.index then h.index - last - 1 else 0) := by
  have hby := receivedBy_receive t h.packet
  have hmissed := totalMissed_receive t h.packet
  have hsequence : h.packet.sequence = UInt8.ofNat h.index := rfl
  unfold skippedBy at hmissed
  rw [ht, hsequence] at hby hmissed
  rcases lt_trichotomy h.index last with hlt | heq | hgt
  · -- a late one is dropped
    rw [branch_late hlt hlate] at hby
    rw [ahead_late hlt hlate, if_neg (by omega)] at hmissed
    rw [max_eq_left hlt.le, if_neg (by omega), if_neg (by omega), if_neg (by omega), ← ht]
    exact ⟨hby.lastSequence, hby.totalReceived.trans (UInt32.add_zero _).symm, hmissed⟩
  · -- a repeated one is counted as received
    rw [heq, branch_repeated] at hby
    rw [heq, ahead_ofNat le_rfl (by omega), if_neg (by omega)] at hmissed
    rw [heq, max_self, if_neg (by omega), if_pos rfl, if_neg (by omega)]
    refine ⟨?_, hby.totalReceived, hmissed⟩
    rw [← heq]
    exact hby.lastSequence
  · -- the numbers between are counted as missed
    have hdistance := ahead_ofNat hgt.le hahead
    rw [branch_of_near (by omega) (by omega)] at hby
    rw [hdistance, if_pos (by omega)] at hmissed
    rw [max_eq_right hgt.le, if_pos hgt, if_neg (by omega), if_pos hgt]
    exact ⟨hby.lastSequence, hby.totalReceived, hmissed⟩

/-- The counters of a run within reach. -/
theorem receiveAll_heard {t : TagEntry} {last : ℕ} (ht : t.lastSequence = UInt8.ofNat last)
    {hs : List Heard} (hreach : InReach last hs) :
    (t.receiveAll (hs.map Heard.packet)).totalReceived =
        t.totalReceived + UInt32.ofNat (inOrderCount last hs + repeatCount last hs) ∧
      ∃ m, lastIndex last hs = last + inOrderCount last hs + m ∧
        (t.receiveAll (hs.map Heard.packet)).totalMissed = t.totalMissed + UInt32.ofNat m := by
  induction hs generalizing t last with
  | nil => exact ⟨(UInt32.add_zero _).symm, 0, rfl, (UInt32.add_zero _).symm⟩
  | cons h hs ih =>
    obtain ⟨hahead, hlate, hrest⟩ := hreach
    obtain ⟨hlast, hreceived, hmissed⟩ := receive_heard ht hahead hlate
    obtain ⟨hreceived', m, hindex, hmissed'⟩ := ih hlast hrest
    refine ⟨?_, (if last < h.index then h.index - last - 1 else 0) + m, ?_, ?_⟩
    · rw [hreceived, UInt32.add_assoc, ← UInt32.ofNat_add] at hreceived'
      refine hreceived'.trans (congrArg (fun k => t.totalReceived + UInt32.ofNat k) ?_)
      rw [inOrderCount, repeatCount]
      omega
    · have hfold : lastIndex last (h :: hs) = lastIndex (max last h.index) hs := rfl
      rw [hfold, hindex, inOrderCount]
      split_ifs with hlt
      · omega
      · omega
    · rw [hmissed, UInt32.add_assoc, ← UInt32.ofNat_add] at hmissed'
      exact hmissed'

/-- The transmissions from the first one received to the last one received in order. -/
def transmissions (first : ℕ) (hs : List Heard) : ℕ := lastIndex first hs - first + 1

/-- Those of them that were never received in order. -/
def missing (first : ℕ) (hs : List Heard) : ℕ :=
  transmissions first hs - (inOrderCount first hs + 1)

/-- Without an overflow `loss_pct` is the integer percentage. -/
theorem lossPct_toNat {t : TagEntry} {m r : ℕ} (hm : t.totalMissed = UInt32.ofNat m)
    (hr : t.totalReceived = UInt32.ofNat r) (hproduct : 100 * m < 2 ^ 32)
    (hsum : r + m < 2 ^ 32) :
    t.lossPct.toNat = 100 * m / (r + m) := by
  have hmNat : t.totalMissed.toNat = m := by
    rw [hm, UInt32.toNat_ofNat', Nat.mod_eq_of_lt (by omega)]
  have htotal : (t.totalReceived + t.totalMissed).toNat = r + m := by
    rw [hm, hr, ← UInt32.ofNat_add, UInt32.toNat_ofNat', Nat.mod_eq_of_lt (by omega)]
  have hle : 100 * m / (r + m) ≤ 100 := by
    apply Nat.div_le_of_le_mul
    omega
  rw [lossPct_eq]
  split_ifs with hpos
  · have h100 : (100 : UInt32).toNat = 100 := rfl
    have hmod : 100 * m % 2 ^ 32 = 100 * m := Nat.mod_eq_of_lt hproduct
    rw [UInt32.toNat_toUInt8, UInt32.toNat_div, UInt32.toNat_mul, hmNat, htotal, h100,
      Nat.mul_comm m, hmod, Nat.mod_eq_of_lt (by omega)]
  · have hzero : r + m = 0 := by
      rw [← htotal]
      apply Nat.eq_zero_of_not_pos
      intro hlt
      exact hpos (UInt32.lt_iff_toNat_lt.mpr hlt)
    rw [hzero, Nat.div_zero]
    rfl

/-- The loss of a tag from its first packet on.  Receptions that repeat the last number accepted
leave it alone exactly if they are none, or no number is skipped (modulo 2^32).  While no gap is
above thirty, and neither the counters' sum nor 100 times the missing transmissions overflows, it is
the percentage of the transmissions that were never received in order exactly if the repeated
receptions do not move it. -/
theorem loss_statistics (tagId : UInt16) (battery : UInt8) (txPower rssi : Int8)
    (mac : Fin 6 → UInt8) (now : UInt32) :
    (∀ sequence n ps ps', WithRepeats sequence n ps ps' →
      let t := TagEntry.fresh tagId battery txPower rssi sequence mac now
      (SameLoss (t.receiveAll ps) (t.receiveAll ps') ↔
        UInt32.ofNat n = 0 ∨ UInt32.ofNat (skipped sequence ps) = 0)) ∧
    ∀ first hs, InReach first hs → 100 * missing first hs < 2 ^ 32 →
      transmissions first hs + repeatCount first hs < 2 ^ 32 →
      let t := TagEntry.fresh tagId battery txPower rssi (UInt8.ofNat first) mac now
      ((t.receiveAll (hs.map Heard.packet)).lossPct.toNat =
          ⌊100 * (missing first hs / transmissions first hs : ℚ)⌋₊ ↔
        100 * missing first hs / (transmissions first hs + repeatCount first hs) =
          100 * missing first hs / transmissions first hs) := by
  refine ⟨?_, ?_⟩
  · intro sequence n ps ps' h
    dsimp only
    generalize ht : TagEntry.fresh tagId battery txPower rssi sequence mac now = t
    have hlast : t.lastSequence = sequence := by
      rw [← ht]
      rfl
    have hmissed : (t.receiveAll ps).totalMissed = UInt32.ofNat (skipped sequence ps) := by
      rw [totalMissed_receiveAll, hlast, ← ht]
      exact UInt32.zero_add _
    have hsame := h.sameButReceived hlast (k := 0) ⟨rfl, rfl, (UInt32.add_zero _).symm⟩
    rw [UInt32.zero_add] at hsame
    rw [hsame.sameLoss_iff, hmissed]
  · intro first hs hreach hproduct hsum
    dsimp only
    obtain ⟨hreceived, m, hindex, hmissed⟩ := receiveAll_heard
      (t := TagEntry.fresh tagId battery txPower rssi (UInt8.ofNat first) mac now) rfl hreach
    have htransmissions : transmissions first hs = inOrderCount first hs + 1 + m := by
      unfold transmissions
      omega
    have hmissing : missing first hs = m := by
      unfold missing
      omega
    have hr : 1 + UInt32.ofNat (inOrderCount first hs + repeatCount first hs) =
        UInt32.ofNat (1 + (inOrderCount first hs + repeatCount first hs)) :=
      (UInt32.ofNat_add 1 _).symm
    have hpct := lossPct_toNat (hmissed.trans (UInt32.zero_add _)) (hreceived.trans hr)
      (by omega) (by omega)
    have hfloor : ⌊100 * (m / (inOrderCount first hs + 1 + m : ℕ) : ℚ)⌋₊ =
        100 * m / (inOrderCount first hs + 1 + m) := by
      rw [← Nat.floor_div_eq_div (K := ℚ), ← mul_div_assoc]
      push_cast
      rfl
    rw [hpct, hmissing, htransmissions, hfloor]
    have htotal : 1 + (inOrderCount first hs + repeatCount first hs) + m =
        inOrderCount first hs + 1 + m + repeatCount first hs := by omega
    rw [htotal]

def twentyTwoFirst : List Heard := [⟨22, -60, 100, 1⟩, ⟨21, -60, 100, 2⟩, ⟨23, -60, 100, 3⟩]

theorem loss_statistics_twenty :
    (SameLoss (firstTwenty.receiveAll [packetOf 21])
        (firstTwenty.receiveAll [packetOf 21, packetOf 21]) ↔
      UInt32.ofNat 1 = 0 ∨ UInt32.ofNat (skipped 20 [packetOf 21]) = 0) ∧
    ((firstTwenty.receiveAll (twentyTwoFirst.map Heard.packet)).lossPct.toNat =
        ⌊100 * (missing 20 twentyTwoFirst / transmissions 20 twentyTwoFirst : ℚ)⌋₊ ↔
      100 * missing 20 twentyTwoFirst /
          (transmissions 20 twentyTwoFirst + repeatCount 20 twentyTwoFirst) =
        100 * missing 20 twentyTwoFirst / transmissions 20 twentyTwoFirst) := by
  have h := loss_statistics 1 100 (-53) (-60) (fun _ => 0) 0
  exact ⟨h.1 20 1 _ _ (.keep (.insert (by decide) .nil)),
    h.2 20 twentyTwoFirst (by simp [twentyTwoFirst, InReach]) (by decide) (by decide)⟩

/-- Number 22 after number 20, received once more: a loss of 33 % becomes one of 25 %. -/
theorem repeated_moves_loss :
    ¬ SameLoss (firstTwenty.receiveAll [packetOf 22])
      (firstTwenty.receiveAll [packetOf 22, packetOf 22]) := by
  intro h
  exact absurd h.lossPct (by decide +kernel)

end BleMeshTracking.Scanner
