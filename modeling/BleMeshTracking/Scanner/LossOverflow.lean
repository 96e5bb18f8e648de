import BleMeshTracking.Scanner.LossStatistics

/-!
# The scanner: packet loss over long runs

`total_received` and `total_missed` only grow.  `bmt_mesh_publish_tags` adds them, and multiplies
the second by 100, in 32 bits.
-/

namespace BleMeshTracking.Scanner

def TagEntry.lossDivisor (t : TagEntry) : Option UInt32 :=
  let total := t.totalReceived + t.totalMissed
  if total > 0 then some total else none

/-- `loss_pct` is the integer percentage of the two counters, and nothing is divided by zero. -/
structure TagEntry.LossExact (t : TagEntry) : Prop where
  floor : t.lossPct.toNat =
    100 * t.totalMissed.toNat / (t.totalReceived.toNat + t.totalMissed.toNat)
  le : t.lossPct ≤ 100
  divisor : ∀ d ∈ t.lossDivisor, d ≠ 0

def countedBy (last sequence : UInt8) : ℕ := if sequenceBranch last sequence = .late then 0 else 1

def TagEntry.SumFits (t : TagEntry) (p : TagPacket) : Prop :=
  t.totalReceived.toNat + countedBy t.lastSequence p.sequence +
    (t.totalMissed.toNat + skippedBy t.lastSequence p.sequence) < 2 ^ 32

def TagEntry.ProductFits (t : TagEntry) (p : TagPacket) : Prop :=
  100 * (t.totalMissed.toNat + skippedBy t.lastSequence p.sequence) < 2 ^ 32

instance (t : TagEntry) (p : TagPacket) : Decidable (t.SumFits p) :=
  inferInstanceAs (Decidable (_ < _))

instance (t : TagEntry) (p : TagPacket) : Decidable (t.ProductFits p) :=
  inferInstanceAs (Decidable (_ < _))

/-- Without an overflow of the sum, `loss_pct` is what is left of the product over the sum. -/
theorem lossPct_of_sum {t : TagEntry}
    (hsum : t.totalReceived.toNat + t.totalMissed.toNat < 2 ^ 32) :
    t.lossPct.toNat = 100 * t.totalMissed.toNat % 2 ^ 32 /
      (t.totalReceived.toNat + t.totalMissed.toNat) := by
  have htotal : (t.totalReceived + t.totalMissed).toNat =
      t.totalReceived.toNat + t.totalMissed.toNat := by
    rw [UInt32.toNat_add, Nat.mod_eq_of_lt hsum]
  have h100 : (100 : UInt32).toNat = 100 := rfl
  have hle : 100 * t.totalMissed.toNat % 2 ^ 32 /
      (t.totalReceived.toNat + t.totalMissed.toNat) ≤ 100 := by
    apply Nat.div_le_of_le_mul
    have hmod := Nat.mod_le (100 * t.totalMissed.toNat) (2 ^ 32)
    omega
  rw [lossPct_eq]
  split_ifs with hpos
  · rw [UInt32.toNat_toUInt8, UInt32.toNat_div, UInt32.toNat_mul, htotal, h100,
      Nat.mul_comm t.totalMissed.toNat, Nat.mod_eq_of_lt (by omega)]
  · have hzero : t.totalReceived.toNat + t.totalMissed.toNat = 0 := by
      rw [← htotal]
      apply Nat.eq_zero_of_not_pos
      exact fun hlt => hpos (UInt32.lt_iff_toNat_lt.mpr hlt)
    rw [hzero, Nat.div_zero]
    rfl

/-- What the product loses in 32 bits is at least once the sum, so no lost product goes
unnoticed. -/
theorem mod_div_eq_iff {m total : ℕ} (hm : m ≤ total) (htotal : total < 2 ^ 32) :
    100 * m % 2 ^ 32 / total = 100 * m / total ↔ 100 * m < 2 ^ 32 := by
  refine ⟨?_, ?_⟩
  · intro heq
    by_contra hover
    have hpos : 0 < total := by omega
    have hlost : 100 * m % 2 ^ 32 + total ≤ 100 * m := by omega
    have hdiv := Nat.div_le_div_right (c := total) hlost
    rw [Nat.add_div_right _ hpos, heq] at hdiv
    exact absurd hdiv (Nat.not_succ_le_self _)
  · intro hfits
    rw [Nat.mod_eq_of_lt hfits]

theorem lossExact_iff {t : TagEntry}
    (hsum : t.totalReceived.toNat + t.totalMissed.toNat < 2 ^ 32) :
    t.LossExact ↔ 100 * t.totalMissed.toNat < 2 ^ 32 := by
  have hpct := lossPct_of_sum hsum
  rw [← mod_div_eq_iff (Nat.le_add_left _ _) hsum]
  refine ⟨?_, ?_⟩
  · intro h
    rw [← hpct]
    exact h.floor
  · intro h
    refine ⟨hpct.trans h, ?_, ?_⟩
    · have h100 : (100 : UInt8).toNat = 100 := rfl
      rw [UInt8.le_iff_toNat_le, hpct.trans h, h100]
      apply Nat.div_le_of_le_mul
      omega
    · intro d hd
      unfold TagEntry.lossDivisor at hd
      obtain ⟨hpos, hd'⟩ := Option.ite_none_right_eq_some.mp hd
      cases hd'
      exact fun hzero => absurd hzero (UInt32.pos_iff_ne_zero.mp hpos)

/-- While they fit, the counters are those before the packet and what the packet adds. -/
theorem counters_receive {t : TagEntry} {p : TagPacket} (h : t.SumFits p) :
    (t.receive p).totalReceived.toNat =
        t.totalReceived.toNat + countedBy t.lastSequence p.sequence ∧
      (t.receive p).totalMissed.toNat =
        t.totalMissed.toNat + skippedBy t.lastSequence p.sequence := by
  unfold TagEntry.SumFits at h
  refine ⟨?_, ?_⟩
  · rw [(receivedBy_receive t p).totalReceived]
    unfold countedBy at h ⊢
    split_ifs at h ⊢ with hlate
    · rfl
    · have hone : (1 : UInt32).toNat = 1 := rfl
      rw [UInt32.toNat_add, hone, Nat.mod_eq_of_lt (by omega)]
  · rw [totalMissed_receive, UInt32.toNat_add, UInt32.toNat_ofNat',
      Nat.mod_eq_of_lt (a := skippedBy _ _) (by omega), Nat.mod_eq_of_lt (by omega)]

theorem lossExact_receive_iff {t : TagEntry} {p : TagPacket} (h : t.SumFits p) :
    (t.receive p).LossExact ↔ t.ProductFits p := by
  obtain ⟨hreceived, hmissed⟩ := counters_receive h
  rw [lossExact_iff (by rw [hreceived, hmissed]; exact h), hmissed]
  rfl

/-- Over a run of a tag from its first packet on: as long as the counters and 100 times the missed
packets fit into 32 bits, `loss_pct` is exact in every state, and as long as the counters fit, it
is so only then. -/
theorem loss_exact_iff_fits (tagId : UInt16) (battery : UInt8) (txPower rssi : Int8)
    (sequence : UInt8) (mac : Fin 6 → UInt8) (now : UInt32) (ps : List TagPacket) :
    let t := TagEntry.fresh tagId battery txPower rssi sequence mac now
    (Run.Meets (Run.total TagEntry.receive) (fun t p => t.SumFits p ∧ t.ProductFits p) t ps →
        Run.Throughout (Run.total TagEntry.receive) TagEntry.LossExact t ps) ∧
      (Run.Meets (Run.total TagEntry.receive) TagEntry.SumFits t ps →
        (Run.Throughout (Run.total TagEntry.receive) TagEntry.LossExact t ps ↔
          Run.Meets (Run.total TagEntry.receive) TagEntry.ProductFits t ps)) := by
  intro t
  have hone : t.totalReceived.toNat = 1 := rfl
  have hzero : t.totalMissed.toNat = 0 := rfl
  have hfirst : t.LossExact := (lossExact_iff (by omega)).mpr (by omega)
  refine ⟨?_, ?_⟩
  · apply Run.throughout_of_meets _ hfirst
    rintro s p s' - hfits ⟨⟩
    exact (lossExact_receive_iff hfits.1).mpr hfits.2
  · intro hsum
    refine Run.throughout_iff_meets (A := fun _ => True) ?_ ?_ hsum trivial hfirst
    · intro s p s' _ _ _
      trivial
    · rintro s p s' - - hfits ⟨⟩
      exact lossExact_receive_iff hfits

theorem loss_exact_iff_fits_one :
    Run.Throughout (Run.total TagEntry.receive) TagEntry.LossExact firstTwenty [packetOf 22] :=
  (loss_exact_iff_fits 1 100 (-53) (-60) 20 (fun _ => 0) 0 [packetOf 22]).1 (by decide +kernel)

def everyNinth (n : ℕ) : List TagPacket :=
  (List.range n).map fun k => Heard.packet ⟨9 * (k + 1), -60, 100, 1⟩

def firstZero : TagEntry := .fresh 1 100 (-53) (-60) 0 (fun _ => 0) 0

theorem counters_everyNinth (n : ℕ) :
    (firstZero.receiveAll (everyNinth n)).lastSequence = UInt8.ofNat (9 * n) ∧
      (firstZero.receiveAll (everyNinth n)).totalReceived = 1 + UInt32.ofNat n ∧
      (firstZero.receiveAll (everyNinth n)).totalMissed = UInt32.ofNat (8 * n) := by
  induction n with
  | zero => exact ⟨rfl, rfl, rfl⟩
  | succ n ih =>
    obtain ⟨hlast, hreceived, hmissed⟩ := ih
    have hsnoc : firstZero.receiveAll (everyNinth (n + 1)) =
        (firstZero.receiveAll (everyNinth n)).receive
          (Heard.packet ⟨9 * (n + 1), -60, 100, 1⟩) := by
      rw [everyNinth, List.range_succ, List.map_append, TagEntry.receiveAll,
        List.foldl_append]
      rfl
    obtain ⟨hlast', hreceived', hmissed'⟩ := receive_heard hlast
      (h := ⟨9 * (n + 1), -60, 100, 1⟩) (by dsimp only; omega) (by dsimp only; omega)
    dsimp only at hlast' hreceived' hmissed'
    rw [max_eq_right (by omega)] at hlast'
    rw [if_pos (by omega), if_neg (by omega)] at hreceived'
    rw [if_pos (by omega)] at hmissed'
    rw [hsnoc, hlast', hreceived', hmissed', hreceived, hmissed, UInt32.add_assoc,
      ← UInt32.ofNat_add, ← UInt32.ofNat_add]
    refine ⟨rfl, rfl, ?_⟩
    congr 1
    omega

theorem not_lossExact_of_counters {t : TagEntry} (hreceived : t.totalReceived = 5368711)
    (hmissed : t.totalMissed = 42949680) : ¬t.LossExact := by
  intro h
  have hfloor := h.floor
  rw [lossPct_eq, hreceived, hmissed] at hfloor
  exact absurd hfloor (by decide +kernel)

/-- With 42949680 packets missed out of 48318391, `loss_pct` is 0 and not 88. -/
theorem loss_of_everyNinth_wrong :
    ¬Run.Throughout (Run.total TagEntry.receive) TagEntry.LossExact firstZero
      (everyNinth 5368710) := by
  apply Run.not_throughout_of_run Run.run_total
  exact not_lossExact_of_counters (counters_everyNinth 5368710).2.1
    (counters_everyNinth 5368710).2.2

end BleMeshTracking.Scanner
