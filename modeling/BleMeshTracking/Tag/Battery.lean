import BleMeshTracking.Library.Interpolation
import Mathlib.Data.UInt

/-!
# The tag: its battery

`bmt_battery.c` of the nRF52840 tag and its two boards: from a reading of the ADC to the percentage
in every advertisement.
-/

namespace BleMeshTracking.Tag

open Interpolation

inductive BatteryBoard
  | promicro
  | xiaoBle
  deriving DecidableEq

def bmtBattVddhDivider : ℤ := 5

def bmtBattR1Kohm : ℤ := 1037

def bmtBattR2Kohm : ℤ := 510

/-- `bmt_battery_board_adc_to_mv` of each board; the division of C rounds towards zero. -/
def BatteryBoard.adcToMv (board : BatteryBoard) (adcMv : ℤ) : ℤ :=
  match board with
  | .promicro => adcMv * bmtBattVddhDivider
  | .xiaoBle => (adcMv * (bmtBattR1Kohm + bmtBattR2Kohm)).tdiv bmtBattR2Kohm

/-- The three ADC calls of a reading, below zero where they fail, and the millivolts read. -/
structure AdcCalls where
  sequenceInit : ℤ := 0
  adcRead : ℤ := 0
  rawToMillivolts : ℤ := 0
  adcMv : ℤ

def bmtBatteryReadMv (board : BatteryBoard) (c : AdcCalls) : ℤ :=
  if c.sequenceInit < 0 then c.sequenceInit
  else if c.adcRead < 0 then c.adcRead
  else if c.rawToMillivolts < 0 then c.rawToMillivolts
  else board.adcToMv c.adcMv

def battCurve : List Point :=
  [⟨4200, 100⟩, ⟨4110, 90⟩, ⟨4020, 80⟩, ⟨3930, 70⟩, ⟨3840, 60⟩, ⟨3750, 50⟩, ⟨3660, 40⟩,
    ⟨3570, 30⟩, ⟨3480, 20⟩, ⟨3390, 10⟩, ⟨3300, 0⟩]

def bmtBatteryPercent (mv : ℤ) : UInt8 :=
  if 4200 ≤ mv then 100
  else if mv ≤ 3300 then 0
  else
    match along battCurve mv with
    | some percent => UInt8.ofNat percent.toNat
    | none => 0

theorem falling_battCurve : Falling battCurve := by decide

/-- The charge on the straight line from 3300 mV to 4200 mV, rounded down. -/
def chargeAt (mv : ℤ) : ℤ := (max 3300 (min mv 4200) - 3300) / 9

/-- The points of the table lie on one line. -/
theorem percent_eq_chargeAt (mv : ℤ) : ((bmtBatteryPercent mv).toNat : ℤ) = chargeAt mv := by
  unfold bmtBatteryPercent chargeAt
  split_ifs with hfull hempty
  · rw [min_eq_right hfull]
    rfl
  · have hmin : min mv 4200 ≤ 3300 := (min_le_left mv 4200).trans hempty
    rw [max_eq_left hmin]
    rfl
  · have hlo : 3300 ≤ mv := (not_le.mp hempty).le
    have hhi : mv ≤ 4200 := (not_le.mp hfull).le
    have hsome : (along battCurve mv).isSome = true :=
      @along_isSome ⟨4200, 100⟩ ⟨3300, 0⟩ (battCurve.drop 1).dropLast mv hlo hhi
    obtain ⟨v, hv⟩ := Option.isSome_iff_exists.mp hsome
    have hline : v = 0 + (mv - 3300) / 9 :=
      along_line (o := ⟨3300, 0⟩) falling_battCurve (by decide) (by decide) hv
    have hsmall : v.toNat < 256 := by omega
    rw [hv, min_eq_left hhi, max_eq_right hlo]
    dsimp only
    rw [UInt8.toNat_ofNat_of_lt' hsmall]
    omega

theorem chargeAt_mono {mv mv' : ℤ} (h : mv ≤ mv') : chargeAt mv ≤ chargeAt mv' := by
  unfold chargeAt
  omega

theorem chargeAt_le (mv : ℤ) : chargeAt mv ≤ 100 := by
  unfold chargeAt
  omega

theorem percent_le (mv : ℤ) : bmtBatteryPercent mv ≤ 100 := by
  have hle := chargeAt_le mv
  rw [← percent_eq_chargeAt] at hle
  exact UInt8.le_iff_toNat_le.mpr (Int.ofNat_le.mp hle)

theorem BatteryBoard.adcToMv_mono (board : BatteryBoard) {adc adc' : ℤ} (h : adc ≤ adc') :
    board.adcToMv adc ≤ board.adcToMv adc' := by
  cases board with
  | promicro => exact mul_le_mul_of_nonneg_right h (by decide)
  | xiaoBle => exact Int.tdiv_le_tdiv (by decide) (mul_le_mul_of_nonneg_right h (by decide))

/-- `s_last_percent`, and whether the periodic reading has been started. -/
structure Battery where
  lastPercent : UInt8 := 0
  started : Bool := false

def Battery.battLogWorkHandler (board : BatteryBoard) (c : AdcCalls) (s : Battery) : Battery :=
  let mv := bmtBatteryReadMv board c
  if mv < 0 then s else { s with lastPercent := bmtBatteryPercent mv }

/-- `bmt_battery_init`: the board, the device and the channel come first. -/
def Battery.bmtBatteryInit (board : BatteryBoard) (boardInit : ℤ) (adcReady : Bool)
    (channelSetup : ℤ) (c : AdcCalls) (s : Battery) : Battery :=
  if boardInit < 0 then s
  else if !adcReady then s
  else if channelSetup < 0 then s
  else
    let mv0 := bmtBatteryReadMv board c
    { lastPercent := if mv0 ≥ 0 then bmtBatteryPercent mv0 else s.lastPercent, started := true }

def Battery.work (board : BatteryBoard) (s : Battery) (c : AdcCalls) : Battery :=
  if s.started then s.battLogWorkHandler board c else s

theorem battLogWorkHandler_le {s : Battery} (h : s.lastPercent ≤ 100) (board : BatteryBoard)
    (c : AdcCalls) : (s.battLogWorkHandler board c).lastPercent ≤ 100 := by
  unfold Battery.battLogWorkHandler
  dsimp only
  split_ifs
  · exact h
  · exact percent_le _

theorem bmtBatteryInit_cases (board : BatteryBoard) (boardInit channelSetup : ℤ) (adcReady : Bool)
    (r : AdcCalls) (s : Battery) :
    Battery.bmtBatteryInit board boardInit adcReady channelSetup r s = s ∨
      Battery.bmtBatteryInit board boardInit adcReady channelSetup r s =
        { s.battLogWorkHandler board r with started := true } := by
  unfold Battery.bmtBatteryInit Battery.battLogWorkHandler
  split_ifs with hboard hready hchannel
  · exact Or.inl rfl
  · exact Or.inl rfl
  · exact Or.inl rfl
  · refine Or.inr ?_
    dsimp only
    split_ifs
    · omega
    · rfl
    · rfl
    · omega

def lastGood (board : BatteryBoard) (readings : List AdcCalls) : Option ℤ :=
  (readings.map (bmtBatteryReadMv board)).reverse.find? fun mv => decide (0 ≤ mv)

def chargeOf : Option ℤ → ℤ
  | some mv => chargeAt mv
  | none => 0

theorem lastGood_concat (board : BatteryBoard) (readings : List AdcCalls) (c : AdcCalls) :
    lastGood board (readings ++ [c]) =
      if 0 ≤ bmtBatteryReadMv board c then some (bmtBatteryReadMv board c)
      else lastGood board readings := by
  unfold lastGood
  rw [List.map_append, List.reverse_append, List.map_singleton, List.reverse_singleton,
    List.singleton_append, List.find?_cons]
  split_ifs with hgood
  · rw [decide_eq_true hgood]
  · rw [decide_eq_false hgood]

/-- The cache stands for the last reading that did not fail. -/
def Battery.Shows (board : BatteryBoard) (readings : List AdcCalls) (s : Battery) : Prop :=
  (s.lastPercent.toNat : ℤ) = chargeOf (lastGood board readings)

theorem shows_work {board : BatteryBoard} {readings : List AdcCalls} {s : Battery}
    (h : s.Shows board readings) (c : AdcCalls) :
    (s.battLogWorkHandler board c).Shows board (readings ++ [c]) := by
  unfold Battery.Shows Battery.battLogWorkHandler
  rw [lastGood_concat]
  dsimp only
  split_ifs with hfail hgood hgood
  · omega
  · exact h
  · exact percent_eq_chargeAt _
  · omega

theorem shows_run {board : BatteryBoard} {readings : List AdcCalls} {s : Battery}
    (h : s.Shows board readings) (hs : s.started = true) (rs : List AdcCalls) :
    (rs.foldl (Battery.work board) s).Shows board (readings ++ rs) := by
  induction rs generalizing s readings with
  | nil =>
    rw [List.append_nil]
    exact h
  | cons c rs ih =>
    have hwork : s.work board c = s.battLogWorkHandler board c := if_pos hs
    have hstarted : (s.battLogWorkHandler board c).started = true := by
      unfold Battery.battLogWorkHandler
      dsimp only
      split_ifs
      · exact hs
      · exact hs
    rw [List.foldl_cons, hwork, List.append_cons]
    exact ih (shows_work h c) hstarted

theorem idle_run {board : BatteryBoard} {s : Battery} (hs : s.started = false)
    (rs : List AdcCalls) : rs.foldl (Battery.work board) s = s := by
  induction rs with
  | nil => rfl
  | cons c rs ih =>
    have hwork : s.work board c = s := if_neg (by rw [hs]; decide)
    rw [List.foldl_cons, hwork, ih]

/-- The percentage in the advertisements is the charge at the last reading that did not fail, on
the line from 3300 mV to 4200 mV and rounded down, and 0 before the first; and on both boards a
higher voltage at the ADC never gives a lower percentage. -/
theorem battery_reported (board : BatteryBoard) (boardInit channelSetup : ℤ) (adcReady : Bool)
    (r : AdcCalls) (rs : List AdcCalls) :
    (let s := Battery.bmtBatteryInit board boardInit adcReady channelSetup r {}
     (rs.foldl (Battery.work board) s).Shows board (if s.started then r :: rs else [])) ∧
    ∀ adc adc' : ℤ, adc ≤ adc' →
      bmtBatteryPercent (board.adcToMv adc) ≤ bmtBatteryPercent (board.adcToMv adc') := by
  have hempty : Battery.Shows board [] {} := rfl
  refine ⟨?_, ?_⟩
  · rcases bmtBatteryInit_cases board boardInit channelSetup adcReady r {} with hs | hs
    · rw [hs]
      dsimp only
      rw [idle_run rfl]
      exact hempty
    · rw [hs]
      have hfirst := shows_work hempty r
      exact shows_run (s := { Battery.battLogWorkHandler board r {} with started := true })
        hfirst rfl rs
  · intro adc adc' h
    have hle := chargeAt_mono (board.adcToMv_mono h)
    rw [← percent_eq_chargeAt, ← percent_eq_chargeAt] at hle
    exact UInt8.le_iff_toNat_le.mpr (Int.ofNat_le.mp hle)

end BleMeshTracking.Tag
