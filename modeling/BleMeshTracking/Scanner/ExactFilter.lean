import BleMeshTracking.Library.ScalarFilter
import BleMeshTracking.Scanner.SequenceTracking
import Mathlib.Data.Rat.Floor
import Mathlib.Tactic.NormNum

/-!
# The scanner: the filter in exact arithmetic

`kalman_init` and `kalman_update` with rational numbers in place of floats, called where
`bmt_tag_table_add` and `bmt_tag_table_update` call them, and the conversion of `rssi_filtered` that
`bmt_mesh_publish_tags` makes.
-/

namespace BleMeshTracking.Scanner.Exact

open ScalarFilter

def bmtKalmanRAlpha : ℚ := 1 / 10

def bmtKalmanRMin : ℚ := 1

def bmtKalmanRMax : ℚ := 20

structure Kalman where
  q : ℚ
  r : ℚ
  x : ℚ
  p : ℚ
  k : ℚ
  rVar : ℚ

def kalmanInit (initialRssi : ℚ) : Kalman :=
  { q := 1 / 10, r := 2, x := initialRssi, p := 1, k := 0, rVar := 2 }

def clampR (rVar : ℚ) : ℚ :=
  if rVar < bmtKalmanRMin then bmtKalmanRMin
  else if rVar > bmtKalmanRMax then bmtKalmanRMax
  else rVar

def kalmanUpdate (kf : Kalman) (rssi : ℚ) : Kalman :=
  let innovation := rssi - kf.x
  let rVar := (1 - bmtKalmanRAlpha) * kf.rVar + bmtKalmanRAlpha * (innovation * innovation)
  let r := clampR rVar
  let p := kf.p + kf.q
  let k := p / (p + r)
  { kf with r, rVar, k, x := kf.x + k * innovation, p := (1 - k) * p }

def truncate (x : ℚ) : ℤ := if 0 ≤ x then ⌊x⌋ else ⌈x⌉

def toInt8 (x : ℚ) : Int8 := Int8.ofInt (truncate x)

theorem clampR_bounds (rVar : ℚ) : 1 ≤ clampR rVar ∧ clampR rVar ≤ 20 := by
  unfold clampR bmtKalmanRMin bmtKalmanRMax
  split_ifs with hlow hhigh
  · norm_num
  · norm_num
  · exact ⟨not_lt.mp hlow, not_lt.mp hhigh⟩

structure Tuned (kf : Kalman) : Prop where
  q : kf.q = 1 / 10
  p_lower : 1 / 4 ≤ kf.p
  p_upper : kf.p ≤ 7 / 5

theorem tuned_init (rssi : ℚ) : Tuned (kalmanInit rssi) := by
  refine ⟨rfl, ?_, ?_⟩
  · change (1 / 4 : ℚ) ≤ 1
    norm_num
  · change (1 : ℚ) ≤ 7 / 5
    norm_num

/-- The denominator of an update, and the gain that comes of it. -/
structure GainBounded (kf kf' : Kalman) : Prop where
  denominator : 0 < kf.p + kf.q + kf'.r
  k_eq : kf'.k = (kf.p + kf.q) / (kf.p + kf.q + kf'.r)
  k_lower : 1 / 60 ≤ kf'.k
  k_upper : kf'.k ≤ 3 / 5

section

variable {kf : Kalman} (rssi : ℚ)

theorem r_bounds (kf : Kalman) (rssi : ℚ) :
    1 ≤ (kalmanUpdate kf rssi).r ∧ (kalmanUpdate kf rssi).r ≤ 20 := clampR_bounds _

theorem k_eq_gain (kf : Kalman) (rssi : ℚ) :
    (kalmanUpdate kf rssi).k = gain (kf.p + kf.q) (kalmanUpdate kf rssi).r := rfl

theorem p_eq_posterior (kf : Kalman) (rssi : ℚ) :
    (kalmanUpdate kf rssi).p = posterior (kf.p + kf.q) (kalmanUpdate kf rssi).r := rfl

theorem Tuned.predicted (h : Tuned kf) : 7 / 20 ≤ kf.p + kf.q ∧ kf.p + kf.q ≤ 3 / 2 := by
  rw [h.q]
  refine ⟨?_, ?_⟩
  · linarith only [h.p_lower]
  · linarith only [h.p_upper]

theorem Tuned.predicted_pos (h : Tuned kf) : 0 < kf.p + kf.q :=
  lt_of_lt_of_le (by norm_num) h.predicted.1

theorem r_pos (kf : Kalman) (rssi : ℚ) : 0 < (kalmanUpdate kf rssi).r :=
  lt_of_lt_of_le one_pos (r_bounds kf rssi).1

theorem Tuned.gainBounded (h : Tuned kf) : GainBounded kf (kalmanUpdate kf rssi) := by
  obtain ⟨hp, hp'⟩ := h.predicted
  obtain ⟨hr, hr'⟩ := r_bounds kf rssi
  refine ⟨add_pos h.predicted_pos (r_pos kf rssi), rfl, ?_, ?_⟩
  · -- the least covariance against the most noise
    have hcorner : (1 / 60 : ℚ) ≤ gain (7 / 20) 20 := by
      unfold gain
      norm_num
    rw [k_eq_gain]
    exact hcorner.trans (gain_le_gain (by norm_num) (r_pos kf rssi) hp hr')
  · -- the most covariance against the least noise
    have hcorner : gain (3 / 2) 1 ≤ (3 / 5 : ℚ) := by
      unfold gain
      norm_num
    rw [k_eq_gain]
    exact (gain_le_gain h.predicted_pos one_pos hp' hr).trans hcorner

theorem Tuned.update (h : Tuned kf) : Tuned (kalmanUpdate kf rssi) := by
  obtain ⟨hp, hp'⟩ := h.predicted
  obtain ⟨hr, hr'⟩ := r_bounds kf rssi
  refine ⟨h.q, ?_, ?_⟩
  · have hcorner : (1 / 4 : ℚ) ≤ posterior (7 / 20) 1 := by
      unfold posterior gain
      norm_num
    rw [p_eq_posterior]
    exact hcorner.trans (posterior_le_posterior (by norm_num) one_pos hp hr)
  · have hcorner : posterior (3 / 2) 20 ≤ (7 / 5 : ℚ) := by
      unfold posterior gain
      norm_num
    rw [p_eq_posterior]
    exact (posterior_le_posterior h.predicted_pos (r_pos kf rssi) hp' hr').trans hcorner

theorem Tuned.between_update (h : Tuned kf) {zs : List ℚ} (hx : Between zs kf.x) :
    Between (rssi :: zs) (kalmanUpdate kf rssi).x :=
  hx.measure h.predicted_pos (r_pos kf rssi) rssi

end

theorem truncate_mem {a b : ℤ} {x : ℚ} (hax : a ≤ x) (hxb : x ≤ b) :
    a ≤ truncate x ∧ truncate x ≤ b := by
  unfold truncate
  split_ifs
  · exact ⟨Int.le_floor.mpr hax, Int.cast_le.mp ((Int.floor_le x).trans hxb)⟩
  · exact ⟨Int.cast_le.mp (hax.trans (Int.le_ceil x)), Int.ceil_le.mpr hxb⟩

def sample (rssi : Int8) : ℚ := rssi.toInt

/-- Between samples the conversion does not overflow. -/
theorem toInt8_of_between {zs : List Int8} {x : ℚ} (h : Between (zs.map sample) x) :
    (toInt8 x).toInt = truncate x := by
  obtain ⟨a, ha, b, hb, hax, hxb⟩ := h
  obtain ⟨a, -, rfl⟩ := List.mem_map.mp ha
  obtain ⟨b, -, rfl⟩ := List.mem_map.mp hb
  obtain ⟨hlow, hhigh⟩ := truncate_mem hax hxb
  unfold toInt8
  apply Int8.toInt_ofInt_of_le
  · exact a.le_toInt.trans hlow
  · exact hhigh.trans_lt b.toInt_lt

/-- A slot of the table with a rational filter and its `rssi_filtered`, and the samples since the
last `kalman_init`. -/
structure Slot where
  entry : TagEntry
  kalman : Kalman
  rssiFiltered : ℚ
  samples : List Int8

def Slot.added (tagId : UInt16) (battery : UInt8) (txPower rssi : Int8) (sequence : UInt8)
    (mac : Fin 6 → UInt8) (now : UInt32) : Slot where
  entry := .fresh tagId battery txPower rssi sequence mac now
  kalman := kalmanInit (sample rssi)
  rssiFiltered := sample rssi
  samples := [rssi]

def Slot.call (s : Slot) (p : TagPacket) : FilterCall :=
  (sequenceBranch s.entry.lastSequence p.sequence).filterCall

def Slot.after (s : Slot) (p : TagPacket) : Slot :=
  let entry := s.entry.receive p
  match s.call p with
  -- a late packet
  | .none => { s with entry }
  | .init =>
    { entry
      kalman := kalmanInit (sample p.rssi)
      rssiFiltered := sample p.rssi
      samples := [p.rssi] }
  | .update =>
    let kalman := kalmanUpdate s.kalman (sample p.rssi)
    { entry, kalman, rssiFiltered := kalman.x, samples := p.rssi :: s.samples }

namespace Slot

/-- The covariance and the estimate are within their limits, and `rssi_filtered` fits an
`int8_t`. -/
structure Bounded (s : Slot) : Prop where
  p_lower : 1 / 4 ≤ s.kalman.p
  p_upper : s.kalman.p ≤ 7 / 5
  between : Between (s.samples.map sample) s.kalman.x
  fits : (toInt8 s.rssiFiltered).toInt = truncate s.rssiFiltered

/-- A packet that updates the filter divides by a positive number, and its gain is within limits. -/
def Divides (s : Slot) (p : TagPacket) : Prop :=
  s.call p = .update → GainBounded s.kalman (s.after p).kalman

structure Filtering (s : Slot) : Prop where
  tuned : Tuned s.kalman
  filtered : s.rssiFiltered = s.kalman.x
  between : Between (s.samples.map sample) s.kalman.x

variable {s : Slot} {p : TagPacket}

theorem after_none (h : s.call p = .none) :
    s.after p = { s with entry := s.entry.receive p } := by
  unfold after
  rw [h]

theorem after_init (h : s.call p = .init) :
    s.after p =
      { entry := s.entry.receive p
        kalman := kalmanInit (sample p.rssi)
        rssiFiltered := sample p.rssi
        samples := [p.rssi] } := by
  unfold after
  rw [h]

theorem after_update (h : s.call p = .update) :
    s.after p =
      { entry := s.entry.receive p
        kalman := kalmanUpdate s.kalman (sample p.rssi)
        rssiFiltered := (kalmanUpdate s.kalman (sample p.rssi)).x
        samples := p.rssi :: s.samples } := by
  unfold after
  rw [h]

theorem Filtering.bounded (h : Filtering s) : Bounded s := by
  refine ⟨h.tuned.p_lower, h.tuned.p_upper, h.between, ?_⟩
  rw [h.filtered]
  exact toInt8_of_between h.between

theorem Filtering.divides (h : Filtering s) (p : TagPacket) : Divides s p := by
  intro hcall
  rw [after_update hcall]
  exact h.tuned.gainBounded _

theorem filtering_added (tagId : UInt16) (battery : UInt8) (txPower rssi : Int8) (sequence : UInt8)
    (mac : Fin 6 → UInt8) (now : UInt32) :
    Filtering (.added tagId battery txPower rssi sequence mac now) :=
  ⟨tuned_init _, rfl, between_singleton _⟩

theorem Filtering.after (h : Filtering s) (p : TagPacket) : Filtering (s.after p) := by
  cases hcall : s.call p with
  | none =>
    rw [after_none hcall]
    exact ⟨h.tuned, h.filtered, h.between⟩
  | init =>
    rw [after_init hcall]
    exact ⟨tuned_init _, rfl, between_singleton _⟩
  | update =>
    rw [after_update hcall]
    exact ⟨h.tuned.update _, rfl, h.tuned.between_update _ h.between⟩

end Slot

open Slot

/-- From `kalman_init` on, over any packets: the covariance stays in [1/4, 7/5], the estimate
between the samples since the last `kalman_init`, `rssi_filtered` fits an `int8_t`, and every
update divides by a positive number and has a gain in [1/60, 3/5]. -/
theorem filter_bounded (tagId : UInt16) (battery : UInt8) (txPower rssi : Int8) (sequence : UInt8)
    (mac : Fin 6 → UInt8) (now : UInt32) (ps : List TagPacket) :
    Run.Throughout (Run.total Slot.after) Bounded
        (.added tagId battery txPower rssi sequence mac now) ps ∧
      Run.Meets (Run.total Slot.after) Divides
        (.added tagId battery txPower rssi sequence mac now) ps := by
  have hfirst := filtering_added tagId battery txPower rssi sequence mac now
  have hstep : ∀ s p s', Filtering s → Run.total Slot.after s p = some s' → Filtering s' := by
    rintro s p s' hs ⟨⟩
    exact hs.after p
  refine ⟨?_, ?_⟩
  · apply (Run.throughout_of_forall hstep ps hfirst).mono
    intro s hs
    exact hs.bounded
  · apply Run.meets_of_invariant hstep _ ps hfirst
    intro s p s' hs _
    exact hs.divides p

end BleMeshTracking.Scanner.Exact
