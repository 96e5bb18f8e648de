import BleMeshTracking.Gateway.ResetCycle

/-!
# The timetable of the watchdog

`data_watchdog_task` from its start to `esp_restart`, wake-up by wake-up on the clock of its own
delays.  What it finds when it looks is any function of the time.
-/

namespace BleMeshTracking.Gateway

def bmtWdgResetGapMs : ℕ := 1500

def bmtWdgNodeWaitMs : ℕ := 12000

/-- What the task finds at some time: the node table, `bmt_mesh_get_received_count`,
`bmt_ota_is_running`, and whether a `RESET_CMD` would be published. -/
structure WatchdogView where
  nodes : NodeTable
  receivedCount : UInt32
  otaRunning : Bool
  publishOk : Bool

/-- Where the task goes on when its delay is over: at the head of its loop, at the end of a window,
before a `RESET_CMD` or behind the last one, before the wipe, or before the restart. -/
inductive WatchdogWake
  | round
  | windowEnd (snap : UInt32)
  | resetTry (i sentOk : ℕ)
  | wipe
  | restart
  | restarted
  deriving DecidableEq

/-- The task at a wake-up, with the times at which `RESET_CMD` went out. -/
structure Watchdog where
  wake : WatchdogWake := .round
  nowMs : ℕ := bmtWdgStabilizeMs
  resetCmds : List ℕ := []

def WatchdogView.sends (v : WatchdogView) : Bool := !v.otaRunning && v.publishOk

/-- `data_watchdog_task` from one wake-up to the next. -/
def Watchdog.step (view : ℕ → WatchdogView) (s : Watchdog) : Watchdog :=
  let v := view s.nowMs
  match s.wake with
  | .round =>
    if hasConfiguredScanner v.nodes then
      { s with wake := .windowEnd v.receivedCount, nowMs := s.nowMs + bmtWdgTimeoutMs }
    else { s with nowMs := s.nowMs + bmtWdgTimeoutMs }
  | .windowEnd snap =>
    if v.receivedCount ≠ snap then { s with wake := .round } else { s with wake := .resetTry 0 0 }
  | .resetTry i sentOk =>
    if i < bmtWdgResetTries then
      if v.sends then
        { wake := .resetTry (i + 1) (sentOk + 1)
          nowMs := s.nowMs + bmtWdgResetGapMs
          resetCmds := s.resetCmds ++ [s.nowMs] }
      else { s with wake := .resetTry (i + 1) sentOk, nowMs := s.nowMs + bmtWdgResetGapMs }
    else if sentOk = 0 then { s with wake := .round }
    else { s with wake := .wipe, nowMs := s.nowMs + bmtWdgNodeWaitMs }
  | .wipe => { s with wake := .restart, nowMs := s.nowMs + 1000 }
  | .restart => { s with wake := .restarted }
  | .restarted => s

def Watchdog.after (view : ℕ → WatchdogView) : ℕ → Watchdog
  | 0 => {}
  | n + 1 => (Watchdog.after view n).step view

/-- The phase of the reset cycle; the wipe and the restart are one step of it. -/
def WatchdogWake.phase : WatchdogWake → ResetPhase
  | .round => .monitoring
  | .windowEnd _ => .watching
  | .resetTry i sentOk => .broadcasting i sentOk
  | .wipe => .waiting
  | .restart => .restarted
  | .restarted => .restarted

/-- What the task does between two wake-ups is a step of the reset cycle, if it gets to another
phase. -/
theorem Watchdog.phase_step (view : ℕ → WatchdogView) (w : Watchdog) {s : MeshSystem}
    (hphase : s.watchdog = w.wake.phase) (hnodes : s.prov.nodes = (view w.nowMs).nodes) :
    (w.step view).wake.phase = w.wake.phase ∨
      ∃ e s', s.step e = some s' ∧ s'.watchdog = (w.step view).wake.phase := by
  unfold Watchdog.step
  cases hwake : w.wake with
  | round =>
    rw [hwake] at hphase
    dsimp only
    split_ifs with hconf
    · refine Or.inr ⟨.snap, { s with watchdog := .watching }, ?_, rfl⟩
      simp [MeshSystem.step, MeshSystem.running, hphase, WatchdogWake.phase, hnodes, hconf]
    · exact Or.inl rfl
  | windowEnd snap =>
    rw [hwake] at hphase
    dsimp only
    split_ifs with hchanged
    · refine Or.inr ⟨.windowEnd true, { s with watchdog := .monitoring }, ?_, rfl⟩
      simp [MeshSystem.step, MeshSystem.running, hphase, WatchdogWake.phase]
    · refine Or.inr ⟨.windowEnd false, { s with watchdog := .broadcasting 0 0 }, ?_, rfl⟩
      simp [MeshSystem.step, MeshSystem.running, hphase, WatchdogWake.phase]
  | resetTry i sentOk =>
    rw [hwake] at hphase
    by_cases htry : i < bmtWdgResetTries
    · refine Or.inr ⟨.resetCmd (view w.nowMs).otaRunning (view w.nowMs).publishOk fun _ => false,
        s.resetCmd (view w.nowMs).otaRunning (view w.nowMs).publishOk (fun _ => false) i sentOk,
        ?_, ?_⟩
      · simp [MeshSystem.step, MeshSystem.running, hphase, WatchdogWake.phase, htry]
      · dsimp only
        unfold MeshSystem.resetCmd WatchdogView.sends
        rw [if_pos htry]
        cases !(view w.nowMs).otaRunning && (view w.nowMs).publishOk with
        | true => rfl
        | false => rfl
    · dsimp only
      rw [if_neg htry]
      split_ifs with hnone
      · refine Or.inr ⟨.triesDone, { s with watchdog := .monitoring }, ?_, rfl⟩
        simp [MeshSystem.step, MeshSystem.running, hphase, WatchdogWake.phase, htry, hnone]
      · refine Or.inr ⟨.triesDone, { s with watchdog := .waiting }, ?_, rfl⟩
        simp [MeshSystem.step, MeshSystem.running, hphase, WatchdogWake.phase, htry, hnone]
  | wipe =>
    rw [hwake] at hphase
    refine Or.inr ⟨.wipe, { s with
      prov := s.prov.clear.reboot, stack := fun _ => none, watchdog := .restarted }, ?_, rfl⟩
    simp [MeshSystem.step, MeshSystem.running, hphase, WatchdogWake.phase]
  | restart => exact Or.inl rfl
  | restarted => exact Or.inl (congrArg WatchdogWake.phase hwake)

/-- A window that begins at `w` with a configured scanner ends without a message. -/
def Silent (view : ℕ → WatchdogView) (w : ℕ) : Prop :=
  hasConfiguredScanner (view w).nodes = true ∧
    (view (w + bmtWdgTimeoutMs)).receivedCount = (view w).receivedCount

def tryMs (w i : ℕ) : ℕ := w + bmtWdgTimeoutMs + i * bmtWdgResetGapMs

def Broadcast (view : ℕ → WatchdogView) (w : ℕ) : Prop :=
  Silent view w ∧ ∃ i < bmtWdgResetTries, (view (tryMs w i)).sends = true

def wipeMs (w : ℕ) : ℕ := tryMs w bmtWdgResetTries + bmtWdgNodeWaitMs

def WatchdogWake.Because (view : ℕ → WatchdogView) (nowMs : ℕ) : WatchdogWake → Prop
  | .round => True
  | .windowEnd snap => ∃ w, nowMs = w + bmtWdgTimeoutMs ∧
      hasConfiguredScanner (view w).nodes = true ∧ snap = (view w).receivedCount
  | .resetTry i sentOk => ∃ w, nowMs = tryMs w i ∧ Silent view w ∧ i ≤ bmtWdgResetTries ∧
      (sentOk ≠ 0 → ∃ j < i, (view (tryMs w j)).sends = true)
  | .wipe => ∃ w, nowMs = wipeMs w ∧ Broadcast view w
  | .restart => ∃ w, nowMs = wipeMs w + 1000 ∧ Broadcast view w
  | .restarted => ∃ w, nowMs = wipeMs w + 1000 ∧ Broadcast view w

/-- Everything the task has done rests on a silent window. -/
structure Watchdog.Justified (view : ℕ → WatchdogView) (s : Watchdog) : Prop where
  wake : s.wake.Because view s.nowMs
  resetCmds : ∀ t ∈ s.resetCmds, ∃ w i, t = tryMs w i ∧ i < bmtWdgResetTries ∧ Silent view w ∧
    (view t).sends = true

theorem tryMs_succ (w i : ℕ) : tryMs w (i + 1) = tryMs w i + bmtWdgResetGapMs := by
  unfold tryMs
  rw [Nat.succ_mul]
  omega

theorem Watchdog.Justified.step {view : ℕ → WatchdogView} {s : Watchdog}
    (h : s.Justified view) : (s.step view).Justified view := by
  obtain ⟨wake, nowMs, resetCmds⟩ := s
  obtain ⟨hwake, hcmds⟩ := h
  unfold Watchdog.step
  cases wake with
  | round =>
    dsimp only
    split_ifs with hconf
    · exact ⟨⟨nowMs, rfl, hconf, rfl⟩, hcmds⟩
    · exact ⟨trivial, hcmds⟩
  | windowEnd snap =>
    obtain ⟨w, rfl, hconf, rfl⟩ := hwake
    dsimp only
    split_ifs with hchanged
    · exact ⟨trivial, hcmds⟩
    · have hsilent : Silent view w := ⟨hconf, not_not.mp hchanged⟩
      exact ⟨⟨w, rfl, hsilent, Nat.zero_le _, fun h => absurd rfl h⟩, hcmds⟩
  | resetTry i sentOk =>
    obtain ⟨w, rfl, hsilent, hi, hsent⟩ := hwake
    dsimp only
    split_ifs with htry hsends hnone
    · refine ⟨⟨w, (tryMs_succ w i).symm, hsilent, htry, fun _ => ⟨i, Nat.lt_succ_self i, hsends⟩⟩, ?_⟩
      intro t ht
      rcases List.mem_append.mp ht with hold | hnew
      · exact hcmds t hold
      · obtain rfl := List.mem_singleton.mp hnew
        exact ⟨w, i, rfl, htry, hsilent, hsends⟩
    · refine ⟨⟨w, (tryMs_succ w i).symm, hsilent, htry, ?_⟩, hcmds⟩
      intro hsome
      obtain ⟨j, hj, hsends'⟩ := hsent hsome
      exact ⟨j, Nat.lt_succ_of_lt hj, hsends'⟩
    · exact ⟨trivial, hcmds⟩
    · obtain rfl : i = bmtWdgResetTries := Nat.le_antisymm hi (Nat.le_of_not_lt htry)
      exact ⟨⟨w, rfl, hsilent, hsent hnone⟩, hcmds⟩
  | wipe =>
    obtain ⟨w, rfl, hbroadcast⟩ := hwake
    exact ⟨⟨w, rfl, hbroadcast⟩, hcmds⟩
  | restart => exact ⟨hwake, hcmds⟩
  | restarted => exact ⟨hwake, hcmds⟩

/-- The mesh is silent at `c`: where the task looks there is a configured scanner and no message,
and it never gets behind the last `RESET_CMD` with none sent. -/
def WatchdogView.Quiet (v : WatchdogView) (c : UInt32) : WatchdogWake → Prop
  | .round => hasConfiguredScanner v.nodes = true ∧ v.receivedCount = c
  | .windowEnd _ => v.receivedCount = c
  | .resetTry i sentOk => i < bmtWdgResetTries ∨ sentOk ≠ 0
  | _ => True

instance (v : WatchdogView) (c : UInt32) (w : WatchdogWake) : Decidable (v.Quiet c w) :=
  match w with
  | .round => inferInstanceAs (Decidable (_ ∧ _))
  | .windowEnd _ => inferInstanceAs (Decidable (_ = _))
  | .resetTry _ _ => inferInstanceAs (Decidable (_ ∨ _))
  | .wipe => isTrue trivial
  | .restart => isTrue trivial
  | .restarted => isTrue trivial

def Watchdog.Quiet (view : ℕ → WatchdogView) (c : UInt32) (s : Watchdog) : Prop :=
  (view s.nowMs).Quiet c s.wake

instance (view : ℕ → WatchdogView) (c : UInt32) (s : Watchdog) : Decidable (s.Quiet view c) :=
  inferInstanceAs (Decidable ((view s.nowMs).Quiet c s.wake))

def WatchdogWake.leftMs (c : UInt32) : WatchdogWake → ℕ
  | .round => 50500
  | .windowEnd snap => if snap = c then 20500 else 50500
  | .resetTry i _ => (bmtWdgResetTries - i) * bmtWdgResetGapMs + 13000
  | .wipe => 1000
  | .restart => 0
  | .restarted => 0

def WatchdogWake.wakesLeft (c : UInt32) : WatchdogWake → ℕ
  | .round => 10
  | .windowEnd snap => if snap = c then 9 else 11
  | .resetTry i _ => bmtWdgResetTries - i + 3
  | .wipe => 2
  | .restart => 1
  | .restarted => 0

section Quiet

variable {view : ℕ → WatchdogView} {c : UInt32} {s : Watchdog}

theorem gapsLeft {i : ℕ} (h : i < bmtWdgResetTries) :
    (bmtWdgResetTries - (i + 1)) * bmtWdgResetGapMs + bmtWdgResetGapMs =
      (bmtWdgResetTries - i) * bmtWdgResetGapMs := by
  rw [← Nat.succ_mul]
  congr 1
  omega

theorem Watchdog.Quiet.step (h : s.Quiet view c) (hs : s.wake ≠ .restarted) :
    (s.step view).wake.wakesLeft c < s.wake.wakesLeft c ∧
      (s.step view).nowMs + (s.step view).wake.leftMs c ≤ s.nowMs + s.wake.leftMs c := by
  obtain ⟨wake, nowMs, resetCmds⟩ := s
  unfold Watchdog.Quiet WatchdogView.Quiet at h
  unfold Watchdog.step
  cases wake with
  | round =>
    obtain ⟨hconf, hcount⟩ := h
    dsimp only
    rw [if_pos hconf]
    simp only [WatchdogWake.wakesLeft, WatchdogWake.leftMs, hcount, if_pos, bmtWdgTimeoutMs]
    omega
  | windowEnd snap =>
    dsimp only at h ⊢
    rw [h]
    by_cases hsnap : snap = c
    · rw [if_neg (not_not.mpr hsnap.symm)]
      simp [WatchdogWake.wakesLeft, WatchdogWake.leftMs, hsnap, bmtWdgResetTries, bmtWdgResetGapMs]
    · rw [if_pos (Ne.symm hsnap)]
      simp [WatchdogWake.wakesLeft, WatchdogWake.leftMs, hsnap]
  | resetTry i sentOk =>
    dsimp only at h ⊢
    by_cases htry : i < bmtWdgResetTries
    · have hgap := gapsLeft htry
      rw [if_pos htry]
      split_ifs
      all_goals
        simp only [WatchdogWake.wakesLeft, WatchdogWake.leftMs]
        omega
    · rw [if_neg htry, if_neg (h.resolve_left htry)]
      simp only [WatchdogWake.wakesLeft, WatchdogWake.leftMs, bmtWdgNodeWaitMs]
      omega
  | wipe =>
    simp only [WatchdogWake.wakesLeft, WatchdogWake.leftMs]
    omega
  | restart =>
    simp only [WatchdogWake.wakesLeft, WatchdogWake.leftMs]
    omega
  | restarted => exact absurd rfl hs

theorem restarted_from (n : ℕ)
    (hquiet : ∀ m, n ≤ m → (Watchdog.after view m).Quiet view c) :
    ∃ m, (Watchdog.after view m).wake = .restarted ∧
      (Watchdog.after view m).nowMs ≤
        (Watchdog.after view n).nowMs + (Watchdog.after view n).wake.leftMs c := by
  induction hk : (Watchdog.after view n).wake.wakesLeft c using Nat.strong_induction_on
    generalizing n with
  | _ k ih =>
    by_cases hend : (Watchdog.after view n).wake = .restarted
    · exact ⟨n, hend, Nat.le_add_right _ _⟩
    · obtain ⟨hless, htime⟩ := (hquiet n le_rfl).step hend
      obtain ⟨m, hm, hbound⟩ := ih _ (hk ▸ hless) (n + 1)
        (fun m hm => hquiet m (Nat.le_of_succ_le hm)) rfl
      exact ⟨m, hm, hbound.trans htime⟩

theorem leftMs_le (w : WatchdogWake) : w.leftMs c ≤ 50500 := by
  cases w with
  | windowEnd snap =>
    simp only [WatchdogWake.leftMs]
    split_ifs
    · omega
    · exact le_rfl
  | resetTry i sentOk =>
    have hgaps : (bmtWdgResetTries - i) * bmtWdgResetGapMs ≤ bmtWdgResetTries * bmtWdgResetGapMs :=
      Nat.mul_le_mul_right _ (Nat.sub_le _ _)
    unfold WatchdogWake.leftMs
    exact (Nat.add_le_add_right hgaps 13000).trans (by decide)
  | _ => simp [WatchdogWake.leftMs]

end Quiet

def WatchdogWake.turn : WatchdogWake → ℕ
  | .resetTry _ _ => 1
  | .round => 2
  | _ => 0

theorem WatchdogWake.turn_le (w : WatchdogWake) : w.turn ≤ 2 := by
  cases w <;> simp [WatchdogWake.turn]

theorem Watchdog.nowMs_step (view : ℕ → WatchdogView) (s : Watchdog) :
    s.nowMs ≤ (s.step view).nowMs ∧ (s.step view).nowMs ≤ s.nowMs + bmtWdgTimeoutMs ∧
      ((s.step view).wake = .restarted ∨
        s.nowMs + s.wake.turn < (s.step view).nowMs + (s.step view).wake.turn) := by
  obtain ⟨wake, nowMs, resetCmds⟩ := s
  unfold Watchdog.step
  cases wake with
  | wipe =>
    simp only [WatchdogWake.turn, bmtWdgTimeoutMs]
    omega
  | restart => exact ⟨le_rfl, Nat.le_add_right _ _, Or.inl rfl⟩
  | restarted => exact ⟨le_rfl, Nat.le_add_right _ _, Or.inl rfl⟩
  | _ =>
    dsimp only
    split_ifs
    all_goals
      simp only [WatchdogWake.turn, bmtWdgTimeoutMs, bmtWdgResetGapMs, bmtWdgNodeWaitMs]
      omega

/-- Each wake-up takes its time, up to the restart. -/
theorem Watchdog.nowMs_after (view : ℕ → WatchdogView) (n : ℕ) :
    (Watchdog.after view n).wake = .restarted ∨
      bmtWdgStabilizeMs + n ≤
        (Watchdog.after view n).nowMs + (Watchdog.after view n).wake.turn := by
  induction n with
  | zero => exact Or.inr (Nat.le_add_right _ _)
  | succ n ih =>
    obtain ⟨-, -, hnext⟩ := Watchdog.nowMs_step view (Watchdog.after view n)
    rcases ih with hend | hlate
    · refine Or.inl ?_
      unfold Watchdog.after Watchdog.step
      rw [hend]
      exact hend
    · rcases hnext with hend | hlater
      · exact Or.inl hend
      · refine Or.inr ?_
        unfold Watchdog.after
        omega

/-- The first wake-up from `t₀` on, at most a window later. -/
theorem Watchdog.reaches (view : ℕ → WatchdogView) (t₀ : ℕ) :
    ∃ n, (Watchdog.after view n).nowMs ≤ max t₀ bmtWdgStabilizeMs + bmtWdgTimeoutMs ∧
      ((Watchdog.after view n).wake = .restarted ∨ t₀ ≤ (Watchdog.after view n).nowMs) := by
  have hsome : ∃ n, (Watchdog.after view n).wake = .restarted ∨
      t₀ ≤ (Watchdog.after view n).nowMs := by
    refine ⟨t₀ + 2, ?_⟩
    rcases Watchdog.nowMs_after view (t₀ + 2) with hend | hlate
    · exact Or.inl hend
    · have hturn := (Watchdog.after view (t₀ + 2)).wake.turn_le
      exact Or.inr (by omega)
  refine ⟨Nat.find hsome, ?_, Nat.find_spec hsome⟩
  cases hn : Nat.find hsome with
  | zero => exact (Nat.le_max_right _ _).trans (Nat.le_add_right _ _)
  | succ n =>
    -- the wake-up before was too early, and no delay is longer than a window
    have hearly := Nat.find_min hsome (m := n) (by omega)
    have hlate : (Watchdog.after view n).nowMs < t₀ := by
      by_contra hle
      exact hearly (Or.inr (Nat.le_of_not_lt hle))
    have hstep := (Watchdog.nowMs_step view (Watchdog.after view n)).2.1
    have hmax := Nat.le_max_left t₀ bmtWdgStabilizeMs
    unfold Watchdog.after
    omega

/-- Whatever the task finds: it sends `RESET_CMD` only in the seconds behind a window in which a
configured scanner was known and nothing came, and wipes and restarts only after such a window
behind which one went out, 49.5 s and 50.5 s after the window began. -/
theorem watchdog_acts_on_silence (view : ℕ → WatchdogView) (n : ℕ) :
    (Watchdog.after view n).Justified view := by
  induction n with
  | zero => exact ⟨trivial, nofun⟩
  | succ n ih => exact ih.step

/-- If the mesh is silent from `t₀` on, the gateway has restarted 80.5 s later. -/
theorem watchdog_recovers (view : ℕ → WatchdogView) (t₀ : ℕ) (c : UInt32)
    (hquiet : ∀ n, t₀ ≤ (Watchdog.after view n).nowMs → (Watchdog.after view n).Quiet view c) :
    ∃ n, (Watchdog.after view n).wake = .restarted ∧
      (Watchdog.after view n).nowMs ≤ max t₀ bmtWdgStabilizeMs + 80500 := by
  obtain ⟨n, hn, hend | hlate⟩ := Watchdog.reaches view t₀
  · refine ⟨n, hend, hn.trans ?_⟩
    unfold bmtWdgTimeoutMs
    omega
  · have hmono : Monotone fun m => (Watchdog.after view m).nowMs :=
      monotone_nat_of_le_succ fun m => (Watchdog.nowMs_step view (Watchdog.after view m)).1
    obtain ⟨m, hm, hbound⟩ := restarted_from n fun m hnm => hquiet m (hlate.trans (hmono hnm))
    have hleft := leftMs_le (c := c) (Watchdog.after view n).wake
    unfold bmtWdgTimeoutMs at hn
    exact ⟨m, hm, by omega⟩

def silentMesh : WatchdogView where
  nodes i := if i.val = 0 then { used := true, isScan := true, configDone := true } else {}
  receivedCount := 7
  otaRunning := false
  publishOk := true

theorem watchdog_recovers_silentMesh :
    ∃ n, (Watchdog.after (fun _ => silentMesh) n).wake = .restarted ∧
      (Watchdog.after (fun _ => silentMesh) n).nowMs ≤ max 20000 bmtWdgStabilizeMs + 80500 := by
  refine watchdog_recovers (fun _ => silentMesh) 20000 7 ?_
  intro n _
  have hfirst : ∀ m < 10, (Watchdog.after (fun _ => silentMesh) m).Quiet (fun _ => silentMesh) 7 := by
    decide +kernel
  have hend : ∀ m, 10 ≤ m → (Watchdog.after (fun _ => silentMesh) m).wake = .restarted := by
    intro m hm
    induction m, hm using Nat.le_induction with
    | base => decide +kernel
    | succ m _ ih =>
      unfold Watchdog.after Watchdog.step
      rw [ih]
      exact ih
  rcases Nat.lt_or_ge n 10 with hn | hn
  · exact hfirst n hn
  · unfold Watchdog.Quiet
    rw [hend n hn]
    trivial

end BleMeshTracking.Gateway
