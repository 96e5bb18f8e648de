import BleMeshTracking.Ota.WifiSession

/-!
# What a node keeps in order during its updates

When there is one session at a time, and nothing of it is left behind.
-/

namespace BleMeshTracking.Ota

namespace WifiOta

variable {silenceLog : Bool} {s s' : WifiOta}

/-- The one session that may be under way has what it owns in order, and each failed assertion is at
the cost of something that could not be created. -/
def Owned (silenceLog : Bool) (s : WifiOta) : Prop :=
  ∃ k, (∀ j ≠ k, (s.tasks j).stage = .none) ∧ s.net.Owned silenceLog (s.tasks k).stage ∧
    s.aborts + s.net.owed (s.tasks k).stage ≤ s.net.nulls

/-- What the node's maintainer relies on between and during sessions. -/
structure Tidy (s : WifiOta) : Prop where
  single : ∀ j k, (s.tasks j).stage ≠ .none → (s.tasks k).stage ≠ .none → j = k
  released : (∀ k, (s.tasks k).stage = .none) → s.net.Released
  counts : s.net.Counted
  driver : s.net.held.driver = true →
    ∃ k, 5 ≤ (s.tasks k).stage.index ∧ (s.tasks k).stage.index ≤ 14
  aborts : s.aborts ≤ s.net.nulls

def StartsAlone (s : WifiOta) : SessionEvent → Prop
  | .start created => created = true → s.stored ≠ 0 → s.Quiet
  | _ => True

instance (s : WifiOta) (e : SessionEvent) : Decidable (s.StartsAlone e) := by
  unfold StartsAlone
  split <;> infer_instance

def LetsGo (s : WifiOta) : SessionEvent → Prop
  | .task k c => s.net.Lets c (s.tasks k).stage
  | _ => True

instance (s : WifiOta) (e : SessionEvent) : Decidable (s.LetsGo e) := by
  unfold LetsGo
  split <;> infer_instance

theorem stage_of_quiet (ha : s.Accounted) (h : s.Quiet) (k : ℕ) : (s.tasks k).stage = .none := by
  by_cases hk : k < s.started
  · exact h k hk
  · exact ha.fresh k (Nat.le_of_not_lt hk)

theorem owned_boot (silenceLog : Bool) (flag : UInt8) : Owned silenceLog (boot flag) := by
  refine ⟨0, fun _ _ => rfl, WifiNet.owned_reboot silenceLog {}, ?_⟩
  exact le_rfl

theorem tidy_of_owned (h : Owned silenceLog s) : s.Tidy := by
  obtain ⟨k, hother, hnet, hpaid⟩ := h
  have hrun : ∀ j, (s.tasks j).stage ≠ .none → j = k := by
    intro j hj
    by_contra hne
    exact hj (hother j hne)
  refine ⟨?_, ?_, hnet.counts, ?_, (Nat.le_add_right _ _).trans hpaid⟩
  · intro j j' hj hj'
    rw [hrun j hj, hrun j' hj']
  · intro hnone
    rw [hnone k] at hnet
    exact WifiNet.released_of_none hnet
  · intro hdriver
    exact ⟨k, hnet.within .driver hdriver⟩

theorem Owned.reboot (h : Owned silenceLog s) (restarts : Option ℕ) :
    Owned silenceLog (s.reboot restarts) := by
  obtain ⟨k, -, -, hpaid⟩ := h
  refine ⟨k, fun _ _ => rfl, WifiNet.owned_reboot silenceLog s.net, ?_⟩
  have hzero : (s.reboot restarts).net.owed .none = 0 := WifiNet.owed_of_index (Or.inl (by decide))
  exact (Nat.add_le_add_left hzero.le _).trans ((Nat.le_add_right _ _).trans hpaid)

theorem owned_abort (h : s.aborts + 1 ≤ s.net.nulls) : Owned silenceLog s.abort := by
  refine ⟨0, fun _ _ => rfl, WifiNet.owned_reboot silenceLog s.net, ?_⟩
  have hzero : s.abort.net.owed .none = 0 := WifiNet.owed_of_index (Or.inl (by decide))
  exact (Nat.add_le_add_left hzero.le _).trans h

theorem Owned.keep (h : Owned silenceLog s) (htasks : s'.tasks = s.tasks) (hnet : s'.net = s.net)
    (haborts : s'.aborts = s.aborts) : Owned silenceLog s' := by
  obtain ⟨k, hother, hown, hpaid⟩ := h
  refine ⟨k, ?_, ?_, ?_⟩
  · intro j hj
    rw [htasks]
    exact hother j hj
  · rw [htasks, hnet]
    exact hown
  · rw [htasks, hnet, haborts]
    exact hpaid

theorem Owned.startTask (h : Owned silenceLog s) (ha : s.Accounted) (created : Bool)
    (halone : s.StartsAlone (.start created)) : Owned silenceLog (s.startTask created) := by
  unfold WifiOta.startTask
  split_ifs with hstored hcreated
  · exact h
  · have hquiet := halone hcreated hstored
    obtain ⟨k, -, hnet, hpaid⟩ := h
    rw [stage_of_quiet ha hquiet k] at hnet hpaid
    refine ⟨s.started, ?_, ?_, ?_⟩
    · intro j hj
      dsimp only
      rw [Function.update_of_ne hj]
      exact stage_of_quiet ha hquiet j
    · dsimp only
      rw [Function.update_self]
      have hown := hnet.skip .silence (by decide) (by decide)
      have hc := hown.counts
      refine ⟨?_, ⟨hc.1, hc.2, hc.3, hc.4⟩, ?_, hown.muted⟩
      · simp [hquiet, hown.alone]
      · intro r hold
        apply hown.within r
        cases r <;> exact hold
    · dsimp only
      rw [Function.update_self]
      have hzero : ∀ n : WifiNet, n.owed .silence = 0 :=
        fun n => WifiNet.owed_of_index (Or.inl (by decide))
      rw [hzero]
      exact (Nat.le_add_right _ _).trans hpaid
  · obtain ⟨k, -, -, hpaid⟩ := h
    apply owned_abort
    exact Nat.succ_le_succ ((Nat.le_add_right _ _).trans hpaid)

theorem owned_setTask {k : ℕ} {t : WifiTask} (hother : ∀ j ≠ k, (s.tasks j).stage = .none)
    (htasks : s'.tasks = Function.update s.tasks k t) (hnet : s'.net.Owned silenceLog t.stage)
    (hpaid : s'.aborts + s'.net.owed t.stage ≤ s'.net.nulls) : Owned silenceLog s' := by
  refine ⟨k, ?_, ?_, ?_⟩
  · intro j hj
    rw [htasks, Function.update_of_ne hj]
    exact hother j hj
  · rw [htasks, Function.update_self]
    exact hnet
  · rw [htasks, Function.update_self]
    exact hpaid

theorem Owned.netCall {k : ℕ} (hother : ∀ j ≠ k, (s.tasks j).stage = .none)
    (hnet : s.net.Owned silenceLog (s.tasks k).stage)
    (hpaid : s.aborts + s.net.owed (s.tasks k).stage ≤ s.net.nulls) (c : SessionCalls)
    (hlets : s.net.Lets c (s.tasks k).stage) : Owned silenceLog (s.netCall silenceLog k c) := by
  have hleads := hnet.call c hlets
  unfold WifiOta.netCall
  split
  · rename_i ok net hcall
    rw [hcall] at hleads
    obtain ⟨hown, howed⟩ := hleads
    apply owned_setTask hother rfl hown
    dsimp only [setStage]
    omega
  · rename_i net hcall
    rw [hcall] at hleads
    have hcost : s.net.nulls + 1 ≤ net.nulls + s.net.owed (s.tasks k).stage := hleads
    apply owned_abort
    dsimp only
    omega

theorem Owned.otaWifiTask (h : Owned silenceLog s) (k : ℕ) (c : SessionCalls)
    (hlets : s.LetsGo (.task k c)) : Owned silenceLog (s.otaWifiTask silenceLog k c) := by
  have hown := h
  obtain ⟨k', hother, hnet, hpaid⟩ := h
  by_cases hk : k = k'
  · subst hk
    -- from the download to the restart the net stays as it is
    have hset : ∀ (t : WifiStage) (fail : Bool) (s' : WifiOta),
        s'.tasks = Function.update s.tasks k ⟨t, fail⟩ → s'.net = s.net → s'.aborts = s.aborts →
        3 ≤ (s.tasks k).stage.index → (s.tasks k).stage.index ≤ t.index → t.index ≤ 12 →
        Owned silenceLog s' := by
      intro t fail s' htasks hsame haborts hlo hle hhi
      apply owned_setTask hother htasks
      · rw [hsame]
        exact hnet.skip t hle hhi
      · rw [haborts, hsame]
        exact (Nat.add_le_add_left (WifiNet.owed_mono rfl hlo hle) _).trans hpaid
    have hcall := Owned.netCall hother hnet hpaid c hlets
    unfold WifiOta.otaWifiTask
    cases hstage : (s.tasks k).stage with
    | none => exact hown
    | fetch =>
      rw [hstage] at hset
      dsimp only
      unfold fetched
      split
      · exact hset .marking _ _ rfl rfl rfl (by decide) (by decide) (by decide)
      · exact hset .wifiStop _ _ rfl rfl rfl (by decide) (by decide) (by decide)
      · exact hset .wifiStop _ _ rfl rfl rfl (by decide) (by decide) (by decide)
    | marking =>
      rw [hstage] at hset
      dsimp only
      split_ifs
      · exact hset .writing _ _ rfl rfl rfl (by decide) (by decide) (by decide)
      · exact hset .restarting _ _ rfl rfl rfl (by decide) (by decide) (by decide)
    | writing =>
      rw [hstage] at hset
      dsimp only
      split_ifs
      · exact hset .restarting _ _ rfl rfl rfl (by decide) (by decide) (by decide)
      · exact hset .restarting _ _ rfl rfl rfl (by decide) (by decide) (by decide)
    | restarting => exact hown.reboot (some k)
    | report =>
      rw [hstage] at hnet hpaid
      have hnone : ∀ r, ¬ s.net.holds r := by
        intro r hold
        have hle := (hnet.within r hold).2
        cases r <;> exact absurd hle (by decide)
      apply owned_setTask (t := {}) hother rfl
      · exact ⟨hnet.alone, hnet.counts, fun r hold => absurd hold (hnone r), hnet.muted⟩
      · have hzero : s.net.owed .none = 0 := WifiNet.owed_of_index (Or.inl (by decide))
        exact (Nat.add_le_add_left hzero.le _).trans ((Nat.le_add_right _ _).trans hpaid)
    | _ => exact hcall
  · have hidle : s.otaWifiTask silenceLog k c = s := by
      unfold WifiOta.otaWifiTask
      rw [hother k hk]
    rw [hidle]
    exact hown

theorem Owned.dispatch (h : Owned silenceLog s) (e : WifiEvent) (clash : Bool) :
    Owned silenceLog (s.dispatch e clash) := by
  obtain ⟨k, hother, hnet, hpaid⟩ := h
  unfold WifiOta.dispatch
  split
  · rename_i net hdispatch
    obtain ⟨hown, hnulls, howed⟩ := hnet.dispatch hdispatch
    refine ⟨k, hother, hown, ?_⟩
    dsimp only
    omega
  · rename_i hdispatch
    have hone := hnet.dispatch_none hdispatch
    apply owned_abort
    omega

theorem owned_after (h : Owned silenceLog s) (ha : s.Accounted) {e : SessionEvent}
    (halone : s.StartsAlone e) (hlets : s.LetsGo e) : Owned silenceLog (s.after silenceLog e) := by
  cases e with
  | init complete => exact h.keep rfl rfl rfl
  | trigger =>
    unfold WifiOta.after bmtOtaTrigger
    dsimp only
    split_ifs <;> exact h.keep rfl rfl rfl
  | store =>
    unfold WifiOta.after storeTriggered
    dsimp only
    split_ifs <;> exact h.keep rfl rfl rfl
  | start created => exact h.startTask ha created halone
  | task k c => exact h.otaWifiTask k c hlets
  | wifiEvent e clash => exact h.dispatch e clash
  | report c =>
    unfold WifiOta.after
    dsimp only
    split_ifs
    · exact h.keep rfl rfl rfl
    · exact h
  | reboot => exact h.reboot Option.none

theorem lets_of_tidy {k : ℕ} (hother : ∀ j ≠ k, (s.tasks j).stage = .none)
    (hnet : s.net.Owned silenceLog (s.tasks k).stage) {c : SessionCalls}
    (hcall : (s.net.call silenceLog c (s.tasks k).stage).1 = some true)
    (ht : (s.netCall silenceLog k c).Tidy) : s.net.Lets c (s.tasks k).stage := by
  unfold netCall at ht
  split at ht
  · rename_i ok net heq
    rw [heq] at hcall
    cases hcall
    apply WifiNet.lets_of_counted hnet
    · rw [heq]
      exact ht.counts
    · rw [heq]
      intro hdriver
      obtain ⟨j, hlo, hhi⟩ := ht.driver hdriver
      dsimp only at hlo hhi
      by_cases hj : j = k
      · rw [hj, setStage_self] at hhi
        exact hhi
      · rw [setStage_of_ne _ hj, hother j hj] at hlo
        exact absurd hlo (by decide)
  · rename_i net heq
    rw [heq] at hcall
    cases hcall

/-- A second session shows. -/
theorem startsAlone_of_tidy {e : SessionEvent} (ht : (s.after silenceLog e).Tidy) :
    s.StartsAlone e := by
  cases e with
  | start created =>
    rintro rfl hstored j hj
    by_contra hrun
    unfold WifiOta.after WifiOta.startTask at ht
    dsimp only at ht
    rw [if_neg hstored, if_pos rfl] at ht
    have hnew : (Function.update s.tasks s.started { stage := .silence } s.started).stage ≠
        WifiStage.none := by
      rw [Function.update_self]
      exact WifiStage.noConfusion
    have hold : (Function.update s.tasks s.started { stage := .silence } j).stage ≠
        WifiStage.none := by
      rw [Function.update_of_ne hj.ne]
      exact hrun
    exact hj.ne (ht.single j s.started hold hnew)
  | _ => trivial

/-- So does what the libraries kept. -/
theorem letsGo_of_tidy (h : Owned silenceLog s) {e : SessionEvent}
    (ht : (s.after silenceLog e).Tidy) : s.LetsGo e := by
  obtain ⟨k, hother, hnet, -⟩ := h
  cases e with
  | task j c =>
    unfold LetsGo
    dsimp only
    by_cases hj : j = k
    · subst hj
      have hlets := lets_of_tidy (c := c) hother hnet
      unfold WifiOta.after WifiOta.otaWifiTask at ht
      dsimp only at ht
      unfold WifiNet.call at hlets
      rw [if_neg (by rw [hnet.alone]; exact Bool.false_ne_true)] at hlets
      cases hstage : (s.tasks j).stage with
      | unregisterAnyId =>
        rw [hstage] at hlets ht
        exact hlets rfl ht
      | unregisterGotIp =>
        rw [hstage] at hlets ht
        exact hlets rfl ht
      | wifiDeinit =>
        rw [hstage] at hlets ht
        exact hlets rfl ht
      | _ => trivial
    · rw [hother j hj]
      trivial
  | _ => trivial

end WifiOta

open WifiOta

/-- Whatever fails, whoever triggers and whenever WiFi events come, each session started ends once
and each one that failed is reported once.  There is one session at a time, what it takes is held
once and under its handle, nothing of it is left when it is over, and no assertion fails but for
want of something that could not be created, exactly as long as no session starts beside another
and the libraries let go of what they are told to. -/
theorem wifi_session_tidy (silenceLog : Bool) (flag : UInt8) (es : List SessionEvent) :
    Run.Throughout (Run.total (after silenceLog)) Accounted (boot flag) es ∧
      (Run.Throughout (Run.total (after silenceLog)) Tidy (boot flag) es ↔
        Run.Meets (Run.total (after silenceLog)) (fun s e => s.StartsAlone e ∧ s.LetsGo e)
          (boot flag) es) := by
  refine ⟨throughout_accounted silenceLog flag es, ?_⟩
  apply Run.throughout_iff_meets_of_stronger (I := fun s => Owned silenceLog s ∧ s.Accounted)
  · rintro s ⟨h, -⟩
    exact tidy_of_owned h
  · rintro s e s' ⟨h, ha⟩ ⟨halone, hlets⟩ ⟨⟩
    exact ⟨owned_after h ha halone hlets, accounted_after ha silenceLog e⟩
  · rintro s e s' ⟨h, -⟩ ⟨⟩ ht
    exact ⟨startsAlone_of_tidy ht, letsGo_of_tidy h ht⟩
  · exact ⟨owned_boot silenceLog flag, accounted_boot flag⟩

/-- Two callers of `bmt_ota_trigger` find the flag unset before either stores it. -/
example : ¬ Run.Meets (Run.total (after true)) (fun s e => s.StartsAlone e ∧ s.LetsGo e) (boot 0)
    [.init true, .trigger, .trigger, .store, .store, .start true, .start true] := by
  decide

end BleMeshTracking.Ota
