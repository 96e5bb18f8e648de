import Mathlib.Data.List.Basic
import Mathlib.Data.Option.Basic

/-!
# Runs of an event-driven machine

A machine is a partial step function: `step s e = none` says that event `e` cannot occur in
state `s`.  `run` feeds it a list of events, `Throughout` speaks about every state visited on
the way, and `Meets` about every step taken, seen from the state before it.
-/

namespace Run

variable {σ ε : Type*}

/-- The state after a list of events, `none` when one of them is not enabled. -/
def run (step : σ → ε → Option σ) : σ → List ε → Option σ
  | s, [] => some s
  | s, e :: es => (step s e).bind fun s' => run step s' es

/-- Every state of the run satisfies `P`, the first one included. -/
def Throughout (step : σ → ε → Option σ) (P : σ → Prop) : σ → List ε → Prop
  | s, [] => P s
  | s, e :: es => P s ∧ ∀ s' ∈ step s e, Throughout step P s' es

/-- Every enabled step of the run meets `ok` in the state before it. -/
def Meets (step : σ → ε → Option σ) (ok : σ → ε → Prop) : σ → List ε → Prop
  | _, [] => True
  | s, e :: es => ∀ s' ∈ step s e, ok s e ∧ Meets step ok s' es

instance decidableMeets (step : σ → ε → Option σ) (ok : σ → ε → Prop)
    [∀ s e, Decidable (ok s e)] : ∀ s es, Decidable (Meets step ok s es)
  | _, [] => isTrue trivial
  | s, e :: es =>
    match h : step s e with
    | none => isTrue fun m hm => by
        rw [h] at hm
        cases hm
    | some m =>
      have := decidableMeets step ok m es
      decidable_of_iff (ok s e ∧ Meets step ok m es) (by simp [Meets, h])

def total (f : σ → ε → σ) : σ → ε → Option σ := fun s e => some (f s e)

variable {step : σ → ε → Option σ}

theorem Throughout.first {P : σ → Prop} {s : σ} {es : List ε} (h : Throughout step P s es) :
    P s := by
  cases es with
  | nil => exact h
  | cons e es => exact h.1

theorem throughout_cons {P : σ → Prop} {s m : σ} {e : ε} {es : List ε} (hs : step s e = some m) :
    Throughout step P s (e :: es) ↔ P s ∧ Throughout step P m es := by
  refine ⟨fun h => ⟨h.1, h.2 m hs⟩, fun h => ⟨h.1, fun m' hm' => ?_⟩⟩
  rw [Option.mem_def, hs] at hm'
  cases hm'
  exact h.2

theorem Throughout.last {P : σ → Prop} {s s' : σ} {es : List ε}
    (h : Throughout step P s es) (hr : run step s es = some s') : P s' := by
  induction es generalizing s with
  | nil => cases hr; exact h
  | cons e es ih =>
    obtain ⟨m, hm, hs⟩ := Option.bind_eq_some_iff.mp hr
    exact ih (h.2 m hm) hs

theorem not_throughout_of_run {P : σ → Prop} {s s' : σ} {es : List ε}
    (hr : run step s es = some s') (h : ¬P s') : ¬Throughout step P s es :=
  fun hall => h (hall.last hr)

theorem Throughout.mono {P Q : σ → Prop} {s : σ} {es : List ε}
    (h : Throughout step P s es) (hPQ : ∀ s, P s → Q s) : Throughout step Q s es := by
  induction es generalizing s with
  | nil => exact hPQ s h
  | cons e es ih => exact ⟨hPQ s h.1, fun m hm => ih (h.2 m hm)⟩

/-- The invariant rule: what every step meeting `ok` preserves holds throughout a run whose
steps meet `ok`. -/
theorem throughout_of_meets {P : σ → Prop} {ok : σ → ε → Prop}
    (hstep : ∀ s e s', P s → ok s e → step s e = some s' → P s')
    {s : σ} {es : List ε} (h0 : P s) (h : Meets step ok s es) : Throughout step P s es := by
  induction es generalizing s with
  | nil => exact h0
  | cons e es ih =>
    refine ⟨h0, fun m hm => ?_⟩
    obtain ⟨hok, hrest⟩ := h m hm
    exact ih (hstep s e m h0 hok hm) hrest

theorem Meets.cons {ok : σ → ε → Prop} {s m : σ} {e : ε} {es : List ε} (hs : step s e = some m)
    (hok : ok s e) (h : Meets step ok m es) : Meets step ok s (e :: es) := by
  intro m' hm'
  rw [hs] at hm'
  cases hm'
  exact ⟨hok, h⟩

theorem Meets.append {ok : σ → ε → Prop} {s m : σ} {es fs : List ε} (h : Meets step ok s es)
    (hr : run step s es = some m) (h' : Meets step ok m fs) : Meets step ok s (es ++ fs) := by
  induction es generalizing s with
  | nil =>
    cases hr
    exact h'
  | cons e es ih =>
    intro n hn
    obtain ⟨n', hn', hrun⟩ := Option.bind_eq_some_iff.mp hr
    cases hn.symm.trans hn'
    exact ⟨(h n hn).1, ih (h n hn).2 hrun⟩

theorem Meets.of_append {ok : σ → ε → Prop} {s : σ} {es fs : List ε}
    (h : Meets step ok s (es ++ fs)) : Meets step ok s es := by
  induction es generalizing s with
  | nil => trivial
  | cons e es ih => exact fun m hm => ⟨(h m hm).1, ih (h m hm).2⟩

theorem run_total {f : σ → ε → σ} {s : σ} {es : List ε} :
    run (total f) s es = some (es.foldl f s) := by
  induction es generalizing s with
  | nil => rfl
  | cons e es ih => exact ih

theorem meets_total_cons {f : σ → ε → σ} {ok : σ → ε → Prop} {s : σ} {e : ε} {es : List ε} :
    Meets (total f) ok s (e :: es) ↔ ok s e ∧ Meets (total f) ok (f s e) es := by
  simp [Meets, total]

theorem meets_total_append {f : σ → ε → σ} {ok : σ → ε → Prop} {s : σ} {es fs : List ε} :
    Meets (total f) ok s (es ++ fs) ↔
      Meets (total f) ok s es ∧ Meets (total f) ok (es.foldl f s) fs := by
  induction es generalizing s with
  | nil => exact (iff_of_eq (true_and _)).symm
  | cons e es ih =>
    rw [List.cons_append, meets_total_cons, ih, meets_total_cons, List.foldl_cons, and_assoc]

/-- In a machine without disabled events the steps of a run are given by the prefixes of its
events. -/
theorem meets_total_iff {f : σ → ε → σ} {ok : σ → ε → Prop} {s : σ} {es : List ε} :
    Meets (total f) ok s es ↔ ∀ pre e, pre ++ [e] <+: es → ok (pre.foldl f s) e := by
  induction es generalizing s with
  | nil =>
    refine ⟨fun _ pre e h => ?_, fun _ => trivial⟩
    have := h.length_le
    simp at this
  | cons d es ih =>
    rw [meets_total_cons, ih]
    refine ⟨?_, ?_⟩
    · intro h pre e hpre
      cases pre with
      | nil =>
        rcases hpre with ⟨t, ht⟩
        cases ht
        exact h.1
      | cons c pre =>
        rcases hpre with ⟨t, ht⟩
        cases ht
        exact h.2 pre e ⟨t, rfl⟩
    · intro h
      refine ⟨h [] d ⟨es, rfl⟩, ?_⟩
      intro pre e hpre
      exact h (d :: pre) e (List.cons_prefix_cons.mpr ⟨rfl, hpre⟩)

theorem meets_of_mem {ok : σ → ε → Prop} {es : List ε} (hok : ∀ e ∈ es, ∀ s, ok s e) (s : σ) :
    Meets step ok s es := by
  induction es generalizing s with
  | nil => trivial
  | cons e es ih =>
    intro m _
    exact ⟨hok e List.mem_cons_self s, ih (fun d hd => hok d (List.mem_cons_of_mem e hd)) m⟩

theorem meets_of_forall {ok : σ → ε → Prop} (hok : ∀ s e, ok s e) (s : σ) (es : List ε) :
    Meets step ok s es := by
  induction es generalizing s with
  | nil => trivial
  | cons e es ih => exact fun m _ => ⟨hok s e, ih m⟩

/-- The invariant rule without a condition on the steps. -/
theorem throughout_of_forall {P : σ → Prop}
    (hstep : ∀ s e s', P s → step s e = some s' → P s')
    {s : σ} (es : List ε) (h0 : P s) : Throughout step P s es :=
  throughout_of_meets (fun s e s' hP _ => hstep s e s' hP) h0
    (meets_of_forall (fun _ _ => trivial) s es)

/-- What an invariant says about each step holds of every step of a run. -/
theorem meets_of_invariant {P : σ → Prop} {ok : σ → ε → Prop}
    (hstep : ∀ s e s', P s → step s e = some s' → P s')
    (hok : ∀ s e s', P s → step s e = some s' → ok s e)
    {s : σ} (es : List ε) (h0 : P s) : Meets step ok s es := by
  induction es generalizing s with
  | nil => trivial
  | cons e es ih =>
    intro m hm
    exact ⟨hok s e m h0 hm, ih (hstep s e m h0 hm)⟩

/-- The same of a run whose steps meet `asm`. -/
theorem meets_of_meets {P : σ → Prop} {asm ok : σ → ε → Prop}
    (hstep : ∀ s e s', P s → asm s e → step s e = some s' → P s')
    (hok : ∀ s e s', P s → asm s e → step s e = some s' → ok s e)
    {s : σ} {es : List ε} (h0 : P s) (h : Meets step asm s es) : Meets step ok s es := by
  induction es generalizing s with
  | nil => trivial
  | cons e es ih =>
    intro m hm
    obtain ⟨hasm, hrest⟩ := h m hm
    exact ⟨hok s e m h0 hasm hm, ih (hstep s e m h0 hasm hm) hrest⟩

/-- Two conditions that agree on every step, under an invariant `A` and an assumption `asm` on the
steps, hold of the same runs. -/
theorem meets_congr {A : σ → Prop} {asm ok ok' : σ → ε → Prop}
    (hA : ∀ s e s', A s → asm s e → step s e = some s' → A s')
    (hok : ∀ s e s', A s → asm s e → step s e = some s' → (ok s e ↔ ok' s e))
    {s : σ} {es : List ε} (hasm : Meets step asm s es) (hAs : A s) :
    Meets step ok s es ↔ Meets step ok' s es := by
  induction es generalizing s with
  | nil => exact Iff.rfl
  | cons e es ih =>
    apply forall_congr'
    intro m
    apply forall_congr'
    intro hm
    obtain ⟨ha, harest⟩ := hasm m hm
    exact and_congr (hok s e m hAs ha hm) (ih harest (hA s e m hAs ha hm))

/-- When `ok` says exactly which steps keep `P`, relative to an invariant `A` and an assumption
`asm` on the steps, `P` holds throughout a run just when every step of it meets `ok`. -/
theorem throughout_iff_meets {A P : σ → Prop} {asm ok : σ → ε → Prop}
    (hA : ∀ s e s', A s → asm s e → step s e = some s' → A s')
    (hP : ∀ s e s', A s → P s → asm s e → step s e = some s' → (P s' ↔ ok s e))
    {s : σ} {es : List ε} (hasm : Meets step asm s es) (hAs : A s) (hPs : P s) :
    Throughout step P s es ↔ Meets step ok s es := by
  induction es generalizing s with
  | nil => exact ⟨fun _ => trivial, fun _ => hPs⟩
  | cons e es ih =>
    refine ⟨fun h m hm => ?_, fun h => ⟨hPs, fun m hm => ?_⟩⟩
    · obtain ⟨ha, harest⟩ := hasm m hm
      have hPm : P m := (h.2 m hm).first
      exact ⟨(hP s e m hAs hPs ha hm).mp hPm,
        (ih harest (hA s e m hAs ha hm) hPm).mp (h.2 m hm)⟩
    · obtain ⟨ha, harest⟩ := hasm m hm
      obtain ⟨hok, hrest⟩ := h m hm
      have hPm : P m := (hP s e m hAs hPs ha hm).mpr hok
      exact (ih harest (hA s e m hAs ha hm) hPm).mpr hrest

/-- The same where nothing is assumed of the steps. -/
theorem throughout_iff_meets_of_invariant {A P : σ → Prop} {ok : σ → ε → Prop}
    (hA : ∀ s e s', A s → step s e = some s' → A s')
    (hP : ∀ s e s', A s → P s → step s e = some s' → (P s' ↔ ok s e))
    {s : σ} {es : List ε} (hAs : A s) (hPs : P s) :
    Throughout step P s es ↔ Meets step ok s es :=
  throughout_iff_meets (fun s e s' hA' _ => hA s e s' hA')
    (fun s e s' hA' hP' _ => hP s e s' hA' hP')
    (meets_of_forall (fun _ _ => trivial) s es) hAs hPs

/-- When steps that meet `ok` keep an invariant `I` which gives `P`, and no other step from `I` ends
in `P`, then `P` holds throughout a run just when every step of it meets `ok`. -/
theorem throughout_iff_meets_of_stronger {I P : σ → Prop} {ok : σ → ε → Prop}
    (hIP : ∀ s, I s → P s) (hI : ∀ s e s', I s → ok s e → step s e = some s' → I s')
    (hok : ∀ s e s', I s → step s e = some s' → P s' → ok s e)
    {s : σ} {es : List ε} (hs : I s) : Throughout step P s es ↔ Meets step ok s es := by
  refine ⟨fun h => ?_, fun h => (throughout_of_meets hI hs h).mono hIP⟩
  induction es generalizing s with
  | nil => trivial
  | cons e es ih =>
    intro m hm
    have hstep : ok s e := hok s e m hs hm (h.2 m hm).first
    exact ⟨hstep, ih (hI s e m hs hstep hm) (h.2 m hm)⟩

end Run
