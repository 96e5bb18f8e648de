import BleMeshTracking.Library.Run

/-!
# Simulation with stuttering

Two machines, of which the second matches every step of the first by a step of its own or by none.
-/

namespace Stuttering

variable {σ τ ε δ : Type*}

/-- The steps that match those of a run. -/
def trace (f : σ → ε → σ) (matched : σ → ε → Option δ) : σ → List ε → List δ
  | _, [] => []
  | s, e :: es => (matched s e).toList ++ trace f matched (f s e) es

variable {f : σ → ε → σ} {g : τ → δ → τ} {matched : σ → ε → Option δ} {R : τ → σ → Prop}
  {ok : σ → ε → Prop}

/-- The simulation rule, for steps that meet `ok`. -/
theorem related (hstep : ∀ s t e, R t s → ok s e → R ((matched s e).toList.foldl g t) (f s e))
    {s : σ} {t : τ} {es : List ε} (h : R t s) (hok : Run.Meets (Run.total f) ok s es) :
    R ((trace f matched s es).foldl g t) (es.foldl f s) := by
  induction es generalizing s t with
  | nil => exact h
  | cons e es ih =>
    obtain ⟨he, hrest⟩ := Run.meets_total_cons.mp hok
    rw [trace, List.foldl_append]
    exact ih (hstep s t e h he) hrest

theorem related_prefix
    (hstep : ∀ s t e, R t s → ok s e → R ((matched s e).toList.foldl g t) (f s e))
    {s : σ} {t : τ} {pre es : List ε} (h : R t s) (hok : Run.Meets (Run.total f) ok s es)
    (hpre : pre <+: es) : R ((trace f matched s pre).foldl g t) (pre.foldl f s) := by
  obtain ⟨post, hpost⟩ := hpre
  rw [← hpost] at hok
  exact related hstep h hok.of_append

/-- What related states have in common holds throughout both runs or in neither. -/
theorem throughout_trace_iff
    (hstep : ∀ s t e, R t s → ok s e → R ((matched s e).toList.foldl g t) (f s e))
    {P : σ → Prop} {Q : τ → Prop} (hPQ : ∀ s t, R t s → (P s ↔ Q t))
    {s : σ} {t : τ} {es : List ε} (h : R t s) (hok : Run.Meets (Run.total f) ok s es) :
    Run.Throughout (Run.total f) P s es ↔
      Run.Throughout (Run.total g) Q t (trace f matched s es) := by
  induction es generalizing s t with
  | nil => exact hPQ s t h
  | cons e es ih =>
    obtain ⟨he, hrest⟩ := Run.meets_total_cons.mp hok
    have hnext := hstep s t e h he
    rw [Run.throughout_cons rfl, trace]
    cases hm : matched s e with
    | none =>
      rw [hm] at hnext
      rw [ih hnext hrest]
      exact and_iff_right_of_imp fun hall => (hPQ s t h).mpr hall.first
    | some d =>
      rw [hm] at hnext
      rw [ih hnext hrest, hPQ s t h]
      exact (Run.throughout_cons rfl).symm

end Stuttering
