import BleMeshTracking.Library.Run

/-!
# Deleting events from a run

Two runs of one machine, the second without the events marked `hidden`.  What a hidden step keeps
on the left and a visible step keeps on both sides relates the two runs at every point.
-/

namespace Unwinding

variable {σ ε : Type*} {f : σ → ε → σ} (hidden : ε → Bool)

def visible (es : List ε) : List ε := es.filter fun e => !hidden e

variable {hidden}

theorem visible_cons (e : ε) (es : List ε) :
    visible hidden (e :: es) = if hidden e then visible hidden es else e :: visible hidden es := by
  unfold visible
  cases h : hidden e with
  | true => rw [List.filter_cons_of_neg (by simp [h]), if_pos rfl]
  | false => rw [List.filter_cons_of_pos (by simp [h]), if_neg (by simp)]

/-- The unwinding rule, for steps that meet `ok` in the full run. -/
theorem related {R : σ → σ → Prop} {ok : σ → ε → Prop}
    (hhidden : ∀ s t e, R s t → hidden e = true → ok s e → R (f s e) t)
    (hvisible : ∀ s t e, R s t → hidden e = false → ok s e → R (f s e) (f t e))
    {s t : σ} {es : List ε} (h : R s t) (hok : Run.Meets (Run.total f) ok s es) :
    R (es.foldl f s) ((visible hidden es).foldl f t) := by
  induction es generalizing s t with
  | nil => exact h
  | cons e es ih =>
    obtain ⟨he, hrest⟩ := Run.meets_total_cons.mp hok
    rw [visible_cons]
    cases hd : hidden e with
    | true => exact ih (hhidden s t e h hd he) hrest
    | false => exact ih (hvisible s t e h hd he) hrest

theorem related_prefix {R : σ → σ → Prop} {ok : σ → ε → Prop}
    (hhidden : ∀ s t e, R s t → hidden e = true → ok s e → R (f s e) t)
    (hvisible : ∀ s t e, R s t → hidden e = false → ok s e → R (f s e) (f t e))
    {s t : σ} {pre es : List ε} (h : R s t) (hok : Run.Meets (Run.total f) ok s es)
    (hpre : pre <+: es) : R (pre.foldl f s) ((visible hidden pre).foldl f t) := by
  obtain ⟨post, hpost⟩ := hpre
  rw [← hpost] at hok
  exact related hhidden hvisible h hok.of_append

end Unwinding
