import BleMeshTracking.Library.Run

/-!
# What the last step to touch a property leaves

A property that some steps switch on, some switch off, and all others leave alone.
-/

namespace Fluent

variable {σ ε : Type*} {step : σ → ε → Option σ} {P : σ → Prop} {on off : σ → ε → Prop}

structure Governs (step : σ → ε → Option σ) (P : σ → Prop) (on off : σ → ε → Prop) : Prop where
  switchesOn : ∀ s e s', on s e → step s e = some s' → P s'
  switchesOff : ∀ s e s', off s e → step s e = some s' → ¬P s'
  frame : ∀ s e s', ¬on s e → ¬off s e → step s e = some s' → (P s' ↔ P s)

def LastOff (step : σ → ε → Option σ) (on off : σ → ε → Prop) : σ → List ε → Prop
  | _, [] => False
  | s, e :: es => ∃ m, step s e = some m ∧
    ((off s e ∧ Run.Meets step (fun s e => ¬on s e) m es) ∨ LastOff step on off m es)

/-- A property is off at the end of a run when the last step to touch it switched it off, or when it
was off before and no step switched it on. -/
def EndsOff (step : σ → ε → Option σ) (P : σ → Prop) (on off : σ → ε → Prop) (s : σ)
    (es : List ε) : Prop :=
  (¬P s ∧ Run.Meets step (fun s e => ¬on s e) s es) ∨ LastOff step on off s es

theorem endsOff_cons_iff (h : Governs step P on off) {s m : σ} {e : ε} {es : List ε}
    (hs : step s e = some m) :
    EndsOff step P on off s (e :: es) ↔ EndsOff step P on off m es := by
  have hmeets : Run.Meets step (fun s e => ¬on s e) s (e :: es) ↔
      ¬on s e ∧ Run.Meets step (fun s e => ¬on s e) m es := by
    refine ⟨fun hm => hm m hs, ?_⟩
    intro hm m' hm'
    cases hs.symm.trans hm'
    exact hm
  have hlast : LastOff step on off s (e :: es) ↔
      (off s e ∧ Run.Meets step (fun s e => ¬on s e) m es) ∨ LastOff step on off m es := by
    refine ⟨?_, fun hm => ⟨m, hs, hm⟩⟩
    intro hl
    obtain ⟨m', hm', hl⟩ := hl
    cases hs.symm.trans hm'
    exact hl
  unfold EndsOff
  rw [hmeets, hlast]
  by_cases hon : on s e
  · have hP := h.switchesOn s e m hon hs
    have hoff : ¬off s e := fun hoff => h.switchesOff s e m hoff hs hP
    simp [hon, hoff, hP]
  · by_cases hoff : off s e
    · have hP := h.switchesOff s e m hoff hs
      simp only [hon, hoff, hP, not_false_eq_true, true_and]
      rw [← or_assoc]
      apply or_congr _ Iff.rfl
      exact ⟨fun hor => hor.elim And.right id, Or.inr⟩
    · rw [h.frame s e m hon hoff hs]
      simp [hon, hoff]

theorem not_iff_endsOff (h : Governs step P on off) {s s' : σ} {es : List ε}
    (hrun : Run.run step s es = some s') : ¬P s' ↔ EndsOff step P on off s es := by
  induction es generalizing s with
  | nil =>
    cases hrun
    exact ⟨fun hP => Or.inl ⟨hP, trivial⟩, fun hend => hend.elim And.left False.elim⟩
  | cons e es ih =>
    obtain ⟨m, hs, hrest⟩ := Option.bind_eq_some_iff.mp hrun
    rw [ih hrest, endsOff_cons_iff h hs]

end Fluent
