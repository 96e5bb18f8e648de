import Mathlib.Data.Option.Basic

/-!
# Debouncing a location over two reports in a row

A location is left only when two reports in a row challenge it for the same other location.
Reports are abstract: each names the location that leads, if any, and says over which locations
the leader has a clear margin.
-/

namespace Debounce

variable {ρ : Type*}

/-- What one report shows: the leading location, and whether it clearly beats a given one. -/
structure Evidence (ρ : Type*) where
  leader : Option ρ
  clear : ρ → Bool

/-- Nowhere, or at a location with the location that the last report challenged it for. -/
abbrev State (ρ : Type*) := Option (ρ × Option ρ)

def room (s : State ρ) : Option ρ := s.map Prod.fst

def Challenges (e : Evidence ρ) (A B : ρ) : Prop := e.leader = some B ∧ B ≠ A ∧ e.clear A = true

variable [DecidableEq ρ]

def step (s : State ρ) (e : Evidence ρ) : State ρ :=
  match e.leader, s with
  | none, _ => none
  | some z, none => some (z, none)
  | some z, some (A, pending) =>
    if z = A then some (A, none)
    else if e.clear A then
      if pending = some z then some (z, none) else some (A, some z)
    else some (A, none)

theorem step_challenge {A B : ρ} {e : Evidence ρ} (h : Challenges e A B) (p : Option ρ) :
    step (some (A, p)) e = if p = some B then some (B, none) else some (A, some B) := by
  obtain ⟨hl, hne, hc⟩ := h
  simp [step, hl, hne, hc]

/-- Every way a report can act on a location: it goes out, it stays, or it is challenged. -/
theorem step_cases (A : ρ) (p : Option ρ) (e : Evidence ρ) :
    step (some (A, p)) e = none ∨ step (some (A, p)) e = some (A, none) ∨
      ∃ B, Challenges e A B := by
  cases hl : e.leader with
  | none => simp [step, hl]
  | some z =>
    by_cases hz : z = A
    · simp [step, hl, hz]
    · cases hc : e.clear A with
      | false => simp [step, hl, hz, hc]
      | true => exact Or.inr (Or.inr ⟨z, hl, hz, hc⟩)

/-- A step changes the room exactly when a pending challenge is repeated. -/
theorem room_step_iff {A B : ρ} (hAB : A ≠ B) (p : Option ρ) (e : Evidence ρ) :
    room (step (some (A, p)) e) = some B ↔ p = some B ∧ Challenges e A B := by
  rcases step_cases A p e with h | h | ⟨C, h⟩
  · refine ⟨fun hr => by simp [h, room] at hr, fun hr => ?_⟩
    rw [step_challenge hr.2, if_pos hr.1] at h
    cases h
  · refine ⟨fun hr => by simp [h, room, hAB] at hr, fun hr => ?_⟩
    rw [step_challenge hr.2, if_pos hr.1] at h
    cases h
    exact absurd rfl hAB
  · rw [step_challenge h]
    by_cases hp : p = some C
    · have hCB : Challenges e A B ↔ C = B :=
        ⟨fun hB => Option.some.inj (h.1.symm.trans hB.1), fun he => he ▸ h⟩
      simp [hp, room, hCB]
    · have hpB : ¬ (p = some B ∧ Challenges e A B) := by
        intro hB
        have hCB : C = B := Option.some.inj (h.1.symm.trans hB.2.1)
        exact hp (hCB ▸ hB.1)
      simp [hp, room, hAB, hpB]

/-- A challenge is pending exactly when the last report made it at this room, the first time. -/
theorem step_pending_iff {A B : ρ} (s : State ρ) (e : Evidence ρ) :
    step s e = some (A, some B) ↔
      ∃ p, s = some (A, p) ∧ p ≠ some B ∧ Challenges e A B := by
  cases s with
  | none => cases hl : e.leader <;> simp [step, hl]
  | some q =>
    obtain ⟨C, p⟩ := q
    refine ⟨?_, ?_⟩
    · intro h
      rcases step_cases C p e with h' | h' | ⟨D, h'⟩
      · rw [h'] at h; cases h
      · rw [h'] at h; cases h
      · rw [step_challenge h'] at h
        by_cases hp : p = some D
        · rw [if_pos hp] at h; cases h
        · rw [if_neg hp] at h
          cases h
          exact ⟨p, rfl, hp, h'⟩
    · intro h
      rcases h with ⟨p', hs, hp, hc⟩
      cases hs
      rw [step_challenge hc, if_neg hp]

/-- Two reports in a row: the second moves the location from `A` to `B` exactly when both found
it at `A` and challenged it for `B`. -/
theorem moves_iff {A B : ρ} (hAB : A ≠ B) (s : State ρ) (e₁ e₂ : Evidence ρ) :
    (room (step s e₁) = some A ∧ room (step (step s e₁) e₂) = some B) ↔
      room s = some A ∧ room (step s e₁) = some A ∧ Challenges e₁ A B ∧ Challenges e₂ A B := by
  refine ⟨?_, ?_⟩
  · intro h
    rcases h with ⟨h1, h2⟩
    rcases Option.map_eq_some_iff.mp h1 with ⟨⟨A', p⟩, hs, hA⟩
    cases hA
    rw [hs, room_step_iff hAB] at h2
    obtain ⟨hp, hc2⟩ := h2
    subst hp
    obtain ⟨p', hs', -, hc1⟩ := (step_pending_iff s e₁).mp hs
    exact ⟨by simp [room, hs'], h1, hc1, hc2⟩
  · intro h
    rcases h with ⟨h0, h1, hc1, hc2⟩
    refine ⟨h1, ?_⟩
    rcases Option.map_eq_some_iff.mp h0 with ⟨⟨A', p⟩, hs, hA⟩
    cases hA
    subst hs
    rw [step_challenge hc1] at h1 ⊢
    by_cases hp : p = some B
    · simp [hp, room, hAB.symm] at h1
    · rw [if_neg hp, room_step_iff hAB]
      exact ⟨rfl, hc2⟩

end Debounce
