import Mathlib.Data.List.Basic

/-!
# Logs that grow at their end

A condition on an entry and on the entries before it, asked of a whole log.
-/

namespace History

variable {α : Type*} {ok : List α → α → Prop} {log : List α} {a : α}

/-- Every entry is right after the entries before it. -/
def Ordered (ok : List α → α → Prop) (log : List α) : Prop :=
  ∀ earlier a, earlier ++ [a] <+: log → ok earlier a

theorem ordered_nil : Ordered ok [] := by
  intro earlier a h
  simp at h

/-- A log is extended well exactly when the new entry is right. -/
theorem ordered_concat_iff : Ordered ok (log ++ [a]) ↔ Ordered ok log ∧ ok log a := by
  refine ⟨?_, ?_⟩
  · intro h
    refine ⟨?_, h log a List.prefix_rfl⟩
    intro earlier b hb
    exact h earlier b (hb.trans (List.prefix_append log [a]))
  · intro h earlier b hb
    rcases List.prefix_concat_iff.mp hb with hall | hold
    · obtain ⟨hlog, hab⟩ := List.append_inj' hall rfl
      cases hab
      rw [hlog]
      exact h.2
    · exact h.1 earlier b hold

/-- Entries that are right anywhere may be added freely. -/
theorem ordered_append_iff {msgs : List α} (hmsgs : ∀ b ∈ msgs, ∀ earlier, ok earlier b) :
    Ordered ok (log ++ msgs) ↔ Ordered ok log := by
  induction msgs generalizing log with
  | nil => rw [List.append_nil]
  | cons b msgs ih =>
    have hb := hmsgs b List.mem_cons_self log
    have hrest : Ordered ok (log ++ [b] ++ msgs) ↔ Ordered ok (log ++ [b]) :=
      ih fun c hc => hmsgs c (List.mem_cons_of_mem b hc)
    rw [List.append_assoc, List.singleton_append] at hrest
    rw [hrest, ordered_concat_iff]
    exact and_iff_left hb

variable {mark sep : α → Prop}

def Pending (mark sep : α → Prop) (log : List α) : Prop :=
  ∃ pre a mid, log = pre ++ a :: mid ∧ mark a ∧ ∀ b ∈ mid, ¬ sep b

theorem not_pending_nil : ¬ Pending mark sep [] := by
  rintro ⟨pre, a, mid, hlog, -⟩
  simp at hlog

theorem pending_concat_iff :
    Pending mark sep (log ++ [a]) ↔ mark a ∨ Pending mark sep log ∧ ¬ sep a := by
  refine ⟨?_, ?_⟩
  · rintro ⟨pre, b, mid, hlog, hb, hmid⟩
    rcases List.eq_nil_or_concat mid with hnil | ⟨mid', c, hmid'⟩
    · rw [hnil] at hlog
      cases (List.append_inj' hlog rfl).2
      exact Or.inl hb
    · rw [List.concat_eq_append] at hmid'
      rw [hmid', ← List.cons_append, ← List.append_assoc] at hlog
      obtain ⟨hpre, hac⟩ := List.append_inj' hlog rfl
      cases hac
      rw [hmid'] at hmid
      refine Or.inr ⟨⟨pre, b, mid', hpre, hb, ?_⟩, hmid _ (by simp)⟩
      intro d hd
      exact hmid d (List.mem_append_left _ hd)
  · rintro (ha | ⟨⟨pre, b, mid, hlog, hb, hmid⟩, ha⟩)
    · exact ⟨log, a, [], rfl, ha, by simp⟩
    · refine ⟨pre, b, mid ++ [a], by rw [hlog]; simp, hb, ?_⟩
      intro d hd
      rcases List.mem_append.mp hd with hd | hd
      · exact hmid d hd
      · rw [List.mem_singleton.mp hd]
        exact ha

def Separated (mark sep : α → Prop) (log : List α) : Prop :=
  Ordered (fun earlier a => mark a → ¬ Pending mark sep earlier) log

theorem separated_nil : Separated mark sep [] := ordered_nil

theorem separated_concat_iff :
    Separated mark sep (log ++ [a]) ↔
      Separated mark sep log ∧ (mark a → ¬ Pending mark sep log) :=
  ordered_concat_iff

end History
