import Mathlib.Data.Option.Basic

/-!
# A setting with a default

A value in use and the copy of it in storage.  A start reads the copy and checks it; a value that
is missing, unreadable or invalid leaves the default.  A change is written and used at once,
whether or not the write succeeds.
-/

namespace Setting

variable {α : Type*} (valid : α → Bool) (fallback : α)

def load (stored : Option α) (readable : Bool) : α :=
  if readable = true then (stored.filter valid).getD fallback else fallback

def save (v : α) (written : Bool) (stored : Option α) : Option α :=
  if written = true then some v else stored

variable {valid fallback}

theorem valid_load (h : valid fallback = true) (stored : Option α) (readable : Bool) :
    valid (load valid fallback stored readable) = true := by
  unfold load
  by_cases hr : readable = true
  · rw [if_pos hr]
    cases hv : stored.filter valid with
    | none => exact h
    | some v => exact (Option.filter_eq_some_iff.mp hv).2
  · rw [if_neg hr]
    exact h

/-- What was saved is what the next start finds. -/
theorem load_save {v : α} (hv : valid v = true) (stored : Option α) :
    load valid fallback (save v true stored) true = v := by
  unfold load save
  rw [if_pos rfl, if_pos rfl, Option.filter_some_pos hv, Option.getD_some]

end Setting
