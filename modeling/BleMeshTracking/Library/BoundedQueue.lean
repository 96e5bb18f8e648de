import Mathlib.Data.List.Basic

/-!
# Bounded queues

First in, first out, with room for `cap` elements.
-/

structure BoundedQueue (α : Type*) (cap : ℕ) where
  items : List α
  fits : items.length ≤ cap

namespace BoundedQueue

variable {α : Type*} {cap : ℕ}

def empty : BoundedQueue α cap := ⟨[], Nat.zero_le cap⟩

/-- Puts an element at the end; `none` is a full queue. -/
def send (a : α) (q : BoundedQueue α cap) : Option (BoundedQueue α cap) :=
  if h : q.items.length < cap then
    some ⟨q.items ++ [a], by
      rw [List.length_append, List.length_singleton]
      exact h⟩
  else none

def receive (q : BoundedQueue α cap) : Option (α × BoundedQueue α cap) :=
  match h : q.items with
  | [] => none
  | a :: rest => some (a, ⟨rest, by
      have hfits := q.fits
      rw [h, List.length_cons] at hfits
      omega⟩)

variable {q q' : BoundedQueue α cap} {a : α}

theorem items_of_send (h : q.send a = some q') : q'.items = q.items ++ [a] := by
  unfold send at h
  split_ifs at h
  cases h
  rfl

theorem send_eq_none_iff : q.send a = none ↔ q.items.length = cap := by
  have hfits := q.fits
  unfold send
  split_ifs with h
  · refine ⟨nofun, ?_⟩
    intro hfull
    omega
  · refine ⟨fun _ => ?_, fun _ => rfl⟩
    omega

theorem items_of_receive (h : q.receive = some (a, q')) : q.items = a :: q'.items := by
  unfold receive at h
  split at h
  · cases h
  · rename_i b rest hitems
    cases h
    exact hitems

/-- A queue that follows one list of elements put in and another of elements taken out. -/
def Follows (q : BoundedQueue α cap) (sent taken : List α) : Prop := sent = taken ++ q.items

variable {sent taken : List α}

theorem Follows.send (h : q.Follows sent taken) (hs : q.send a = some q') :
    q'.Follows (sent ++ [a]) taken := by
  unfold Follows at h ⊢
  rw [h, items_of_send hs, List.append_assoc]

theorem Follows.receive (h : q.Follows sent taken) (hr : q.receive = some (a, q')) :
    q'.Follows sent (taken ++ [a]) := by
  unfold Follows at h ⊢
  rw [h, items_of_receive hr, List.append_assoc, List.singleton_append]

theorem Follows.length (h : q.Follows sent taken) :
    sent.length = taken.length + q.items.length := by
  unfold Follows at h
  rw [h, List.length_append]

end BoundedQueue
