import BleMeshTracking.Library.Run
import BleMeshTracking.Library.TrailingRun

/-!
# The factory reset button

`bmt_factory_reset.c`, the same on the gateway, the scanners and the relays: a task that polls the
BOOT button ten times a second, counts the polls it is held, and erases the whole NVS partition
after ten seconds of them.  The partition is a value of any type with an empty one; what else
writes it, and what else reboots the board, are events.
-/

namespace BleMeshTracking.Mesh

open TrailingRun

def bmtFactoryResetPollMs : ℕ := 100
def bmtFactoryResetHoldMs : ℕ := 10000
def bmtFactoryResetTicksNeeded : ℕ :=
  bmtFactoryResetHoldMs / bmtFactoryResetPollMs

inductive ResetLine
  /-- `BOOT button held...` -/
  | held
  /-- `%ds until NVS is erased...` -/
  | remaining (s : ℕ)
  /-- `Held 10s -> erasing all NVS...` -/
  | erasing
  | eraseFailed
  /-- `Done, rebooting...` -/
  | rebooting
  deriving DecidableEq

/-- A board with the watcher running. -/
structure Board (ν : Type) where
  nvs : ν
  heldTicks : ℕ := 0
  /-- Everything the task has logged, over all boots. -/
  console : List ResetLine := []
  /-- The levels polled since the board booted, oldest first. -/
  polled : List ℕ := []
  resets : ℕ := 0
  deriving DecidableEq

inductive BoardEvent (ν : Type)
  /-- A poll reads `level`; `left` is what a failing `nvs_flash_erase` leaves behind, should this
  poll come to call it. -/
  | poll (level : ℕ) (left : Option ν)
  /-- Another part of the firmware writes the partition. -/
  | written (nvs : ν)
  /-- `esp_restart` elsewhere, a crash or a power cut. -/
  | restarted

variable {ν : Type}

def heldLine (heldTicks : ℕ) : List ResetLine :=
  if heldTicks = 1 then [ResetLine.held]
  else if heldTicks % (1000 / bmtFactoryResetPollMs) = 0 then
    [ResetLine.remaining
      ((bmtFactoryResetTicksNeeded - heldTicks) * bmtFactoryResetPollMs / 1000)]
  else []

/-- `esp_restart`: the static variables and the task start again, the partition stays. -/
def Board.espRestart (b : Board ν) : Board ν :=
  { b with heldTicks := 0, polled := [] }

def erased (blank : ν) (left : Option ν) : ν := left.getD blank

def resetLines (left : Option ν) : List ResetLine :=
  ResetLine.erasing :: (if left.isSome then [ResetLine.eraseFailed] else []) ++
    [ResetLine.rebooting]

def doFactoryReset (blank : ν) (b : Board ν) (left : Option ν) : Board ν :=
  { b with nvs := erased blank left, resets := b.resets + 1,
           console := b.console ++ resetLines left }.espRestart

/-- One round of `factory_reset_task`. -/
def factoryResetTask (blank : ν) (b : Board ν) (level : ℕ) (left : Option ν) : Board ν :=
  let b := { b with polled := b.polled ++ [level] }
  if level = 0 then
    let b := { b with heldTicks := b.heldTicks + 1,
                      console := b.console ++ heldLine (b.heldTicks + 1) }
    if b.heldTicks ≥ bmtFactoryResetTicksNeeded then doFactoryReset blank b left else b
  else
    { b with heldTicks := 0 }

def Board.step (blank : ν) (b : Board ν) : BoardEvent ν → Board ν
  | .poll level left => factoryResetTask blank b level left
  | .written nvs => { b with nvs := nvs }
  | .restarted => b.espRestart

def pressed (level : ℕ) : Bool := level = 0

def countdown : ℕ → List ResetLine
  | 0 => []
  | n + 1 => countdown n ++ heldLine (n + 1)

def pollCount (es : List (BoardEvent ν)) : ℕ :=
  es.countP fun e => match e with
    | .poll _ _ => true
    | _ => false

/-- A button held for ten seconds: the announcement, then the seconds that are left. -/
theorem countdown_ticksNeeded :
    countdown bmtFactoryResetTicksNeeded =
      ResetLine.held :: (List.range 10).reverse.map ResetLine.remaining := by
  decide +kernel

theorem ticksNeeded_pos : 0 < bmtFactoryResetTicksNeeded := by decide

/-- What holds between two polls, `n` polls after the watcher was started first. -/
structure Watching (n : ℕ) (b : Board ν) : Prop where
  counts : b.heldTicks = trailing pressed b.polled
  low : b.heldTicks < bmtFactoryResetTicksNeeded
  paid : bmtFactoryResetTicksNeeded * b.resets + b.heldTicks ≤ n
  told : countdown b.heldTicks <:+ b.console

theorem watching_start (nvs : ν) : Watching 0 ({ nvs := nvs } : Board ν) := by
  exact ⟨rfl, ticksNeeded_pos, Nat.le_refl 0, List.suffix_refl []⟩

theorem pressed_iff (level : ℕ) : pressed level = true ↔ level = 0 :=
  decide_eq_true_iff

theorem factoryResetTask_held {blank : ν} {b : Board ν} {left : Option ν}
    (h : b.heldTicks + 1 < bmtFactoryResetTicksNeeded) :
    factoryResetTask blank b 0 left =
      { b with polled := b.polled ++ [0], heldTicks := b.heldTicks + 1,
               console := b.console ++ heldLine (b.heldTicks + 1) } := by
  unfold factoryResetTask
  rw [if_pos rfl]
  exact if_neg (Nat.not_le.mpr h)

theorem factoryResetTask_fires {blank : ν} {b : Board ν} {left : Option ν}
    (h : bmtFactoryResetTicksNeeded ≤ b.heldTicks + 1) :
    factoryResetTask blank b 0 left =
      { b with polled := [], heldTicks := 0, nvs := erased blank left, resets := b.resets + 1,
               console := b.console ++ heldLine (b.heldTicks + 1) ++ resetLines left } := by
  unfold factoryResetTask
  rw [if_pos rfl]
  exact if_pos h

theorem factoryResetTask_released {blank : ν} {b : Board ν} {level : ℕ} {left : Option ν}
    (h : level ≠ 0) :
    factoryResetTask blank b level left =
      { b with polled := b.polled ++ [level], heldTicks := 0 } := by
  unfold factoryResetTask
  rw [if_neg h]

/-- What a poll can do to the partition. -/
theorem factoryResetTask_cases (blank : ν) (b : Board ν) (level : ℕ) (left : Option ν) :
    ((factoryResetTask blank b level left).resets = b.resets ∧
        (factoryResetTask blank b level left).nvs = b.nvs) ∨
      ((factoryResetTask blank b level left).resets = b.resets + 1 ∧
        (factoryResetTask blank b level left).nvs = erased blank left) := by
  by_cases hl : level = 0
  · subst hl
    rcases Nat.lt_or_ge (b.heldTicks + 1) bmtFactoryResetTicksNeeded with hlow | hfire
    · rw [factoryResetTask_held hlow]
      exact Or.inl ⟨rfl, rfl⟩
    · rw [factoryResetTask_fires hfire]
      exact Or.inr ⟨rfl, rfl⟩
  · rw [factoryResetTask_released hl]
    exact Or.inl ⟨rfl, rfl⟩

/-- The poll that completes ten seconds, from the levels alone. -/
theorem fires_iff {n : ℕ} {b : Board ν} (h : Watching n b) (level : ℕ) :
    Lasting pressed bmtFactoryResetTicksNeeded (b.polled ++ [level]) ↔
      level = 0 ∧ bmtFactoryResetTicksNeeded ≤ b.heldTicks + 1 := by
  rw [← le_trailing_iff, trailing_concat, ← h.counts]
  by_cases hl : level = 0
  · rw [if_pos ((pressed_iff level).mpr hl)]
    exact (and_iff_right hl).symm
  · rw [if_neg (mt (pressed_iff level).mp hl)]
    exact ⟨fun hn => absurd hn (by decide), fun hn => absurd hn.1 hl⟩

theorem watching_poll {n : ℕ} {blank : ν} {b : Board ν} (h : Watching n b) (level : ℕ)
    (left : Option ν) : Watching (n + 1) (factoryResetTask blank b level left) := by
  have hpaid := h.paid
  by_cases hl : level = 0
  · subst hl
    by_cases hfire : bmtFactoryResetTicksNeeded ≤ b.heldTicks + 1
    · rw [factoryResetTask_fires hfire]
      refine ⟨rfl, ticksNeeded_pos, ?_, List.nil_suffix⟩
      have hmul : bmtFactoryResetTicksNeeded * (b.resets + 1) =
          bmtFactoryResetTicksNeeded * b.resets + bmtFactoryResetTicksNeeded :=
        Nat.mul_succ _ _
      show bmtFactoryResetTicksNeeded * (b.resets + 1) + 0 ≤ n + 1
      omega
    · have hlow := Nat.not_le.mp hfire
      rw [factoryResetTask_held hlow]
      refine ⟨?_, hlow, Nat.succ_le_succ hpaid, List.suffix_append_self_iff.mpr h.told⟩
      show b.heldTicks + 1 = trailing pressed (b.polled ++ [0])
      rw [trailing_concat, if_pos ((pressed_iff 0).mpr rfl), h.counts]
  · rw [factoryResetTask_released hl]
    refine ⟨?_, ticksNeeded_pos, ?_, List.nil_suffix⟩
    · show 0 = trailing pressed (b.polled ++ [level])
      rw [trailing_concat, if_neg (mt (pressed_iff level).mp hl)]
    · show bmtFactoryResetTicksNeeded * b.resets + 0 ≤ n + 1
      omega

theorem watching_step {n : ℕ} {blank : ν} {b : Board ν} (h : Watching n b) (e : BoardEvent ν) :
    Watching (n + pollCount [e]) (b.step blank e) := by
  cases e with
  | poll level left => exact watching_poll h level left
  | written nvs => exact ⟨h.counts, h.low, h.paid, h.told⟩
  | restarted =>
    refine ⟨rfl, ticksNeeded_pos, ?_, List.nil_suffix⟩
    exact (Nat.le_add_right _ _).trans h.paid

theorem watching_foldl {n : ℕ} {blank : ν} {b : Board ν} (h : Watching n b)
    (es : List (BoardEvent ν)) : Watching (n + pollCount es) (es.foldl (Board.step blank) b) := by
  induction es generalizing n b with
  | nil => exact h
  | cons e es ih =>
    have hcount : n + pollCount (e :: es) = n + pollCount [e] + pollCount es := by
      unfold pollCount
      rw [List.countP_cons, List.countP_singleton]
      omega
    rw [List.foldl_cons, hcount]
    exact ih (watching_step h e)

/-- The lines of a poll that erases: the whole countdown stands before them. -/
theorem fires_told {n : ℕ} {b : Board ν} (h : Watching n b) {left : Option ν}
    (hfire : bmtFactoryResetTicksNeeded ≤ b.heldTicks + 1) :
    countdown bmtFactoryResetTicksNeeded ++ resetLines left <:+
      b.console ++ heldLine (b.heldTicks + 1) ++ resetLines left := by
  have hlast : b.heldTicks + 1 = bmtFactoryResetTicksNeeded := Nat.le_antisymm h.low hfire
  rw [List.suffix_append_self_iff, ← hlast]
  exact List.suffix_append_self_iff.mpr h.told

/-- In every run the partition is erased, and the board rebooted, exactly at the poll that ends a
hundred polls in a row of this boot which all found the button held: then the log has counted down
all ten seconds and the count starts again.  Every other poll leaves the partition alone, the
count never gets past a hundred, and a hundred polls are paid for each erasure. -/
theorem erased_iff_held (blank nvs : ν) (es : List (BoardEvent ν)) :
    let b := es.foldl (Board.step blank) { nvs := nvs }
    b.heldTicks = trailing pressed b.polled ∧
      100 * b.resets + b.heldTicks ≤ pollCount es ∧
      ∀ level left,
        let after := b.step blank (BoardEvent.poll level left)
        after.heldTicks < 100 ∧
        (Lasting pressed 100 (b.polled ++ [level]) →
          after.nvs = erased blank left ∧ after.resets = b.resets + 1 ∧
            after.heldTicks = 0 ∧ after.polled = [] ∧
            ResetLine.held :: (List.range 10).reverse.map ResetLine.remaining ++
              resetLines left <:+ after.console) ∧
        (¬Lasting pressed 100 (b.polled ++ [level]) →
          after.nvs = b.nvs ∧ after.resets = b.resets ∧
            after.polled = b.polled ++ [level]) := by
  intro b
  have h : Watching (pollCount es) b := by
    have hrun : Watching (0 + pollCount es) b := watching_foldl (watching_start nvs) es
    rwa [Nat.zero_add] at hrun
  refine ⟨h.counts, h.paid, ?_⟩
  intro level left after
  refine ⟨(watching_poll h level left).low, ?_, ?_⟩
  · intro hlast
    obtain ⟨rfl, hfire⟩ := (fires_iff h level).mp hlast
    have hafter : after = _ := factoryResetTask_fires hfire
    rw [hafter, ← countdown_ticksNeeded]
    exact ⟨rfl, rfl, rfl, rfl, fires_told h hfire⟩
  · intro hlast
    by_cases hl : level = 0
    · subst hl
      have hlow : b.heldTicks + 1 < bmtFactoryResetTicksNeeded :=
        Nat.not_le.mp fun hfire => hlast ((fires_iff h 0).mpr ⟨rfl, hfire⟩)
      have hafter : after = _ := factoryResetTask_held hlow
      rw [hafter]
      exact ⟨rfl, rfl, rfl⟩
    · have hafter : after = _ := factoryResetTask_released hl
      rw [hafter]
      exact ⟨rfl, rfl, rfl⟩

end BleMeshTracking.Mesh
