import Mathlib.Data.List.DropRight
import Playout.Poll.Wakeup

/-!
# `Playout.Proofs.Poll.Level` — a wakeup is a level

However often a player has been notified, it wakes from every wait until the wakeup is cleared, and from none after that.
A full channel makes no difference, and neither does a channel that holds as much as some reads take exactly.

## Contents
- `Act`, `after`, `since` — notifying, clearing and waiting in any order.
- `level`, `after_eq_level` — what a wakeup holds.
- `clearing`, `clearing_eq_some_iff` — clearing read by read, and when it ends.

## Main statement
- `wakeup_is_level`.
-/

namespace Playout.Poll.Wakeup

/-! ## Acts -/

/-- What can be done with a wakeup. -/
inductive Act where
  | notify
  | clear
  | wait
  deriving DecidableEq

/-- What an act leaves of a wakeup. -/
def act (w : Wakeup) : Act → Wakeup
  | .notify => w.notify
  | .clear => w.clear
  | .wait => w.wait.2

/-- What acts leave of a wakeup, one after another. -/
def after (w : Wakeup) (acts : List Act) : Wakeup := acts.foldl act w

/-- The acts since the wakeup was last cleared. -/
def since (acts : List Act) : List Act := acts.rtakeWhile (· ≠ .clear)

theorem after_snoc (w : Wakeup) (acts : List Act) (a : Act) : w.after (acts ++ [a]) = (w.after acts).act a :=
  List.foldl_concat _ _ _ _

theorem since_clear (acts : List Act) : since (acts ++ [.clear]) = [] :=
  List.rtakeWhile_concat_neg _ _ _ (by decide)

theorem since_snoc (acts : List Act) {a : Act} (other : a ≠ .clear) : since (acts ++ [a]) = since acts ++ [a] :=
  List.rtakeWhile_concat_pos _ _ _ (by simpa using other)

/-- Waits leave no trace. -/
theorem after_filter_wait (w : Wakeup) (acts : List Act) : w.after (acts.filter (· ≠ .wait)) = w.after acts := by
  induction acts using List.reverseRecOn with
  | nil => rfl
  | append_singleton acts a ih =>
    rw [List.filter_append, after_snoc]
    cases a with
    | wait =>
      rw [show [Act.wait].filter (· ≠ .wait) = [] from rfl, List.append_nil]
      exact ih
    | notify | clear =>
      exact (after_snoc w _ _).trans (congrArg (act · _) ih)

/-! ## What a wakeup holds -/

/-- A wakeup that has been notified so often since it was last cleared. -/
def level (capacity notified : Nat) : Wakeup := ⟨capacity, List.replicate (min capacity notified) 1⟩

/-- There is room for another byte as long as there have been fewer notifications than that. -/
theorem notify_level (capacity notified : Nat) : (level capacity notified).notify = level capacity (notified + 1) := by
  simp only [notify, write, level, List.length_replicate]
  by_cases room : notified < capacity
  · rw [if_pos (by omega), Nat.min_eq_right (by omega), Nat.min_eq_right (by omega), List.replicate_succ']
  · rw [if_neg (by omega), Nat.min_eq_left (by omega), Nat.min_eq_left (by omega)]

theorem clear_eq (w : Wakeup) : w.clear = { w with held := [] } := by
  rw [← held_clear w, ← capacity_clear w]

theorem clear_level (capacity notified : Nat) : (level capacity notified).clear = level capacity 0 := by
  rw [clear_eq, level, level, Nat.min_zero, List.replicate_zero]

/-- **What a wakeup holds** is a byte for each notification since it was last cleared, as far as there is room. -/
theorem after_eq_level (capacity : Nat) (acts : List Act) :
    after { capacity } acts = level capacity ((since acts).count .notify) := by
  induction acts using List.reverseRecOn with
  | nil => exact congrArg (Wakeup.mk capacity) (by rw [since, List.rtakeWhile_nil]; simp)
  | append_singleton acts a ih =>
    rw [after_snoc, ih]
    cases a with
    | notify => rw [since_snoc acts (by decide), List.count_append, List.count_singleton_self, act, notify_level]
    | clear => rw [since_clear, List.count_nil, act, clear_level]
    | wait => rw [since_snoc acts (by decide), List.count_append, List.count_singleton, act, wait]; rfl

theorem signalled_level {capacity notified : Nat} (room : 0 < capacity) :
    (level capacity notified).signalled = true ↔ 0 < notified := by
  rw [signalled_iff, level, ne_eq, List.replicate_eq_nil_iff]
  omega

/-! ## Clearing, read by read -/

/-- Clearing by attempts to read, of which some are interrupted; such a read has taken nothing and is made again. There
    is no outcome as long as more is to be read. -/
def clearing : List Bool → Wakeup → Option Wakeup
  | [], _ => none
  | true :: attempts, w => clearing attempts w
  | false :: attempts, w =>
    match w.read readLength with
    | some (_, rest) => clearing attempts rest
    | none => some w

/-- How many reads it takes to clear a wakeup: those that take something, and one that fails. -/
def readsToClear (w : Wakeup) : Nat := (w.held.length + (readLength - 1)) / readLength + 1

theorem read_of_empty {w : Wakeup} (empty : w.held = []) (most : Nat) : w.read most = none :=
  if_pos (by rw [empty, List.isEmpty_nil])

theorem read_of_held {w : Wakeup} (held : w.held ≠ []) (most : Nat) :
    w.read most = some (w.held.take most, { w with held := w.held.drop most }) :=
  if_neg (by simpa using held)

/-- **Clearing ends** with the read that fails, and the wakeup is empty then. -/
theorem clearing_eq_some_iff (attempts : List Bool) (w w' : Wakeup) :
    clearing attempts w = some w' ↔ w.readsToClear ≤ attempts.count false ∧ w' = w.clear := by
  induction attempts generalizing w with
  | nil => simp [clearing, readsToClear]
  | cons interrupted attempts ih =>
    cases interrupted with
    | true => rw [clearing, ih, List.count_cons_of_ne (by decide)]
    | false =>
      rw [clearing, List.count_cons_self, clear_eq]
      by_cases empty : w.held = []
      · have one : w.readsToClear = 1 := by rw [readsToClear, empty]; rfl
        rw [read_of_empty empty, one, Option.some.injEq, ← empty, eq_comm]
        exact (and_iff_right (Nat.le_add_left _ _)).symm
      · -- A read leaves `readLength` bytes fewer, so that one read fewer clears the rest.
        have some_held := List.length_pos_iff.2 empty
        have fewer : w.readsToClear = { w with held := w.held.drop readLength : Wakeup }.readsToClear + 1 := by
          simp only [readsToClear, List.length_drop, readLength]
          omega
        rw [read_of_held empty]
        simp only [ih, clear_eq, fewer, Nat.add_le_add_iff_right]

/-! ## The wakeup as a level -/

/-- **A wakeup is a level.** Whatever has been done with it, a wait tells of a notification exactly if there was one
    since the wakeup was last cleared, and leaves the wakeup as if nobody had waited. Clearing leaves a wakeup empty
    however much it holds, after a number of reads that depends on that alone; interrupted ones do not count. -/
theorem wakeup_is_level (capacity : Nat) (room : 0 < capacity) (acts : List Act) :
    ((after { capacity } acts).wait.1 = true ↔ .notify ∈ since acts) ∧
    (after { capacity } acts).wait.2 = after { capacity } acts ∧
    after { capacity } (acts.filter (· ≠ .wait)) = after { capacity } acts ∧
    ∀ (w : Wakeup), w.clear = { w with held := [] } ∧
      ∀ attempts w', clearing attempts w = some w' ↔ w.readsToClear ≤ attempts.count false ∧ w' = w.clear := by
  refine ⟨?_, rfl, after_filter_wait _ acts, fun w => ⟨clear_eq w, fun attempts w' => clearing_eq_some_iff attempts w w'⟩⟩
  rw [wait, after_eq_level, signalled_level room, List.count_pos_iff]

/-- Three notifications where there is room for two wake every wait until the wakeup is cleared; 128 bytes are cleared by
    three reads and not by two. -/
theorem full_wakeup_is_level :
    (after { capacity := 2 } [.notify, .notify, .notify, .wait]).wait.1 = true ∧
    (after { capacity := 2 } [.notify, .notify, .notify, .wait, .clear]).wait.1 = false ∧
    clearing [false, true, false, false] ⟨200, List.replicate 128 1⟩ = some ⟨200, []⟩ ∧
    clearing [false, true, false] ⟨200, List.replicate 128 1⟩ = none := by
  have awake := wakeup_is_level 2 (by decide) [.notify, .notify, .notify, .wait]
  obtain ⟨asleep, -, -, clears⟩ := wakeup_is_level 2 (by decide) [.notify, .notify, .notify, .wait, .clear]
  obtain ⟨empties, ends⟩ := clears ⟨200, List.replicate 128 1⟩
  have three : readsToClear ⟨200, List.replicate 128 1⟩ = 3 := by simp [readsToClear, readLength]
  rw [three, empties] at ends
  refine ⟨awake.1.2 (by decide), Bool.eq_false_iff.2 fun woken => ?_, (ends _ _).2 ⟨by decide, rfl⟩, ?_⟩
  · exact absurd (asleep.1 woken) (by decide)
  · exact Option.eq_none_iff_forall_ne_some.2 fun w' cleared => absurd ((ends _ _).1 cleared).1 (by decide)

end Playout.Poll.Wakeup
