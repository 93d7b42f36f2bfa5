/-!
# `Playout.Poll.Wakeup` — waking a player that sleeps on its device

A player that sleeps until its device is ready is woken through a channel of bytes that it sleeps on as
well. The channel holds a limited number of bytes; writing to a full one fails, which does no harm since
the bytes in it wake the player already. The bytes stay until the channel is cleared.

## Contents
- `Wakeup` and its two ends, `write` and `read`.
- `notify`, `clear`, `signalled`, `wait`.
-/

namespace Playout.Poll

/-- A channel of bytes with a capacity. -/
structure Wakeup where
  capacity : Nat
  held : List UInt8 := []
  deriving DecidableEq, Repr

namespace Wakeup

/-- How many bytes one read takes. -/
def readLength : Nat := 64

/-- Write one byte; nothing is written to a full channel. -/
def write (w : Wakeup) (b : UInt8) : Wakeup :=
  if w.held.length < w.capacity then { w with held := w.held ++ [b] } else w

/-- Take up to `most` bytes; reading an empty channel fails. -/
def read (w : Wakeup) (most : Nat) : Option (List UInt8 × Wakeup) :=
  if w.held.isEmpty then none else some (w.held.take most, { w with held := w.held.drop most })

/-- A read that succeeds takes something. -/
theorem length_lt_of_read {w rest : Wakeup} {most : Nat} {taken : List UInt8}
    (h : w.read most = some (taken, rest)) (some_asked : 0 < most) :
    rest.held.length < w.held.length := by
  unfold read at h
  split at h
  · cases h
  · next nonempty =>
    simp only [Option.some.injEq, Prod.mk.injEq] at h
    obtain ⟨_, rfl⟩ := h
    have : 0 < w.held.length := List.length_pos_iff.mpr (by simpa using nonempty)
    simp only [List.length_drop]
    omega

/-- Wake the player. -/
def notify (w : Wakeup) : Wakeup := w.write 1

/-- Read until reading fails. -/
def clear (w : Wakeup) : Wakeup :=
  match h : w.read readLength with
  | some (_, rest) =>
    have : rest.held.length < w.held.length := length_lt_of_read h (by decide)
    rest.clear
  | none => w
termination_by w.held.length

/-- Whether a sleeping player would wake. -/
def signalled (w : Wakeup) : Bool := !w.held.isEmpty

/-- Sleep until notified or until the time is up, and tell which. Nothing is read. -/
def wait (w : Wakeup) : Bool × Wakeup := (w.signalled, w)

/-! ## Small facts -/

/-- Clearing leaves nothing behind. -/
@[simp] theorem held_clear (w : Wakeup) : w.clear.held = [] := by
  induction w using clear.induct with
  | case1 w taken rest found shorter ih =>
    unfold clear
    split
    · next again =>
      rw [found] at again
      simp only [Option.some.injEq, Prod.mk.injEq] at again
      exact again.2 ▸ ih
    · next failed => simp [found] at failed
  | case2 w failed =>
    unfold clear
    split
    · next again => simp [failed] at again
    · unfold read at failed
      split at failed
      · next empty => simpa using empty
      · cases failed

@[simp] theorem capacity_notify (w : Wakeup) : w.notify.capacity = w.capacity := by
  unfold notify write
  split <;> rfl

@[simp] theorem capacity_clear (w : Wakeup) : w.clear.capacity = w.capacity := by
  induction w using clear.induct with
  | case1 w taken rest found shorter ih =>
    have kept : rest.capacity = w.capacity := by
      unfold read at found
      split at found
      · cases found
      · simp only [Option.some.injEq, Prod.mk.injEq] at found
        rw [← found.2]
    unfold clear
    split
    · next again =>
      rw [found] at again
      simp only [Option.some.injEq, Prod.mk.injEq] at again
      exact again.2 ▸ ih.trans kept
    · next failed => simp [found] at failed
  | case2 w failed =>
    unfold clear
    split
    · next again => simp [failed] at again
    · rfl

/-- A sleeping player wakes while anything is held. -/
theorem signalled_iff (w : Wakeup) : w.signalled = true ↔ w.held ≠ [] := by
  unfold signalled
  simp

/-- Somebody who was notified is awake, whether there was room for another byte or not. -/
theorem signalled_notify {w : Wakeup} (room : 0 < w.capacity) : w.notify.signalled = true := by
  unfold notify write signalled
  split
  · simp
  · next full =>
    have : w.held ≠ [] := by
      intro empty
      simp [empty] at full
      omega
    simp [this]

end Wakeup

end Playout.Poll
