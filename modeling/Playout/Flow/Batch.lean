import Playout.Flow.Frame

/-!
# `Playout.Flow.Batch` — all messages in a buffer

A connection delivers bytes in pieces of any size. After each piece, all messages that are complete are
taken off the buffer, in order, until one is incomplete or one is malformed.

## Contents
- `Batch` — the messages, the fault that ended the reading if there was one, and the bytes left over.
- `takeAll`, `takeRequests`, `takeEvents`.
-/

namespace Playout.Flow

/-! ## Progress -/

theorem length_le_of_read32? {bytes rest : List UInt8} {n : UInt32}
    (h : Wire.read32? bytes = some (n, rest)) : rest.length ≤ bytes.length := by
  have := congrArg List.length (Wire.word32_of_read32? h)
  simp only [List.length_append, Wire.length_word32] at this
  omega

/-- A frame that is taken off makes the buffer shorter. -/
theorem length_lt_of_splitFrame {buffer rest : List UInt8} {raw : RawFrame}
    (h : splitFrame buffer = (.message raw, rest)) : rest.length < buffer.length := by
  match buffer with
  | [] => simp [splitFrame] at h
  | opcode :: tail =>
    simp only [splitFrame] at h
    split at h
    · next serial length body found =>
      simp only [Option.bind_eq_some_iff, Option.map_eq_some_iff] at found
      obtain ⟨⟨s, afterSerial⟩, first, ⟨n, afterLength⟩, second, same⟩ := found
      have one := length_le_of_read32? first
      have two := length_le_of_read32? second
      simp only [Prod.mk.injEq] at same
      obtain ⟨_, _, rfl⟩ := same
      split at h
      · simp at h
      · split at h
        · simp at h
        · simp only [Prod.mk.injEq] at h
          rw [← h.2]
          simp only [List.length_drop, List.length_cons]
          simp only at one two
          omega
    · simp at h

theorem length_lt_of_decodeWith {α : Type} {contents : RawFrame → Except FrameError α}
    {buffer rest : List UInt8} {value : UInt32 × α}
    (h : decodeWith contents buffer = (.message value, rest)) : rest.length < buffer.length := by
  unfold decodeWith at h
  split at h
  · next raw left split =>
    simp only [Prod.mk.injEq] at h
    exact h.2 ▸ length_lt_of_splitFrame split
  · simp at h
  · simp at h

/-! ## Taking all messages -/

/-- What a buffer held: messages with their serials in order, the fault that ended the reading, and the
    bytes that are left. -/
structure Batch (α : Type) where
  messages : List (UInt32 × α)
  fault : Option FrameError
  rest : List UInt8
  deriving DecidableEq, Repr

/-- Take messages off a buffer as long as there are complete and well-formed ones. -/
def takeAll {α : Type} (contents : RawFrame → Except FrameError α) (buffer : List UInt8) : Batch α :=
  match h : decodeWith contents buffer with
  | (.message value, rest) =>
    have : rest.length < buffer.length := length_lt_of_decodeWith h
    let batch := takeAll contents rest
    { batch with messages := value :: batch.messages }
  | (.malformed reason, rest) => ⟨[], some reason, rest⟩
  | (.incomplete, rest) => ⟨[], none, rest⟩
termination_by buffer.length

/-- All requests in a buffer. -/
def takeRequests : List UInt8 → Batch Request := takeAll RawFrame.toRequest

/-- All events in a buffer. -/
def takeEvents : List UInt8 → Batch Event := takeAll RawFrame.toEvent

@[simp] theorem takeAll_nil {α : Type} (contents : RawFrame → Except FrameError α) :
    takeAll contents [] = ⟨[], none, []⟩ := by
  unfold takeAll
  rfl

end Playout.Flow
