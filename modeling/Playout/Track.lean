import Playout.Error
import Playout.Number.Seconds

/-!
# `Playout.Track` — a piece of audio

A track is interleaved samples with their format: sample width, channels and rate. An 8-bit track keeps
one signed 8-bit value in each 16-bit sample. Only widths of 8 and 16 bits can be played, and only with
at least one channel and a positive rate.

## Contents
- `ByteOrder`, `Track`, `Track.frames`, `Track.bytesPerSample`, `Track.validate`, `Track.duration`.
-/

namespace Playout

/-- The order of the two bytes of a 16-bit sample. -/
inductive ByteOrder where
  | little
  | big
  deriving DecidableEq, Repr, Inhabited

/-- The order of the machine that plays. -/
def ByteOrder.native : ByteOrder := .little

/-- The name of a byte order. -/
def ByteOrder.name : ByteOrder → String
  | little => "little"
  | big => "big"

/-- Interleaved samples and their format. -/
structure Track where
  bits : UInt16
  channels : UInt16
  rate : UInt32
  samples : List Int16
  deriving DecidableEq, Repr

namespace Track

/-- The number of complete frames; a track without channels is counted as mono. -/
def frames (t : Track) : Nat := t.samples.length / max t.channels.toNat 1

/-- Whether the track holds no complete frame. -/
def isEmpty (t : Track) : Bool := t.frames == 0

/-- Bytes that one sample takes up on the wire. -/
def bytesPerSample (t : Track) : Except PlayError Nat :=
  if t.bits = 16 then .ok 2
  else if t.bits = 8 then .ok 1
  else .error (.unsupportedBits t.bits.toNat)

/-- Check the format. The width is looked at first, then the channels, then the rate; the answer is
    the number of bytes per sample. -/
def validate (t : Track) : Except PlayError Nat := do
  let width ← t.bytesPerSample
  if t.channels = 0 then throw (.invalidTrack "zero channels")
  if t.rate = 0 then throw (.invalidTrack "zero sample rate")
  return width

/-- How long the track lasts, in whole nanoseconds; a track without a rate lasts no time. -/
def duration (t : Track) : Seconds :=
  if t.rate = 0 then 0
  else Seconds.toNanosecond (Number.nearest Number.double ((t.frames : Rat) / (t.rate.toNat : Rat)))

/-! ## Small facts -/

/-- A track is empty exactly when its samples do not fill one frame. -/
theorem isEmpty_iff (t : Track) : t.isEmpty = true ↔ t.samples.length < max t.channels.toNat 1 := by
  have positive : 0 < max t.channels.toNat 1 := by omega
  simp only [isEmpty, beq_iff_eq, frames, Nat.div_eq_zero_iff]
  omega

/-- What a valid track looks like. -/
theorem validate_eq_ok_iff (t : Track) (width : Nat) :
    t.validate = .ok width ↔
      ((t.bits = 16 ∧ width = 2) ∨ (t.bits = 8 ∧ width = 1)) ∧ t.channels ≠ 0 ∧ t.rate ≠ 0 := by
  unfold validate bytesPerSample
  by_cases h16 : t.bits = 16 <;> by_cases h8 : t.bits = 8 <;> by_cases hc : t.channels = 0 <;>
    by_cases hr : t.rate = 0 <;>
    simp_all [bind, Except.bind, pure, Except.pure, throw, throwThe, MonadExceptOf.throw, eq_comm]

/-- A track that fails the check has a width that cannot be played, or is not a track. -/
theorem eq_of_validate_error {t : Track} {e : PlayError} (failed : t.validate = .error e) :
    e = .unsupportedBits t.bits.toNat ∨ ∃ reason, e = .invalidTrack reason := by
  unfold validate bytesPerSample at failed
  by_cases h16 : t.bits = 16 <;> by_cases h8 : t.bits = 8 <;> by_cases hc : t.channels = 0 <;>
    by_cases hr : t.rate = 0 <;>
    simp_all [bind, Except.bind, pure, Except.pure, throw, throwThe, MonadExceptOf.throw, eq_comm]

end Track

end Playout
