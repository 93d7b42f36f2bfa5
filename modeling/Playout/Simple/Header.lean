import Playout.Track
import Playout.Wire.Word

/-!
# `Playout.Simple.Header` — the header of a simple-protocol stream

A stream to a simple-protocol server starts with 14 bytes: the letters `SPCM`, the sample format, the
number of channels, the rate and the target length of the server's buffer. Raw audio follows.

## Contents
- `SampleFormat`, `SampleSpec`, `SampleSpec.initial`, `SampleSpec.ofTrack`.
- `encode`, `decode` and the errors of `decode`.

Decoding checks field by field and keeps what it has taken: a buffer that does not start with the
letters is left as it is, while one with an unknown format has lost the letters and the format byte.
-/

namespace Playout.Simple

/-! ## The announced format -/

/-- How samples are laid out in a stream. -/
inductive SampleFormat where
  | unsigned8
  | signed16Little
  | signed16Big
  deriving DecidableEq, Repr

namespace SampleFormat

/-- The byte a format is announced with. -/
def code : SampleFormat → UInt8
  | unsigned8 => 0
  | signed16Little => 3
  | signed16Big => 4

/-- The format announced by a byte. -/
def ofCode? (code : UInt8) : Option SampleFormat :=
  [unsigned8, signed16Little, signed16Big].find? (·.code = code)

/-- Bytes of one sample. -/
def bytesPerSample : SampleFormat → Nat
  | unsigned8 => 1
  | signed16Little | signed16Big => 2

theorem ofCode?_code (format : SampleFormat) : ofCode? format.code = some format := by
  cases format <;> decide

theorem code_of_ofCode? {code : UInt8} {format : SampleFormat} (h : ofCode? code = some format) :
    format.code = code := by
  simpa using List.find?_some h

end SampleFormat

/-- The format a connection is set up for. -/
structure SampleSpec where
  format : SampleFormat
  rate : UInt32
  channels : UInt8
  deriving DecidableEq, Repr

namespace SampleSpec

/-- What a connection announces before the first track is known. -/
def initial : SampleSpec := ⟨.signed16Little, 44100, 1⟩

/-- The format in which a track is sent. -/
def ofTrack (t : Track) (order : ByteOrder) : SampleSpec where
  format :=
    if t.bits = 8 then .unsigned8
    else match order with
      | .little => .signed16Little
      | .big => .signed16Big
  rate := t.rate
  channels := t.channels.toUInt8

/-- Bytes of audio in one second. -/
def bytesPerSecond (spec : SampleSpec) : Nat :=
  spec.format.bytesPerSample * spec.channels.toNat * spec.rate.toNat

end SampleSpec

/-! ## The header -/

/-- The first bytes of every header: `SPCM`. -/
def magic : List UInt8 := [0x53, 0x50, 0x43, 0x4d]

/-- The length of a header. -/
def headerLength : Nat := 14

/-- The header that announces `spec` and a target length. -/
def encode (spec : SampleSpec) (target : UInt32) : List UInt8 :=
  magic ++ spec.format.code :: spec.channels :: (Wire.word32 spec.rate ++ Wire.word32 target)

/-- Why bytes are no header. -/
inductive HeaderError where
  | noMagic
  | unknownFormat (code : UInt8)
  deriving DecidableEq, Repr

/-- The text of a header error. -/
def HeaderError.message : HeaderError → String
  | noMagic => "stream does not start with a header"
  | unknownFormat code => "unknown sample format " ++ toString code.toNat

/-- Look for a header at the front of `buffer`; the second part is the buffer afterwards. -/
def decode (buffer : List UInt8) :
    Wire.Outcome HeaderError (SampleSpec × UInt32) × List UInt8 :=
  if buffer.length < headerLength then (.incomplete, buffer)
  else if buffer.take 4 ≠ magic then (.malformed .noMagic, buffer)
  else
    match buffer.drop 4 with
    | code :: channels :: rest =>
      match SampleFormat.ofCode? code with
      | none => (.malformed (.unknownFormat code), channels :: rest)
      | some format =>
        match (Wire.read32? rest).bind fun (rate, rest) =>
            (Wire.read32? rest).map fun (target, rest) => (rate, target, rest) with
        | some (rate, target, rest) => (.message (⟨format, rate, channels⟩, target), rest)
        | none => (.incomplete, buffer)
    | _ => (.incomplete, buffer)

/-! ## Reading back -/

@[simp] theorem length_encode (spec : SampleSpec) (target : UInt32) :
    (encode spec target).length = headerLength := by
  simp [encode, headerLength, magic]

/-- A header is read back in front of any audio. -/
theorem decode_encode (spec : SampleSpec) (target : UInt32) (audio : List UInt8) :
    decode (encode spec target ++ audio) = (.message (spec, target), audio) := by
  have long : ¬ (encode spec target ++ audio).length < headerLength := by simp
  have four : magic.length = 4 := rfl
  simp only [decode, if_neg long]
  rw [encode, List.append_assoc, ← four, List.take_left, List.drop_left]
  simp [SampleFormat.ofCode?_code, List.append_assoc]

end Playout.Simple
