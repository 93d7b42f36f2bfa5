import Playout.Simple.Header

/-!
# `Playout.Proofs.Simple.Heading` — what a header takes off a buffer

A buffer that does not begin with a header is to be left as it is, so that it can be shown what came instead. It is left
while it is too short and when it begins with other letters; but of a header with an unknown format the letters and the
format are gone.

## Contents
- `Begins`, `Announces` — buffers that begin like a header, and those that begin with one.
- `decode_of_announces`, `decode_of_unknown` — what is read when the letters are there.

## Main statements
- `kept_unless_unknown` — what reading a header comes to, for every buffer.
- `unknown_not_kept` — a header with an unknown format is not left as it was.
-/

namespace Playout.Simple

/-- The buffer is as long as a header and begins with its letters. -/
def Begins (buffer : List UInt8) : Prop := headerLength ≤ buffer.length ∧ buffer.take 4 = magic

/-- The buffer begins with a header, the format of which is known. -/
def Announces (buffer : List UInt8) : Prop :=
  Begins buffer ∧ ∃ format : SampleFormat, buffer[4]? = some format.code

variable {buffer : List UInt8}

/-- The fields behind the letters. -/
theorem Begins.fields (begins : Begins buffer) : ∃ code channels rate target audio,
    buffer = magic ++ code :: channels :: (Wire.word32 rate ++ (Wire.word32 target ++ audio)) := by
  obtain ⟨long, letters⟩ := begins
  have whole := List.take_append_drop 4 buffer
  rw [letters] at whole
  rw [← whole] at long ⊢
  match buffer.drop 4, long with
  | code :: channels :: bytes, long =>
    simp only [headerLength, magic, List.length_append, List.length_cons, List.length_nil] at long
    obtain ⟨rate, bytes, rfl⟩ := Wire.exists_word32 (show 4 ≤ bytes.length by omega)
    simp only [List.length_append, Wire.length_word32] at long
    obtain ⟨target, audio, rfl⟩ := Wire.exists_word32 (show 4 ≤ bytes.length by omega)
    exact ⟨code, channels, rate, target, audio, rfl⟩

section Fields

variable (code channels : UInt8) (rate target : UInt32) (audio : List UInt8)

/-- Behind the letters the format decides. -/
theorem decode_fields :
    decode (magic ++ code :: channels :: (Wire.word32 rate ++ (Wire.word32 target ++ audio))) =
      match SampleFormat.ofCode? code with
      | some format => (.message (⟨format, rate, channels⟩, target), audio)
      | none => (.malformed (.unknownFormat code), channels :: (Wire.word32 rate ++ (Wire.word32 target ++ audio))) := by
  have long : ¬ (magic ++ code :: channels :: (Wire.word32 rate ++ (Wire.word32 target ++ audio))).length <
      headerLength := by
    simp only [magic, headerLength, List.length_append, List.length_cons, List.length_nil, Wire.length_word32]
    omega
  have four : magic.length = 4 := rfl
  unfold decode
  rw [if_neg long, ← four, List.take_left, if_neg (fun differs => differs rfl), List.drop_left]
  simp only [Wire.read32?_word32, Option.bind_some, Option.map_some]
  cases SampleFormat.ofCode? code with
  | none => rfl
  | some format => rfl

/-- The format stands behind the letters. -/
theorem format_fields :
    (magic ++ code :: channels :: (Wire.word32 rate ++ (Wire.word32 target ++ audio)))[4]? = some code := by
  rfl

end Fields

/-! ## What is left -/

/-- A whole header is taken off, and would be written in the same way. -/
theorem decode_of_announces (announces : Announces buffer) : ∃ spec target,
    decode buffer = (.message (spec, target), buffer.drop headerLength) ∧
      encode spec target = buffer.take headerLength := by
  obtain ⟨begins, format, known⟩ := announces
  obtain ⟨code, channels, rate, target, audio, rfl⟩ := begins.fields
  rw [format_fields, Option.some.injEq] at known
  subst known
  refine ⟨⟨format, rate, channels⟩, target, ?_, ?_⟩
  · rw [decode_fields, SampleFormat.ofCode?_code]
    rfl
  · rfl

/-- Of a header with an unknown format the letters and the format are taken off. -/
theorem decode_of_unknown (begins : Begins buffer) (unknown : ¬ Announces buffer) : ∃ code,
    buffer[4]? = some code ∧ decode buffer = (.malformed (.unknownFormat code), buffer.drop 5) := by
  have others : ∀ format : SampleFormat, buffer[4]? ≠ some format.code :=
    fun format known => unknown ⟨begins, format, known⟩
  obtain ⟨code, channels, rate, target, audio, rfl⟩ := begins.fields
  refine ⟨code, format_fields code channels rate target audio, ?_⟩
  rw [decode_fields]
  cases found : SampleFormat.ofCode? code with
  | none => rfl
  | some format =>
    have same : format.code = code := SampleFormat.code_of_ofCode? found
    exact absurd (format_fields code channels rate target audio) (same ▸ others format)

/-- A buffer that does not begin like a header is left, be it too short or not. -/
theorem decode_of_not_begins (other : ¬ Begins buffer) :
    decode buffer = (if buffer.length < headerLength then .incomplete else .malformed .noMagic, buffer) := by
  unfold decode
  by_cases short : buffer.length < headerLength
  · rw [if_pos short, if_pos short]
  · have letters : buffer.take 4 ≠ magic := fun same => other ⟨Nat.le_of_not_lt short, same⟩
    rw [if_neg short, if_pos letters, if_neg short]

/-- A header is read from a buffer exactly if it begins with one. -/
theorem message_iff_announces (buffer : List UInt8) :
    (∃ message, (decode buffer).1 = .message message) ↔ Announces buffer := by
  constructor
  · rintro ⟨message, read⟩
    apply Classical.byContradiction
    intro unknown
    by_cases begins : Begins buffer
    · obtain ⟨code, -, refused⟩ := decode_of_unknown begins unknown
      rw [refused] at read
      cases read
    · rw [decode_of_not_begins begins] at read
      split at read <;> cases read
  · intro announces
    obtain ⟨spec, target, read, -⟩ := decode_of_announces announces
    exact ⟨(spec, target), by rw [read]⟩

/-- Without a header the buffer is left exactly if it does not even begin like one. -/
theorem kept_iff_not_begins (unknown : ¬ Announces buffer) : (decode buffer).2 = buffer ↔ ¬ Begins buffer := by
  constructor
  · intro kept begins
    have long : headerLength ≤ buffer.length := begins.1
    obtain ⟨code, -, refused⟩ := decode_of_unknown begins unknown
    rw [refused] at kept
    have shorter := congrArg List.length kept
    simp only [List.length_drop] at shorter
    unfold headerLength at long
    omega
  · intro other
    rw [decode_of_not_begins other]

/-- **A buffer is kept unless it begins with a header, or its format is unknown.** From every buffer a header is read
    exactly if it begins with a whole one of a known format; then just the header is taken off, which is what would be
    written for the answer. A buffer that is too short or begins with other letters is left as it is. If only the format
    is unknown, the buffer loses its first five bytes. -/
theorem kept_unless_unknown (buffer : List UInt8) :
    ((∃ message, (decode buffer).1 = .message message) ↔ Announces buffer) ∧
    (∀ spec target, (decode buffer).1 = .message (spec, target) →
      (decode buffer).2 = buffer.drop headerLength ∧ encode spec target = buffer.take headerLength) ∧
    (¬ Announces buffer → ((decode buffer).2 = buffer ↔ ¬ Begins buffer)) ∧
    (¬ Begins buffer → (decode buffer).1 =
      if buffer.length < headerLength then .incomplete else .malformed .noMagic) ∧
    (Begins buffer → ¬ Announces buffer → ∃ code, buffer[4]? = some code ∧
      decode buffer = (.malformed (.unknownFormat code), buffer.drop 5)) := by
  refine ⟨message_iff_announces buffer, ?_, kept_iff_not_begins, ?_, decode_of_unknown⟩
  · intro spec target read
    have announces : Announces buffer := (message_iff_announces buffer).1 ⟨_, read⟩
    obtain ⟨spec', target', whole, same⟩ := decode_of_announces announces
    rw [whole] at read ⊢
    cases read
    exact ⟨rfl, same⟩
  · intro other
    rw [decode_of_not_begins other]

/-- Sixteen bits at 44100 Hz, announced with a format that does not exist. -/
def strange : List UInt8 := magic ++ [7, 2, 0, 0, 0xac, 0x44, 0, 0, 0x02, 0x80]

/-- **A header with an unknown format is refused, and is not left as it was**: its letters and its format are gone, so
    that the rest does not begin like a header any more. -/
theorem unknown_not_kept : Begins strange ∧ decode strange = (.malformed (.unknownFormat 7), strange.drop 5) ∧
    (decode strange).2 ≠ strange ∧ ¬ Begins (decode strange).2 := by
  have refused : decode strange = (.malformed (.unknownFormat 7), strange.drop 5) := by decide
  refine ⟨⟨by decide, by decide⟩, refused, ?_, ?_⟩
  · rw [refused]
    decide
  · rw [refused]
    intro begins
    exact absurd begins.1 (by decide)

end Playout.Simple
