import Playout.Proofs.Flow.Framing

/-!
# `Playout.Proofs.Flow.Grammar` — what readers accept, and what they take off a buffer

A reader looks for one frame at the front of a buffer. It waits as long as the frame is not there; it refuses a header
that declares too much, and leaves it; any other frame it takes off, whether it can read the contents or not.

## Contents
- `numberAt`, `declared`, `front` — the frame that the bytes at the front of a buffer make up, and how long its
  payload is to be.
- `Waits`, `Oversized` — buffers that nothing is taken off.
- `splitFrame_waits`, `splitFrame_of_oversized`, `splitFrame_of_complete` — what looking for a frame comes to.
- `IsRequest`, `IsEvent` — the frames that are known.
- `Contents`, `contents_request`, `contents_event` — what is read from a frame's contents.
- `readings`, `readings_frames` — some readings in a row.

## Main statement
- `readers_follow_grammar` — what reading a request or an event comes to, for every buffer.
-/

namespace Playout.Flow

/-! ## The front of a buffer -/

/-- The number in the four bytes behind the first `place`. -/
def numberAt (place : Nat) (buffer : List UInt8) : UInt32 :=
  ((Wire.read32? (buffer.drop place)).map Prod.fst).getD 0

/-- The length of the payload that the header at the front of a buffer declares. -/
def declared (buffer : List UInt8) : Nat := (numberAt 5 buffer).toNat

/-- The frame that the bytes at the front of a buffer make up, when all of them are there. -/
def front (buffer : List UInt8) : RawFrame :=
  ⟨buffer.headD 0, numberAt 1 buffer, (buffer.drop headerLength).take (declared buffer)⟩

/-- The bytes of a frame. -/
def RawFrame.bytes (raw : RawFrame) : List UInt8 := frame raw.opcode raw.serial raw.payload

/-- The header is not there yet, or it declares a payload that is not there yet. -/
def Waits (buffer : List UInt8) : Prop :=
  buffer.length < headerLength ∨
    declared buffer ≤ maxPayload ∧ buffer.length < headerLength + declared buffer

/-- The header is there, and declares more than a frame can carry. -/
def Oversized (buffer : List UInt8) : Prop :=
  headerLength ≤ buffer.length ∧ maxPayload < declared buffer

variable {buffer : List UInt8}

/-- A frame is complete if there is nothing to wait for and it is not too long. -/
theorem complete_of_not (ready : ¬ Waits buffer) (fits : ¬ Oversized buffer) :
    headerLength ≤ buffer.length ∧ declared buffer ≤ maxPayload ∧
      headerLength + declared buffer ≤ buffer.length := by
  unfold Waits at ready
  unfold Oversized at fits
  omega

/-- Nine bytes are a header. -/
theorem header_of_length (long : headerLength ≤ buffer.length) : ∃ opcode serial length rest,
    buffer = opcode :: (Wire.word32 serial ++ (Wire.word32 length ++ rest)) := by
  cases buffer with
  | nil => exact absurd long (by decide)
  | cons opcode bytes =>
    simp only [headerLength, List.length_cons] at long
    obtain ⟨serial, more, rfl⟩ := Wire.exists_word32 (show 4 ≤ bytes.length by omega)
    simp only [List.length_append, Wire.length_word32] at long
    obtain ⟨length, rest, rfl⟩ := Wire.exists_word32 (show 4 ≤ more.length by omega)
    exact ⟨opcode, serial, length, rest, rfl⟩

section Header

variable (opcode : UInt8) (serial length : UInt32) (rest : List UInt8)

theorem declared_header : declared (opcode :: (Wire.word32 serial ++ (Wire.word32 length ++ rest))) = length.toNat := by
  show (((Wire.read32? (Wire.word32 length ++ rest)).map Prod.fst).getD 0).toNat = length.toNat
  rw [Wire.read32?_word32]
  rfl

/-- What a header declares does not change when more arrives. -/
theorem declared_append (long : headerLength ≤ buffer.length) (tail : List UInt8) :
    declared (buffer ++ tail) = declared buffer := by
  obtain ⟨opcode, serial, length, rest, rfl⟩ := header_of_length long
  have grown : opcode :: (Wire.word32 serial ++ (Wire.word32 length ++ rest)) ++ tail =
      opcode :: (Wire.word32 serial ++ (Wire.word32 length ++ (rest ++ tail))) := by
    simp only [List.cons_append, List.append_assoc]
  rw [grown, declared_header, declared_header]

theorem front_header : front (opcode :: (Wire.word32 serial ++ (Wire.word32 length ++ rest))) =
    ⟨opcode, serial, rest.take length.toNat⟩ := by
  unfold front
  rw [declared_header]
  have read : numberAt 1 (opcode :: (Wire.word32 serial ++ (Wire.word32 length ++ rest))) = serial := by
    show ((Wire.read32? (Wire.word32 serial ++ (Wire.word32 length ++ rest))).map Prod.fst).getD 0 = serial
    rw [Wire.read32?_word32]
    rfl
  rw [read]
  rfl

theorem splitFrame_header : splitFrame (opcode :: (Wire.word32 serial ++ (Wire.word32 length ++ rest))) =
    if maxPayload < length.toNat then
      (.malformed (.oversized length.toNat), opcode :: (Wire.word32 serial ++ (Wire.word32 length ++ rest)))
    else if rest.length < length.toNat then
      (.incomplete, opcode :: (Wire.word32 serial ++ (Wire.word32 length ++ rest)))
    else (.message ⟨opcode, serial, rest.take length.toNat⟩, rest.drop length.toNat) :=
  splitFrame_of_header (by simp only [Wire.read32?_word32, Option.bind_some, Option.map_some])

end Header

/-! ## Looking for a frame -/

/-- Without a header there is no frame. -/
theorem splitFrame_of_short (short : buffer.length < headerLength) : splitFrame buffer = (.incomplete, buffer) := by
  cases buffer with
  | nil => rfl
  | cons opcode bytes =>
    simp only [splitFrame]
    split
    · next serial length rest found =>
      -- Both numbers could be read, so that there are eight bytes behind the opcode.
      simp only [Option.bind_eq_some_iff, Option.map_eq_some_iff] at found
      obtain ⟨⟨_, _⟩, first, ⟨_, _⟩, second, -⟩ := found
      have one := congrArg List.length (Wire.word32_of_read32? first)
      have two := congrArg List.length (Wire.word32_of_read32? second)
      simp only [List.length_append, Wire.length_word32] at one two
      simp only [headerLength, List.length_cons] at short
      omega
    · rfl

theorem splitFrame_waits (waits : Waits buffer) : splitFrame buffer = (.incomplete, buffer) := by
  by_cases short : buffer.length < headerLength
  · exact splitFrame_of_short short
  · obtain ⟨opcode, serial, length, rest, rfl⟩ := header_of_length (Nat.le_of_not_lt short)
    obtain ⟨fits, missing⟩ := waits.resolve_left short
    rw [declared_header] at fits missing
    simp only [headerLength, List.length_cons, List.length_append, Wire.length_word32] at missing
    rw [splitFrame_header, if_neg (Nat.not_lt.2 fits), if_pos (by omega)]

theorem splitFrame_of_oversized (oversized : Oversized buffer) :
    splitFrame buffer = (.malformed (.oversized (declared buffer)), buffer) := by
  obtain ⟨long, much⟩ := oversized
  obtain ⟨opcode, serial, length, rest, rfl⟩ := header_of_length long
  rw [declared_header] at much ⊢
  rw [splitFrame_header, if_pos much]

/-- **A complete frame is taken off**, and nothing else is. -/
theorem splitFrame_of_complete (ready : ¬ Waits buffer) (fits : ¬ Oversized buffer) :
    splitFrame buffer = (.message (front buffer), buffer.drop (headerLength + declared buffer)) := by
  obtain ⟨long, few, whole⟩ := complete_of_not ready fits
  obtain ⟨opcode, serial, length, rest, rfl⟩ := header_of_length long
  rw [declared_header] at few whole ⊢
  simp only [headerLength, List.length_cons, List.length_append, Wire.length_word32] at whole
  rw [splitFrame_header, if_neg (Nat.not_lt.2 few), if_neg (by omega), front_header, ← List.drop_drop]
  rfl

/-- The bytes of a complete frame are the ones that are taken off. -/
theorem bytes_front (ready : ¬ Waits buffer) (fits : ¬ Oversized buffer) :
    (front buffer).bytes = buffer.take (headerLength + declared buffer) := by
  obtain ⟨long, -, whole⟩ := complete_of_not ready fits
  obtain ⟨opcode, serial, length, rest, rfl⟩ := header_of_length long
  rw [declared_header] at whole ⊢
  simp only [headerLength, List.length_cons, List.length_append, Wire.length_word32] at whole
  have all : (rest.take length.toNat).length = length.toNat := List.length_take_of_le (by omega)
  rw [front_header, RawFrame.bytes, frame, all, UInt32.ofNat_toNat, headerLength, Nat.add_comm]
  rfl

/-! ## What frames hold -/

/-- The frames that are known as requests: one to play, with all its fields and a known format, or one to stop. -/
def RawFrame.IsRequest (raw : RawFrame) : Prop :=
  raw.opcode = 0x01 ∧ playFields ≤ raw.payload.length ∧ (raw.payload.head? = some 1 ∨ raw.payload.head? = some 2) ∨
    raw.opcode = 0x02 ∧ 4 ≤ raw.payload.length

/-- The frames that are known as events: that a flow has started or ended, or that a request failed. -/
def RawFrame.IsEvent (raw : RawFrame) : Prop :=
  (raw.opcode = 0x81 ∨ raw.opcode = 0x82) ∧ 4 ≤ raw.payload.length ∨ raw.opcode = 0x8f ∧ 7 ≤ raw.payload.length

/-- A payload of this length is all used: audio may be of any length, and what has none consists of its fields. -/
def Request.Fills (length : Nat) : Request → Prop
  | play .. => True
  | stop _ => length = 4

/-- A payload of this length consists of the fields of the event. -/
def Event.Fills (length : Nat) : Event → Prop
  | started _ | done _ => length = 4
  | failed _ => length = 7

/-- How the contents of frames are read: the frames that are known, and for a message the opcode and the payload that it
    is written with. What is read is what stands in front; there is something behind it unless the payload is all used. -/
structure Contents {α : Type} (contents : RawFrame → Except FrameError α) (known : RawFrame → Prop)
    (opcode : α → UInt8) (payload : α → List UInt8) (fills : Nat → α → Prop) : Prop where
  known : ∀ raw, (∃ value, contents raw = .ok value) ↔ known raw
  opcode : ∀ raw value, contents raw = .ok value → opcode value = raw.opcode
  payload : ∀ raw value, contents raw = .ok value → ∃ extra,
    raw.payload = payload value ++ extra ∧ (extra = [] ↔ fills raw.payload.length value)

/-- A number is read from a payload that is long enough. -/
theorem readFlow_eq_ok_iff {what : String} {payload : List UInt8} {flow : UInt32} :
    readFlow what payload = .ok flow ↔ ∃ extra, payload = Wire.word32 flow ++ extra := by
  unfold readFlow
  constructor
  · intro read
    split at read
    · next number rest found =>
      cases read
      exact ⟨rest, Wire.word32_of_read32? found⟩
    · cases read
  · rintro ⟨extra, rfl⟩
    rw [Wire.read32?_word32]

theorem four_le_length {n : UInt32} {extra : List UInt8} : 4 ≤ (Wire.word32 n ++ extra).length := by
  rw [List.length_append, Wire.length_word32]
  omega

/-- A payload that is read as one number holds the number in front. -/
theorem exists_readFlow_iff {what : String} {payload : List UInt8} :
    (∃ flow, readFlow what payload = .ok flow) ↔ 4 ≤ payload.length := by
  constructor
  · rintro ⟨flow, read⟩
    obtain ⟨extra, rfl⟩ := readFlow_eq_ok_iff.1 read
    exact four_le_length
  · intro long
    obtain ⟨flow, extra, same⟩ := Wire.exists_word32 long
    exact ⟨flow, readFlow_eq_ok_iff.2 ⟨extra, same⟩⟩

theorem map_eq_ok_iff {ε β γ : Type} {f : β → γ} {x : Except ε β} {c : γ} :
    x.map f = .ok c ↔ ∃ b, x = .ok b ∧ f b = c := by
  cases x <;> simp [Except.map]

/-- Behind one number nothing is left if the payload is as long as the number. -/
theorem extra_eq_nil_iff {n : UInt32} {extra : List UInt8} : extra = [] ↔ (Wire.word32 n ++ extra).length = 4 := by
  rw [List.length_append, Wire.length_word32, ← List.length_eq_zero_iff]
  omega

/-- A message that consists of one flow is read from the front of the payload. -/
theorem eq_of_map_readFlow {α : Type} {what : String} {bytes : List UInt8} {message : UInt32 → α} {value : α}
    (read : (readFlow what bytes).map message = .ok value) : ∃ flow extra, message flow = value ∧
      bytes = Wire.word32 flow ++ extra ∧ (extra = [] ↔ bytes.length = 4) := by
  obtain ⟨flow, number, same⟩ := map_eq_ok_iff.1 read
  obtain ⟨extra, rfl⟩ := readFlow_eq_ok_iff.1 number
  exact ⟨flow, extra, same, rfl, extra_eq_nil_iff⟩

/-! ### Requests -/

theorem Format.code_of_ofCode? {code : UInt8} {format : Format} (known : ofCode? code = some format) :
    format.code = code := by
  simpa using List.find?_some known

theorem Format.exists_ofCode?_iff {code : UInt8} : (∃ format, ofCode? code = some format) ↔ code = 1 ∨ code = 2 := by
  constructor
  · rintro ⟨format, known⟩
    rw [← code_of_ofCode? known]
    cases format
    · exact .inl rfl
    · exact .inr rfl
  · rintro (rfl | rfl)
    · exact ⟨signed8, rfl⟩
    · exact ⟨signed16Little, rfl⟩

/-- The fields of a play request. -/
theorem fields_of_length {payload : List UInt8} (long : playFields ≤ payload.length) :
    ∃ code channels rate volume frames data, payload =
      code :: channels :: (Wire.word32 rate ++ (Wire.word32 volume ++ (Wire.word32 frames ++ data))) := by
  match payload, long with
  | code :: channels :: bytes, long =>
    simp only [playFields, List.length_cons] at long
    obtain ⟨rate, bytes, rfl⟩ := Wire.exists_word32 (show 4 ≤ bytes.length by omega)
    simp only [List.length_append, Wire.length_word32] at long
    obtain ⟨volume, bytes, rfl⟩ := Wire.exists_word32 (show 4 ≤ bytes.length by omega)
    simp only [List.length_append, Wire.length_word32] at long
    obtain ⟨frames, data, rfl⟩ := Wire.exists_word32 (show 4 ≤ bytes.length by omega)
    exact ⟨code, channels, rate, volume, frames, data, rfl⟩

/-- A play request is read from its fields and the audio behind them, if its format is known. -/
theorem exists_toRequest_play {raw : RawFrame} (opcode : raw.opcode = 0x01) (long : playFields ≤ raw.payload.length)
    (known : raw.payload.head? = some 1 ∨ raw.payload.head? = some 2) : ∃ request, raw.toRequest = .ok request := by
  obtain ⟨code, channels, rate, volume, frames, data, same⟩ := fields_of_length long
  rw [same, List.head?_cons, Option.some.injEq, Option.some.injEq] at known
  obtain ⟨format, found⟩ := Format.exists_ofCode?_iff.2 known
  refine ⟨.play format channels rate volume frames data, ?_⟩
  unfold RawFrame.toRequest
  rw [if_pos opcode, same]
  simp only [Wire.read32?_word32, Option.bind_some, Option.map_some, found]

/-- What is read as a request is written like the front of the frame, and like all of it if it carries audio. -/
theorem payload_of_toRequest {raw : RawFrame} {request : Request} (read : raw.toRequest = .ok request) :
    request.opcode = raw.opcode ∧ ∃ extra, raw.payload = request.payload ++ extra ∧
      (extra = [] ↔ request.Fills raw.payload.length) := by
  unfold RawFrame.toRequest at read
  split at read
  · next opcode =>
    split at read
    · next code channels rest same =>
      split at read
      · next rate volume frames data found =>
        split at read
        · next format known =>
          cases read
          simp only [Option.bind_eq_some_iff, Option.map_eq_some_iff, Prod.exists, Prod.mk.injEq] at found
          obtain ⟨_, _, one, _, _, two, _, _, three, rfl, rfl, rfl, rfl⟩ := found
          refine ⟨opcode.symm, [], ?_, iff_of_true rfl trivial⟩
          rw [same, Wire.word32_of_read32? one, Wire.word32_of_read32? two, Wire.word32_of_read32? three,
            Request.payload, Format.code_of_ofCode? known]
          simp
        · cases read
      · cases read
    · cases read
  · split at read
    · next opcode =>
      obtain ⟨flow, extra, rfl, same, used⟩ := eq_of_map_readFlow read
      exact ⟨opcode.symm, extra, same, used⟩
    · cases read

theorem Request.isRequest {raw : RawFrame} {request : Request} (opcode : request.opcode = raw.opcode)
    {extra : List UInt8} (same : raw.payload = request.payload ++ extra) : raw.IsRequest := by
  cases request with
  | play format channels rate volume frames data =>
    refine .inl ⟨opcode.symm, ?_, ?_⟩
    · rw [same]
      simp only [Request.payload, playFields, List.length_append, List.length_cons, Wire.length_word32]
      omega
    · rw [same]
      cases format
      · exact .inl rfl
      · exact .inr rfl
  | stop flow =>
    refine .inr ⟨opcode.symm, ?_⟩
    rw [same]
    exact four_le_length

theorem contents_request : Contents RawFrame.toRequest RawFrame.IsRequest Request.opcode Request.payload Request.Fills where
  known raw := by
    constructor
    · rintro ⟨request, read⟩
      obtain ⟨opcode, extra, same, -⟩ := payload_of_toRequest read
      exact request.isRequest opcode same
    · rintro (⟨opcode, long, known⟩ | ⟨opcode, long⟩)
      · exact exists_toRequest_play opcode long known
      · obtain ⟨flow, read⟩ := exists_readFlow_iff.2 long
        refine ⟨.stop flow, ?_⟩
        unfold RawFrame.toRequest
        rw [if_neg (by rw [opcode]; decide), if_pos opcode, read]
        rfl
  opcode _ _ read := (payload_of_toRequest read).1
  payload _ _ read := (payload_of_toRequest read).2

/-! ### Events -/

/-- What is read as an event is written like the front of the frame. -/
theorem payload_of_toEvent {raw : RawFrame} {event : Event} (read : raw.toEvent = .ok event) :
    event.opcode = raw.opcode ∧ ∃ extra, raw.payload = event.payload ++ extra ∧
      (extra = [] ↔ event.Fills raw.payload.length) := by
  unfold RawFrame.toEvent at read
  split at read
  · next opcode =>
    obtain ⟨flow, extra, rfl, same, used⟩ := eq_of_map_readFlow read
    exact ⟨opcode.symm, extra, same, used⟩
  · split at read
    · next opcode =>
      obtain ⟨flow, extra, rfl, same, used⟩ := eq_of_map_readFlow read
      exact ⟨opcode.symm, extra, same, used⟩
    · split at read
      · next opcode =>
        split at read
        · next errorCode requestCode minorCode rest same =>
          split at read
          · next resource extra found =>
            cases read
            obtain rfl := Wire.word32_of_read32? found
            refine ⟨opcode.symm, extra, same, ?_⟩
            rw [same, extra_eq_nil_iff (n := resource)]
            simp only [Event.Fills, List.length_cons]
            omega
          · cases read
        · cases read
      · cases read

theorem Event.isEvent {raw : RawFrame} {event : Event} (opcode : event.opcode = raw.opcode)
    {extra : List UInt8} (same : raw.payload = event.payload ++ extra) : raw.IsEvent := by
  cases event with
  | started flow =>
    refine .inl ⟨.inl opcode.symm, ?_⟩
    rw [same]
    exact four_le_length
  | done flow =>
    refine .inl ⟨.inr opcode.symm, ?_⟩
    rw [same]
    exact four_le_length
  | failed e =>
    refine .inr ⟨opcode.symm, ?_⟩
    rw [same, Event.payload]
    simp only [List.length_append, List.length_cons, Wire.length_word32]
    omega

/-- The event of a failure is read from its seven bytes. -/
theorem exists_toEvent_failed {raw : RawFrame} (opcode : raw.opcode = 0x8f) (long : 7 ≤ raw.payload.length) :
    ∃ event, raw.toEvent = .ok event := by
  obtain ⟨code, serial, payload⟩ := raw
  obtain rfl : code = 0x8f := opcode
  match payload, long with
  | errorCode :: requestCode :: minorCode :: bytes, long =>
    simp only [List.length_cons] at long
    obtain ⟨resource, extra, rfl⟩ := Wire.exists_word32 (show 4 ≤ bytes.length by omega)
    refine ⟨.failed ⟨errorCode, requestCode, minorCode, resource⟩, ?_⟩
    unfold RawFrame.toEvent
    simp [Wire.read32?_word32]

theorem contents_event : Contents RawFrame.toEvent RawFrame.IsEvent Event.opcode Event.payload Event.Fills where
  known raw := by
    constructor
    · rintro ⟨event, read⟩
      obtain ⟨opcode, extra, same, -⟩ := payload_of_toEvent read
      exact event.isEvent opcode same
    · rintro (⟨opcode | opcode, long⟩ | ⟨opcode, long⟩)
      · obtain ⟨flow, read⟩ := exists_readFlow_iff.2 long
        refine ⟨.started flow, ?_⟩
        unfold RawFrame.toEvent
        rw [if_pos opcode, read]
        rfl
      · obtain ⟨flow, read⟩ := exists_readFlow_iff.2 long
        refine ⟨.done flow, ?_⟩
        unfold RawFrame.toEvent
        rw [if_neg (by rw [opcode]; decide), if_pos opcode, read]
        rfl
      · exact exists_toEvent_failed opcode long
  opcode _ _ read := (payload_of_toEvent read).1
  payload _ _ read := (payload_of_toEvent read).2

/-! ## Reading -/

section Reading

variable {α : Type} {contents : RawFrame → Except FrameError α} {known : RawFrame → Prop} {opcode : α → UInt8}
  {payload : α → List UInt8} {fills : Nat → α → Prop}

/-- What a complete frame is read as. -/
def RawFrame.outcome (contents : RawFrame → Except FrameError α) (raw : RawFrame) :
    Wire.Outcome FrameError (UInt32 × α) :=
  .ofExcept ((contents raw).map (raw.serial, ·))

theorem outcome_of_ok {raw : RawFrame} {value : α} (read : contents raw = .ok value) :
    raw.outcome contents = .message (raw.serial, value) := by
  rw [RawFrame.outcome, read]
  rfl

theorem outcome_of_error {raw : RawFrame} {reason : FrameError} (read : contents raw = .error reason) :
    raw.outcome contents = .malformed reason := by
  rw [RawFrame.outcome, read]
  rfl

/-- A complete frame is never waited for. -/
theorem outcome_ne_incomplete (raw : RawFrame) : raw.outcome contents ≠ .incomplete := by
  cases read : contents raw with
  | ok value =>
    rw [outcome_of_ok read]
    nofun
  | error reason =>
    rw [outcome_of_error read]
    nofun

/-- A frame is read as a message exactly if it is known. -/
theorem Contents.outcome_eq_message_iff (c : Contents contents known opcode payload fills) (raw : RawFrame) :
    (∃ message, raw.outcome contents = .message message) ↔ known raw := by
  rw [← c.known]
  cases read : contents raw with
  | ok value =>
    rw [outcome_of_ok read]
    exact iff_of_true ⟨_, rfl⟩ ⟨value, rfl⟩
  | error reason =>
    rw [outcome_of_error read]
    exact iff_of_false (fun ⟨_, same⟩ => nomatch same) (fun ⟨_, same⟩ => nomatch same)

/-- A frame that is not known is refused. -/
theorem Contents.outcome_eq_malformed (c : Contents contents known opcode payload fills) {raw : RawFrame}
    (unknown : ¬ known raw) : ∃ reason, raw.outcome contents = .malformed reason := by
  cases read : contents raw with
  | ok value => exact absurd ((c.known raw).1 ⟨value, read⟩) unknown
  | error reason => exact ⟨reason, outcome_of_error read⟩

theorem decodeWith_waits (waits : Waits buffer) : decodeWith contents buffer = (.incomplete, buffer) := by
  rw [decodeWith, splitFrame_waits waits]

theorem decodeWith_of_oversized (oversized : Oversized buffer) :
    decodeWith contents buffer = (.malformed (.oversized (declared buffer)), buffer) := by
  rw [decodeWith, splitFrame_of_oversized oversized]

theorem decodeWith_of_complete (ready : ¬ Waits buffer) (fits : ¬ Oversized buffer) :
    decodeWith contents buffer
      = ((front buffer).outcome contents, buffer.drop (headerLength + declared buffer)) := by
  rw [decodeWith, splitFrame_of_complete ready fits]
  rfl

/-- The frame at the front is longer than nothing, so that taking it off changes the buffer. -/
theorem drop_ne_of_complete (ready : ¬ Waits buffer) (fits : ¬ Oversized buffer) :
    buffer.drop (headerLength + declared buffer) ≠ buffer := by
  intro same
  have long := (complete_of_not ready fits).1
  have shorter := congrArg List.length same
  rw [List.length_drop] at shorter
  unfold headerLength at long shorter
  omega

/-- A message is read from a complete frame only. -/
theorem complete_of_message {message : UInt32 × α} (read : (decodeWith contents buffer).1 = .message message) :
    ¬ Waits buffer ∧ ¬ Oversized buffer := by
  constructor
  · intro waits
    rw [decodeWith_waits waits] at read
    cases read
  · intro oversized
    rw [decodeWith_of_oversized oversized] at read
    cases read

/-- What is left incomplete is waited for. -/
theorem waits_of_incomplete (waiting : (decodeWith contents buffer).1 = .incomplete) : Waits buffer := by
  apply Classical.byContradiction
  intro ready
  by_cases oversized : Oversized buffer
  · rw [decodeWith_of_oversized oversized] at waiting
    cases waiting
  · rw [decodeWith_of_complete ready oversized] at waiting
    exact outcome_ne_incomplete _ waiting

/-- What is refused and left is a header that declares too much. -/
theorem oversized_of_kept {reason : FrameError} (refused : decodeWith contents buffer = (.malformed reason, buffer)) :
    Oversized buffer := by
  apply Classical.byContradiction
  intro fits
  by_cases waits : Waits buffer
  · rw [decodeWith_waits waits] at refused
    cases refused
  · rw [decodeWith_of_complete waits fits] at refused
    exact drop_ne_of_complete waits fits (Prod.mk.inj refused).2

/-! ### Writing again -/

/-- What is written again is the frame that was read, exactly if its payload is all used. -/
theorem Contents.bytes_eq_iff (c : Contents contents known opcode payload fills) {raw : RawFrame} {value : α}
    (read : contents raw = .ok value) :
    frame (opcode value) raw.serial (payload value) = raw.bytes ↔ fills raw.payload.length value := by
  obtain ⟨extra, same, used⟩ := c.payload raw value read
  rw [← used, c.opcode raw value read, RawFrame.bytes, same]
  constructor
  · intro equal
    have lengths := congrArg List.length equal
    simp only [frame, List.length_append, List.length_cons, Wire.length_word32] at lengths
    exact List.length_eq_zero_iff.1 (by omega)
  · rintro rfl
    rw [List.append_nil]

/-! ### Some readings in a row -/

/-- The answers of some readings in a row, and what is left after them. A refusal does not end them. -/
def readings {β : Type} (decode : List UInt8 → β × List UInt8) : Nat → List UInt8 → List β × List UInt8
  | 0, buffer => ([], buffer)
  | n + 1, buffer =>
    let later := readings decode n (decode buffer).2
    ((decode buffer).1 :: later.1, later.2)

/-- A frame that is not too long is read apart from what follows. -/
theorem decodeWith_bytes {raw : RawFrame} (fits : raw.payload.length ≤ maxPayload) (rest : List UInt8) :
    decodeWith contents (raw.bytes ++ rest) = (raw.outcome contents, rest) := by
  rw [decodeWith, RawFrame.bytes, splitFrame_frame raw.opcode raw.serial fits rest]
  rfl

/-- **Frames are read one by one**, each as if it were alone, be they known or not. -/
theorem readings_frames {frames : List RawFrame} (fit : ∀ raw ∈ frames, raw.payload.length ≤ maxPayload)
    (rest : List UInt8) (n : Nat) :
    readings (decodeWith contents) (frames.length + n) (frames.flatMap RawFrame.bytes ++ rest) =
      (frames.map (RawFrame.outcome contents) ++ (readings (decodeWith contents) n rest).1,
        (readings (decodeWith contents) n rest).2) := by
  induction frames with
  | nil =>
    rw [List.length_nil, Nat.zero_add]
    rfl
  | cons raw frames ih =>
    have others := ih fun raw mem => fit raw (List.mem_cons_of_mem _ mem)
    rw [List.length_cons, Nat.add_right_comm, List.flatMap_cons, List.append_assoc, readings,
      decodeWith_bytes (fit raw List.mem_cons_self)]
    simp only [others, List.map_cons, List.cons_append]

end Reading

/-! ## The grammar -/

/-- A reader follows the grammar of frames, for the frames that are known to it. -/
structure FollowsGrammar {α : Type} (decode : List UInt8 → Wire.Outcome FrameError (UInt32 × α) × List UInt8)
    (known : RawFrame → Prop) (encode : UInt32 → α → List UInt8) (payload : α → List UInt8)
    (fills : Nat → α → Prop) : Prop where
  /-- While a frame is not complete there is no answer, and the buffer is left. -/
  waits : ∀ buffer, decode buffer = (.incomplete, buffer) ↔ Waits buffer
  /-- In no other case there is no answer. -/
  ready : ∀ buffer, (decode buffer).1 = .incomplete → Waits buffer
  /-- A refusal leaves the buffer exactly if its header declares too much. -/
  refuses : ∀ buffer, (∃ reason, decode buffer = (.malformed reason, buffer)) ↔ Oversized buffer
  /-- Any other frame is taken off, and no more than that. -/
  takes : ∀ buffer, ¬ Waits buffer → ¬ Oversized buffer →
    headerLength + declared buffer ≤ buffer.length ∧
      (decode buffer).2 = buffer.drop (headerLength + declared buffer)
  /-- It is read exactly if it is known, and else refused. -/
  reads : ∀ buffer, ¬ Waits buffer → ¬ Oversized buffer →
    ((∃ message, (decode buffer).1 = .message message) ↔ known (front buffer)) ∧
      (¬ known (front buffer) → ∃ reason, (decode buffer).1 = .malformed reason)
  /-- What is read is what the frame holds. -/
  holds : ∀ buffer serial value, (decode buffer).1 = .message (serial, value) →
    serial = (front buffer).serial ∧ payload value <+: (front buffer).payload
  /-- Written again it is the bytes that were taken off, exactly if they are all used. -/
  writes : ∀ buffer serial value, (decode buffer).1 = .message (serial, value) →
    (encode serial value = buffer.take (headerLength + declared buffer) ↔ fills (declared buffer) value)
  /-- Without a frame that is refused, all other frames are read in the same way. -/
  resumes : ∀ (before : List RawFrame) (bad : RawFrame) (rest : List UInt8) (n : Nat),
    (∀ raw ∈ before, raw.payload.length ≤ maxPayload) → bad.payload.length ≤ maxPayload → ¬ known bad →
      ∃ answers reason later left, answers.length = before.length ∧
        readings decode (before.length + n) (before.flatMap RawFrame.bytes ++ rest) = (answers ++ later, left) ∧
        readings decode (before.length + (n + 1)) (before.flatMap RawFrame.bytes ++ (bad.bytes ++ rest)) =
          (answers ++ .malformed reason :: later, left)

/-- A reader follows the grammar if its contents are read by it. -/
theorem Contents.followsGrammar {α : Type} {contents : RawFrame → Except FrameError α} {known : RawFrame → Prop}
    {opcode : α → UInt8} {payload : α → List UInt8} {fills : Nat → α → Prop}
    (c : Contents contents known opcode payload fills) :
    FollowsGrammar (decodeWith contents) known (fun serial value => frame (opcode value) serial (payload value))
      payload fills := by
  have complete (buffer : List UInt8) {message : UInt32 × α} (read : (decodeWith contents buffer).1 = .message message) :
      ¬ Waits buffer ∧ ¬ Oversized buffer ∧ contents (front buffer) = .ok message.2 ∧
        message.1 = (front buffer).serial := by
    obtain ⟨ready, fits⟩ := complete_of_message read
    rw [decodeWith_of_complete ready fits] at read
    cases found : contents (front buffer) with
    | ok value =>
      rw [outcome_of_ok found] at read
      cases read
      exact ⟨ready, fits, rfl, rfl⟩
    | error reason =>
      rw [outcome_of_error found] at read
      cases read
  constructor
  · intro buffer
    refine ⟨fun same => ?_, decodeWith_waits⟩
    have waiting : (decodeWith contents buffer).1 = .incomplete := by rw [same]
    exact waits_of_incomplete waiting
  · exact fun buffer => waits_of_incomplete
  · intro buffer
    exact ⟨fun ⟨_, refused⟩ => oversized_of_kept refused, fun much => ⟨_, decodeWith_of_oversized much⟩⟩
  · intro buffer ready fits
    rw [decodeWith_of_complete ready fits]
    exact ⟨(complete_of_not ready fits).2.2, rfl⟩
  · intro buffer ready fits
    rw [decodeWith_of_complete ready fits]
    exact ⟨c.outcome_eq_message_iff _, c.outcome_eq_malformed⟩
  · intro buffer serial value read
    obtain ⟨-, -, found, same⟩ := complete buffer read
    obtain ⟨extra, payload, -⟩ := c.payload _ _ found
    exact ⟨same, extra, payload.symm⟩
  · intro buffer serial value read
    obtain ⟨ready, fits, found, rfl⟩ := complete buffer read
    have whole := (complete_of_not ready fits).2.2
    have length : (front buffer).payload.length = declared buffer := by
      show ((buffer.drop headerLength).take (declared buffer)).length = declared buffer
      rw [List.length_take_of_le]
      rw [List.length_drop]
      omega
    rw [← bytes_front ready fits, ← length]
    exact c.bytes_eq_iff found
  · intro before bad rest n fit fits unknown
    obtain ⟨reason, refused⟩ := c.outcome_eq_malformed unknown
    refine ⟨before.map (RawFrame.outcome contents), reason, _, _, List.length_map _, readings_frames fit rest n, ?_⟩
    rw [readings_frames fit, readings, decodeWith_bytes fits, refused]

/-- **Readers follow the grammar of frames.** For every buffer a request, or an event, is waited for as long as it is not
    complete; a header that declares too much is refused and left; any other frame is taken off, read if it is known and
    refused if not, so that the frames behind it are read as if it had not been there. Written again, a message is the
    frame that was taken off, unless there was something behind its fields that it has no use for. -/
theorem readers_follow_grammar :
    FollowsGrammar decodeRequest RawFrame.IsRequest encodeRequest Request.payload Request.Fills ∧
      FollowsGrammar decodeEvent RawFrame.IsEvent encodeEvent Event.payload Event.Fills :=
  ⟨contents_request.followsGrammar, contents_event.followsGrammar⟩

/-- A byte behind the fields is taken off with the frame, and is lost. -/
example : decodeRequest [0x02, 0, 0, 0, 1, 0, 0, 0, 5, 0, 0, 0, 7, 9] = (.message (1, .stop 7), []) := by decide

end Playout.Flow
