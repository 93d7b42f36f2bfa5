import Playout.Text.Hex
import Playout.Wire.Word

/-!
# `Playout.Flow.Frame` — the messages of a flow server

A frame is a header of nine bytes — opcode, serial and payload length — and a payload. A client asks
for a flow with all its audio in one frame, or for a flow to be stopped; a server tells that a flow has
started or ended, or that a request failed. The client chooses the serial of a request and the answer
carries it again; serial 0 belongs to what nobody asked for.

## Contents
- `Format`, `Request`, `ServerError`, `Event`.
- `encodeRequest`, `encodeEvent`.
- `splitFrame` — one complete frame off the front of a buffer.
- `decodeRequest`, `decodeEvent`, and `FrameError`.

A frame that is complete is taken off the buffer even when its contents are refused, so that the next
frame can be read. A header that announces more than the greatest payload is left where it is.
-/

namespace Playout.Flow

/-! ## Messages -/

/-- How the samples of a flow are laid out. -/
inductive Format where
  | signed8
  | signed16Little
  deriving DecidableEq, Repr

/-- The byte of a format. -/
def Format.code : Format → UInt8
  | signed8 => 1
  | signed16Little => 2

/-- The format of a byte. -/
def Format.ofCode? (code : UInt8) : Option Format :=
  [signed8, signed16Little].find? (·.code = code)

/-- What a client asks for. -/
inductive Request where
  /-- Play all of `data` as one flow. -/
  | play (format : Format) (channels : UInt8) (rate volume frames : UInt32) (data : List UInt8)
  /-- Stop a flow. -/
  | stop (flow : UInt32)
  deriving DecidableEq, Repr

/-- The failure of one request, which leaves the connection as it is. -/
structure ServerError where
  errorCode : UInt8
  requestCode : UInt8
  minorCode : UInt8
  resource : UInt32
  deriving DecidableEq, Repr

/-- What a server tells. -/
inductive Event where
  | started (flow : UInt32)
  | done (flow : UInt32)
  | failed (error : ServerError)
  deriving DecidableEq, Repr

/-! ## Writing -/

/-- The length of a frame's header. -/
def headerLength : Nat := 9

/-- The greatest payload: about three minutes of 16-bit stereo. -/
def maxPayload : Nat := 32 * 1024 * 1024

/-- Bytes of a play request in front of its audio. -/
def playFields : Nat := 14

/-- The most audio that one flow can carry. -/
def maxFlowData : Nat := maxPayload - playFields

/-- A frame: its header with the length of the payload, and the payload. -/
def frame (opcode : UInt8) (serial : UInt32) (payload : List UInt8) : List UInt8 :=
  opcode :: (Wire.word32 serial ++ Wire.word32 (UInt32.ofNat payload.length)) ++ payload

/-- The opcode of a request. -/
def Request.opcode : Request → UInt8
  | play .. => 0x01
  | stop _ => 0x02

/-- The payload of a request. -/
def Request.payload : Request → List UInt8
  | play format channels rate volume frames data =>
    format.code :: channels :: (Wire.word32 rate ++ Wire.word32 volume ++ Wire.word32 frames ++ data)
  | stop flow => Wire.word32 flow

/-- The frame of a request. -/
def encodeRequest (serial : UInt32) (request : Request) : List UInt8 :=
  frame request.opcode serial request.payload

/-- The opcode of an event. -/
def Event.opcode : Event → UInt8
  | started _ => 0x81
  | done _ => 0x82
  | failed _ => 0x8f

/-- The payload of an event. -/
def Event.payload : Event → List UInt8
  | started flow | done flow => Wire.word32 flow
  | failed e => e.errorCode :: e.requestCode :: e.minorCode :: Wire.word32 e.resource

/-- The frame of an event. -/
def encodeEvent (serial : UInt32) (event : Event) : List UInt8 :=
  frame event.opcode serial event.payload

/-! ## Reading -/

/-- Why bytes are no frame, or a frame is no message. -/
inductive FrameError where
  | oversized (length : Nat)
  | unknownRequest (opcode : UInt8)
  | unknownEvent (opcode : UInt8)
  | tooShort (what : String) (length : Nat)
  | unknownFormat (code : UInt8)
  deriving DecidableEq, Repr

/-- A byte as two hexadecimal digits with a prefix. -/
def opcodeText (opcode : UInt8) : String :=
  "0x" ++ Text.hex [opcode]

/-- The text of a frame error. -/
def FrameError.message : FrameError → String
  | oversized length => "frame payload of " ++ toString length ++ " bytes exceeds the limit"
  | unknownRequest opcode => "unknown request opcode " ++ opcodeText opcode
  | unknownEvent opcode => "unknown event opcode " ++ opcodeText opcode
  | tooShort what length => what ++ " payload too short: " ++ toString length ++ " bytes"
  | unknownFormat code => "unknown flow format " ++ toString code.toNat

/-- A frame whose contents have not been looked at. -/
structure RawFrame where
  opcode : UInt8
  serial : UInt32
  payload : List UInt8
  deriving DecidableEq, Repr

/-- Take one complete frame off the front of `buffer`; the second part is the buffer afterwards. -/
def splitFrame (buffer : List UInt8) : Wire.Outcome FrameError RawFrame × List UInt8 :=
  match buffer with
  | opcode :: rest =>
    match (Wire.read32? rest).bind fun (serial, rest) =>
        (Wire.read32? rest).map fun (length, rest) => (serial, length.toNat, rest) with
    | some (serial, length, rest) =>
      if maxPayload < length then (.malformed (.oversized length), buffer)
      else if rest.length < length then (.incomplete, buffer)
      else (.message ⟨opcode, serial, rest.take length⟩, rest.drop length)
    | none => (.incomplete, buffer)
  | [] => (.incomplete, buffer)

/-- One number that makes up the front of a payload. -/
def readFlow (what : String) (payload : List UInt8) : Except FrameError UInt32 :=
  match Wire.read32? payload with
  | some (flow, _) => .ok flow
  | none => .error (.tooShort what payload.length)

/-- The request in a frame. Bytes behind the fixed fields are audio, or are ignored. -/
def RawFrame.toRequest (raw : RawFrame) : Except FrameError Request :=
  if raw.opcode = 0x01 then
    match raw.payload with
    | format :: channels :: rest =>
      match (Wire.read32? rest).bind fun (rate, rest) =>
          (Wire.read32? rest).bind fun (volume, rest) =>
            (Wire.read32? rest).map fun (frames, data) => (rate, volume, frames, data) with
      | some (rate, volume, frames, data) =>
        match Format.ofCode? format with
        | some format => .ok (.play format channels rate volume frames data)
        | none => .error (.unknownFormat format)
      | none => .error (.tooShort "PlayFromData" raw.payload.length)
    | _ => .error (.tooShort "PlayFromData" raw.payload.length)
  else if raw.opcode = 0x02 then
    (readFlow "StopFlow" raw.payload).map .stop
  else .error (.unknownRequest raw.opcode)

/-- The event in a frame. -/
def RawFrame.toEvent (raw : RawFrame) : Except FrameError Event :=
  if raw.opcode = 0x81 then (readFlow "FlowStarted" raw.payload).map .started
  else if raw.opcode = 0x82 then (readFlow "FlowDone" raw.payload).map .done
  else if raw.opcode = 0x8f then
    match raw.payload with
    | errorCode :: requestCode :: minorCode :: rest =>
      match Wire.read32? rest with
      | some (resource, _) => .ok (.failed ⟨errorCode, requestCode, minorCode, resource⟩)
      | none => .error (.tooShort "Error" raw.payload.length)
    | _ => .error (.tooShort "Error" raw.payload.length)
  else .error (.unknownEvent raw.opcode)

/-- Look for one message at the front of a buffer, given how a frame's contents are read. -/
def decodeWith {α : Type} (contents : RawFrame → Except FrameError α) (buffer : List UInt8) :
    Wire.Outcome FrameError (UInt32 × α) × List UInt8 :=
  match splitFrame buffer with
  | (.message raw, rest) => (.ofExcept ((contents raw).map (raw.serial, ·)), rest)
  | (.malformed reason, rest) => (.malformed reason, rest)
  | (.incomplete, rest) => (.incomplete, rest)

/-- Look for one request, with its serial. -/
def decodeRequest := decodeWith RawFrame.toRequest

/-- Look for one event, with its serial. -/
def decodeEvent := decodeWith RawFrame.toEvent

/-! ## Small facts -/

theorem Format.ofCode?_code (format : Format) : ofCode? format.code = some format := by
  cases format <;> decide

theorem Request.toRequest_payload (serial : UInt32) (request : Request) :
    RawFrame.toRequest ⟨request.opcode, serial, request.payload⟩ = .ok request := by
  cases request with
  | play format channels rate volume frames data =>
    simp [RawFrame.toRequest, Request.opcode, Request.payload, List.append_assoc,
      Format.ofCode?_code]
  | stop flow =>
    have read := Wire.read32?_word32 flow []
    rw [List.append_nil] at read
    simp [RawFrame.toRequest, Request.opcode, Request.payload, readFlow, read, Except.map]

theorem Event.toEvent_payload (serial : UInt32) (event : Event) :
    RawFrame.toEvent ⟨event.opcode, serial, event.payload⟩ = .ok event := by
  cases event with
  | started flow | done flow =>
    have read := Wire.read32?_word32 flow []
    rw [List.append_nil] at read
    simp [RawFrame.toEvent, Event.opcode, Event.payload, readFlow, read, Except.map]
  | failed e =>
    have read := Wire.read32?_word32 e.resource []
    rw [List.append_nil] at read
    simp [RawFrame.toEvent, Event.opcode, Event.payload, read]

/-- A frame within the limit is split off in front of any bytes. -/
theorem splitFrame_frame (opcode : UInt8) (serial : UInt32) {payload : List UInt8}
    (fits : payload.length ≤ maxPayload) (rest : List UInt8) :
    splitFrame (frame opcode serial payload ++ rest) = (.message ⟨opcode, serial, payload⟩, rest) := by
  have small : payload.length < 2 ^ 32 := by
    have : maxPayload < 2 ^ 32 := by decide
    omega
  have length : (UInt32.ofNat payload.length).toNat = payload.length := by
    rw [UInt32.toNat_ofNat', Nat.mod_eq_of_lt small]
  simp only [frame, List.cons_append, List.append_assoc, splitFrame, Wire.read32?_word32,
    Option.bind_some, Option.map_some, length]
  rw [if_neg (by omega), if_neg (by simp)]
  simp

end Playout.Flow
