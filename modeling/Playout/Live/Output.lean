import Playout.Output
import Playout.Sample.Bytes
import Playout.Sample.Chunks
import Playout.Severity

/-!
# `Playout.Live.Output` — playing through a library with a buffer of its own

The library's write call blocks only until one chunk fits its buffer, so a track is handed over in small
chunks with a look at the stop flag before each. A stream is opened for the first track and kept while
the format stays the same; a failed write closes it.

## Contents
- `Format` — what a stream is opened for.
- `Request`, `Interface` — what the output asks.
- `play`, `stop`, `close`, `output`.

The stream is shared with other threads and locked while a track is played: `takeStream` waits for the
lock and gives what is open, `putStream` stores what is open and gives the lock back.
-/

namespace Playout.Live

/-- The name of this output. -/
def name : String := "cpal"

/-- Bytes handed to the library at once. -/
def chunkLength : Nat := 256

/-- The format of a stream. -/
structure Format where
  bits : UInt16
  channels : UInt16
  rate : UInt32
  order : ByteOrder
  deriving DecidableEq, Repr

/-- The format in which a track is played. -/
def Format.ofTrack (t : Track) (order : ByteOrder) : Format := ⟨t.bits, t.channels, t.rate, order⟩

/-! ## What is asked -/

/-- What the output asks of its surroundings. -/
inductive Request where
  | log (line : Line)
  | setStop (value : Bool)
  | stopRequested
  | takeStream
  | putStream (stream : Option (Format × Handle))
  | openStream (format : Format)
  | releaseStream (h : Handle)
  | playChunk (h : Handle) (bytes : List UInt8)

/-- What each request is answered. -/
@[reducible] def Request.Answer : Request → Type
  | stopRequested => Bool
  | takeStream => Option (Format × Handle)
  | openStream _ => Except Failure Handle
  | playChunk _ _ => Except Failure Unit
  | log _ | setStop _ | putStream _ | releaseStream _ => Unit

/-- The interface of the output. -/
@[reducible] def Interface : Playout.Interface := ⟨Request, Request.Answer⟩

/-- Programs of the output. -/
abbrev Action := Program Interface

/-! ### Single requests -/

/-- Log a message. -/
abbrev log (severity : Severity) (text : String) : Action Unit := .ask (.log ⟨severity, text⟩) .done

/-- Set the stop flag, or take it back. -/
abbrev setStop (value : Bool) : Action Unit := .ask (.setStop value) .done

/-- Read the stop flag. -/
abbrev stopRequested : Action Bool := .ask .stopRequested .done

/-- Wait for the stream and take it. -/
abbrev takeStream : Action (Option (Format × Handle)) := .ask .takeStream .done

/-- Give the stream back. -/
abbrev putStream (s : Option (Format × Handle)) : Action Unit := .ask (.putStream s) .done

/-- Open a stream. -/
abbrev openStream (f : Format) : Action (Except Failure Handle) := .ask (.openStream f) .done

/-- Close a stream. -/
abbrev releaseStream (h : Handle) : Action Unit := .ask (.releaseStream h) .done

/-- Hand one chunk over to the library. -/
abbrev playChunk (h : Handle) (bytes : List UInt8) : Action (Except Failure Unit) :=
  .ask (.playChunk h bytes) .done

/-! ## Playing -/

/-- The stream for a format: the one that is open if it fits, else a new one in its place. When there is
    none the lock has been given back. -/
def streamFor (format : Format) (current : Option (Format × Handle)) :
    Action (Except PlayError Handle) := do
  let kept : Option Handle ←
    match current with
    | some (f, h) =>
      if f = format then pure (some h)
      else do
        log .info "live: track format changed, reopening the stream"
        releaseStream h
        pure none
    | none => pure none
  match kept with
  | some h => return .ok h
  | none =>
    match ← openStream format with
    | .ok h => return .ok h
    | .error failure =>
      log .error ("live: error opening the output stream: " ++ failure.text)
      putStream none
      return .error (.deviceOpen failure.text)

/-- Hand over the chunks until one fails or a stop is seen. -/
def writeChunks (h : Handle) : List (List UInt8) → Action (Except Failure Unit)
  | [] => pure (.ok ())
  | chunk :: rest => do
    if ← stopRequested then
      log .info "live: playback stopped"
      return .ok ()
    else
      match ← playChunk h chunk with
      | .ok _ => writeChunks h rest
      | .error failure => return .error failure

/-- Play the bytes of a valid track. -/
def playBytes (t : Track) (order : ByteOrder) : Action (Except PlayError Unit) := do
  let format := Format.ofTrack t order
  let current ← takeStream
  match ← streamFor format current with
  | .error e => return .error e
  | .ok h =>
    let bytes := Sample.toBytes t.samples t.bits order .signed
    log .notice ("live: bytes to play: " ++ toString bytes.length ++ " (" ++ t.durationText ++ " s)")
    match ← writeChunks h (Sample.chunks chunkLength bytes) with
    | .ok _ =>
      putStream (some (format, h))
      return .ok ()
    | .error failure =>
      releaseStream h
      log .notice ("live: write failed (" ++ failure.text
        ++ "), closing the stream, it will be reopened on the next play")
      putStream none
      return .error (.writeFailed failure.text)

/-- Play a track. An empty one is played at once, whatever its format. -/
def play (t : Track) (settings : PlaySettings) : Action (Except PlayError Unit) := do
  setStop false
  if t.isEmpty then return .ok ()
  else
    match t.validate with
    | .error e =>
      log .warning ("live: unrecognized sound data format: " ++ e.message)
      return .error e
    | .ok _ => playBytes t settings.order

/-- Have the playback that is going on end before its next chunk. -/
def stop : Action Unit := setStop true

/-- Give back what is open. -/
def release : Action Unit := do
  match ← takeStream with
  | some (_, h) => releaseStream h
  | none => pure ()
  putStream none

/-- Stop, and close the stream. -/
def close : Action Unit := do
  setStop true
  release

/-- The output; nothing is opened before the first track. -/
def output : Output Interface where
  name := name
  playCommand := none
  play := play
  stop := stop
  close := close
  setVolume _ := pure ()
  dropped := release

end Playout.Live
