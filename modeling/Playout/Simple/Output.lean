import Playout.Output
import Playout.Sample.Bytes
import Playout.Sample.Chunks
import Playout.Severity
import Playout.Signal
import Playout.Simple.Header
import Playout.Simple.MinLength
import Playout.Simple.Server

/-!
# `Playout.Simple.Output` — playing on a simple-protocol server

A connection begins with a header and carries raw audio in one format after it; a track in another format
needs a new connection. The server buffers a target length that the header announces, and the player keeps
no further ahead of real time than that: before a chunk that would go beyond, it waits on its cancellation
signal. When all is written it waits until the server has played it.

## Contents
- `Config`, `chunkLength`.
- `Request`, `Interface` — what the output asks.
- `connect`, `stream`, `play`, `stop`, `close`, `openOutput`.

The connection is shared and locked while a track is played: `takeConnection` waits for the lock,
`putConnection` gives it back.
-/

namespace Playout.Simple

/-- The name of this output. -/
def name : String := "pulse"

/-- The command that plays a track from outside. -/
def playCommand : String := "paplay"

/-- Bytes written at once. -/
def chunkLength : Nat := 256

/-- What an output is set up with. -/
structure Config where
  server : Net.Endpoint
  /-- The target length of the server's buffer. -/
  minLength : Nat
  arithmetic : Arithmetic := .machine

/-! ## What is asked -/

/-- What the output asks of its surroundings. -/
inductive Request where
  | log (line : Line)
  | resetSignal
  | cancelSignal
  | cancelled
  | pause (span : Seconds)
  | clock
  | takeConnection
  | putConnection (connection : Option (SampleSpec × Handle))
  | dial (server : Net.Endpoint)
  | send (h : Handle) (bytes : List UInt8)
  | hangUp (h : Handle)

/-- What each request is answered. -/
@[reducible] def Request.Answer : Request → Type
  | cancelled => Bool
  | pause _ => WaitOutcome
  | clock => Seconds
  | takeConnection => Option (SampleSpec × Handle)
  | dial _ => Except Failure Handle
  | send _ _ => Except Failure Unit
  | log _ | resetSignal | cancelSignal | putConnection _ | hangUp _ => Unit

/-- The interface of the output. -/
@[reducible] def Interface : Playout.Interface := ⟨Request, Request.Answer⟩

/-- Programs of the output. -/
abbrev Action := Program Interface

/-! ### Single requests -/

/-- Log a message. -/
abbrev log (severity : Severity) (text : String) : Action Unit := .ask (.log ⟨severity, text⟩) .done

/-- Take a cancellation back. -/
abbrev resetSignal : Action Unit := .ask .resetSignal .done

/-- Set the cancellation signal. -/
abbrev cancelSignal : Action Unit := .ask .cancelSignal .done

/-- Read the cancellation signal. -/
abbrev cancelled : Action Bool := .ask .cancelled .done

/-- Wait for a time, or until the signal is set. -/
abbrev pause (span : Seconds) : Action WaitOutcome := .ask (.pause span) .done

/-- Read the clock. -/
abbrev clock : Action Seconds := .ask .clock .done

/-- Wait for the connection and take it. -/
abbrev takeConnection : Action (Option (SampleSpec × Handle)) := .ask .takeConnection .done

/-- Give the connection back. -/
abbrev putConnection (connection : Option (SampleSpec × Handle)) : Action Unit :=
  .ask (.putConnection connection) .done

/-- Connect to a server. -/
abbrev dial (server : Net.Endpoint) : Action (Except Failure Handle) := .ask (.dial server) .done

/-- Write all of some bytes to a connection. -/
abbrev send (h : Handle) (bytes : List UInt8) : Action (Except Failure Unit) := .ask (.send h bytes) .done

/-- Close a connection. -/
abbrev hangUp (h : Handle) : Action Unit := .ask (.hangUp h) .done

/-! ## Connecting -/

/-- A new connection, with its header sent. -/
def connect (c : Config) (spec : SampleSpec) : Action (Except Failure Handle) := do
  match ← dial c.server with
  | .error failure => return .error (failure.within ("Failed to connect to " ++ c.server.text))
  | .ok h =>
    match ← send h (encode spec (UInt32.ofNat c.minLength)) with
    | .ok _ => return .ok h
    | .error failure =>
      hangUp h
      return .error (failure.within "Failed to send the stream header")

/-! ## Streaming -/

/-- How long some bytes last. -/
def lasting (c : Config) (bytes rate : Nat) : Seconds :=
  let a := c.arithmetic
  a.span (a.round ((bytes : Rat) / (if rate = 0 then 1 else rate : Nat)))

/-- The whole bytes that real time has played since a moment. -/
def playedIn (c : Config) (elapsed : Seconds) (rate : Nat) : Nat :=
  let a := c.arithmetic
  (a.round (a.number elapsed * rate)).floor.toNat

/-- By how many bytes a chunk would go beyond the target length. -/
def excess (c : Config) (written played chunk : Nat) : Nat := (written - played) + chunk - c.minLength

/-- Write the chunks in time, and wait until they are played. The answer is whether a stop came. -/
def stream (c : Config) (h : Handle) (rate : Nat) (start : Seconds) :
    Nat → List (List UInt8) → Action (Except Failure Bool)
  | written, [] => do
    let elapsed := (← clock) - start
    let whole := lasting c written rate
    let rest := if whole < elapsed then 0 else whole - elapsed
    return .ok ((← pause rest) = .cancelled)
  | written, chunk :: rest => do
    let played := playedIn c ((← clock) - start) rate
    let beyond := excess c written played chunk.length
    let stopped ←
      if 0 < beyond then (fun outcome => decide (outcome = .cancelled)) <$> pause (lasting c beyond rate)
      else cancelled
    if stopped then return .ok true
    else
      match ← send h chunk with
      | .ok _ => stream c h rate start (written + chunk.length) rest
      | .error failure => return .error (failure.within "Failed to write audio data")

/-! ## Playing -/

/-- The connection for a format: the one that is open if it fits, else a new one in its place. When there
    is none the lock has been given back. -/
def connectionFor (c : Config) (t : Track) (spec : SampleSpec)
    (current : Option (SampleSpec × Handle)) : Action (Except PlayError Handle) := do
  let kept : Option Handle ←
    match current with
    | some (s, h) =>
      if s = spec then pure (some h)
      else do
        hangUp h
        log .info ("pulse: reopening connection due to change in track parameters sample_rate:"
          ++ toString t.rate.toNat ++ " bps:" ++ toString t.bits.toNat ++ " channels:"
          ++ toString t.channels.toNat)
        pure none
    | none => pure none
  match kept with
  | some h => return .ok h
  | none =>
    match ← connect c spec with
    | .ok h => return .ok h
    | .error failure =>
      log .error ("pulse: unable to reconnect to server: " ++ failure.text)
      putConnection none
      return .error (.deviceOpen failure.text)

/-- Play a valid track. -/
def playTrack (c : Config) (t : Track) (order : ByteOrder) : Action (Except PlayError Unit) := do
  log .info "pulse: starting playback"
  let spec := SampleSpec.ofTrack t order
  let current ← takeConnection
  match ← connectionFor c t spec current with
  | .error e => return .error e
  | .ok h =>
    let bytes := Sample.toBytes t.samples t.bits order .unsigned
    log .debug ("pulse: bytes to play: " ++ toString bytes.length ++ ", (" ++ t.durationText ++ " secs)")
    let start ← clock
    match ← stream c h spec.bytesPerSecond start 0 (Sample.chunks chunkLength bytes) with
    | .ok stopped =>
      if stopped then log .info "pulse: playback stopped"
      putConnection (some (spec, h))
      return .ok ()
    | .error failure =>
      hangUp h
      log .notice ("pulse: write failed: " ++ failure.text
        ++ " - closing device - re-open it in next run")
      putConnection none
      return .error (.writeFailed failure.text)

/-- The most channels that a header can announce. -/
def maxChannels : Nat := 255

/-- Play a track. An empty one is played at once, whatever its format. -/
def play (c : Config) (t : Track) (settings : PlaySettings) : Action (Except PlayError Unit) := do
  resetSignal
  if t.isEmpty then return .ok ()
  else
    match t.validate with
    | .error e =>
      log .warning ("pulse: unsupported sound data format: " ++ e.message)
      return .error e
    | .ok _ =>
      if maxChannels < t.channels.toNat then
        return .error (.invalidTrack (toString t.channels.toNat ++ " channels"))
      else playTrack c t settings.order

/-- Cancel the playback that is going on. -/
def stop : Action Unit := cancelSignal

/-- Close the connection; the answer is whether there was one. -/
def release : Action Bool := do
  let connection ← takeConnection
  match connection with
  | some (_, h) => hangUp h
  | none => pure ()
  putConnection none
  return connection.isSome

/-- Cancel the playback that is going on, and close the connection. -/
def close : Action Unit := do
  cancelSignal
  if ← release then log .debug "pulse: connection closed"

/-- The output. -/
def output (c : Config) : Output Interface where
  name := name
  playCommand := some playCommand
  play := play c
  stop := stop
  close := close
  setVolume _ := pure ()
  dropped := do let _ ← release

/-- Connect once with a format of the output's own choice, so that a missing server is found now. -/
def openOutput (c : Config) : Action (Except OpenError (Output Interface)) := do
  match ← connect c .initial with
  | .error failure =>
    log .error ("pulse: cannot connect to server: " ++ failure.text)
    return .error (.connectionRefused failure.text)
  | .ok h =>
    let _ ← takeConnection
    putConnection (some (.initial, h))
    return .ok (output c)

/-- What the parameters set the output up with, given the host names that are known. -/
def Config.ofParams (names : String → Option Net.Ip) (p : OpenParams) : Except OpenError Config :=
  match endpoint names (p.target slotSimpleServer) with
  | .ok server => .ok { server, minLength := parseMinLength (p.get slotMinLength) }
  | .error failure => .error (.invalidParameter slotSimpleServer failure.text)

/-- Open the output that the parameters ask for. -/
def openFor (names : String → Option Net.Ip) (p : OpenParams) :
    Action (Except OpenError (Output Interface)) :=
  match Config.ofParams names p with
  | .ok c => openOutput c
  | .error e => pure (.error e)

end Playout.Simple
