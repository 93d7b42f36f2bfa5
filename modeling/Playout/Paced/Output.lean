import Playout.Output
import Playout.Sample.Bytes
import Playout.Sample.Volume
import Playout.Severity
import Playout.Signal

/-!
# `Playout.Paced.Output` — playing on a device that only tells its free space

The device is opened for each track and closed afterwards, so that others can use it in between. It gives
no sign when it is ready for more, so the rate of writing follows the clock: after each round of writing
the player waits, on its cancellation signal, for as long as the written audio lasts. The first wait is
shortened by the lead, which is made good at the end.

## Contents
- `StreamParams`, `BufferSpace`, `Config`.
- `Request`, `Interface` — what the output asks.
- `negotiate`, `stream`, `play`, `stop`, `close`, `openOutput`.

While a track is played the device lies in a slot that other threads reach as well: stopping resets it
there and closing takes it out. Every access to the slot is one request, answered with `none` when the
slot is empty.
-/

namespace Playout.Paced

/-- The name of this output. -/
def name : String := "alsa"

/-- The command that plays a track from outside. -/
def playCommand : String := "aplay"

/-- What is asked of a device, or granted by it. -/
structure StreamParams where
  bits : UInt16
  channels : UInt16
  rate : UInt32
  deriving DecidableEq, Repr

/-- The parameters that a track asks for. -/
def StreamParams.ofTrack (t : Track) : StreamParams := ⟨t.bits, t.channels, t.rate⟩

/-- Free space in a device's buffer. -/
structure BufferSpace where
  fragments : Nat
  fragmentSize : Nat
  /-- All free bytes, which may be more than the free fragments hold. -/
  bytes : Nat
  deriving DecidableEq, Repr

namespace BufferSpace

/-- Whether not even one fragment is free. -/
def isStarved (s : BufferSpace) : Bool := s.fragments == 0 || s.fragmentSize == 0

/-- The bytes that the free fragments hold. A device tells no more fragments than its free bytes hold, and counts those
    in a machine word; so the product is below 2^64 as well. -/
def room (s : BufferSpace) : Nat := s.fragments * s.fragmentSize

end BufferSpace

/-- What an output is set up with. -/
structure Config where
  device : String
  pacing : Pacing := .standard
  arithmetic : Arithmetic := .machine

/-- The pause between two looks at a device without a free fragment. -/
def napLength : Seconds := 1 / 10000

/-! ## What is asked -/

/-- What the output asks of its surroundings. -/
inductive Request where
  | log (line : Line)
  | resetSignal
  | cancelSignal
  | cancelled
  | pause (span : Seconds)
  | clock
  | nap (span : Seconds)
  | openDevice (device : String)
  | configure (h : Handle) (wanted : StreamParams)
  | releaseDevice (h : Handle)
  | flush (h : Handle)
  | install (h : Handle)
  | uninstall
  | space
  | write (bytes : List UInt8)
  | resetDevice

/-- What each request is answered. -/
@[reducible] def Request.Answer : Request → Type
  | cancelled => Bool
  | pause _ => WaitOutcome
  | clock => Seconds
  | openDevice _ => Except Failure Handle
  | configure _ _ => Except Failure StreamParams
  | flush _ => Except Failure Unit
  | install _ | uninstall => Option Handle
  | space => Option (Except Failure BufferSpace)
  | write _ => Option (Except Failure Nat)
  | resetDevice => Option (Except Failure Unit)
  | log _ | resetSignal | cancelSignal | nap _ | releaseDevice _ => Unit

/-- The interface of the output. -/
@[reducible] def Interface : Playout.Interface := ⟨Request, Request.Answer⟩

/-- Programs of the output. -/
abbrev Action := Program Interface

/-! ### Single requests -/

/-- Log a message. -/
abbrev log (severity : Severity) (text : String) : Action Unit := .ask (.log ⟨severity, text⟩) .done

/-- Take a cancellation back. -/
abbrev resetSignal : Action Unit := .ask .resetSignal .done

/-- Set the cancellation signal. -/
abbrev cancelSignal : Action Unit := .ask .cancelSignal .done

/-- Read the cancellation signal. -/
abbrev cancelled : Action Bool := .ask .cancelled .done

/-- Wait for a time, or until the signal is set. -/
abbrev pause (span : Seconds) : Action WaitOutcome := .ask (.pause span) .done

/-- Read the clock. -/
abbrev clock : Action Seconds := .ask .clock .done

/-- Sleep for a time, whatever the signal is. -/
abbrev nap (span : Seconds) : Action Unit := .ask (.nap span) .done

/-- Open a device. -/
abbrev openDevice (device : String) : Action (Except Failure Handle) := .ask (.openDevice device) .done

/-- Ask a device for parameters. -/
abbrev configure (h : Handle) (wanted : StreamParams) : Action (Except Failure StreamParams) :=
  .ask (.configure h wanted) .done

/-- Close a device. -/
abbrev releaseDevice (h : Handle) : Action Unit := .ask (.releaseDevice h) .done

/-- Have a device play what it still holds. -/
abbrev flush (h : Handle) : Action (Except Failure Unit) := .ask (.flush h) .done

/-- Put a device into the slot; the answer is the one that lay there. -/
abbrev install (h : Handle) : Action (Option Handle) := .ask (.install h) .done

/-- Take the device out of the slot. -/
abbrev uninstall : Action (Option Handle) := .ask .uninstall .done

/-- The free space of the device in the slot. -/
abbrev space : Action (Option (Except Failure BufferSpace)) := .ask .space .done

/-- Write to the device in the slot; the answer is the number of bytes it took. -/
abbrev write (bytes : List UInt8) : Action (Option (Except Failure Nat)) := .ask (.write bytes) .done

/-- Have the device in the slot throw away what it holds. -/
abbrev resetDevice : Action (Option (Except Failure Unit)) := .ask .resetDevice .done

/-! ## Negotiating -/

/-- Ask a device for the parameters of a track. A different width or number of channels is an error; a
    different rate is played at. -/
def negotiate (h : Handle) (wanted : StreamParams) : Action (Except PlayError StreamParams) := do
  match ← configure h wanted with
  | .error failure =>
    log .critical ("alsa: parameter negotiation failed: " ++ failure.text)
    return .error (.negotiation failure.text)
  | .ok granted =>
    if granted.bits ≠ wanted.bits then
      log .critical ("alsa: device doesn't support " ++ toString wanted.bits.toNat ++ "-bit sound format")
      return .error (.formatMismatch wanted.bits.toNat granted.bits.toNat)
    else if granted.channels ≠ wanted.channels then
      log .error ("alsa: device doesn't support " ++ toString wanted.channels.toNat ++ " channels")
      return .error (.channelMismatch wanted.channels.toNat granted.channels.toNat)
    else
      if granted.rate ≠ wanted.rate then
        log .critical ("alsa: device doesn't support sample rate " ++ toString wanted.rate.toNat
          ++ ", using " ++ toString granted.rate.toNat ++ " instead")
      return .ok granted

/-! ## Writing -/

/-- What a device that is no longer in the slot fails with. -/
def slotEmpty : Failure := { cause := "device was closed during playback" }

/-- Write one chunk; the answer is how much of it is done with. A write that fails after a stop counts
    as done, since what it should have played is not wanted any more. -/
def writeChunk (chunk : List UInt8) : Action (Except PlayError Nat) := do
  match (← write chunk).getD (.error slotEmpty) with
  | .ok 0 => return .error (.writeFailed "device accepted no data")
  | .ok n => return .ok n
  | .error failure =>
    if ← cancelled then return .ok chunk.length
    else
      log .error ("alsa: write failed: " ++ failure.text)
      return .error (.writeFailed failure.text)

/-- How far a playback has come. -/
structure Progress where
  /-- Bytes that have not been done with. -/
  rest : List UInt8
  /-- By how much the first wait was shortened. -/
  lead : Option Rat := none
  /-- Since when the device has had no free fragment. -/
  starvedSince : Option Seconds := none

/-- How one round of the playback ended. -/
inductive Round where
  | goOn (progress : Progress)
  | stopped
  | failed (error : PlayError)

/-- Nothing is free: look again shortly, or give up. -/
def starve (c : Config) (p : Progress) : Action Round := do
  let since ← match p.starvedSince with
    | some since => pure since
    | none => clock
  let waited := (← clock) - since
  if c.pacing.maxFragmentWait < waited then
    let millis := (((← clock) - since) : Seconds).wholeMillis
    log .error ("alsa: no free fragment for " ++ toString millis ++ " ms, giving up")
    return .failed (.deviceStalled millis)
  else
    log .debug "alsa: not enough space for a single fragment, looping"
    nap napLength
    return .goOn { p with starvedSince := some since }

/-- Whether what is left after a write is a tail that goes out at once: less than a fragment, and inside
    the free space. A tail that is left to the next round could arrive too late. -/
def tailFits (s : BufferSpace) (left : Nat) : Bool :=
  0 < left && left < s.fragmentSize && s.room + left < s.bytes

/-- The wait after a round that wrote `written` bytes, and the lead that is in force from then on. A device is expected to
    grant a positive rate. At a rate of 0 a play cannot go on, since the bytes would last for ever and there is no such
    wait; the 0 that the division yields here only stands in for it. -/
def waitAfter (c : Config) (frameBytes rate : Nat) (written : Nat) (lead : Option Rat) : Seconds × Rat :=
  let a := c.arithmetic
  let lasts := a.round (a.round ((written : Rat) / frameBytes) / rate)
  match lead with
  | some lead => (a.span lasts, lead)
  | none =>
    let most := a.number c.pacing.lead
    let first := if lasts < most then lasts else most
    (a.span (a.round (lasts - first)), first)

/-- Write as much as the free space takes, and wait for as long as it lasts. -/
def fill (c : Config) (frameBytes rate : Nat) (s : BufferSpace) (p : Progress) : Action Round := do
  log .debug ("alsa: space for " ++ toString s.fragments ++ " more fragments of "
    ++ toString s.fragmentSize ++ " bytes")
  match ← writeChunk (p.rest.take s.room) with
  | .error e => return .failed e
  | .ok written =>
    let rest := p.rest.drop written
    let tail : Except PlayError Nat ←
      if tailFits s rest.length then do
        log .debug ("alsa: writing the rest of the data (" ++ toString rest.length ++ " bytes)")
        writeChunk rest
      else pure (.ok 0)
    match tail with
    | .error e => return .failed e
    | .ok extra =>
      let rest := rest.drop extra
      log .debug ("alsa: " ++ toString (written + extra) ++ " bytes written, "
        ++ toString rest.length ++ " remaining")
      let (span, lead) := waitAfter c frameBytes rate (written + extra) p.lead
      match ← pause span with
      | .cancelled =>
        log .info "alsa: playback stopped"
        return .stopped
      | .timedOut => return .goOn { rest, lead := some lead }

/-- One round: look for a stop and for free space, and write. -/
def round (c : Config) (frameBytes rate : Nat) (p : Progress) : Action Round := do
  if ← cancelled then return .stopped
  else
    match (← space).getD (.error slotEmpty) with
    | .error failure =>
      log .error ("alsa: buffer space query failed: " ++ failure.text)
      return .failed (.deviceQuery failure.text)
    | .ok s =>
      if s.isStarved then starve c p else fill c frameBytes rate s p

/-- Wait until the lead has run out, less what settles by itself. The answer is whether a stop came. -/
def settle (c : Config) (lead : Option Rat) : Action Bool := do
  match lead with
  | none => return false
  | some lead =>
    let rest := c.arithmetic.round (lead - c.arithmetic.number c.pacing.settle)
    if 0 < rest then
      log .debug ("alsa: waiting for the resting delay, " ++ Text.fixed 3 rest ++ " s")
      return (← pause (c.arithmetic.span rest)) = .cancelled
    else return false

/-- Write until nothing is left, in at most `rounds` rounds. The answer is whether a stop came. -/
def stream (c : Config) (frameBytes rate : Nat) :
    Nat → Progress → Action (Except PlayError Bool)
  | 0, _ => .unfinished
  | rounds + 1, p => do
    if p.rest.isEmpty then return .ok (← settle c p.lead)
    else
      match ← round c frameBytes rate p with
      | .goOn p => stream c frameBytes rate rounds p
      | .stopped => return .ok true
      | .failed e => return .error e

/-- Rounds without a free fragment after which a device has been starved for too long, when each nap
    takes its time. -/
def starvedRounds (pacing : Pacing) : Nat := (pacing.maxFragmentWait / napLength).floor.toNat + 2

/-- Rounds that are enough for `length` bytes: each either does something with a byte or belongs to a
    starved stretch between two that do. -/
def enoughRounds (pacing : Pacing) (length : Nat) : Nat :=
  length + (length + 1) * starvedRounds pacing + 1

/-! ## Playing -/

/-- Play bytes on a device whose parameters have been agreed on. -/
def playBytes (c : Config) (h : Handle) (bytes : List UInt8) (frameBytes rate : Nat) :
    Action (Except PlayError Unit) := do
  match ← install h with
  | some other => releaseDevice other
  | none => pure ()
  let outcome ← stream c frameBytes rate (enoughRounds c.pacing bytes.length) { rest := bytes }
  match ← uninstall with
  | some h =>
    if outcome.isOk then
      match ← flush h with
      | .ok _ => pure ()
      | .error failure => log .warning ("alsa: flush failed: " ++ failure.text)
    releaseDevice h
    log .info "alsa: device closed"
  | none => pure ()
  return outcome.map fun _ => ()

/-- Play a track of `width` bytes a sample. -/
def playTrack (c : Config) (t : Track) (volume : Int) (width : Nat) :
    Action (Except PlayError Unit) := do
  match ← openDevice c.device with
  | .error failure =>
    log .error ("alsa: cannot open " ++ c.device ++ ": " ++ failure.text)
    return .error (.deviceOpen failure.text)
  | .ok h =>
    match ← negotiate h (.ofTrack t) with
    | .error e =>
      releaseDevice h
      return .error e
    | .ok granted =>
      let bytes := Sample.toBytes (Sample.scale t.samples volume) t.bits .native .signed
      log .info ("alsa: starting playback, " ++ toString bytes.length ++ " bytes ("
        ++ t.durationText ++ " s)")
      playBytes c h bytes (width * t.channels.toNat) granted.rate.toNat

/-- Play a track. An empty one is played at once, whatever its format. -/
def play (c : Config) (t : Track) (settings : PlaySettings) : Action (Except PlayError Unit) := do
  resetSignal
  if t.isEmpty then return .ok ()
  else
    match t.validate with
    | .error e =>
      log .error ("alsa: unrecognized sound data format: " ++ e.message)
      return .error e
    | .ok width => playTrack c t settings.volume width

/-- Cancel the playback that is going on, and have the device throw away what it holds. -/
def stop : Action Unit := do
  log .info "alsa: stop() called"
  cancelSignal
  match ← resetDevice with
  | some (.error failure) => log .warning ("alsa: reset failed: " ++ failure.text)
  | _ => pure ()

/-- Take the device out of the slot and close it. -/
def release : Action Unit := do
  match ← uninstall with
  | some h => releaseDevice h
  | none => pure ()

/-- Cancel the playback that is going on, and close its device. -/
def close : Action Unit := do
  cancelSignal
  release

/-- The output. -/
def output (c : Config) : Output Interface where
  name := name
  playCommand := some playCommand
  play := play c
  stop := stop
  close := close
  setVolume _ := pure ()
  dropped := release

/-- Open the device once, so that a missing one is found now, and close it again. -/
def openOutput (c : Config) : Action (Except OpenError (Output Interface)) := do
  match ← openDevice c.device with
  | .error failure =>
    log .error ("alsa: cannot open " ++ c.device ++ ": " ++ failure.text)
    return .error (.deviceUnavailable (c.device ++ ": " ++ failure.text))
  | .ok h =>
    releaseDevice h
    return .ok (output c)

/-- The device that the parameters name, which has to be there even if it is the default. -/
def deviceOf (p : OpenParams) : Except OpenError String :=
  match p.get slotCard with
  | some device => .ok device
  | none => .error (.missingParameter slotCard "alsa device")

/-- Open the output that the parameters ask for. -/
def openFor (p : OpenParams) : Action (Except OpenError (Output Interface)) :=
  match deviceOf p with
  | .ok device => openOutput { device, pacing := p.pacing }
  | .error e => pure (.error e)

end Playout.Paced
