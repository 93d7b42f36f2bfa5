import Playout.Paced.Output
import Playout.Poll.Wakeup

/-!
# `Playout.Poll.Output` — playing on a device that tells when it is ready

The device is opened in non-blocking mode and kept. The player writes what the device takes and sleeps
until the device is ready for more or a wakeup arrives; at the end it lets the device drain. The track is
filled up with silence to a whole number of the device's periods. A playback that fails closes the device,
and the next one opens it again.

## Contents
- `Readiness`, `Config`, `padded`.
- `Request`, `Interface` — what the output asks.
- `negotiate`, `stream`, `play`, `stop`, `close`, `openOutput`.

The device is shared and locked while a track is played: `takeDevice` waits for the lock, `putDevice`
gives it back. A second lock guards the mark that a playback is active, which is the only time when
stopping leaves a wakeup behind.
-/

namespace Playout.Poll

open Paced (StreamParams)

/-- The name of this output. -/
def name : String := "alsa-poll"

/-- How a wait for the device ended. -/
inductive Readiness where
  /-- The device takes more or, when draining, has played everything. -/
  | ready
  | stopped
  | timedOut
  deriving DecidableEq, Repr

/-- What an output is set up with. -/
structure Config where
  device : String
  /-- A wait of this length without any progress is a failure. -/
  stallLimit : Seconds
  /-- How many rounds may go by in which the device is ready and takes nothing. -/
  idleRounds : Nat := UInt32.size

/-- `bytes` with as much silence behind them as fills up the last period. -/
def padded (period : Nat) (bytes : List UInt8) : List UInt8 :=
  if period = 0 then bytes
  else bytes ++ List.replicate ((period - bytes.length % period) % period) 0

/-! ## What is asked -/

/-- What the output asks of its surroundings. -/
inductive Request where
  | log (line : Line)
  | takeDevice
  | putDevice (device : Option Handle)
  | openDevice (device : String)
  | configure (h : Handle) (wanted : StreamParams)
  | periodLength (h : Handle)
  | releaseDevice (h : Handle)
  | createWakeup
  | takeActive
  | putActive (active : Bool)
  | clearWakeup
  | notifyWakeup
  | write (h : Handle) (bytes : List UInt8)
  | wait (h : Handle) (draining : Bool) (timeout : Seconds)
  | dropPending (h : Handle)

/-- What each request is answered. -/
@[reducible] def Request.Answer : Request → Type
  | takeDevice => Option Handle
  | openDevice _ => Except Failure Handle
  | configure _ _ => Except Failure StreamParams
  | periodLength _ => Nat
  | createWakeup => Except Failure Unit
  | takeActive => Bool
  | write _ _ => Except Failure Nat
  | wait _ _ _ => Except Failure Readiness
  | dropPending _ => Except Failure Unit
  | log _ | putDevice _ | releaseDevice _ | putActive _ | clearWakeup | notifyWakeup => Unit

/-- The interface of the output. -/
@[reducible] def Interface : Playout.Interface := ⟨Request, Request.Answer⟩

/-- Programs of the output. -/
abbrev Action := Program Interface

/-! ### Single requests -/

/-- Log a message. -/
abbrev log (severity : Severity) (text : String) : Action Unit := .ask (.log ⟨severity, text⟩) .done

/-- Wait for the device and take it. -/
abbrev takeDevice : Action (Option Handle) := .ask .takeDevice .done

/-- Give the device back. -/
abbrev putDevice (device : Option Handle) : Action Unit := .ask (.putDevice device) .done

/-- Open a device without blocking. -/
abbrev openDevice (device : String) : Action (Except Failure Handle) := .ask (.openDevice device) .done

/-- Ask a device for parameters. -/
abbrev configure (h : Handle) (wanted : StreamParams) : Action (Except Failure StreamParams) :=
  .ask (.configure h wanted) .done

/-- The bytes in one period. -/
abbrev periodLength (h : Handle) : Action Nat := .ask (.periodLength h) .done

/-- Close a device. -/
abbrev releaseDevice (h : Handle) : Action Unit := .ask (.releaseDevice h) .done

/-- Make the channel on which a sleeping player is woken. -/
abbrev createWakeup : Action (Except Failure Unit) := .ask .createWakeup .done

/-- Wait for the active mark and take it. -/
abbrev takeActive : Action Bool := .ask .takeActive .done

/-- Give the active mark back. -/
abbrev putActive (active : Bool) : Action Unit := .ask (.putActive active) .done

/-- Throw wakeups away that nobody has woken from. -/
abbrev clearWakeup : Action Unit := .ask .clearWakeup .done

/-- Wake the player. -/
abbrev notifyWakeup : Action Unit := .ask .notifyWakeup .done

/-- Write to a device; the answer is the number of bytes it took. -/
abbrev write (h : Handle) (bytes : List UInt8) : Action (Except Failure Nat) := .ask (.write h bytes) .done

/-- Sleep until the device is ready, a wakeup arrives or the time is up. -/
abbrev wait (h : Handle) (draining : Bool) (timeout : Seconds) : Action (Except Failure Readiness) :=
  .ask (.wait h draining timeout) .done

/-- Have a device throw away what it still holds. -/
abbrev dropPending (h : Handle) : Action (Except Failure Unit) := .ask (.dropPending h) .done

/-! ## Playing -/

/-- Mark a playback as active, or as over. A playback begins without old wakeups. -/
def setActive (active : Bool) : Action Unit := do
  let _ ← takeActive
  if active then clearWakeup
  putActive active

/-- Ask a device for the parameters of a track. -/
def negotiate (h : Handle) (wanted : StreamParams) : Action (Except PlayError StreamParams) := do
  match ← configure h wanted with
  | .error failure =>
    log .critical ("alsa-poll: cannot set parameters: " ++ failure.text)
    return .error (.negotiation failure.text)
  | .ok granted =>
    if granted.bits ≠ wanted.bits then
      log .critical ("alsa-poll: cannot set sample format to " ++ toString wanted.bits.toNat ++ " bits")
      return .error (.formatMismatch wanted.bits.toNat granted.bits.toNat)
    else if granted.channels ≠ wanted.channels then
      log .critical ("alsa-poll: cannot set channel count to " ++ toString wanted.channels.toNat)
      return .error (.channelMismatch wanted.channels.toNat granted.channels.toNat)
    else
      if granted.rate ≠ wanted.rate then
        log .warning ("alsa-poll: sample rate " ++ toString wanted.rate.toNat ++ " not supported, using "
          ++ toString granted.rate.toNat)
      return .ok granted

/-- Wait for the device; the answer is whether a stop came. -/
def await (c : Config) (h : Handle) (draining : Bool) : Action (Except PlayError Bool) := do
  match ← wait h draining c.stallLimit with
  | .ok .ready => return .ok false
  | .ok .stopped => return .ok true
  | .ok .timedOut =>
    let millis := c.stallLimit.wholeMillis
    log .error ("alsa-poll: device made no progress for " ++ toString millis ++ " ms")
    return .error (.deviceStalled millis)
  | .error failure =>
    log .critical ("alsa-poll: wait for poll() failed: " ++ failure.text)
    return .error (.deviceQuery failure.text)

/-- Feed bytes to the device and let it drain, in at most `rounds` rounds. The answer is whether a stop
    came. -/
def stream (c : Config) (h : Handle) : Nat → List UInt8 → Action (Except PlayError Bool)
  | 0, _ => .unfinished
  | rounds + 1, bytes => do
    if bytes.isEmpty then
      log .info "alsa-poll: draining"
      await c h true
    else
      match ← write h bytes with
      | .error failure =>
        log .critical ("alsa-poll: write to audio interface failed: " ++ failure.text)
        return .error (.writeFailed failure.text)
      | .ok taken =>
        match ← await c h false with
        | .ok false => stream c h rounds (bytes.drop taken)
        | outcome => return outcome

/-- Play bytes on a device whose parameters have been agreed on. -/
def playBytes (c : Config) (h : Handle) (bytes : List UInt8) : Action (Except PlayError Unit) := do
  log .debug ("alsa-poll: " ++ toString bytes.length ++ " bytes to play")
  setActive true
  let outcome ← stream c h (bytes.length + c.idleRounds + 1) bytes
  setActive false
  if outcome matches .ok true then log .info "alsa-poll: playback stopped"
  match ← dropPending h with
  | .ok _ => pure ()
  | .error failure => log .critical ("alsa-poll: dropping pending frames failed: " ++ failure.text)
  match outcome with
  | .ok _ =>
    putDevice (some h)
    return .ok ()
  | .error e =>
    log .critical "alsa-poll: play() abnormal exit, closing the device"
    releaseDevice h
    putDevice none
    return .error e

/-- Play a valid track on the device, which has been taken. -/
def playOn (c : Config) (t : Track) (volume : Int) (h : Handle) : Action (Except PlayError Unit) := do
  match ← negotiate h (.ofTrack t) with
  | .error e =>
    releaseDevice h
    putDevice none
    return .error e
  | .ok _ =>
    let bytes := Sample.toBytes (Sample.scale t.samples volume) t.bits .native .signed
    playBytes c h (padded (← periodLength h) bytes)

/-- Play a track. An empty one is played at once, whatever its format. -/
def play (c : Config) (t : Track) (settings : PlaySettings) : Action (Except PlayError Unit) := do
  if t.isEmpty then return .ok ()
  else
    match t.validate with
    | .error e =>
      log .critical ("alsa-poll: unsupported sound data format: " ++ e.message)
      return .error e
    | .ok _ =>
      match ← takeDevice with
      | some h => playOn c t settings.volume h
      | none =>
        match ← openDevice c.device with
        | .ok h => playOn c t settings.volume h
        | .error failure =>
          log .critical ("alsa-poll: cannot reopen " ++ c.device ++ ": " ++ failure.text)
          putDevice none
          return .error (.deviceOpen failure.text)

/-- Wake the playback that is going on, if any. -/
def stop : Action Unit := do
  let active ← takeActive
  if active then
    log .info "alsa-poll: stop requested"
    notifyWakeup
  putActive active

/-- Close the device; the answer is whether there was one. -/
def release : Action Bool := do
  let device ← takeDevice
  match device with
  | some h => releaseDevice h
  | none => pure ()
  putDevice none
  return device.isSome

/-- Close the device. -/
def close : Action Unit := do
  if ← release then log .info "alsa-poll: device closed"

/-- The output. -/
def output (c : Config) : Output Interface where
  name := name
  playCommand := some Paced.playCommand
  play := play c
  stop := stop
  close := close
  setVolume _ := pure ()
  dropped := do let _ ← release

/-- Open the device, which stays open. -/
def openOutput (c : Config) : Action (Except OpenError (Output Interface)) := do
  log .info ("alsa-poll: opening " ++ c.device)
  match ← openDevice c.device with
  | .error failure =>
    log .critical ("alsa-poll: cannot open audio device " ++ c.device ++ ": " ++ failure.text)
    return .error (.deviceUnavailable (c.device ++ ": " ++ failure.text))
  | .ok h =>
    match ← createWakeup with
    | .error failure =>
      log .critical ("alsa-poll: stop channel creation failed: " ++ failure.text)
      releaseDevice h
      return .error (.deviceUnavailable ("stop channel: " ++ failure.text))
    | .ok _ =>
      let _ ← takeDevice
      putDevice (some h)
      return .ok (output c)

/-- Open the output that the parameters ask for. -/
def openFor (p : OpenParams) : Action (Except OpenError (Output Interface)) :=
  match Paced.deviceOf p with
  | .ok device => openOutput { device, stallLimit := p.pacing.maxFragmentWait }
  | .error e => pure (.error e)

/-! ## Small facts -/

/-- The padded length is a whole number of periods. -/
theorem length_padded_mod {period : Nat} (bytes : List UInt8) :
    (padded period bytes).length % period = if period = 0 then bytes.length else 0 := by
  unfold padded
  split
  · next zero => subst zero; simp
  · next positive =>
    have below : bytes.length % period < period := Nat.mod_lt _ (by omega)
    rw [List.length_append, List.length_replicate]
    by_cases whole : bytes.length % period = 0
    · simp [whole, Nat.mod_self]
    · rw [Nat.mod_eq_of_lt (by omega : period - bytes.length % period < period), Nat.add_mod,
        Nat.mod_eq_of_lt (by omega : period - bytes.length % period < period)]
      rw [Nat.add_sub_cancel' (by omega), Nat.mod_self]

end Playout.Poll
