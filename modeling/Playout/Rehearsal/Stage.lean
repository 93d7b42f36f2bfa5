import Playout.Rehearsal.Event

/-!
# `Playout.Rehearsal.Stage` — running a device against a script

On the stage time passes only when somebody waits, and other threads act at set points: when a message is
delivered that a cue waits for, when a scripted native call says so, or when a set time has passed. What
they do is done completely before the player goes on.

## Contents
- `Call`, `Cue` — what another thread does, and when.
- `World` — the state of a rehearsal.
- `Request`, `Interface` — what native sides are written in.
- `Native` — a native side: what each request of an output means on the stage.
- `Cast` — a native side and the programs of a device, or of an output used without one.
- `Cast.run` — run a program of the device.

A call may itself deliver messages that others are cued by. Every cue is used once, so that calls are
nested no deeper than there are cues.
-/

namespace Playout.Rehearsal

/-! ## Other threads -/

/-- What another thread does. -/
inductive Call where
  | stop
  | close
  /-- Look at the device. -/
  | probe
  | setVolume (volume : Int)
  | setLogLevel (level : Severity)
  deriving DecidableEq, Repr

/-- A call that is made when a message that contains `pattern` is delivered for the `nth` time. -/
structure Cue where
  pattern : String
  nth : Nat
  call : Call
  seen : Nat := 0
  deriving DecidableEq, Repr

/-- Whether `pattern` occurs in `text`. -/
def occursIn (pattern text : List Char) : Bool :=
  match text with
  | [] => pattern.isEmpty
  | _ :: rest => pattern.isPrefixOf text || occursIn pattern rest

/-- The cue after one more message. -/
def Cue.hear (cue : Cue) (text : String) : Cue :=
  if occursIn cue.pattern.toList text.toList then { cue with seen := cue.seen + 1 } else cue

/-- Whether this message was the one the cue waited for. -/
def Cue.isGiven (cue : Cue) (text : String) : Bool :=
  occursIn cue.pattern.toList text.toList && cue.seen == cue.nth

/-! ## The world -/

/-- The state of a rehearsal, over the state of a native side. -/
structure World (ν : Type) where
  now : Seconds := 0
  /-- What was seen, latest first. -/
  seen : List Event := []
  level : Severity := .debug
  device : Device.Shared := {}
  cues : List Cue := []
  /-- When another thread stops the playback. -/
  stopAt : Option Seconds := none
  native : ν

namespace World

variable {ν : Type}

/-- See one thing. -/
def see (w : World ν) (e : Event) : World ν := { w with seen := e :: w.seen }

/-- Deliver a message, and make the calls it is the cue for. -/
def deliver (call : Call → World ν → World ν) (line : Line) (w : World ν) : World ν :=
  if line.severity.passes w.level then
    let cues : List Cue := w.cues.map fun cue => cue.hear line.text
    let given : List Cue := cues.filter fun cue => cue.isGiven line.text
    given.foldl (fun w cue => call cue.call w) { w.see (.line line) with cues }
  else w

/-- Let time pass, up to the moment when another thread stops the playback. The first part tells whether it
    did. -/
def sleep (call : Call → World ν → World ν) (span : Seconds) (w : World ν) : Bool × World ν :=
  let finish := w.now + span
  match w.stopAt with
  | none => (false, { w with now := finish })
  | some moment =>
    if moment ≤ finish then
      let now := if moment < w.now then w.now else moment
      (true, call .stop { w with now, stopAt := none })
    else (false, { w with now := finish })

end World

/-! ## What native sides are written in -/

/-- What a native side does on the stage. -/
inductive Request (ν : Type) where
  | deliver (line : Line)
  | see (e : Event)
  | native
  | setNative (state : ν)
  | now
  /-- Let time pass; the answer is whether another thread stopped the playback before it was over. -/
  | sleep (span : Seconds)
  /-- Have another thread stop the playback now. -/
  | interrupt
  /-- Wait for something that will not happen. -/
  | hang

/-- What each request is answered. -/
@[reducible] def Request.Answer {ν : Type} : Request ν → Type
  | native => ν
  | now => Seconds
  | sleep _ => Bool
  | hang => Empty
  | deliver _ | see _ | setNative _ | interrupt => Unit

/-- The interface of the stage. -/
@[reducible] def Interface (ν : Type) : Playout.Interface := ⟨Request ν, Request.Answer⟩

/-- Programs of a native side. -/
abbrev Action (ν : Type) := Program (Interface ν)

/-- A native side: what each request of an output means on the stage. -/
abbrev Native (B : Playout.Interface) (ν : Type) := (r : B.Request) → Action ν (B.Answer r)

section
variable {ν : Type}

/-- Deliver a message. -/
abbrev deliver (line : Line) : Action ν Unit := .ask (.deliver line) .done

/-- See one thing. -/
abbrev see (e : Event) : Action ν Unit := .ask (.see e) .done

/-- The state of the native side. -/
abbrev native : Action ν ν := .ask .native .done

/-- Set the state of the native side. -/
abbrev setNative (state : ν) : Action ν Unit := .ask (.setNative state) .done

/-- Change the state of the native side. -/
def change (f : ν → ν) : Action ν Unit := do setNative (f (← native))

/-- The time. -/
abbrev now : Action ν Seconds := .ask .now .done

/-- Let time pass. -/
abbrev sleep (span : Seconds) : Action ν Bool := .ask (.sleep span) .done

/-- Let all of a time pass, whatever others do meanwhile. -/
def sleepAll (span : Seconds) : Action ν Unit := do
  let start ← now
  if ← sleep span then
    let left := start + span - (← now)
    if 0 < left then
      let _ ← sleep left

/-- Have another thread stop the playback. -/
abbrev interrupt : Action ν Unit := .ask .interrupt .done

/-- Wait for ever. -/
def hang {α : Type} : Action ν α := .ask .hang fun answer => answer.elim

/-- Wait for a time on a signal, which others may set meanwhile. -/
def waitOn (isSet : ν → Bool) (span : Seconds) : Action ν WaitOutcome := do
  if isSet (← native) then return .cancelled
  let start ← now
  if ← sleep span then
    if isSet (← native) then return .cancelled
    let left := start + span - (← now)
    if 0 < left then
      let _ ← sleep left
    return if isSet (← native) then .cancelled else .timedOut
  else return .timedOut

/-- What the stage answers, given how calls are made. -/
def react (call : Call → World ν → World ν) : Program.Reaction (Interface ν) (World ν)
  | .deliver line, w => some ((), w.deliver call line)
  | .see e, w => some ((), w.see e)
  | .native, w => some (w.native, w)
  | .setNative state, w => some ((), { w with native := state })
  | .now, w => some (w.now, w)
  | .sleep span, w => some (w.sleep call span)
  | .interrupt, w => some ((), call .stop w)
  | .hang, _ => none

end

/-! ## Running a device -/

/-- A native side and the programs of the device, or of the output, that is rehearsed. -/
structure Cast (B : Playout.Interface) (ν : Type) where
  native : Native B ν
  play : Track → ByteOrder → Int → Device.Action B (Except PlayError Unit)
  stop : Device.Action B Unit
  close : Device.Action B Unit
  setVolume : Int → Device.Action B (Except PlayError Unit)
  dropped : Device.Action B Unit
  /-- Whether the output is used through a device. Only a device can be looked at, and only a device has a log
      level that can be set. -/
  hasDevice : Bool

namespace Cast

variable {B : Playout.Interface} {ν : Type} {α : Type}

/-- A native side alone, before anything has been opened. -/
def empty (native : Native B ν) : Cast B ν where
  native := native
  play _ _ _ := pure (.ok ())
  stop := pure ()
  close := pure ()
  setVolume _ := pure (.ok ())
  dropped := pure ()
  hasDevice := false

/-- An output used directly. -/
def ofOutput (native : Native B ν) (o : Output B) : Cast B ν where
  native := native
  play t order volume := Device.within (o.play t { volume, order })
  stop := Device.within o.stop
  close := Device.within o.close
  setVolume v := do
    Device.within (o.setVolume v)
    return .ok ()
  dropped := Device.within o.dropped
  hasDevice := false

/-- An output used through a device, which has a volume of its own. -/
def ofDevice (native : Native B ν) (o : Output B) : Cast B ν where
  native := native
  play t order _ := Device.play o t order
  stop := Device.stop o
  close := Device.close o
  setVolume := Device.setVolume o
  dropped := Device.dropped o
  hasDevice := true

/-- Look at the device, if there is one. -/
def probe (c : Cast B ν) (w : World ν) : World ν :=
  if c.hasDevice then w.see (.probed w.device) else w

/-- Set the log level of the device, if there is one. -/
def setLogLevel (c : Cast B ν) (level : Severity) (w : World ν) : World ν :=
  if c.hasDevice then { w with level } else w

/-- What a device is answered, given how calls are made. -/
def reactDevice (c : Cast B ν) (call : Call → World ν → World ν) :
    Program.Reaction (Device.Interface B) (World ν)
  | .log line, w => some ((), w.deliver call line)
  | .output r, w =>
    match (c.native r).run (react call) w with
    | (.finished answer, w) => some (answer, w)
    | _ => none
  | r, w => (w.device.answer r).map fun (answer, device) => (answer, { w with device })

/-- Make a call; calls that it is the cue for are made as well, at most `depth` deep. -/
def call (c : Cast B ν) : Nat → Call → World ν → World ν
  | 0, _, w => w
  | depth + 1, which, w =>
    let react := c.reactDevice (c.call depth)
    match which with
    | .stop => (c.stop.run react w).2
    | .close => (c.close.run react w).2
    | .probe => c.probe w
    | .setVolume v => ((c.setVolume v).run react w).2
    | .setLogLevel level => c.setLogLevel level w

/-- Run a program of the device. -/
def run (c : Cast B ν) (p : Device.Action B α) (w : World ν) : Program.Ending α × World ν :=
  p.run (c.reactDevice (c.call (w.cues.length + 2))) w

end Cast

end Playout.Rehearsal
