import Playout.Output
import Playout.Sample.Bytes
import Playout.Sample.Volume
import Playout.Severity

/-!
# `Playout.Device` — an open output with its playback settings

A device wraps an output. It keeps the volume, the byte order of the machine and the state of its life:
open, playing, or closed for ever. It is shared between the thread that plays and those that stop, close or
set the volume; each access to what they share is one request.

## Contents
- `State`, `Shared` — what the threads share.
- `Request`, `Interface` — what a device asks, over what its output asks.
- `play`, `stop`, `close`, `setVolume`, `opened`, `dropped`, `describe`.
- `Shared.answer` — the answers to what a device asks of itself.
-/

namespace Playout.Device

/-- The life of a device. -/
inductive State where
  | closed
  | open
  | playing
  deriving DecidableEq, Repr

/-- The name of a state. -/
def State.name : State → String
  | closed => "closed"
  | .open => "open"
  | playing => "playing"

/-- The name of a state as a title. -/
def State.title : State → String
  | closed => "Closed"
  | .open => "Open"
  | playing => "Playing"

/-- What the threads that use a device share. -/
structure Shared where
  state : State := .open
  volume : Int := Sample.volumeDefault
  /-- Whether a track is being played. -/
  working : Bool := false
  deriving DecidableEq, Repr

/-! ## What is asked -/

/-- What a device asks, over an output with the interface `B`. -/
inductive Request (B : Interface) where
  | log (line : Line)
  /-- Begin to play, unless the device is closed. -/
  | enter
  /-- Be open again, unless the device was closed meanwhile. -/
  | leave
  /-- Be closed, unless the device is closed already. -/
  | shut
  | setWorking (value : Bool)
  | volume
  | storeVolume (value : Int)
  /-- A request of the output. -/
  | output (request : B.Request)

/-- What each request is answered. -/
@[reducible] def Request.Answer {B : Interface} : Request B → Type
  | enter | shut => Bool
  | volume => Int
  | output request => B.Answer request
  | log _ | leave | setWorking _ | storeVolume _ => Unit

/-- The interface of a device. -/
@[reducible] def Interface (B : Playout.Interface) : Playout.Interface := ⟨Request B, Request.Answer⟩

/-- Programs of a device. -/
abbrev Action (B : Playout.Interface) := Program (Interface B)

variable {B : Playout.Interface}

/-! ### Single requests -/

/-- Log a message. -/
abbrev log (severity : Severity) (text : String) : Action B Unit := .ask (.log ⟨severity, text⟩) .done

/-- Begin to play; the answer is whether the device was not closed. -/
abbrev enter : Action B Bool := .ask .enter .done

/-- Be open again. -/
abbrev leave : Action B Unit := .ask .leave .done

/-- Be closed; the answer is whether the device was not closed before. -/
abbrev shut : Action B Bool := .ask .shut .done

/-- Set the mark that a track is being played. -/
abbrev setWorking (value : Bool) : Action B Unit := .ask (.setWorking value) .done

/-- Read the volume. -/
abbrev volume : Action B Int := .ask .volume .done

/-- Store a volume. -/
abbrev storeVolume (value : Int) : Action B Unit := .ask (.storeVolume value) .done

/-- Do what a program of the output does. -/
def within {α : Type} (p : Program B α) : Action B α :=
  p.translate fun request => .ask (.output request) .done

/-! ## Using a device -/

/-- The track in the byte order of the machine. Only 16-bit samples have one. -/
def inOrder (t : Track) (order : ByteOrder) : Track :=
  if t.bits = 16 ∧ order ≠ .native then { t with samples := Sample.swapAll t.samples } else t

/-- Play a track whose samples are in `order`. -/
def play (o : Output B) (t : Track) (order : ByteOrder) : Action B (Except PlayError Unit) := do
  if ← enter then
    setWorking true
    let settings : PlaySettings := { volume := ← volume, order := .native }
    let result ← within (o.play (inOrder t order) settings)
    setWorking false
    leave
    return result
  else
    log .error ("audio: play() on a closed " ++ o.name ++ " device")
    return .error .closed

/-- Interrupt the playback that is going on, if any. -/
def stop (o : Output B) : Action B Unit := within o.stop

/-- Close the device and its output, once. -/
def close (o : Output B) : Action B Unit := do
  if ← shut then
    within o.close
    log .debug ("audio: closed " ++ o.name ++ " output")

/-- Set the volume of the tracks to come. -/
def setVolume (o : Output B) (value : Int) : Action B (Except PlayError Unit) := do
  if Sample.volumeInRange value then
    storeVolume value
    within (o.setVolume value)
    return .ok ()
  else
    log .warning ("audio: volume " ++ toString value ++ " out of range (" ++ toString Sample.volumeMin
      ++ "..=" ++ toString Sample.volumeMax ++ ")")
    return .error (.volumeOutOfRange value)

/-- What happens when an output that was opened becomes a device. -/
def opened (o : Output B) : Action B Unit := log .debug ("audio: opened " ++ o.name ++ " output")

/-- What happens when the device goes out of use: it is closed, and its output goes out of use. -/
def dropped (o : Output B) : Action B Unit := do
  close o
  within o.dropped

/-- A device as it is shown. -/
def describe (name : String) (s : Shared) : String :=
  "Device \x7b backend: \"" ++ name ++ "\", volume: " ++ toString s.volume ++ ", format: Little, state: "
    ++ s.state.title ++ " \x7d"

/-! ## The surroundings of a device -/

/-- What becomes of what the threads share, and the answer, for each request of the device itself; `none`
    for the requests that go on to the output or to the log. -/
def Shared.answer (s : Shared) : (r : Request B) → Option (Request.Answer r × Shared)
  | .enter =>
    if s.state = .closed then some (false, s) else some (true, { s with state := .playing })
  | .leave => some ((), if s.state = .playing then { s with state := .open } else s)
  | .shut =>
    if s.state = .closed then some (false, s) else some (true, { s with state := .closed })
  | .setWorking value => some ((), { s with working := value })
  | .volume => some (s.volume, s)
  | .storeVolume value => some ((), { s with volume := value })
  | .log _ | .output _ => none

end Playout.Device
