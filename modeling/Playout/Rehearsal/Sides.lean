import Playout.Poll.Output
import Playout.Rehearsal.Stage

/-!
# `Playout.Rehearsal.Sides` — the native sides of the outputs that play on devices

A native side has two parts: what the threads of an output share, which is the same in every rehearsal, and
the devices, which differ. Here the first part is put around any devices.

## Contents
- `Lock`, `Holds`, `useDevices`.
- `PacedDevices`, `PacedSide`, `paced`.
- `PollDevices`, `PollSide`, `poll`.
- `LiveDevices`, `LiveSide`, `live`.
-/

namespace Playout.Rehearsal

/-! ## Shared values -/

/-- A value that one thread at a time can hold. -/
structure Lock (α : Type) where
  value : α
  taken : Bool := false

/-- A state with devices in it. -/
class Holds (ν : Type) (δ : outParam Type) where
  get : ν → δ
  set : ν → δ → ν

section
variable {ν δ α : Type}

/-- Change the state of the native side and get something from it. -/
def changeWith (f : ν → α × ν) : Action ν α := do
  let (answer, state) := f (← native)
  setNative state
  return answer

/-- Hold a locked value. -/
def take (get : ν → Lock α) (set : ν → Lock α → ν) : Action ν α := do
  let lock := get (← native)
  if lock.taken then hang
  else
    change fun s => set s { lock with taken := true }
    return lock.value

/-- Change the devices and get something from them. -/
def useDevices [Holds ν δ] (f : δ → α × δ) : Action ν α :=
  changeWith fun s =>
    let (answer, devices) := f (Holds.get s)
    (answer, Holds.set s devices)

/-- The devices. -/
def devices [Holds ν δ] : Action ν δ := do return Holds.get (← native)

/-- The time that passes between two looks at the clock. -/
def clockTick : Seconds := 1 / 1000000

/-- A look at the clock. -/
def readClock : Action ν Seconds := do
  sleepAll clockTick
  now

end

/-! ## Paced playback -/

/-- Devices that tell their free space. -/
structure PacedDevices (ν : Type) where
  openDevice : String → Action ν (Except Failure Handle)
  configure : Handle → Paced.StreamParams → Action ν (Except Failure Paced.StreamParams)
  release : Handle → Action ν Unit
  flush : Handle → Action ν (Except Failure Unit)
  space : Handle → Action ν (Except Failure Paced.BufferSpace)
  write : Handle → List UInt8 → Action ν (Except Failure Nat)
  reset : Handle → Action ν (Except Failure Unit)

/-- What the paced output shares, and its devices. -/
structure PacedSide (δ : Type) where
  devices : δ
  slot : Option Handle := none
  cancelled : Bool := false

instance (δ : Type) : Holds (PacedSide δ) δ where
  get s := s.devices
  set s devices := { s with devices }

/-- Use the device in the slot, if there is one. -/
def PacedSide.onSlot {δ α : Type} (f : Handle → Action (PacedSide δ) α) :
    Action (PacedSide δ) (Option α) := do
  match (← native).slot with
  | some h => return some (← f h)
  | none => return none

/-- The native side of the paced output. -/
def paced {δ : Type} (d : PacedDevices (PacedSide δ)) : Native Paced.Interface (PacedSide δ)
  | .log line => deliver line
  | .resetSignal => change fun s => { s with cancelled := false }
  | .cancelSignal => change fun s => { s with cancelled := true }
  | .cancelled => return (← native).cancelled
  | .pause span => waitOn (·.cancelled) span
  | .clock => readClock
  | .nap span => sleepAll span
  | .openDevice device => d.openDevice device
  | .configure h wanted => d.configure h wanted
  | .releaseDevice h => d.release h
  | .flush h => d.flush h
  | .install h => changeWith fun s => (s.slot, { s with slot := some h })
  | .uninstall => changeWith fun s => (s.slot, { s with slot := none })
  | .space => PacedSide.onSlot d.space
  | .write bytes => PacedSide.onSlot fun h => d.write h bytes
  | .resetDevice => PacedSide.onSlot d.reset

/-! ## Poll-driven playback -/

/-- Devices that tell when they are ready. A wait is given how to see whether there is a wakeup. -/
structure PollDevices (ν : Type) where
  openDevice : String → Action ν (Except Failure Handle)
  configure : Handle → Paced.StreamParams → Action ν (Except Failure Paced.StreamParams)
  periodLength : Handle → Action ν Nat
  release : Handle → Action ν Unit
  write : Handle → List UInt8 → Action ν (Except Failure Nat)
  wait : (signalled : ν → Bool) → Handle → Bool → Seconds → Action ν (Except Failure Poll.Readiness)
  dropPending : Handle → Action ν (Except Failure Unit)

/-- What the poll-driven output shares, and its devices. -/
structure PollSide (δ : Type) where
  devices : δ
  device : Lock (Option Handle) := ⟨none, false⟩
  active : Lock Bool := ⟨false, false⟩
  wakeup : Poll.Wakeup := { capacity := 256 }

instance (δ : Type) : Holds (PollSide δ) δ where
  get s := s.devices
  set s devices := { s with devices }

/-- The native side of the poll-driven output. -/
def poll {δ : Type} (d : PollDevices (PollSide δ)) : Native Poll.Interface (PollSide δ)
  | .log line => deliver line
  | .takeDevice => take (·.device) fun s l => { s with device := l }
  | .putDevice device => change fun s => { s with device := { value := device } }
  | .openDevice device => d.openDevice device
  | .configure h wanted => d.configure h wanted
  | .periodLength h => d.periodLength h
  | .releaseDevice h => d.release h
  | .createWakeup => return .ok ()
  | .takeActive => take (·.active) fun s l => { s with active := l }
  | .putActive active => change fun s => { s with active := { value := active } }
  | .clearWakeup => change fun s => { s with wakeup := s.wakeup.clear }
  | .notifyWakeup => change fun s => { s with wakeup := s.wakeup.notify }
  | .write h bytes => d.write h bytes
  | .wait h draining timeout => d.wait (·.wakeup.signalled) h draining timeout
  | .dropPending h => d.dropPending h

/-! ## Live playback -/

/-- A library that opens live streams. -/
structure LiveDevices (ν : Type) where
  openStream : Live.Format → Action ν (Except Failure Handle)
  release : Handle → Action ν Unit
  play : Handle → List UInt8 → Action ν (Except Failure Unit)

/-- What the live output shares, and its streams. -/
structure LiveSide (δ : Type) where
  devices : δ
  stream : Lock (Option (Live.Format × Handle)) := ⟨none, false⟩
  stopRequested : Bool := false

instance (δ : Type) : Holds (LiveSide δ) δ where
  get s := s.devices
  set s devices := { s with devices }

/-- The native side of the live output. -/
def live {δ : Type} (d : LiveDevices (LiveSide δ)) : Native Live.Interface (LiveSide δ)
  | .log line => deliver line
  | .setStop value => change fun s => { s with stopRequested := value }
  | .stopRequested => return (← native).stopRequested
  | .takeStream => take (·.stream) fun s l => { s with stream := l }
  | .putStream stream => change fun s => { s with stream := { value := stream } }
  | .openStream format => d.openStream format
  | .releaseStream h => d.release h
  | .playChunk h bytes => d.play h bytes

end Playout.Rehearsal
