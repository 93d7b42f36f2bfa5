import Playout.Rehearsal.Script
import Playout.Rehearsal.Sides

/-!
# `Playout.Rehearsal.Scripted` — scripted devices on the stage

What the calls of scripted devices do, and what can be seen of them.

## Contents
- `pacedDevices`, `pollDevices`, `liveDevices`.
-/

namespace Playout.Rehearsal.Scripted

variable {ν : Type} [Holds ν Rack]

/-- A write to a device. -/
def write (h : Handle) (bytes : List UInt8) : Action ν (Except Failure Nat) := do
  match ← useDevices (Rack.writeTurn bytes.length h) with
  | .take most =>
    let taken := bytes.take most
    see (.wrote taken bytes.length)
    return .ok taken.length
  | .fail failure =>
    see (.writeFailed bytes.length)
    return .error failure
  | .failStopped failure =>
    see .writeInterrupted
    interrupt
    return .error failure

/-- Ask a device for parameters. -/
def configure (h : Handle) (wanted : Paced.StreamParams) :
    Action ν (Except Failure Paced.StreamParams) := do
  see (.configured wanted)
  useDevices (Rack.configure h wanted)

/-- A device is closed. -/
def release (h : Handle) : Action ν Unit := do
  see .dropped
  useDevices fun r => ((), r.release h)

/-- A call that may be scripted to fail. -/
def perform (e : Event) (failure : Script → Option Failure) (h : Handle) :
    Action ν (Except Failure Unit) := do
  see e
  return outcome (failure ((← devices).rig h).script)

/-- Devices that tell their free space. -/
def pacedDevices : PacedDevices ν where
  openDevice device := do
    see (.opened device)
    useDevices Rack.openNext
  configure := configure
  release := release
  flush := perform .synced (·.syncFailure)
  space h := do
    match ← useDevices (Rack.spaceTurn h) with
    | .free space after =>
      if 0 < after then sleepAll after
      return .ok space
    | .fail failure => return .error failure
  write := write
  reset := perform .reset (·.resetFailure)

/-- Devices that tell when they are ready. -/
def pollDevices : PollDevices ν where
  openDevice device := do
    see (.openedNonblocking device)
    useDevices Rack.openNext
  configure := configure
  periodLength h := do return (← devices).periodLength h
  release := release
  write := write
  wait signalled h draining timeout := do
    see (.waited draining timeout)
    let look : Action ν (Except Failure Poll.Readiness) := do
      return .ok (if signalled (← native) then .stopped else .ready)
    match ← useDevices (Rack.waitTurn h) with
    | .ready => return .ok .ready
    | .stopped => return .ok .stopped
    | .timedOut => return .ok .timedOut
    | .fail failure => return .error failure
    | .poll => look
    | .sleep =>
      match ← waitOn signalled timeout with
      | .cancelled => return .ok .stopped
      | .timedOut => return .ok .timedOut
    | .stop =>
      interrupt
      look
  dropPending := perform .droppedPending (·.dropFailure)

/-- A library that opens live streams. -/
def liveDevices : LiveDevices ν where
  openStream format := do
    see (.openedLive format)
    useDevices Rack.openNext
  release := release
  play h bytes := do
    see (.chunk bytes)
    match ← useDevices (Rack.chunkTurn h) with
    | .accept => return .ok ()
    | .stop =>
      interrupt
      return .ok ()
    | .fail failure => return .error failure

end Playout.Rehearsal.Scripted
