import Playout.Paced.Output

/-!
# `Playout.Rehearsal.Script` — how scripted devices behave

A script tells, call by call, how a device answers; where it has run out, the device does what a well-behaved
device does. A rack holds the scripts of the devices that may still be opened, in order, and those that are
open.

## Contents
- `SpaceTurn`, `WriteTurn`, `WaitTurn`, `ChunkTurn`, `Grant`, `Script`.
- `Rack`, with `openNext`, `release` and a function per turn that is taken.
-/

namespace Playout.Rehearsal

/-! ## Turns -/

/-- How a device answers a question for its free space. -/
inductive SpaceTurn where
  | free (space : Paced.BufferSpace) (after : Seconds)
  | fail (failure : Failure)

/-- How a device answers a write. -/
inductive WriteTurn where
  /-- Take at most this many bytes. -/
  | take (most : Nat)
  | fail (failure : Failure)
  /-- Fail because another thread stops the playback meanwhile. -/
  | failStopped (failure : Failure)

/-- How a wait for a device ends. -/
inductive WaitTurn where
  | ready
  | stopped
  | timedOut
  | fail (failure : Failure)
  /-- Stopped if there is a wakeup, else ready. -/
  | poll
  /-- Stopped by a wakeup, or timed out. -/
  | sleep
  /-- Another thread stops the playback; then as `poll`. -/
  | stop

/-- How a live stream answers a chunk. -/
inductive ChunkTurn where
  | accept
  /-- Take it, while another thread stops the playback. -/
  | stop
  | fail (failure : Failure)

/-- What a device grants: what is asked for, but for what is set here. -/
structure Grant where
  failure : Option Failure := none
  bits : Option UInt16 := none
  channels : Option UInt16 := none
  rate : Option UInt32 := none

/-- The parameters that a device grants. -/
def Grant.answer (g : Grant) (wanted : Paced.StreamParams) : Except Failure Paced.StreamParams :=
  match g.failure with
  | some failure => .error failure
  | none =>
    .ok { bits := g.bits.getD wanted.bits
          channels := g.channels.getD wanted.channels
          rate := g.rate.getD wanted.rate }

/-- The behaviour of one device. -/
structure Script where
  openFailure : Option Failure := none
  grant : Grant := {}
  spaces : List SpaceTurn := []
  writes : List WriteTurn := []
  waits : List WaitTurn := []
  chunks : List ChunkTurn := []
  periodLength : Option Nat := none
  resetFailure : Option Failure := none
  syncFailure : Option Failure := none
  dropFailure : Option Failure := none

/-- A call that fails if a failure is scripted for it. -/
def outcome : Option Failure → Except Failure Unit
  | some failure => .error failure
  | none => .ok ()

/-! ## Devices -/

/-- A device that was opened. -/
structure Rig where
  script : Script
  granted : Paced.StreamParams := ⟨16, 1, 0⟩

/-- The scripts of devices that may still be opened, and the open devices by their handles. -/
structure Rack where
  scripts : List Script := []
  rigs : List (Handle × Rig) := []
  /-- The handle of the next device. -/
  next : Handle := 0

namespace Rack

/-- Open the next device. -/
def openNext (r : Rack) : Except Failure Handle × Rack :=
  let script := r.scripts.headD {}
  let r := { r with scripts := r.scripts.drop 1 }
  match script.openFailure with
  | some failure => (.error failure, r)
  | none => (.ok r.next, { r with rigs := r.rigs ++ [(r.next, { script })], next := r.next + 1 })

/-- A device is closed. -/
def release (r : Rack) (h : Handle) : Rack := { r with rigs := r.rigs.filter (·.1 ≠ h) }

/-- An open device. -/
def rig (r : Rack) (h : Handle) : Rig := (r.rigs.lookup h).getD { script := {} }

/-- Change an open device. -/
def update (r : Rack) (h : Handle) (f : Rig → Rig) : Rack :=
  { r with rigs := r.rigs.map fun e => if e.1 = h then (e.1, f e.2) else e }

/-- Take the next turn of one kind, or the standard one when there is none left. -/
def turn {τ : Type} (standard : τ) (get : Script → List τ) (set : Script → List τ → Script) (h : Handle)
    (r : Rack) : τ × Rack :=
  let turns := get (r.rig h).script
  (turns.headD standard, r.update h fun g => { g with script := set g.script (turns.drop 1) })

/-- The free space of a device without a script. -/
def ample : Paced.BufferSpace := ⟨16, 512, 8192⟩

/-- The next answer for free space. -/
def spaceTurn : Handle → Rack → SpaceTurn × Rack :=
  turn (.free ample 0) (·.spaces) fun s turns => { s with spaces := turns }

/-- The next answer to a write of `offered` bytes. -/
def writeTurn (offered : Nat) : Handle → Rack → WriteTurn × Rack :=
  turn (.take offered) (·.writes) fun s turns => { s with writes := turns }

/-- The next end of a wait. -/
def waitTurn : Handle → Rack → WaitTurn × Rack :=
  turn .ready (·.waits) fun s turns => { s with waits := turns }

/-- The next answer to a chunk. -/
def chunkTurn : Handle → Rack → ChunkTurn × Rack :=
  turn .accept (·.chunks) fun s turns => { s with chunks := turns }

/-- Ask a device for parameters. -/
def configure (h : Handle) (wanted : Paced.StreamParams) (r : Rack) :
    Except Failure Paced.StreamParams × Rack :=
  match (r.rig h).script.grant.answer wanted with
  | .ok granted => (.ok granted, r.update h fun g => { g with granted })
  | .error failure => (.error failure, r)

/-- The bytes in one period: four frames, if nothing else is scripted. -/
def periodLength (h : Handle) (r : Rack) : Nat :=
  let g := r.rig h
  g.script.periodLength.getD (4 * (g.granted.bits.toNat / 8) * g.granted.channels.toNat)

end Rack

end Playout.Rehearsal
