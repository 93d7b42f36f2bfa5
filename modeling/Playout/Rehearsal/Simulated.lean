import Playout.Rehearsal.Script
import Playout.Rehearsal.Sides

/-!
# `Playout.Rehearsal.Simulated` — devices that play in time

Simulated devices have a buffer that runs empty at the rate at which its contents would be played, and count
what is done with them. Nothing of them can be seen while they play; the counts can be asked for.

## Contents
- `Counts`, `Setup`, `Tank`, `Hall` — the devices.
- `pacedDevices`, `pollDevices`.
- `LiveHall`, `liveDevices`.
-/

namespace Playout.Rehearsal.Simulated

/-! ## Buffers -/

/-- What was done with all devices together. -/
structure Counts where
  opened : Nat := 0
  closed : Nat := 0
  bytesWritten : Nat := 0
  syncs : Nat := 0
  resets : Nat := 0
  deriving DecidableEq, Repr

/-- The devices that are open. -/
def Counts.live (c : Counts) : Nat := c.opened - c.closed

/-- How all devices behave. -/
structure Setup where
  /-- No device can be opened. -/
  unavailable : Bool := false
  /-- No device ever takes anything. -/
  stalled : Bool := false
  grant : Grant := {}

/-- The buffer of a device: how fast it runs empty, the bytes of a period, and what was in it at a
    moment. -/
structure Tank where
  bytesPerSecond : Nat := 0
  period : Nat := 0
  queued : Rat := 0
  asOf : Seconds := 0

namespace Tank

/-- The buffer at a later moment. -/
def drain (t : Tank) (now : Seconds) : Tank :=
  let left := t.queued - (now - t.asOf) * t.bytesPerSecond
  { t with queued := if left < 0 then 0 else left, asOf := now }

/-- The bytes that a buffer of a given capacity has room for. -/
def free (t : Tank) (capacity : Nat) : Nat := capacity - t.queued.ceil.toNat

end Tank

/-- The devices of a simulation. -/
structure Hall where
  setup : Setup
  counts : Counts := {}
  tanks : List (Handle × Tank) := []
  next : Handle := 0

namespace Hall

/-- The buffer of a device. -/
def tank (a : Hall) (h : Handle) : Tank := (a.tanks.lookup h).getD {}

/-- Change the buffer of a device. -/
def setTank (a : Hall) (h : Handle) (t : Tank) : Hall :=
  { a with tanks := (h, t) :: a.tanks.filter (·.1 ≠ h) }

/-- Open a device. -/
def openDevice (device : String) (now : Seconds) (a : Hall) : Except Failure Handle × Hall :=
  if a.setup.unavailable then (.error { cause := "no such device: " ++ device }, a)
  else
    (.ok a.next,
      { a.setTank a.next { asOf := now } with
        next := a.next + 1, counts := { a.counts with opened := a.counts.opened + 1 } })

/-- Close a device. -/
def release (h : Handle) (a : Hall) : Hall :=
  { a with
    tanks := a.tanks.filter (·.1 ≠ h), counts := { a.counts with closed := a.counts.closed + 1 } }

/-- The frames of one period. -/
def periodFrames : Nat := 256

/-- Ask a device for parameters, which sets the rate at which its buffer runs empty. -/
def configure (h : Handle) (wanted : Paced.StreamParams) (a : Hall) :
    Except Failure Paced.StreamParams × Hall :=
  match a.setup.grant.answer wanted with
  | .error failure => (.error failure, a)
  | .ok granted =>
    let frame := granted.bits.toNat / 8 * granted.channels.toNat
    (.ok granted, a.setTank h { a.tank h with
      bytesPerSecond := frame * granted.rate.toNat, period := periodFrames * frame })

/-- Put as much into a buffer as it has room for. -/
def write (capacity : Tank → Nat) (h : Handle) (length : Nat) (now : Seconds) (a : Hall) : Nat × Hall :=
  let t := (a.tank h).drain now
  let free := t.free (capacity t)
  let taken := if length < free then length else free
  (taken, { a.setTank h { t with queued := t.queued + taken } with
    counts := { a.counts with bytesWritten := a.counts.bytesWritten + taken } })

/-- Throw away what is in a buffer. -/
def reset (h : Handle) (a : Hall) : Hall :=
  { a.setTank h { a.tank h with queued := 0 } with
    counts := { a.counts with resets := a.counts.resets + 1 } }

end Hall

section
variable {ν : Type} [Holds ν Hall]

/-- Open a device. -/
def openDevice (device : String) : Action ν (Except Failure Handle) := do
  let moment ← now
  useDevices (Hall.openDevice device moment)

/-- Throw away what is in a buffer. -/
def reset (h : Handle) : Action ν (Except Failure Unit) := useDevices fun a => (.ok (), a.reset h)

/-- The buffer of a device at this moment. -/
def tankNow (h : Handle) : Action ν Tank := do
  let moment ← now
  useDevices fun a =>
    let t := (a.tank h).drain moment
    (t, a.setTank h t)

/-! ## Devices that tell their free space -/

/-- The bytes of a fragment. -/
def fragmentSize : Nat := 512

/-- The bytes of a buffer: sixteen fragments. -/
def pacedCapacity : Nat := 16 * fragmentSize

/-- Devices that tell their free space. -/
def pacedDevices : PacedDevices ν where
  openDevice := openDevice
  configure h wanted := useDevices (Hall.configure h wanted)
  release h := useDevices fun a => ((), a.release h)
  flush _ := useDevices fun a => (.ok (), { a with counts := { a.counts with syncs := a.counts.syncs + 1 } })
  space h := do
    if (← devices).setup.stalled then return .ok ⟨0, fragmentSize, 0⟩
    else
      let free := (← tankNow h).free pacedCapacity
      return .ok ⟨free / fragmentSize, fragmentSize, free⟩
  write h bytes := do
    let moment ← now
    return .ok (← useDevices (Hall.write (fun _ => pacedCapacity) h bytes.length moment))
  reset := reset

/-! ## Devices that tell when they are ready -/

/-- The bytes of a buffer: four periods. -/
def pollCapacity (t : Tank) : Nat := 4 * t.period

/-- How long it takes until a buffer has room for a period or, when draining, is empty. A buffer that does
    not run empty never gets there. -/
def untilReady (t : Tank) (draining : Bool) : Option Seconds :=
  if t.bytesPerSecond = 0 then none
  else
    let target : Nat := if draining then 0 else pollCapacity t - t.period
    let beyond := t.queued - target
    some (if beyond < 0 then 0 else beyond / t.bytesPerSecond)

/-- Devices that tell when they are ready. -/
def pollDevices : PollDevices ν where
  openDevice := openDevice
  configure h wanted := do
    let granted ← useDevices (Hall.configure h wanted)
    let moment ← now
    useDevices fun a => ((), a.setTank h { a.tank h with queued := 0, asOf := moment })
    return granted
  periodLength h := do return ((← devices).tank h).period
  release h := useDevices fun a => ((), a.release h)
  write h bytes := do
    if (← devices).setup.stalled then return .ok 0
    else
      let moment ← now
      return .ok (← useDevices (Hall.write pollCapacity h bytes.length moment))
  wait signalled h draining timeout := do
    let t ← tankNow h
    let delay := if (← devices).setup.stalled then none else untilReady t draining
    let (span, outcome) := match delay with
      | some delay => if delay ≤ timeout then (delay, Poll.Readiness.ready) else (timeout, .timedOut)
      | none => (timeout, .timedOut)
    match ← waitOn signalled span with
    | .cancelled => return .ok .stopped
    | .timedOut => return .ok outcome
  dropPending := reset

end

/-! ## Live streams -/

/-- What was done with all streams together, and which chunk is to fail. -/
structure LiveHall where
  failOnChunk : Option Nat := none
  attempts : Nat := 0
  opened : Nat := 0
  closed : Nat := 0
  bytes : Nat := 0
  chunks : Nat := 0
  /-- The samples of the latest chunk. -/
  lastSamples : List Int16 := []
  formats : List (Handle × Live.Format) := []

/-- How long a chunk plays. -/
def chunkLasts (f : Live.Format) (length : Nat) : Seconds :=
  let atLeastOne (n : Nat) : Nat := if n = 0 then 1 else n
  let frame := atLeastOne (f.bits.toNat / 8 * f.channels.toNat)
  (length : Rat) / frame / atLeastOne f.rate.toNat

/-- A library whose streams sleep for as long as each chunk plays. -/
def liveDevices {ν : Type} [Holds ν LiveHall] : LiveDevices ν where
  openStream format := useDevices fun a =>
    (.ok a.opened, { a with opened := a.opened + 1, formats := (a.opened, format) :: a.formats })
  release _ := useDevices fun a => ((), { a with closed := a.closed + 1 })
  play h bytes := do
    let attempt ← useDevices fun a => (a.attempts + 1, { a with attempts := a.attempts + 1 })
    let a ← devices
    if a.failOnChunk = some attempt then return .error { cause := "device disappeared" }
    else
      let format := (a.formats.lookup h).getD ⟨16, 1, 1, .native⟩
      sleepAll (chunkLasts format bytes.length)
      useDevices fun a => ((), { a with
        bytes := a.bytes + bytes.length
        chunks := a.chunks + 1
        lastSamples := Sample.ofBytes bytes format.bits format.order })
      return .ok ()

end Playout.Rehearsal.Simulated
