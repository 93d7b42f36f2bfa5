import Playout.Flow.Output
import Playout.Rehearsal.Sides
import Playout.Simple.Output

/-!
# `Playout.Rehearsal.Network` — a network that reaches nobody

The native sides of the two outputs that play on servers, on a host whose network has no way to any server.
Connecting fails at once, so that such an output is never opened.

## Contents
- `unreachable` — how connecting fails.
- `SimpleSide`, `simple`.
- `FlowSide`, `flow`.
-/

namespace Playout.Rehearsal

/-- How connecting fails. -/
def unreachable : Failure := { cause := "Network is unreachable (os error 101)" }

/-- What the output of a simple-protocol server shares. -/
structure SimpleSide where
  cancelled : Bool := false
  connection : Lock (Option (Simple.SampleSpec × Handle)) := ⟨none, false⟩

/-- The native side of the output of a simple-protocol server. -/
def simple : Native Simple.Interface SimpleSide
  | .log line => deliver line
  | .resetSignal => change fun s => { s with cancelled := false }
  | .cancelSignal => change fun s => { s with cancelled := true }
  | .cancelled => return (← native).cancelled
  | .pause span => waitOn (·.cancelled) span
  | .clock => readClock
  | .takeConnection => take (·.connection) fun s l => { s with connection := l }
  | .putConnection connection => change fun s => { s with connection := { value := connection } }
  | .dial _ => return .error unreachable
  | .send _ _ => return .error unreachable
  | .hangUp _ => return ()

/-- What the output of a flow server shares. -/
structure FlowSide where
  done : Bool := false
  flow : Lock UInt32 := ⟨0, false⟩
  serial : UInt32 := 0

/-- The native side of the output of a flow server. -/
def flow : Native Flow.Player.Interface FlowSide
  | .log line => deliver line
  | .resetDone => change fun s => { s with done := false }
  | .cancelDone => change fun s => { s with done := true }
  | .doneCancelled => return (← native).done
  | .pauseDone span => waitOn (·.done) span
  | .clock => readClock
  | .takeFlow => take (·.flow) fun s l => { s with flow := l }
  | .putFlow flow => change fun s => { s with flow := { value := flow } }
  | .addSerial => changeWith fun s => (s.serial + 1, { s with serial := s.serial + 1 })
  | .order _ => return false
  | .await _ _ => return .forsaken
  | .forget _ => return ()
  | .startPump server =>
    return .error (.connectionRefused (server.text ++ ": " ++ unreachable.text))
  | .shutPump => return ()

end Playout.Rehearsal
