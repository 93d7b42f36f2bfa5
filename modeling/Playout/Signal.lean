import Playout.Number.Seconds

/-!
# `Playout.Signal` — cancelling a timed wait

A cancellation signal is a flag, not an event: a cancellation that lands before a wait begins is seen by
that wait. It stays set until it is reset.

## Contents
- `WaitOutcome`, `Signal`, `Signal.cancel`, `Signal.reset`.
- `Signal.wait` — a wait during which somebody may cancel.
-/

namespace Playout

/-- How a timed wait ended. -/
inductive WaitOutcome where
  | cancelled
  | timedOut
  deriving DecidableEq, Repr, Inhabited

/-- A cancellation signal. -/
structure Signal where
  cancelled : Bool := false
  deriving DecidableEq, Repr

namespace Signal

/-- Set the signal. -/
def cancel (_ : Signal) : Signal := ⟨true⟩

/-- Take the signal back. -/
def reset (_ : Signal) : Signal := ⟨false⟩

/-- A wait of `timeout`, while somebody else cancels `cancelAfter` its beginning, if at all. The signal is
    what it is once both are over. -/
def wait (s : Signal) (timeout : Seconds) (cancelAfter : Option Seconds) : WaitOutcome × Signal :=
  let inTime := match cancelAfter with
    | some moment => decide (moment ≤ timeout)
    | none => false
  (if s.cancelled || inTime then .cancelled else .timedOut, ⟨s.cancelled || cancelAfter.isSome⟩)

end Signal

end Playout
