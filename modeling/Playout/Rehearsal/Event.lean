import Playout.Device
import Playout.Live.Output
import Playout.Paced.Output
import Playout.Text.Hex

/-!
# `Playout.Rehearsal.Event` — what can be seen of a playback

A rehearsal runs an output against surroundings that follow a script, and records everything that can be
seen from outside: messages, and calls of the native side.

## Contents
- `Event` and its text.
-/

namespace Playout.Rehearsal

/-- One thing that was seen. -/
inductive Event where
  | line (line : Line)
  | opened (device : String)
  | openedNonblocking (device : String)
  | openedLive (format : Live.Format)
  | dropped
  | configured (wanted : Paced.StreamParams)
  | wrote (taken : List UInt8) (offered : Nat)
  | writeFailed (offered : Nat)
  | writeInterrupted
  | reset
  | synced
  | droppedPending
  | waited (draining : Bool) (timeout : Seconds)
  | chunk (bytes : List UInt8)
  | minLength (length : Nat)
  | probed (device : Device.Shared)

/-- Three numbers of a format. -/
def formatText (bits channels : UInt16) (rate : UInt32) : String :=
  toString bits.toNat ++ "/" ++ toString channels.toNat ++ "/" ++ toString rate.toNat

/-- A truth value as text. -/
def truthText (b : Bool) : String := if b then "true" else "false"

/-- The text of an event. -/
def Event.text : Event → String
  | line l => l.render
  | opened device => "open " ++ device
  | openedNonblocking device => "open_nonblocking " ++ device
  | openedLive f => "open_live " ++ formatText f.bits f.channels f.rate ++ " " ++ f.order.name
  | dropped => "drop"
  | configured p => "configure " ++ formatText p.bits p.channels p.rate
  | wrote taken offered =>
    "write " ++ toString taken.length ++ " of " ++ toString offered ++ ": " ++ Text.hex taken
  | writeFailed offered => "write of " ++ toString offered ++ " fails"
  | writeInterrupted => "write interrupted"
  | reset => "reset"
  | synced => "sync"
  | droppedPending => "drop_pending"
  | waited draining timeout =>
    "wait draining=" ++ truthText draining ++ " timeout=" ++ toString timeout.wholeMillis
  | chunk bytes => "chunk " ++ toString bytes.length ++ ": " ++ Text.hex bytes
  | minLength length => "min_length " ++ toString length
  | probed d =>
    "probe " ++ d.state.name ++ " working=" ++ truthText d.working ++ " volume=" ++ toString d.volume

end Playout.Rehearsal
