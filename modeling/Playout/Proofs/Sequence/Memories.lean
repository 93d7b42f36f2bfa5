import Playout.Flow.Output
import Playout.Live.Output
import Playout.Paced.Output
import Playout.Proofs.Poll.Mark
import Playout.Proofs.Sequence.Life
import Playout.Simple.Output

/-!
# `Playout.Proofs.Sequence.Memories` — what each output keeps in memory

## Contents
- `Store` — the memory of an output that keeps one stream open, with `Live.deal` and `Simple.deal`.
- `Paced.Memory`, `Poll.deal`, `Flow.Player.Memory` — the other outputs.
-/

namespace Playout

open Sequence

/-- The signal of an output, and its stream behind a lock. -/
structure Store (Spec : Type) where
  signal : Bool := false
  slot : Option (Spec × Handle) := none
  locked : Bool := false

namespace Live

/-- The library is native. -/
def deal : Deal Live.Interface (Store Format)
  | .log _, m => .inside () m
  | .setStop value, m => .inside () { m with signal := value }
  | .stopRequested, m => .inside m.signal m
  | .takeStream, m => if m.locked then .blocks else .inside m.slot { m with locked := true }
  | .putStream stream, m => .inside () { m with slot := stream, locked := false }
  | .openStream _, _ | .releaseStream _, _ | .playChunk _ _, _ => .native {}

end Live

namespace Simple

/-- The connection and the clock are native, and waiting takes its time. -/
def deal : Deal Simple.Interface (Store SampleSpec)
  | .log _, m => .inside () m
  | .resetSignal, m => .inside () { m with signal := false }
  | .cancelSignal, m => .inside () { m with signal := true }
  | .cancelled, m => .inside m.signal m
  | .pause _, m => .native { signal := m.signal }
  | .takeConnection, m => if m.locked then .blocks else .inside m.slot { m with locked := true }
  | .putConnection connection, m => .inside () { m with slot := connection, locked := false }
  | .clock, _ | .dial _, _ | .send _ _, _ | .hangUp _, _ => .native {}

end Simple

namespace Paced

/-- The signal, and the device that is playing. -/
structure Memory where
  signal : Bool := false
  slot : Option Handle := none

/-- A request that goes to the device in the slot, if there is one. -/
def Memory.reach {r : Paced.Request} (m : Memory) (empty : Paced.Request.Answer r) :
    Dealt Paced.Interface Memory r :=
  match m.slot with
  | some h => .native { device := some h }
  | none => .inside empty m

/-- The device and the clock are native, and waiting takes its time. -/
def deal : Deal Paced.Interface Memory
  | .log _, m => .inside () m
  | .resetSignal, m => .inside () { m with signal := false }
  | .cancelSignal, m => .inside () { m with signal := true }
  | .cancelled, m => .inside m.signal m
  | .pause _, m => .native { signal := m.signal }
  | .install h, m => .inside m.slot { m with slot := some h }
  | .uninstall, m => .inside m.slot { m with slot := none }
  | .space, m => m.reach none
  | .write _, m => m.reach none
  | .resetDevice, m => m.reach none
  | .clock, _ | .nap _, _ | .openDevice _, _ | .configure _ _, _ | .releaseDevice _, _ | .flush _, _ => .native {}

end Paced

namespace Poll

/-- The device is native; it is handed the wakeup to wait on. -/
def deal : Deal Poll.Interface (Shared Unit)
  | .log _, m => .inside () m
  | .takeDevice, m => if m.keeper.isSome then .blocks else .inside m.slot { m with keeper := some () }
  | .putDevice kept, m => .inside () { m with slot := kept, keeper := none }
  | .takeActive, m => if m.holder.isSome then .blocks else .inside m.active { m with holder := some () }
  | .putActive active, m => .inside () { m with active := active, holder := none }
  | .clearWakeup, m => .inside () { m with wakeup := m.wakeup.clear }
  | .notifyWakeup, m => .inside () { m with wakeup := m.wakeup.notify }
  | .wait _ _ _, m => .native { signal := m.wakeup.signalled }
  | .openDevice _, _ | .configure _ _, _ | .periodLength _, _ | .releaseDevice _, _ | .createWakeup, _
  | .write _ _, _ | .dropPending _, _ => .native {}

end Poll

namespace Flow.Player

/-- The signal, and the id of the playing flow behind a lock. -/
structure Memory where
  signal : Bool := false
  flow : UInt32 := 0
  locked : Bool := false

/-- The pump with its counter of serials is native, and so is the clock; waiting takes its time. -/
def deal : Deal Player.Interface Memory
  | .log _, m => .inside () m
  | .resetDone, m => .inside () { m with signal := false }
  | .cancelDone, m => .inside () { m with signal := true }
  | .doneCancelled, m => .inside m.signal m
  | .pauseDone _, m => .native { signal := m.signal }
  | .takeFlow, m => if m.locked then .blocks else .inside m.flow { m with locked := true }
  | .putFlow flow, m => .inside () { m with flow := flow, locked := false }
  | .clock, _ | .addSerial, _ | .order _, _ | .await _ _, _ | .forget _, _ | .startPump _, _ | .shutPump, _ =>
    .native {}

end Flow.Player

end Playout
