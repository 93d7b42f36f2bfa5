import Playout.Severity

/-!
# `Playout.Log` — log handles and their levels

A log handle forwards messages to a sink, if they are severe enough. Handles made from each other by
cloning form a group and share one level; a forked handle keeps the sink but begins a group of its own,
at the level its parent has at that moment.

## Contents
- `Sink`, `Handle`, `Book` — all handles there are, and what was delivered.
- `Book.create`, `Book.clone`, `Book.fork` — new handles.
- `Book.level?`, `Book.describe?`, `Book.setLevel`, `Book.enabled`, `Book.log`.
- `Action`, `Book.act` — one step of a history.
-/

namespace Playout.Log

/-- What becomes of the messages of a handle. -/
inductive Sink where
  | collect
  | facade
  | discard
  deriving DecidableEq, Repr

/-- The text that a message leaves behind in a sink, if any. -/
def Sink.record (sink : Sink) (line : Line) : Option String :=
  match sink with
  | collect => some line.render
  | facade => some ("facade:" ++ line.severity.facade.name ++ ":" ++ line.severity.facadeText line.text)
  | discard => none

/-- A handle: the sink it forwards to, by number, and the group whose level it shares. -/
structure Handle where
  sink : Nat
  group : Nat
  deriving DecidableEq, Repr

/-- All sinks, the level of every group, all handles in the order in which they were made, and the
    messages that sinks were given, each with the number of its sink. -/
structure Book where
  sinks : List Sink := []
  levels : List Severity := []
  handles : List Handle := []
  delivered : List (Nat × Line) := []
  deriving DecidableEq, Repr

namespace Book

/-! ## New handles -/

/-- A handle to a new sink, forwarding everything. -/
def create (b : Book) (sink : Sink) : Book :=
  { b with
    sinks := b.sinks ++ [sink]
    levels := b.levels ++ [.debug]
    handles := b.handles ++ [⟨b.sinks.length, b.levels.length⟩] }

/-- Another handle of the same group. A number that is no handle's makes none. -/
def clone (b : Book) (h : Nat) : Book :=
  match b.handles[h]? with
  | some handle => { b with handles := b.handles ++ [handle] }
  | none => b

/-- A handle to the same sink, in a group of its own that begins at the same level. -/
def fork (b : Book) (h : Nat) : Book :=
  match b.handles[h]? with
  | some handle =>
    { b with
      levels := b.levels ++ [b.levels[handle.group]?.getD .debug]
      handles := b.handles ++ [⟨handle.sink, b.levels.length⟩] }
  | none => b

/-! ## Levels and messages -/

/-- The level of a handle. -/
def level? (b : Book) (h : Nat) : Option Severity :=
  (b.handles[h]?).bind fun handle => b.levels[handle.group]?

/-- A handle as it is shown. -/
def describe? (b : Book) (h : Nat) : Option String :=
  (b.level? h).map fun level => "AudioLog \x7b level: " ++ level.title ++ " \x7d"

/-- Forward only messages at `level` or more severe, for every handle of the group. -/
def setLevel (b : Book) (h : Nat) (level : Severity) : Book :=
  match b.handles[h]? with
  | some handle => { b with levels := b.levels.set handle.group level }
  | none => b

/-- Whether a handle forwards messages of a severity. -/
def enabled (b : Book) (h : Nat) (severity : Severity) : Bool :=
  ((b.level? h).map severity.passes).getD false

/-- Log a message on a handle. -/
def log (b : Book) (h : Nat) (line : Line) : Book :=
  match b.handles[h]? with
  | some handle =>
    if b.enabled h line.severity then { b with delivered := b.delivered ++ [(handle.sink, line)] } else b
  | none => b

/-- What the sinks recorded of the messages from the `start`-th on. -/
def recordsFrom (b : Book) (start : Nat) : List String :=
  (b.delivered.drop start).filterMap fun (sink, line) => (b.sinks[sink]?).bind (·.record line)

end Book

/-! ## Histories -/

/-- One step of the use of log handles. -/
inductive Action where
  | create (sink : Sink)
  | clone (h : Nat)
  | fork (h : Nat)
  | setLevel (h : Nat) (level : Severity)
  | log (h : Nat) (line : Line)
  deriving DecidableEq, Repr

/-- The book after one more step. -/
def Book.act (b : Book) : Action → Book
  | .create sink => b.create sink
  | .clone h => b.clone h
  | .fork h => b.fork h
  | .setLevel h level => b.setLevel h level
  | .log h line => b.log h line

/-- The book after a history that begins with no handles. -/
def Book.ofHistory (actions : List Action) : Book := actions.foldl act {}

/-! ## Small facts -/

/-- Logging creates no handles and changes no levels. -/
@[simp] theorem Book.level?_log (b : Book) (h i : Nat) (line : Line) :
    (b.log h line).level? i = b.level? i := by
  unfold Book.log
  split
  · split <;> rfl
  · rfl

/-- Setting a level is seen by the handle it was set on. -/
theorem Book.level?_setLevel {b : Book} {h : Nat} {level : Severity}
    (known : (b.level? h).isSome = true) : (b.setLevel h level).level? h = some level := by
  simp only [Book.level?, Option.isSome_bind] at known
  unfold Book.setLevel Book.level?
  cases found : b.handles[h]? with
  | none => simp [found] at known
  | some handle =>
    simp only [found, Option.any_some, isSome_getElem?] at known
    simp [found, known]

end Playout.Log
