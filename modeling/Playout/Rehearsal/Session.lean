import Playout.Rehearsal.Stage

/-!
# `Playout.Rehearsal.Session` — rehearsing a whole session

A session opens an output, uses it step by step and lets it go. Its report tells for every step what came of
it, what was seen during it, and what the device looks like afterwards.

## Contents
- `Step`, `Plan` — what is rehearsed.
- `Outcome`, `Entry`, `Report` — what came of it.
- `Plan.rehearse`.
-/

namespace Playout.Rehearsal

/-! ## Plans -/

/-- One step of a session. -/
inductive Step where
  /-- Play a track, which is made only now; `cues` tell what other threads do meanwhile, and `stopAfter` when
      one of them stops the playback. -/
  | play (track : Unit → Track) (order : ByteOrder) (volume : Int) (cues : List Cue)
      (stopAfter : Option Seconds)
  | stop
  | close
  | setVolume (volume : Int)
  | setLogLevel (level : Severity)
  | describe
  /-- Wait until others have caught up, which they always have. -/
  | idle

/-- A session to be rehearsed, with an output over the interface `B`. -/
structure Plan (B : Playout.Interface) (ν κ : Type) where
  native : Native B ν
  start : ν
  /-- What is told of the native side after every step. -/
  tell : ν → κ
  openOutput : Program B (Except OpenError (Output B))
  /-- Whether the output is used directly and not through a device. -/
  bare : Bool
  level : Severity
  script : List Step

/-! ## Reports -/

/-- What came of a step. -/
inductive Outcome where
  | opened
  | notOpened (error : OpenError)
  | done
  | played (result : Except PlayError Unit)
  | volumeSet (result : Except PlayError Unit)
  | described (name : String) (playCommand : Option String) (text : Option String)
  /-- The step has not come to an end. -/
  | hung

/-- One step as it is reported. The device and its log level are told unless the output is bare. -/
structure Entry (κ : Type) where
  outcome : Outcome
  seen : List Event
  device : Option (Device.Shared × Severity)
  native : κ

/-- The report of a session. -/
structure Report (κ : Type) where
  entries : List (Entry κ)
  /-- What was seen when everything was let go. -/
  ending : List Event
  /-- What the native side was left like. -/
  last : κ

/-! ## Rehearsing -/

section
variable {B : Playout.Interface} {ν κ : Type}

/-- What was seen so far, in order, and the world without it. -/
def World.collect (w : World ν) : List Event × World ν := (w.seen.reverse, { w with seen := [] })

/-- What came of a program that ended. -/
def outcomeOf {α : Type} (f : α → Outcome) (ending : Program.Ending α) : Outcome :=
  match ending.result? with
  | some result => f result
  | none => .hung

/-- Rehearse one step. -/
def Cast.step (c : Cast B ν) (o : Output B) (s : Step) (w : World ν) : Outcome × World ν :=
  match s with
  | .play track order volume cues stopAfter =>
    let (ending, w) := c.run (c.play (track ()) order volume)
      { w with cues, stopAt := stopAfter.map (w.now + ·) }
    let w := match w.stopAt with
      | some _ => c.call (w.cues.length + 2) .stop { w with stopAt := none }
      | none => w
    (outcomeOf .played ending, { w with cues := [] })
  | .stop =>
    let (ending, w) := c.run c.stop w
    (outcomeOf (fun _ => .done) ending, w)
  | .close =>
    let (ending, w) := c.run c.close w
    (outcomeOf (fun _ => .done) ending, w)
  | .setVolume v =>
    let (ending, w) := c.run (c.setVolume v) w
    (outcomeOf .volumeSet ending, w)
  | .setLogLevel level => (.done, c.setLogLevel level w)
  | .describe =>
    let shown := if c.hasDevice then some (Device.describe o.name w.device) else none
    (.described o.name o.playCommand shown, w)
  | .idle => (.done, w)

namespace Plan

/-- Close a step: what came of it, what was seen, and the device. -/
def entry (p : Plan B ν κ) (bare : Bool) (outcome : Outcome) (w : World ν) : Entry κ × World ν :=
  let (seen, w) := w.collect
  let device := if bare then none else some (w.device, w.level)
  ({ outcome, seen, device, native := p.tell w.native }, w)

/-- Rehearse steps in order. -/
def steps (p : Plan B ν κ) (c : Cast B ν) (o : Output B) :
    List Step → World ν → List (Entry κ) × World ν
  | [], w => ([], w)
  | s :: rest, w =>
    let (outcome, w) := c.step o s w
    let (entry, w) := p.entry p.bare outcome w
    let (entries, w) := p.steps c o rest w
    (entry :: entries, w)

/-- Rehearse a session with an output that has been opened. -/
def useOutput (p : Plan B ν κ) (o : Output B) (w : World ν) : Report κ :=
  let c := if p.bare then Cast.ofOutput p.native o else Cast.ofDevice p.native o
  let w := if p.bare then w else (c.run (Device.opened o) w).2
  let (first, w) := p.entry p.bare .opened w
  let (entries, w) := p.steps c o p.script w
  let (_, w) := c.run c.dropped w
  { entries := first :: entries, ending := w.collect.1, last := p.tell w.native }

/-- A session that ends before it has begun. -/
def endEarly (p : Plan B ν κ) (outcome : Outcome) (w : World ν) : Report κ :=
  { entries := [(p.entry true outcome w).1], ending := [], last := p.tell w.native }

/-- Rehearse a session. A session whose output cannot be opened ends there. -/
def rehearse (p : Plan B ν κ) : Report κ :=
  match (Cast.empty p.native).run (Device.within p.openOutput) { level := p.level, native := p.start } with
  | (.finished (.ok o), w) => p.useOutput o w
  | (.finished (.error e), w) => p.endEarly (.notOpened e) w
  | (_, w) => p.endEarly .hung w

end Plan

end

end Playout.Rehearsal
