import Playout.Log
import Playout.Registry
import Playout.Rehearsal.Network
import Playout.Rehearsal.Scripted
import Playout.Rehearsal.Session

/-!
# `Playout.Rehearsal.Opening` — rehearsing how an output is found and opened

Outputs are opened by name, or the first of some methods that works. The host has no sound card and no
network; the live output opens without touching a device.

## Contents
- `OpenedOutput`, `Opener`.
- `installed` — how the standard outputs open on such a host.
- `Dummy` — entries of a table made up for a rehearsal.
- `Opening`, `Opening.run`, `Opening.letGo`.
-/

namespace Playout.Rehearsal

/-- What is known of an output that was opened. -/
structure OpenedOutput where
  name : String
  playCommand : Option String
  deriving DecidableEq, Repr

/-- How an entry of a table is opened, given the log of the device among all logs. -/
abbrev Opener := OpenParams → Nat → Log.Book → Except OpenError OpenedOutput × Log.Book

/-- What is known of an output. -/
def OpenedOutput.of {B : Playout.Interface} (o : Output B) : OpenedOutput := ⟨o.name, o.playCommand⟩

/-- Open an output on a stage, and pass on what it logs. -/
def Opener.ofStage {B : Playout.Interface} {ν : Type} (native : Native B ν) (start : ν)
    (openFor : OpenParams → Program B (Except OpenError (Output B))) : Opener := fun params log book =>
  let (ending, w) := (Cast.empty native).run (Device.within (openFor params)) { native := start }
  let book := w.seen.reverse.foldl (fun (b : Log.Book) e =>
    match e with
    | .line line => b.log log line
    | _ => b) book
  match ending.result? with
  | some (.ok o) => (.ok (.of o), book)
  | some (.error e) => (.error e, book)
  | none => (.error (.threadNotStarted "opening does not end"), book)

/-- A device that is not there. -/
def noCard : Script := { openFailure := some { cause := "no sound card" } }

/-- How the standard outputs open, in the order of their table. -/
def installed (names : String → Option Net.Ip) (environment : Option String) : List Opener :=
  [.ofStage simple {} (Simple.openFor names),
    .ofStage (paced Scripted.pacedDevices) { devices := { scripts := [noCard] } } Paced.openFor,
    .ofStage (poll Scripted.pollDevices) { devices := { scripts := [noCard] } } Poll.openFor,
    fun _ _ book => (.ok (.of Live.output), book),
    .ofStage flow {} (Flow.Player.openFor names environment)]

/-! ## Tables made up for a rehearsal -/

/-- How an entry of a made-up table opens. -/
inductive Dummy where
  /-- Tell the first slot and the lead, and open a live output. -/
  | works
  /-- Miss a parameter. -/
  | missing
  /-- Log an error and be refused. -/
  | refused
  /-- Find no device of the name in the first slot. -/
  | unavailable
  deriving DecidableEq, Repr

/-- How such an entry is opened. -/
def Dummy.opener (d : Dummy) : Opener := fun params log book =>
  let first := (params.get 0).getD "none"
  match d with
  | works =>
    let text := "table: slot 0 is " ++ first ++ ", lead " ++ toString params.pacing.lead.wholeMillis ++ " ms"
    (.ok (.of Live.output), book.log log ⟨.notice, text⟩)
  | missing => (.error (.missingParameter 2 "thing"), book)
  | refused => (.error (.connectionRefused "nobody home"), book.log log ⟨.error, "table: refused"⟩)
  | unavailable => (.error (.deviceUnavailable first), book)

/-! ## Opening -/

/-- What came of opening: the device's output and log, or an error; and all logs, of which the first is the
    one that was given. -/
structure Opening where
  result : Except OpenError (Registry.Opened OpenedOutput)
  book : Log.Book

/-- The answers to what opening asks. -/
def reactOpening (openers : List Opener) : Program.Reaction (Registry.Interface OpenedOutput) Log.Book
  | .log line, book => some ((), book.log 0 line)
  | .forkLog, book => some (book.handles.length, book.fork 0)
  | .openEntry place params log, book => (openers[place]?).map fun opener => opener params log book

/-- Open an output for a device, with a log of the given level. -/
def Opening.run (openers : List Opener) (level : Severity)
    (program : Registry.Action OpenedOutput (Except OpenError (Registry.Opened OpenedOutput))) : Opening :=
  let book := (Log.Book.create {} .collect).setLevel 0 level
  match program.run (reactOpening openers) book with
  | (.finished (.ok opened), book) =>
    let line : Line := ⟨.debug, "audio: opened " ++ opened.output.name ++ " output"⟩
    { result := .ok opened, book := book.log opened.deviceLog line }
  | (.finished (.error e), book) => { result := .error e, book }
  | (_, book) => { result := .error (.threadNotStarted "opening does not end"), book }

/-- The logs after the device was given a level of its own, if any, and was let go, by which it is closed. -/
def Opening.letGo (o : Opening) (level : Option Severity) : Log.Book :=
  match o.result with
  | .error _ => o.book
  | .ok opened =>
    let book := match level with
      | some level => o.book.setLevel opened.deviceLog level
      | none => o.book
    book.log opened.deviceLog ⟨.debug, "audio: closed " ++ opened.output.name ++ " output"⟩

/-- The result of playing a track on a live output through a device. -/
def playLive (t : Track) : Outcome :=
  let c := Cast.ofDevice (live Scripted.liveDevices) Live.output
  (c.step Live.output (.play (fun _ => t) .native 0 [] none) { native := { devices := {} } }).1

end Playout.Rehearsal
