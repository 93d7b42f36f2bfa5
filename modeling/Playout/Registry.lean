import Playout.Params
import Playout.Program
import Playout.Severity
import Playout.Text.Blank

/-!
# `Playout.Registry` — finding an output by its name

A table lists the outputs there are. An output is looked up by its name, regardless of ASCII case and of
blanks around what is looked for. Of a list of methods, the first that can be opened is used.

## Contents
- `Entry`, `standard` — the table of all outputs.
- `find?` — look up a name.
- `Request`, `Interface` — what opening asks; how an entry is opened is up to the surroundings.
- `openNamed`, `openFirst`.
-/

namespace Playout.Registry

/-- One output that can be opened. -/
structure Entry where
  name : String
  /-- The command with which a track could be played from outside. -/
  playCommand : Option String := none
  deriving DecidableEq, Repr

/-- An entry as it is shown. -/
def Entry.describe (e : Entry) : String :=
  let command := match e.playCommand with
    | some command => "Some(\"" ++ command ++ "\")"
    | none => "None"
  "BackendEntry \x7b name: \"" ++ e.name ++ "\", play_command: " ++ command ++ " \x7d"

/-- All outputs, in the order in which they are listed. -/
def standard : List Entry :=
  [⟨"pulse", some "paplay"⟩, ⟨"alsa", some "aplay"⟩, ⟨"alsa-poll", some "aplay"⟩, ⟨"cpal", none⟩,
    ⟨"flow", none⟩]

/-- Whether an entry is the one that a trimmed name means. -/
def Entry.isNamed (e : Entry) (name : String) : Bool := Text.lowerAscii e.name = Text.lowerAscii name

/-- The place in the table of the first entry that a name means. -/
def find? (table : List Entry) (name : String) : Option Nat :=
  table.findIdx? (·.isNamed (Text.trim name))

/-! ## What opening asks -/

/-- What opening an output asks of its surroundings. -/
inductive Request where
  /-- Log a message on the log that was given. -/
  | log (line : Line)
  /-- Make a log with a level of its own for the device, beginning at the level of the given one. -/
  | forkLog
  /-- Open the entry at a place in the table, which logs on the log of the device. -/
  | openEntry (place : Nat) (params : OpenParams) (deviceLog : Nat)
  deriving DecidableEq

/-- What each request is answered; an output that was opened is a `β`. -/
@[reducible] def Request.Answer (β : Type) : Request → Type
  | log _ => Unit
  | forkLog => Nat
  | openEntry _ _ _ => Except OpenError β

/-- The interface of opening. -/
@[reducible] def Interface (β : Type) : Playout.Interface := ⟨Request, Request.Answer β⟩

/-- Programs that open outputs. -/
abbrev Action (β : Type) := Program (Interface β)

/-- An output that was opened, with the log of its device. -/
structure Opened (β : Type) where
  output : β
  deviceLog : Nat
  deriving DecidableEq, Repr

variable {β : Type}

/-! ### Single requests -/

/-- Log a message on the log that was given. -/
abbrev log (severity : Severity) (text : String) : Action β Unit := .ask (.log ⟨severity, text⟩) .done

/-- Make a log for the device. -/
abbrev forkLog : Action β Nat := .ask .forkLog .done

/-- Open an entry. -/
abbrev openEntry (place : Nat) (params : OpenParams) (deviceLog : Nat) : Action β (Except OpenError β) :=
  .ask (.openEntry place params deviceLog) .done

/-! ## Opening -/

/-- Open the output of a name. -/
def openNamed (table : List Entry) (name : String) (params : OpenParams) :
    Action β (Except OpenError (Opened β)) := do
  match find? table name with
  | none => return .error (.unknownBackend name)
  | some place =>
    let deviceLog ← forkLog
    match ← openEntry place params deviceLog with
    | .ok output => return .ok ⟨output, deviceLog⟩
    | .error e => return .error e

/-- Try methods in order; `last` is the error of the method tried last. The answer without an output is the
    error of the last method, if there was one. -/
def tryMethods (table : List Entry) (params : OpenParams) :
    Option OpenError → List String → Action β (Except (Option OpenError) (Opened β))
  | last, [] => pure (.error last)
  | _, method :: rest => do
    match find? table method with
    | none =>
      log .warning ("audio: unknown output method '" ++ method ++ "'")
      tryMethods table params (some (.unknownBackend method)) rest
    | some place =>
      let shown := (table[place]?.map (·.name)).getD ""
      let deviceLog ← forkLog
      match ← openEntry place params deviceLog with
      | .ok output =>
        log .info ("audio: using the " ++ shown ++ " output method")
        return .ok ⟨output, deviceLog⟩
      | .error e =>
        log .warning ("audio: output method " ++ shown ++ " failed: " ++ e.message)
        tryMethods table params (some e) rest

/-- Open the first of some methods that works. When none does, a method that was the only one tells its
    own error. -/
def openFirst (table : List Entry) (methods : List String) (params : OpenParams) :
    Action β (Except OpenError (Opened β)) := do
  match ← tryMethods table params none methods with
  | .ok opened => return .ok opened
  | .error last =>
    match last, methods with
    | some e, [_] => return .error e
    | _, _ => return .error (.noBackendAvailable (",".intercalate methods))

/-! ## Small facts -/

example : find? standard " ALSA-poll\t" = some 2 := by decide +kernel
example : find? standard "alsa poll" = none := by decide +kernel

end Playout.Registry
