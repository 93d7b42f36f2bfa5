import Playout.Settings
import Playout.Toml.Document

/-!
# `Playout.Settings.File` — settings in a file

A settings file is a TOML document with the tables `audio` and `pacing`. Keys that are missing keep their
defaults. The values of unknown ones are passed over, but have to be sound. A table may also be given as an
array of its values in order; whatever stands behind them in the array is not looked at.

## Contents
- `Settings.ofToml` — settings from the text of a document.
- `FileTree`, `FileTree.find` — what a path leads to.
- `Settings.load` — settings from a file.
-/

namespace Playout

namespace Toml.Value

/-! ## Reading values -/

/-- A text. -/
def asText? : Value → Option String
  | text s => some s
  | _ => none

/-- An unsigned number below `bound`. -/
def asBelow? (bound : Nat) : Value → Option Nat
  | scalar s => s.integer?.bind fun n => if 0 ≤ n ∧ n < bound then some n.toNat else none
  | _ => none

/-- A log level: its exact name, or a table that holds nothing but an empty value under that name. -/
def asSeverity? : Value → Option Severity
  | text s => Severity.ofName? s
  | table _ [(name, content)] =>
    match content with
    | table _ [] | array [] => Severity.ofName? name
    | _ => none
  | _ => none

/-- The value of a field: of a table by its name, of an array by its position. A date takes the place of
    a table without fields. The answer is `none` for a value that has no fields at all. -/
def field? (v : Value) (position : Nat) (name : String) : Option (Option Value) :=
  match v with
  | table _ entries => some (Entries.get? entries name)
  | array items => some items[position]?
  | rows tables => some ((tables[position]?).map fun (origin, entries) => .table origin entries)
  | scalar (.moment _) => some none
  | _ => none

/-- Whether the fields that are not named are sound. -/
def othersSound (v : Value) (names : List String) : Bool :=
  match v with
  | table _ entries => entries.all fun (name, content) => names.contains name || content.isSound
  | _ => true

/-- A field read by `read`, or `standard` when it is missing. -/
def fieldOr {α : Type} (v : Value) (position : Nat) (name : String) (standard : α)
    (read : Value → Option α) : Option α :=
  match v.field? position name with
  | none => none
  | some none => some standard
  | some (some content) => read content

end Toml.Value

/-! ## The tables -/

/-- The settings in the table `audio`. -/
def OutputSettings.ofToml? (v : Toml.Value) : Option OutputSettings := do
  let standard : OutputSettings := {}
  let text (v : Toml.Value) : Option (Option String) := v.asText?.map some
  guard (v.othersSound
    ["output_methods", "alsa_device", "flow_server", "pulse_server", "pulse_min_length", "log_level"])
  return {
    outputMethods := ← v.fieldOr 0 "output_methods" standard.outputMethods (·.asText?)
    card := ← v.fieldOr 1 "alsa_device" standard.card text
    flowServer := ← v.fieldOr 2 "flow_server" standard.flowServer text
    simpleServer := ← v.fieldOr 3 "pulse_server" standard.simpleServer text
    minLength := ← v.fieldOr 4 "pulse_min_length" standard.minLength
      fun v => (v.asBelow? UInt32.size).map UInt32.ofNat
    logLevel := ← v.fieldOr 5 "log_level" standard.logLevel (·.asSeverity?) }

/-- The settings in the table `pacing`. -/
def PacingSettings.ofToml? (v : Toml.Value) : Option PacingSettings := do
  let standard : PacingSettings := {}
  let millis (v : Toml.Value) : Option UInt64 := (v.asBelow? UInt64.size).map UInt64.ofNat
  guard (v.othersSound ["lead_ms", "settle_ms", "max_fragment_wait_ms"])
  return {
    leadMillis := ← v.fieldOr 0 "lead_ms" standard.leadMillis millis
    settleMillis := ← v.fieldOr 1 "settle_ms" standard.settleMillis millis
    maxFragmentWaitMillis := ← v.fieldOr 2 "max_fragment_wait_ms" standard.maxFragmentWaitMillis millis }

namespace Settings

/-- The settings that the root of a document holds. -/
def ofRoot? (root : Toml.Value) : Option Settings := do
  guard (root.othersSound ["audio", "pacing"])
  return {
    audio := ← root.fieldOr 0 "audio" {} OutputSettings.ofToml?
    pacing := ← root.fieldOr 1 "pacing" {} PacingSettings.ofToml? }

/-- The settings that a document holds. -/
def ofToml (document : String) : Except SettingsError Settings :=
  match (Toml.parse? document).bind fun root => ofRoot? (.table .written root) with
  | some s => .ok s
  | none => .error .malformed

/-! ## Files -/

/-- The settings in the contents of a file. -/
def ofBytes (contents : List UInt8) : Except SettingsError Settings :=
  match String.fromUTF8? ⟨contents.toArray⟩ with
  | some document => ofToml document
  | none => .error (.unreadable "stream did not contain valid UTF-8")

end Settings

/-- What lies at a place. -/
inductive FileTree.Entry where
  | file (contents : List UInt8)
  | directory
  | missing
  deriving DecidableEq, Repr

/-- A place: the names that lead to it from the root, or from the working directory after so many steps up. -/
structure FileTree.Place where
  absolute : Bool
  up : Nat := 0
  names : List String := []
  deriving DecidableEq, Repr

/-- What lies at every place. -/
abbrev FileTree := FileTree.Place → FileTree.Entry

namespace FileTree

/-- The directory that a place lies in. The root lies in itself. -/
def Place.parent (p : Place) : Place :=
  if !p.names.isEmpty then { p with names := p.names.dropLast }
  else if p.absolute then p
  else { p with up := p.up + 1 }

/-- The place that one more name leads to. An empty name and a point stay where they are, two points lead
    back. -/
def Place.enter (p : Place) (name : String) : Place :=
  if name = "" ∨ name = "." then p
  else if name = ".." then p.parent
  else { p with names := p.names ++ [name] }

/-- The greatest length of a path in bytes. -/
def maxPath : Nat := 4095

/-- The greatest length of one name in a path in bytes. -/
def maxName : Nat := 255

/-- Follow names from a place. Every name but the last has to be that of a directory. -/
def follow (files : FileTree) (place : Place) : List String → Except SettingsError Entry
  | [] => .ok (files place)
  | name :: rest =>
    match files place with
    | .missing => .ok .missing
    | .file _ => .error (.unreadable "Not a directory (os error 20)")
    | .directory =>
      if maxName < name.utf8ByteSize then .error (.unreadable "File name too long (os error 36)")
      else follow files (place.enter name) rest

/-- What a path leads to. -/
def find (files : FileTree) (path : String) : Except SettingsError Entry :=
  if path.toList.contains (Char.ofNat 0) then
    .error (.unreadable "file name contained an unexpected NUL byte")
  else if maxPath < path.utf8ByteSize then
    .error (.unreadable "File name too long (os error 36)")
  else if path = "" then .ok .missing
  else
    match path.splitOn "/" with
    | "" :: names => follow files { absolute := true } names
    | names => follow files { absolute := false } names

end FileTree

namespace Settings

/-- The settings in the file under a path. -/
def load (files : FileTree) (path : String) : Except SettingsError Settings := do
  match ← files.find path with
  | .file contents => ofBytes contents
  | .directory => throw (.unreadable "Is a directory (os error 21)")
  | .missing => throw (.unreadable "No such file or directory (os error 2)")

end Settings

end Playout
