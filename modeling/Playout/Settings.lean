import Playout.Params
import Playout.Severity
import Playout.Text.Decimal
import Playout.Simple.MinLength

/-!
# `Playout.Settings` — what a user configures

Six settings of the audio output and three pacing corrections. Single settings can be changed at run time
by key and value, where the value `NULL` clears a setting. A value is read before anything is changed, so that a pair
that is not understood changes nothing.

## Contents
- `OutputSettings`, `PacingSettings`, `Settings`.
- `Settings.apply` — change one setting by its key.
- `Settings.methods`, `Settings.corrections`, `Settings.openParams` — what the settings say to an output.
-/

namespace Playout

/-! ## The settings -/

/-- Settings of the audio output. -/
structure OutputSettings where
  /-- Output methods in the order in which they are tried, separated by commas. -/
  outputMethods : String := "pulse,alsa"
  card : Option String := some "default"
  flowServer : Option String := some "tcp/localhost:5450"
  simpleServer : Option String := some "default"
  minLength : UInt32 := 100
  logLevel : Severity := .debug
  deriving DecidableEq, Repr

/-- Pacing corrections in milliseconds. -/
structure PacingSettings where
  leadMillis : UInt64 := 100
  settleMillis : UInt64 := 50
  maxFragmentWaitMillis : UInt64 := 2000
  deriving DecidableEq, Repr

/-- All settings. The defaults are those of an installation that was not configured. -/
structure Settings where
  audio : OutputSettings := {}
  pacing : PacingSettings := {}
  deriving DecidableEq, Repr

namespace Settings

/-! ## Changing one setting -/

/-- The keys by which settings are changed. -/
inductive Key where
  | outputMethod
  | card
  | flowServer
  | simpleServer
  | minLength
  | logLevel
  deriving DecidableEq, Repr

/-- The name of a key. -/
def Key.name : Key → String
  | outputMethod => "audio_output_method"
  | card => "audio_alsa_device"
  | flowServer => "audio_flow_server"
  | simpleServer => "audio_pulse_server"
  | minLength => "audio_pulse_min_length"
  | logLevel => "audio_log_level"

/-- All keys. -/
def Key.all : List Key := [outputMethod, card, flowServer, simpleServer, minLength, logLevel]

/-- The key of a name. -/
def Key.ofName? (name : String) : Option Key := all.find? (·.name = name)

/-- The value that clears a setting. -/
def cleared : String := "NULL"

/-- A text setting, which a cleared value leaves empty. -/
def textSetting (value : String) : String := if value = cleared then "" else value

/-- An optional setting, which a cleared value takes away. -/
def optionalSetting (value : String) : Option String := if value = cleared then none else some value

/-- A length, which a cleared value resets. -/
def lengthSetting? (value : String) : Option UInt32 :=
  if value = cleared then some 100
  else (Text.readBelow? UInt32.size (Text.trim value)).map UInt32.ofNat

/-- A log level, which a cleared value resets. -/
def levelSetting? (value : String) : Option Severity :=
  if value = cleared then some .debug else (Severity.parse value).toOption

/-- Change the setting of a key, if the value can be understood. -/
def set? (s : Settings) (key : Key) (value : String) : Option Settings :=
  match key with
  | .outputMethod => some { s with audio.outputMethods := textSetting value }
  | .card => some { s with audio.card := optionalSetting value }
  | .flowServer => some { s with audio.flowServer := optionalSetting value }
  | .simpleServer => some { s with audio.simpleServer := optionalSetting value }
  | .minLength => (lengthSetting? value).map fun n => { s with audio.minLength := n }
  | .logLevel => (levelSetting? value).map fun level => { s with audio.logLevel := level }

/-- Change one setting by the name of its key; the second part is the settings afterwards. -/
def apply (s : Settings) (key value : String) : Except SettingsError Unit × Settings :=
  match Key.ofName? key with
  | none => (.error (.unknownKey key), s)
  | some k =>
    match s.set? k value with
    | some changed => (.ok (), changed)
    | none => (.error (.invalidValue key value), s)

/-! ## What the settings say -/

/-- The output methods in order, trimmed; empty ones are left out. -/
def methods (s : Settings) : List String :=
  ((s.audio.outputMethods.splitOn ",").map Text.trim).filter (· ≠ "")

/-- The pacing corrections. -/
def corrections (s : Settings) : Pacing :=
  .ofMillis s.pacing.leadMillis.toNat s.pacing.settleMillis.toNat s.pacing.maxFragmentWaitMillis.toNat

/-- The parameters with which an output is opened. -/
def openParams (s : Settings) : OpenParams where
  values := [s.audio.card, s.audio.flowServer, s.audio.simpleServer,
    some (toString s.audio.minLength.toNat)]
  pacing := s.corrections

/-! ## Small facts -/

theorem Key.ofName?_name (key : Key) : ofName? key.name = some key := by
  cases key <;> decide

/-- The pacing corrections cannot be changed by key. -/
theorem pacing_of_set? {s t : Settings} {key : Key} {value : String} (h : s.set? key value = some t) :
    t.pacing = s.pacing := by
  cases key <;> simp only [set?, Option.some.injEq, Option.map_eq_some_iff] at h
  case minLength | logLevel => obtain ⟨_, _, rfl⟩ := h; rfl
  all_goals exact h ▸ rfl

end Settings

end Playout
