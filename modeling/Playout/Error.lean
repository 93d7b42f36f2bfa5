/-!
# `Playout.Error` — why something could not be opened, played or set

Native layers report a `Failure`: a cause and the contexts put around it on the way up. The library's
own errors name the cause; the wording of each is one `message` function, and a play error also tells
its stable code and whether the same call may succeed later.

## Contents
- `Failure`, `OpenError`, `PlayError`, `SettingsError`.
-/

namespace Playout

/-! ## Native failures -/

/-- What a native layer reports: the cause, and the contexts added around it, innermost first. -/
structure Failure where
  cause : String
  contexts : List String := []
  deriving DecidableEq, Repr, Inhabited

namespace Failure

/-- The failure seen from one layer further out. -/
def within (context : String) (f : Failure) : Failure :=
  { f with contexts := f.contexts ++ [context] }

/-- The outermost context first and the cause last, joined by colons. -/
def text (f : Failure) : String := ": ".intercalate (f.contexts.reverse ++ [f.cause])

end Failure

/-! ## Opening -/

/-- Why an output could not be opened. -/
inductive OpenError where
  | unknownBackend (name : String)
  | missingParameter (index : Nat) (name : String)
  | invalidParameter (index : Nat) (reason : String)
  | deviceUnavailable (reason : String)
  | connectionRefused (reason : String)
  | threadNotStarted (reason : String)
  | noBackendAvailable (tried : String)
  deriving DecidableEq, Repr, Inhabited

/-- The text of an open error. -/
def OpenError.message : OpenError → String
  | unknownBackend name => "Unknown audio backend: " ++ name
  | missingParameter index name => "Missing open parameter #" ++ toString index ++ " (" ++ name ++ ")"
  | invalidParameter index reason => "Invalid open parameter #" ++ toString index ++ ": " ++ reason
  | deviceUnavailable reason => "Audio device unavailable: " ++ reason
  | connectionRefused reason => "Connection to audio server refused: " ++ reason
  | threadNotStarted reason => "Failed to start backend thread: " ++ reason
  | noBackendAvailable tried => "No audio output method could be opened (tried: " ++ tried ++ ")"

/-! ## Playing -/

/-- Why a track was not played. -/
inductive PlayError where
  | unsupportedBits (bits : Nat)
  | invalidTrack (reason : String)
  | formatMismatch (requested negotiated : Nat)
  | channelMismatch (requested negotiated : Nat)
  | negotiation (reason : String)
  | deviceOpen (reason : String)
  | deviceQuery (reason : String)
  | deviceStalled (waitedMillis : Nat)
  | writeFailed (reason : String)
  | startFlow (reason : String)
  | volumeOutOfRange (volume : Int)
  | closed
  deriving DecidableEq, Repr, Inhabited

namespace PlayError

/-- The text of a play error. -/
def message : PlayError → String
  | unsupportedBits bits => "Unsupported sample width: " ++ toString bits ++ " bits"
  | invalidTrack reason => "Invalid track: " ++ reason
  | formatMismatch requested negotiated =>
    "Device refused " ++ toString requested ++ "-bit samples (offered " ++ toString negotiated ++ ")"
  | channelMismatch requested negotiated =>
    "Device refused " ++ toString requested ++ " channels (offered " ++ toString negotiated ++ ")"
  | negotiation reason => "Device parameter negotiation failed: " ++ reason
  | deviceOpen reason => "Failed to open audio device: " ++ reason
  | deviceQuery reason => "Failed to query device buffer: " ++ reason
  | deviceStalled waited => "Device has had no free fragment for " ++ toString waited ++ " ms"
  | writeFailed reason => "Audio write failed: " ++ reason
  | startFlow reason => "Server refused to start a flow: " ++ reason
  | volumeOutOfRange volume => "Volume " ++ toString volume ++ " out of range -100..=100"
  | closed => "Device is closed"

/-- The stable code of each kind of play error. -/
def code : PlayError → Int
  | unsupportedBits _ => -10
  | invalidTrack _ => -11
  | formatMismatch _ _ => -2
  | channelMismatch _ _ => -4
  | negotiation _ => -3
  | deviceOpen _ => -20
  | deviceQuery _ => -5
  | deviceStalled _ => -7
  | writeFailed _ => -6
  | startFlow _ => -30
  | volumeOutOfRange _ => -12
  | closed => -1

/-- Whether repeating the same call later may succeed. A format is refused for ever; a device or a
    connection is opened again on the next call. -/
def isTransient : PlayError → Bool
  | deviceOpen _ | deviceQuery _ | deviceStalled _ | writeFailed _ | startFlow _ => true
  | _ => false

end PlayError

/-! ## Settings -/

/-- Why settings could not be read or changed. -/
inductive SettingsError where
  | unknownKey (key : String)
  | invalidValue (key value : String)
  | unreadable (reason : String)
  | malformed
  deriving DecidableEq, Repr, Inhabited

/-- The text of a settings error. -/
def SettingsError.message : SettingsError → String
  | unknownKey key => "Unknown audio setting: " ++ key
  | invalidValue key value => "Invalid value for " ++ key ++ ": " ++ value
  | unreadable reason => "Failed to read settings file: " ++ reason
  | malformed => "Failed to parse settings"

end Playout
