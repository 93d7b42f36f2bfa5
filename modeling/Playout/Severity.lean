import Playout.Text.Blank

/-!
# `Playout.Severity` — how serious a message is

Six levels, most serious first. A level is written as its lower-case name; reading ignores ASCII
case and surrounding white space.

## Contents
- `Severity`, its order by `rank`, its name and its reader.
- `Severity.FacadeLevel` — the four levels that messages collapse onto in a process-wide log.
- `Line` — one message with its severity.
-/

namespace Playout

/-- How serious a message is, most serious first. -/
inductive Severity where
  | critical
  | error
  | warning
  | notice
  | info
  | debug
  deriving DecidableEq, Repr, Inhabited

namespace Severity

/-- All levels, most serious first. -/
def all : List Severity := [critical, error, warning, notice, info, debug]

/-- Position in the order, 0 for the most serious. -/
def rank : Severity → Nat
  | critical => 0
  | error => 1
  | warning => 2
  | notice => 3
  | info => 4
  | debug => 5

/-- `s.passes threshold`: a message of severity `s` is forwarded by a log set to `threshold`. -/
def passes (s threshold : Severity) : Bool := s.rank ≤ threshold.rank

/-- The name a level is written with. -/
def name : Severity → String
  | critical => "critical"
  | error => "error"
  | warning => "warning"
  | notice => "notice"
  | info => "info"
  | debug => "debug"

/-- The name of a level as a title. -/
def title : Severity → String
  | critical => "Critical"
  | error => "Error"
  | warning => "Warning"
  | notice => "Notice"
  | info => "Info"
  | debug => "Debug"

/-- The level with exactly this name. -/
def ofName? (text : String) : Option Severity := all.find? (·.name = text)

/-- The normal form under which a name is looked up: trimmed, ASCII letters in lower case. -/
def normalize (text : String) : String := Text.lowerAscii (Text.trim text)

/-- Read a level; the error tells the normal form that is no level's name. -/
def parse (text : String) : Except String Severity :=
  match ofName? (normalize text) with
  | some level => .ok level
  | none => .error ("unknown severity '" ++ normalize text ++ "'")

/-! ## The facade -/

/-- The levels of a process-wide log. -/
inductive FacadeLevel where
  | error
  | warn
  | info
  | debug
  deriving DecidableEq, Repr

/-- The name of a facade level. -/
def FacadeLevel.name : FacadeLevel → String
  | error => "ERROR"
  | warn => "WARN"
  | info => "INFO"
  | debug => "DEBUG"

/-- The facade level of a severity. -/
def facade : Severity → FacadeLevel
  | critical | error => .error
  | warning => .warn
  | notice | info => .info
  | debug => .debug

/-- The text of a message in the facade, where critical messages lose their own level. -/
def facadeText (s : Severity) (text : String) : String :=
  if s = critical then "CRITICAL: " ++ text else text

/-! ## Small facts -/

theorem ofName?_name (s : Severity) : ofName? s.name = some s := by
  cases s <;> decide

theorem name_of_ofName? {text : String} {s : Severity} (h : ofName? text = some s) :
    s.name = text := by
  simpa using List.find?_some h

/-- Everything passes a log set to `debug`. -/
@[simp] theorem passes_debug (s : Severity) : s.passes .debug = true := by
  cases s <;> decide

end Severity

/-- One message. -/
structure Line where
  severity : Severity
  text : String
  deriving DecidableEq, Repr, Inhabited

/-- A message as one line of text, its severity in front. -/
def Line.render (line : Line) : String := line.severity.name ++ ":" ++ line.text

end Playout
