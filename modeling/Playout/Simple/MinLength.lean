import Playout.Text.Blank
import Playout.Text.Decimal

/-!
# `Playout.Simple.MinLength` — how much a simple-protocol server shall buffer

The length is given as text, in bytes. White space around it is ignored; a text that is no positive
number below 2^64 asks for the default.
-/

namespace Playout.Simple

/-- The length that is used when none is given. -/
def defaultMinLength : Nat := 100

/-- The least buffered length that a text asks for. -/
def parseMinLength (text : Option String) : Nat :=
  let length := text.bind fun text => Text.readBelow? UInt64.size (Text.trim text)
  (length.filter (0 < ·)).getD defaultMinLength

example : parseMinLength (some " 250\n") = 250 := by decide +kernel
example : parseMinLength (some "0") = 100 := by decide +kernel

end Playout.Simple
