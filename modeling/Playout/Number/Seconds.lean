import Playout.Number.Rounding

/-!
# `Playout.Number.Seconds` — spans of time and the arithmetic on them

A span of time and a moment on a monotonic clock are both rational numbers of seconds. Pacing divides
and subtracts such numbers, and a running player does that in 64-bit floating point and waits in whole
nanoseconds. Both roundings are parameters here, so that one definition of a pacing rule has two
readings: `Arithmetic.machine`, which gives the digits a player shows and the waits it asks for, and
`Arithmetic.exact`, in which the laws of pacing hold without an error term.

## Contents
- `Seconds`, `ofMillis`, `wholeMillis`.
- `Arithmetic`, with its readings `machine` and `exact`.
-/

namespace Playout

/-- A span of time, or a moment on a monotonic clock, in seconds. -/
abbrev Seconds := Rat

namespace Seconds

/-- A number of milliseconds as a span. -/
def ofMillis (millis : Nat) : Seconds := (millis : Rat) / 1000

/-- The whole milliseconds in a span. -/
def wholeMillis (span : Seconds) : Nat := (span * 1000).floor.toNat

/-- The nanoseconds in a second. -/
def nanoseconds : Nat := 1000000000

/-- The span nearest to `x` that is a whole number of nanoseconds. -/
def toNanosecond (x : Rat) : Seconds := Number.roundEven (x * nanoseconds) / (nanoseconds : Rat)

end Seconds

/-- How numbers of seconds are computed with. -/
structure Arithmetic where
  /-- The result of an operation, from its exact value. -/
  round : Rat → Rat
  /-- A span as a number to compute with. -/
  number : Seconds → Rat
  /-- A computed number as a span to wait for. -/
  span : Rat → Seconds

namespace Arithmetic

/-- 64-bit floating point, and waits in whole nanoseconds. A span becomes a number in three
    operations: its whole seconds, its nanoseconds divided by a billion, and their sum. -/
def machine : Arithmetic where
  round := Number.nearest Number.double
  number span :=
    let whole : Rat := span.floor
    let rest := Number.nearest Number.double (span - whole)
    Number.nearest Number.double (Number.nearest Number.double whole + rest)
  span := Seconds.toNanosecond

/-- Exact rational numbers throughout. -/
def exact : Arithmetic where
  round := id
  number := id
  span := id

end Arithmetic

end Playout
