/-!
# `Playout.Number.Rounding` — rounding a rational to a grid

The library computes with exact rationals and rounds where a result has to fit a format. Two
roundings are needed: to an integer (waits in whole nanoseconds, printed decimals) and to a binary
floating-point format of a given precision (gains and pacing times). Both go to the nearest point
of the grid, and a value half way between two points goes to the even one.

## Contents
- `roundEven` — the nearest integer.
- `floorLog2`, `lastPlace`, `nearest` — the nearest value with a given number of significant bits.
- `single`, `double` — the two precisions in use; `singleBits` — the word that stores a single.
-/

namespace Playout.Number

/-! ## To an integer -/

/-- The integer nearest to `x`; half way between two it is the even one. -/
def roundEven (x : Rat) : Int :=
  let below := x.floor
  let rest := x - below
  if rest < 1 / 2 then below
  else if 1 / 2 < rest then below + 1
  else below + below % 2

/-! ## To a binary format -/

/-- The exponent of the leading binary digit of `x`: for `x ≠ 0` it is the `e` with
    `2 ^ e ≤ |x| < 2 ^ (e + 1)`. The logarithms of numerator and denominator leave two candidates. -/
def floorLog2 (x : Rat) : Int :=
  let guess : Int := (Nat.log2 x.num.natAbs : Int) - (Nat.log2 x.den : Int)
  if (2 : Rat) ^ guess ≤ x.abs then guess else guess - 1

/-- The value of one unit in the last place of `x`, when `precision` binary digits are kept. -/
def lastPlace (precision : Nat) (x : Rat) : Rat :=
  (2 : Rat) ^ (floorLog2 x + 1 - precision)

/-- The nearest number to `x` with at most `precision` significant binary digits. The exponent is
    not bounded: every value the library rounds lies well inside the range of the stored formats. -/
def nearest (precision : Nat) (x : Rat) : Rat :=
  if x = 0 then 0
  else
    let unit := lastPlace precision x
    roundEven (x / unit) * unit

/-- Significant binary digits of a 32-bit float. -/
def single : Nat := 24

/-- Significant binary digits of a 64-bit float. -/
def double : Nat := 53

/-- The word that stores `x` as a 32-bit float, for zero or a positive `x` of that precision in the
    normal range: eight bits of exponent, biased by 127, above 23 bits of fraction. -/
def singleBits (x : Rat) : UInt32 :=
  if x = 0 then 0
  else
    let exponent := (floorLog2 x + 127).toNat
    let digits := (x / lastPlace single x).floor.toNat
    UInt32.ofNat (exponent * 0x800000 + (digits - 0x800000))

/-! ## Small facts -/

/-- Integers are on the grid already. -/
@[simp] theorem roundEven_intCast (n : Int) : roundEven n = n := by
  have rest : (n : Rat) - (n : Rat) = 0 := by grind
  simp only [roundEven, Rat.floor_intCast, rest]
  rw [if_pos (by decide +kernel)]

@[simp] theorem nearest_zero (precision : Nat) : nearest precision 0 = 0 := by
  simp [nearest]

/-- One third, to the precision of a single, is `11184811 / 2 ^ 25`. -/
example : nearest single (1 / 3) = 11184811 / 2 ^ 25 := by decide +kernel

/-- One half is stored exactly, as the word `0x3f000000`. -/
example : singleBits (1 / 2) = 0x3f000000 := by decide +kernel

end Playout.Number
