import Playout.Number.Rounding

/-!
# `Playout.Text.Decimal` — numbers as decimal text

Reading is strict: an optional plus sign, then one or more ASCII digits, and a bound that the value
must not pass. Writing a fraction uses a fixed number of places and rounds the exact value, a tie
going to the even digit.

## Contents
- `readDigits?`, `readBelow?` — an unsigned number below a bound.
- `padded` — digits with leading zeros.
- `fixed` — a rational with a fixed number of decimal places.
-/

namespace Playout.Text

/-- The value of a character as a decimal digit. -/
def digit? (c : Char) : Option Nat :=
  if c.isDigit then some (c.toNat - '0'.toNat) else none

/-- The number that `digits` spell, most significant digit first, after `value`. -/
def readDigits? (value : Nat) : List Char → Option Nat
  | [] => some value
  | c :: rest => (digit? c).bind fun d => readDigits? (value * 10 + d) rest

/-- `chars` without one leading plus sign. -/
def dropPlus : List Char → List Char
  | '+' :: rest => rest
  | chars => chars

/-- An unsigned number less than `bound`: an optional `+`, then at least one digit. -/
def readBelow? (bound : Nat) (text : String) : Option Nat :=
  let digits := dropPlus text.toList
  if digits.isEmpty then none
  else (readDigits? 0 digits).filter (· < bound)

/-- The digits of `n`, with zeros in front up to `width` characters. -/
def padded (width n : Nat) : String :=
  let digits := toString n
  String.ofList (List.replicate (width - digits.length) '0') ++ digits

/-- `x` with `places` digits after the point, rounded from its exact value. -/
def fixed (places : Nat) (x : Rat) : String :=
  let one := Nat.pow 10 places
  let units := (Number.roundEven (x.abs * one)).toNat
  let whole := toString (units / one)
  let sign := if x < 0 then "-" else ""
  if places = 0 then sign ++ whole
  else sign ++ whole ++ "." ++ padded places (units % one)

@[simp] theorem readDigits?_nil (value : Nat) : readDigits? value [] = some value := rfl

example : fixed 3 (1 / 16) = "0.062" := by decide +kernel
example : fixed 3 5 = "5.000" := by decide +kernel
example : readBelow? 256 "+0255" = some 255 := by decide +kernel
example : readBelow? 256 "-1" = none := by decide +kernel

end Playout.Text
