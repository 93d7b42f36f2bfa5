import Playout.Text.Decimal
import Playout.Text.Hex

/-!
# `Playout.Toml.Scalar` — numbers, dates and words of TOML

What stands unquoted behind an equals sign: whole numbers in four bases, decimal fractions, the two
truth values, and dates and times. A number is kept as it is written and has to keep only a loose form
when it is read; that it has a value within bounds is asked when somebody uses it, or passes over it.
Dates and times are complete when they are read.

## Contents
- `Scalar`.
- `Scalar.integer?`, `Scalar.isSound` — what a number is worth.
- `readBased?`, `readNumber?`, `isMoment` — the forms.
- `Scalar.ofWord?` — the scalar that a word is; `Scalar.read` takes one off the front.
-/

namespace Playout.Toml

/-- An unquoted value. Numbers stand without their underscores, and those in a base other than ten without
    what announces the base. -/
inductive Scalar where
  | integer (base : Nat) (text : String)
  | fraction (text : String)
  | truth (b : Bool)
  | moment (text : String)
  deriving DecidableEq, Repr

/-! ## Digits -/

/-- The value of digits in a base. -/
def ofDigits (base : Nat) (digits : List Char) : Nat :=
  digits.foldl (fun n c => n * base + (Text.hexValue? c).getD 0) 0

/-- A digit of a base. -/
def isDigitOf (base : Nat) (c : Char) : Bool := ((Text.hexValue? c).filter (· < base)).isSome

/-- A sign, and what stands behind it. -/
def splitSign : List Char → Bool × List Char
  | '-' :: rest => (true, rest)
  | '+' :: rest => (false, rest)
  | chars => (false, chars)

/-- The characters without underscores. -/
def withoutUnderscores (chars : List Char) : List Char := chars.filter (· ≠ '_')

/-- Whether every underscore stands between two digits. -/
def underscoresFit (isDigit : Char → Bool) : List Char → Bool
  | [] => true
  | '_' :: _ => false
  | d :: '_' :: c :: rest => isDigit d && isDigit c && underscoresFit isDigit (c :: rest)
  | _ :: rest => underscoresFit isDigit rest

/-! ## What numbers are worth -/

/-- Whole numbers have 128 bits, signed or unsigned. -/
def integerFits (n : Int) : Bool :=
  -0x80000000000000000000000000000000 ≤ n && n < 0x100000000000000000000000000000000

/-- Whether `digits` times a power of ten is small enough for a 64-bit float. Numbers far from the
    greatest such float are told by their length. -/
def fractionFits (digits : List Char) (exponent : Int) : Bool :=
  let significant := digits.dropWhile (· = '0')
  let magnitude : Int := significant.length + exponent
  if significant.isEmpty || magnitude < 300 then true
  else if 310 < magnitude then false
  else ((ofDigits 10 significant : Rat) * (10 : Rat) ^ exponent) <
    (2 : Rat) ^ (1024 : Int) - (2 : Rat) ^ (970 : Int)

/-- The digits of a fraction, and the power of ten they are multiplied by. -/
def fractionParts (chars : List Char) : List Char × Int :=
  let (_, body) := splitSign chars
  let whole := body.takeWhile (isDigitOf 10)
  let behind := body.drop whole.length
  let (places, behind) := match behind with
    | '.' :: rest => (rest.takeWhile (isDigitOf 10), rest.dropWhile (isDigitOf 10))
    | _ => ([], behind)
  let (negative, power) := splitSign (behind.drop 1)
  let power : Int := ofDigits 10 power
  (whole ++ places, (if negative then -power else power) - places.length)

namespace Scalar

/-- The whole number that a scalar is, if it is one within bounds. -/
def integer? : Scalar → Option Int
  | integer base text =>
    let (negative, digits) := splitSign text.toList
    let size : Int := ofDigits base digits
    if digits.isEmpty || !digits.all (isDigitOf base) then none
    else (some (if negative then -size else size)).filter integerFits
  | _ => none

/-- Whether a scalar has a value at all. -/
def isSound : Scalar → Bool
  | s@(integer _ _) => s.integer?.isSome
  | fraction text =>
    let (digits, exponent) := fractionParts text.toList
    fractionFits digits exponent
  | truth _ | moment _ => true

end Scalar

/-! ## The forms of numbers -/

/-- A whole number in a base, given what stands behind the letter of the base. There may be no digits. -/
def readBased? (base : Nat) (chars : List Char) : Option Scalar :=
  if chars.all (fun c => isDigitOf base c || c = '_') && underscoresFit (isDigitOf base) chars then
    some (.integer base (String.ofList (withoutUnderscores chars)))
  else none

/-- Digits and underscores at the front, if there is a digit among them, and what is left. -/
def readDigits (chars : List Char) : Option (List Char × List Char) :=
  let part := chars.takeWhile fun c => isDigitOf 10 c || c = '_'
  let digits := withoutUnderscores part
  if digits.isEmpty then none else some (digits, chars.drop part.length)

/-- Whether the characters are digits, with a fractional part, an exponent, or both behind them. Wherever
    digits have to be there may be underscores. -/
def isFraction (chars : List Char) : Bool :=
  (do
    let (digits, rest) ← readDigits chars
    if 1 < digits.length && chars.head? = some '0' then none
    let rest ← match rest with
      | '.' :: rest => (readDigits rest).map Prod.snd
      | _ => some rest
    let rest ← match rest with
      | c :: rest =>
        if c = 'e' || c = 'E' then (readDigits (splitSign rest).2).map Prod.snd else some (c :: rest)
      | [] => some []
    if rest.isEmpty then some () else none).isSome

/-! ## Dates and times -/

/-- A number of exactly `width` digits from `low` to `high` at the front. -/
def readField (width low high : Nat) (chars : List Char) : Option (Nat × List Char) :=
  match Text.readDigits? 0 (chars.take width) with
  | some n => if (chars.take width).length = width && low ≤ n && n ≤ high then some (n, chars.drop width) else none
  | none => none

/-- One given character at the front. -/
def readMark (c : Char) : List Char → Option (List Char)
  | d :: rest => if d = c then some rest else none
  | [] => none

/-- The days of a month. -/
def daysIn (year month : Nat) : Nat :=
  let leap := year % 4 = 0 && (year % 100 ≠ 0 || year % 400 = 0)
  if month = 2 then (if leap then 29 else 28)
  else if month = 4 || month = 6 || month = 9 || month = 11 then 30 else 31

/-- A date at the front; what is left behind it. -/
def readDate (chars : List Char) : Option (List Char) := do
  let (year, rest) ← readField 4 0 9999 chars
  let (month, rest) ← readField 2 1 12 (← readMark '-' rest)
  let (_, rest) ← readField 2 1 (daysIn year month) (← readMark '-' rest)
  return rest

/-- The seconds of a time at the front, with or without a decimal fraction; what is left behind them. -/
def readSeconds (chars : List Char) : Option (List Char) := do
  let (_, rest) ← readField 2 0 60 chars
  match rest with
  | '.' :: places =>
    let digits := places.takeWhile Char.isDigit
    if digits.isEmpty then none else some (places.drop digits.length)
  | _ => return rest

/-- A time of day at the front, which may do without seconds; what is left behind it. -/
def readTime (chars : List Char) : Option (List Char) := do
  let (_, rest) ← readField 2 0 23 chars
  let (_, rest) ← readField 2 0 59 (← readMark ':' rest)
  match rest with
  | ':' :: rest => readSeconds rest
  | _ => return rest

/-- Whether the characters are an offset from universal time, or none. -/
def isOffset (chars : List Char) : Bool :=
  match chars with
  | [] => true
  | ['Z'] | ['z'] => true
  | sign :: rest =>
    (sign = '+' || sign = '-') &&
      (do
        let (_, rest) ← readField 2 0 23 rest
        let (_, rest) ← readField 2 0 59 (← readMark ':' rest)
        if rest.isEmpty then some () else none).isSome

/-- Whether the characters are a date, a time, or both with or without an offset. -/
def isMoment (chars : List Char) : Bool :=
  match readDate chars with
  | some [] => true
  | some (between :: rest) =>
    (between = 'T' || between = 't' || between = ' ') && ((readTime rest).map isOffset).getD false
  | none => readTime chars = some []

/-! ## Words -/

/-- A number in base ten, or a date or time. What stands behind the first digits decides which: whole numbers
    have nothing there or an underscore, and behind that underscore every hexadecimal digit passes. -/
def readNumber? (word : List Char) : Option Scalar :=
  let (_, body) := splitSign word
  let digits := body.takeWhile (isDigitOf 10)
  let behind := body.drop digits.length
  let number := String.ofList (withoutUnderscores word)
  match behind with
  | [] =>
    if digits.isEmpty || (1 < digits.length && digits.head? = some '0') then none
    else some (.integer 10 number)
  | c :: _ =>
    if c = '-' || c = ':' then if isMoment word then some (.moment (String.ofList word)) else none
    else if behind.any fun c => c = '.' || c = 'e' || c = 'E' then
      if isFraction body && underscoresFit (isDigitOf 10) body then some (.fraction number) else none
    else if c = '_' && body.head? ≠ some '0' && underscoresFit (isDigitOf 16) body then
      some (.integer 10 number)
    else none

/-- The scalar that an unquoted word is. -/
def Scalar.ofWord? (word : List Char) : Option Scalar :=
  if word = "true".toList then some (.truth true)
  else if word = "false".toList then some (.truth false)
  else
    let (_, body) := splitSign word
    if body = "inf".toList || body = "nan".toList then some (.fraction (String.ofList word))
    else match word with
    | '0' :: 'x' :: digits => readBased? 16 digits
    | '0' :: 'o' :: digits => readBased? 8 digits
    | '0' :: 'b' :: digits => readBased? 2 digits
    | _ => readNumber? word

/-- Whether a character can stand in an unquoted word: all that mean nothing else there. -/
def isWordChar (c : Char) : Bool := !"=,[]\x7b\x7d# \t\r\n".toList.contains c

/-- The word at the front: a date takes a time behind one space with it. -/
def takeWord (chars : List Char) : List Char × List Char :=
  let word := chars.takeWhile isWordChar
  match chars.drop word.length with
  | ' ' :: c :: rest =>
    if readDate word = some [] && c.isDigit then
      let time := (c :: rest).takeWhile isWordChar
      (word ++ ' ' :: time, (c :: rest).drop time.length)
    else (word, ' ' :: c :: rest)
  | rest => (word, rest)

/-- A scalar at the front. -/
def Scalar.read (chars : List Char) : Option (Scalar × List Char) :=
  let (word, rest) := takeWord chars
  (ofWord? word).map fun scalar => (scalar, rest)

/-! ## Small facts -/

example : (Scalar.ofWord? "1_000".toList).bind Scalar.integer? = some 1000 := by decide +kernel
example : Scalar.ofWord? "007".toList = none := by decide +kernel
example : (Scalar.ofWord? "0x1F".toList).bind Scalar.integer? = some 31 := by decide +kernel
example : Scalar.ofWord? "0x".toList = some (.integer 16 "") := by decide +kernel
example : Scalar.ofWord? "1_f".toList = some (.integer 10 "1f") := by decide +kernel
example : Scalar.ofWord? "+_1".toList = none := by decide +kernel
example : Scalar.isSound (.integer 10 "1f") = false := by decide +kernel
example : Scalar.ofWord? "6.62e-34".toList = some (.fraction "6.62e-34") := by decide +kernel
example : Scalar.isSound (.fraction "1e400") = false := by decide +kernel
example : isMoment "2024-02-29 10:00:00.5Z".toList = true := by decide +kernel
example : isMoment "07:32".toList = true := by decide +kernel
example : isMoment "2023-02-29".toList = false := by decide +kernel

end Playout.Toml
