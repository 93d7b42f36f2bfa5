/-!
# `Playout.Text.Hex` — bytes as hexadecimal text

Two lower-case digits per byte, in order. Reading accepts exactly the even-length texts of
hexadecimal digits.
-/

namespace Playout.Text

/-- The lower-case digit of a value below sixteen. -/
def hexDigit (n : Nat) : Char :=
  if n < 10 then Char.ofNat (48 + n) else Char.ofNat (87 + n)

/-- The value of a hexadecimal digit of either case. -/
def hexValue? (c : Char) : Option Nat :=
  if '0' ≤ c ∧ c ≤ '9' then some (c.toNat - 48)
  else if 'a' ≤ c ∧ c ≤ 'f' then some (c.toNat - 87)
  else if 'A' ≤ c ∧ c ≤ 'F' then some (c.toNat - 55)
  else none

/-- `bytes` as text, two digits each. -/
def hex (bytes : List UInt8) : String :=
  String.ofList (bytes.flatMap fun b => [hexDigit (b.toNat / 16), hexDigit (b.toNat % 16)])

/-- The bytes that a list of digits spells. -/
def unhexChars? : List Char → Option (List UInt8)
  | [] => some []
  | [_] => none
  | high :: low :: rest => do
    let h ← hexValue? high
    let l ← hexValue? low
    let bytes ← unhexChars? rest
    return UInt8.ofNat (16 * h + l) :: bytes

/-- The bytes that `text` spells. -/
def unhex? (text : String) : Option (List UInt8) :=
  unhexChars? text.toList

end Playout.Text
