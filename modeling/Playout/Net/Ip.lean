import Playout.Text.Decimal
import Playout.Text.Hex

/-!
# `Playout.Net.Ip` — internet addresses

Addresses are written in the usual text forms: four decimal octets, or eight hexadecimal groups of
which one run of zeros may be left out and the last two may be written as octets. A host name that is a
number is an address too; there every octet may be decimal, octal or hexadecimal, and the last number
fills all octets that remain, while a long address may be followed by its scope.

## Contents
- `Ip`, its canonical text `Ip.text`.
- `readV4`, `readV6` — an address at the front of some characters.
- `Ip.ofNumericHost?` — the address that a numeric host name stands for, and its scope.
-/

namespace Playout.Net

/-- An address of either family. -/
inductive Ip where
  | v4 (a b c d : UInt8)
  | v6 (groups : List UInt16)
  deriving DecidableEq, Repr, Inhabited

/-! ## Writing -/

/-- Four octets as text. -/
def octetsText (a b c d : UInt8) : String :=
  ".".intercalate ([a, b, c, d].map fun o => toString o.toNat)

/-- A group in hexadecimal, without leading zeros. -/
def groupText (g : UInt16) : String :=
  let digits := [g.toNat / 4096, g.toNat / 256 % 16, g.toNat / 16 % 16].dropWhile (· = 0)
  String.ofList ((digits ++ [g.toNat % 16]).map Text.hexDigit)

/-- Groups with colons between them. -/
def groupsText (groups : List UInt16) : String := ":".intercalate (groups.map groupText)

/-- The first of the longest runs of zero groups, as start and length; a length of zero means that
    there is none. -/
def longestZeros (groups : List UInt16) : Nat × Nat :=
  (List.range groups.length).foldl (fun best start =>
    let run := ((groups.drop start).takeWhile (· = 0)).length
    if best.2 < run then (start, run) else best) (0, 0)

/-- The canonical text of an address: the longest run of two or more zero groups is left out, and an
    address that stands for one of four octets shows them. -/
def Ip.text : Ip → String
  | .v4 a b c d => octetsText a b c d
  | .v6 groups =>
    match groups with
    | [0, 0, 0, 0, 0, 0xffff, high, low] =>
      "::ffff:" ++ octetsText (UInt8.ofNat (high.toNat / 256)) (UInt8.ofNat (high.toNat % 256))
        (UInt8.ofNat (low.toNat / 256)) (UInt8.ofNat (low.toNat % 256))
    | _ =>
      let (start, run) := longestZeros groups
      if run < 2 then groupsText groups
      else groupsText (groups.take start) ++ "::" ++ groupsText (groups.drop (start + run))

/-! ## Reading -/

/-- An unsigned number at the front of `chars`: digits of `radix` as long as there are any, at least
    one, at most `maxDigits`, below `bound`, and without leading zeros unless `zeros`. -/
def readNumber (radix bound : Nat) (maxDigits : Option Nat) (zeros : Bool) (chars : List Char) :
    Option (Nat × List Char) :=
  let isDigit (c : Char) := ((Text.hexValue? c).filter (· < radix)).isSome
  let digits := chars.takeWhile isDigit
  let value := digits.foldl (fun n c => n * radix + (Text.hexValue? c).getD 0) 0
  let tooLong := match maxDigits with
    | some most => most < digits.length
    | none => false
  let badZero := !zeros && digits.head? == some '0' && 1 < digits.length
  if digits.isEmpty || tooLong || badZero || bound ≤ value then none
  else some (value, chars.drop digits.length)

/-- One given character. -/
def readChar (c : Char) : List Char → Option (List Char)
  | d :: rest => if d = c then some rest else none
  | [] => none

/-- One octet in decimal. -/
def readOctet (chars : List Char) : Option (UInt8 × List Char) :=
  (readNumber 10 256 (some 3) false chars).map fun (n, rest) => (UInt8.ofNat n, rest)

/-- Four octets. -/
def readV4 (chars : List Char) : Option ((UInt8 × UInt8 × UInt8 × UInt8) × List Char) := do
  let (a, rest) ← readOctet chars
  let (b, rest) ← readOctet (← readChar '.' rest)
  let (c, rest) ← readOctet (← readChar '.' rest)
  let (d, rest) ← readOctet (← readChar '.' rest)
  return ((a, b, c, d), rest)

/-- Up to `room` groups with colons between them, of which `index` have been read. The answer tells
    whether the last two came from four octets, which is possible where two groups still fit. -/
def readGroups (room index : Nat) (chars : List Char) : List UInt16 × Bool × List Char :=
  match room with
  | 0 => ([], false, chars)
  | room + 1 =>
    let next := if index = 0 then some chars else readChar ':' chars
    let octets := if room = 0 then none else next.bind readV4
    match octets with
    | some ((a, b, c, d), rest) =>
      ([UInt16.ofNat (a.toNat * 256 + b.toNat), UInt16.ofNat (c.toNat * 256 + d.toNat)], true, rest)
    | none =>
      match next.bind (readNumber 16 65536 (some 4) true) with
      | some (group, rest) =>
        let (more, octets, rest) := readGroups room (index + 1) rest
        (UInt16.ofNat group :: more, octets, rest)
      | none => ([], false, chars)

/-- Eight groups, or fewer around one double colon. -/
def readV6 (chars : List Char) : Option (List UInt16 × List Char) :=
  let (front, octets, rest) := readGroups 8 0 chars
  if front.length = 8 then some (front, rest)
  else if octets then none
  else do
    let rest ← readChar ':' (← readChar ':' rest)
    let (back, _, rest) := readGroups (7 - front.length) 0 rest
    return (front ++ List.replicate (8 - front.length - back.length) 0 ++ back, rest)

/-! ## Numeric hosts -/

/-- One number of a numeric host: decimal, octal after a zero, hexadecimal after `0x`. -/
def readHostNumber (chars : List Char) : Option (Nat × List Char) :=
  let bound := UInt32.size
  match chars with
  | '0' :: x :: rest =>
    if x = 'x' ∨ x = 'X' then readNumber 16 bound none true rest
    else readNumber 8 bound none true chars
  | c :: _ => if c = '0' then readNumber 8 bound none true chars else readNumber 10 bound none true chars
  | [] => none

/-- The numbers of a numeric host, separated by single points; at most `room` of them. -/
def readHostNumbers (room : Nat) (chars : List Char) : Option (List Nat) :=
  match room with
  | 0 => none
  | room + 1 => do
    let (n, rest) ← readHostNumber chars
    match rest with
    | [] => some [n]
    | '.' :: rest => (readHostNumbers room rest).map (n :: ·)
    | _ => none

/-- The four octets that up to four numbers stand for: one octet each, and the last fills the rest. -/
def octetsOfNumbers? (numbers : List Nat) : Option Ip :=
  let fronts := numbers.dropLast
  let last := numbers.getLastD 0
  let room := 4 - fronts.length
  if numbers.isEmpty || 4 < numbers.length || fronts.any (255 < ·) || Nat.pow 256 room ≤ last then none
  else
    let value := fronts.foldl (fun n o => n * 256 + o) 0 * Nat.pow 256 room + last
    some (.v4 (UInt8.ofNat (value / 0x1000000)) (UInt8.ofNat (value / 0x10000 % 256))
      (UInt8.ofNat (value / 0x100 % 256)) (UInt8.ofNat (value % 256)))

/-- Whether a long address belongs to one link, or is that of a group of listeners on one host or link. -/
def isLinkLocal (groups : List UInt16) : Bool :=
  match groups with
  | first :: _ =>
    let group := first &&& 0xff0f
    first &&& 0xffc0 == 0xfe80 || group == 0xff01 || group == 0xff02
  | [] => false

/-- The number of the loopback interface, the only one that every host has, by its name. -/
def interfaceNumber? (name : String) : Option UInt32 := if name = "lo" then some 1 else none

/-- The scope that stands behind a long address: a number, or on one link the name of an interface. -/
def scopeNumber? (groups : List UInt16) (scope : List Char) : Option UInt32 :=
  let named := if isLinkLocal groups then interfaceNumber? (String.ofList scope) else none
  let numbered := match readNumber 10 UInt32.size none true scope with
    | some (n, []) => some (UInt32.ofNat n)
    | _ => none
  named <|> numbered

/-- The address that a numeric host name stands for, and its scope; 0 when none is written. -/
def Ip.ofNumericHost? (host : String) : Option (Ip × UInt32) :=
  match (readHostNumbers 4 host.toList).bind octetsOfNumbers? with
  | some ip => some (ip, 0)
  | none =>
    let address := host.toList.takeWhile (· ≠ '%')
    match readV6 address, host.toList.drop address.length with
    | some (groups, []), [] => some (.v6 groups, 0)
    | some (groups, []), _ :: scope => (scopeNumber? groups scope).map fun n => (.v6 groups, n)
    | _, _ => none

/-! ## Small facts -/

example : (Ip.v6 [0x2001, 0xdb8, 0, 0, 0, 0, 0, 1]).text = "2001:db8::1" := by decide +kernel
example : (Ip.v6 [0, 0, 0, 0, 0, 0xffff, 0x102, 0x304]).text = "::ffff:1.2.3.4" := by decide +kernel
example : readV6 "1::2:3.4.5.6".toList = some ([1, 0, 0, 0, 0, 2, 0x304, 0x506], []) := by
  decide +kernel
example : Ip.ofNumericHost? "127.1" = some (.v4 127 0 0 1, 0) := by decide +kernel
example : Ip.ofNumericHost? "::%7" = some (.v6 [0, 0, 0, 0, 0, 0, 0, 0], 7) := by decide +kernel
example : readV4 "127.0.0.01".toList = none := by decide +kernel

end Playout.Net
