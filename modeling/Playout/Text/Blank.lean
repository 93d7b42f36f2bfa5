/-!
# `Playout.Text.Blank` — white space around a value

Names, lengths and severities are read with the white space around them removed. White space is the
Unicode property `White_Space`, which is wider than ASCII blanks.

## Contents
- `isBlank` — the property, as a table.
- `trim` — a text without leading and trailing blanks.
-/

namespace Playout.Text

/-- The characters with the Unicode property `White_Space`. -/
def isBlank (c : Char) : Bool :=
  let n := c.toNat
  (0x09 ≤ n && n ≤ 0x0d) || n == 0x20 || n == 0x85 || n == 0xa0 || n == 0x1680
    || (0x2000 ≤ n && n ≤ 0x200a) || n == 0x2028 || n == 0x2029 || n == 0x202f || n == 0x205f
    || n == 0x3000

/-- `chars` without its leading and trailing blanks. -/
def trimChars (chars : List Char) : List Char :=
  ((chars.dropWhile isBlank).reverse.dropWhile isBlank).reverse

/-- `text` without its leading and trailing blanks. -/
def trim (text : String) : String :=
  String.ofList (trimChars text.toList)

/-- ASCII letters in lower case, every other character as it is. -/
def lowerAscii (text : String) : String :=
  String.ofList (text.toList.map Char.toLower)

example : trim "\u00a0 hw:0 \t" = "hw:0" := by decide +kernel

end Playout.Text
