import Playout.Text.Hex

/-!
# `Playout.Toml.Quoted` — quoted strings of TOML

Four forms: basic strings with escapes, literal strings without, and the multi-line form of each.
Every reader starts behind the opening quotes and leaves the characters behind the closing ones.

## Contents
- `allowed` — the characters that may stand in a line of text.
- `basicBody`, `literalBody` — one line.
- `longBasicBody`, `longLiteralBody` — several lines.
- `readString` — any of the four, from its opening quote.
-/

namespace Playout.Toml

/-- Tabs and everything but control characters. -/
def allowed (c : Char) : Bool :=
  c = '\t' || (0x20 ≤ c.toNat && c.toNat ≠ 0x7f)

/-- The character that hexadecimal digits name, if it is one. -/
def charOfHex? (digits : List Char) : Option Char := do
  let values ← digits.mapM Text.hexValue?
  let code := values.foldl (fun n d => n * 16 + d) 0
  if code.isValidChar then some (Char.ofNat code) else none

/-- The character that a letter behind a backslash stands for. -/
def escaped? : Char → Option Char
  | 'b' => some '\x08'
  | 'e' => some '\x1b'
  | 't' => some '\t'
  | 'n' => some '\n'
  | 'f' => some '\x0c'
  | 'r' => some '\r'
  | '"' => some '"'
  | '\\' => some '\\'
  | _ => none

/-! ## One line -/

/-- The text up to a double quote; `read` holds what was read before, last character first. -/
def basicBody (read : List Char) : List Char → Option (List Char × List Char)
  | '"' :: rest => some (read.reverse, rest)
  | '\\' :: 'x' :: a :: b :: rest =>
    match charOfHex? [a, b] with
    | some char => basicBody (char :: read) rest
    | none => none
  | '\\' :: 'u' :: a :: b :: c :: d :: rest =>
    match charOfHex? [a, b, c, d] with
    | some char => basicBody (char :: read) rest
    | none => none
  | '\\' :: 'U' :: a :: b :: c :: d :: e :: f :: g :: h :: rest =>
    match charOfHex? [a, b, c, d, e, f, g, h] with
    | some char => basicBody (char :: read) rest
    | none => none
  | '\\' :: c :: rest =>
    match escaped? c with
    | some char => basicBody (char :: read) rest
    | none => none
  | c :: rest => if allowed c && c ≠ '\\' then basicBody (c :: read) rest else none
  | [] => none

/-- The text up to a single quote. -/
def literalBody (chars : List Char) : Option (List Char × List Char) :=
  let body := chars.takeWhile fun c => c ≠ '\'' && allowed c
  match chars.drop body.length with
  | '\'' :: rest => some (body, rest)
  | _ => none

/-! ## Several lines -/

/-- A line break right behind the opening quotes is not part of the text. -/
def dropFirstBreak : List Char → List Char
  | '\n' :: rest => rest
  | '\r' :: '\n' :: rest => rest
  | chars => chars

/-- Where a reader of a multi-line basic string is: in the text, behind a backslash that shall be
    followed by a line break, or in the white space that this removes. -/
inductive LongState where
  | inText
  | beforeBreak
  | inGap
  deriving DecidableEq, Repr

/-- The text up to three double quotes, of which up to two more in front belong to the text. -/
def longBasicBody (state : LongState) (read : List Char) :
    List Char → Option (List Char × List Char)
  | [] => none
  | '\r' :: '\n' :: rest =>
    match state with
    | .inText => longBasicBody .inText ('\n' :: '\r' :: read) rest
    | _ => longBasicBody .inGap read rest
  | '\n' :: rest =>
    match state with
    | .inText => longBasicBody .inText ('\n' :: read) rest
    | _ => longBasicBody .inGap read rest
  | '"' :: '"' :: '"' :: '"' :: '"' :: rest =>
    if state = .beforeBreak then none else some (('"' :: '"' :: read).reverse, rest)
  | '"' :: '"' :: '"' :: '"' :: rest =>
    if state = .beforeBreak then none else some (('"' :: read).reverse, rest)
  | '"' :: '"' :: '"' :: rest =>
    if state = .beforeBreak then none else some (read.reverse, rest)
  | '\\' :: 'x' :: a :: b :: rest =>
    if state = .beforeBreak then none
    else match charOfHex? [a, b] with
    | some char => longBasicBody .inText (char :: read) rest
    | none => none
  | '\\' :: 'u' :: a :: b :: c :: d :: rest =>
    if state = .beforeBreak then none
    else match charOfHex? [a, b, c, d] with
    | some char => longBasicBody .inText (char :: read) rest
    | none => none
  | '\\' :: 'U' :: a :: b :: c :: d :: e :: f :: g :: h :: rest =>
    if state = .beforeBreak then none
    else match charOfHex? [a, b, c, d, e, f, g, h] with
    | some char => longBasicBody .inText (char :: read) rest
    | none => none
  | '\\' :: '\n' :: rest =>
    if state = .beforeBreak then none else longBasicBody .inGap read rest
  | '\\' :: '\r' :: '\n' :: rest =>
    if state = .beforeBreak then none else longBasicBody .inGap read rest
  | '\\' :: c :: rest =>
    if state = .beforeBreak then none
    else if c = ' ' || c = '\t' then longBasicBody .beforeBreak read rest
    else match escaped? c with
    | some char => longBasicBody .inText (char :: read) rest
    | none => none
  | c :: rest =>
    match state with
    | .inText => if allowed c && c ≠ '\\' then longBasicBody .inText (c :: read) rest else none
    | .beforeBreak => if c = ' ' || c = '\t' then longBasicBody .beforeBreak read rest else none
    | .inGap =>
      if c = ' ' || c = '\t' then longBasicBody .inGap read rest
      else if allowed c && c ≠ '\\' then longBasicBody .inText (c :: read) rest
      else none

/-- The text up to three single quotes, of which up to two more in front belong to the text. -/
def longLiteralBody (read : List Char) : List Char → Option (List Char × List Char)
  | [] => none
  | '\'' :: '\'' :: '\'' :: '\'' :: '\'' :: rest => some (('\'' :: '\'' :: read).reverse, rest)
  | '\'' :: '\'' :: '\'' :: '\'' :: rest => some (('\'' :: read).reverse, rest)
  | '\'' :: '\'' :: '\'' :: rest => some (read.reverse, rest)
  | '\r' :: '\n' :: rest => longLiteralBody ('\n' :: '\r' :: read) rest
  | c :: rest => if allowed c || c = '\n' then longLiteralBody (c :: read) rest else none

/-! ## Any form -/

/-- A string of one line, as it may also name a key. -/
def readLine? : List Char → Option (String × List Char)
  | '"' :: rest => (basicBody [] rest).map fun (body, rest) => (String.ofList body, rest)
  | '\'' :: rest => (literalBody rest).map fun (body, rest) => (String.ofList body, rest)
  | _ => none

/-- A string in any of the four forms. -/
def readString : List Char → Option (String × List Char)
  | '"' :: '"' :: '"' :: rest =>
    (longBasicBody .inText [] (dropFirstBreak rest)).map fun (body, rest) => (String.ofList body, rest)
  | '\'' :: '\'' :: '\'' :: rest =>
    (longLiteralBody [] (dropFirstBreak rest)).map fun (body, rest) => (String.ofList body, rest)
  | chars => readLine? chars

/-! ## Small facts -/

example : readString "\"t\\tu\\u00e9\" #".toList = some ("t\tu\u00e9", " #".toList) := by
  decide +kernel
example : readString "\"\\e\\x41\"".toList = some ("\x1bA", []) := by decide +kernel
example : readString "'lit\\eral'".toList = some ("lit\\eral", []) := by decide +kernel
example : readString "\"\"\"\na \\\n   b\"\"\"\"".toList = some ("a b\"", []) := by decide +kernel
example : readString "\"a\nb\"".toList = none := by decide +kernel

end Playout.Toml
