import Playout.Toml.Quoted
import Playout.Toml.Table

/-!
# `Playout.Toml.Document` — reading a TOML document

A document is a sequence of lines: comments, `key = value` pairs and headers. A pair belongs to the
table of the last header. Arrays, inline tables and multi-line strings go over line ends.

## Contents
- `readKey` — a key with its dots.
- `readValue` — a value; nesting is limited to `maxDepth`.
- `parse?` — the entries of a whole document.
-/

namespace Playout.Toml

/-! ## Between values -/

/-- `chars` without the blanks in front. -/
def skipBlanks (chars : List Char) : List Char := chars.dropWhile fun c => c = ' ' || c = '\t'

/-- Skip a comment, if there is one; it ends in front of a line end. -/
def skipComment (chars : List Char) : Option (List Char) :=
  match chars with
  | '#' :: rest =>
    match rest.dropWhile allowed with
    | [] => some []
    | '\n' :: tail => some ('\n' :: tail)
    | '\r' :: '\n' :: tail => some ('\r' :: '\n' :: tail)
    | _ => none
  | _ => some chars

/-- A line end at the front. -/
def readBreak : List Char → Option (List Char)
  | '\n' :: rest => some rest
  | '\r' :: '\n' :: rest => some rest
  | _ => none

/-- Skip blanks, comments and line ends. Every round takes at least one character off, so that `room`
    rounds are enough for that many characters. -/
def skipFiller (room : Nat) (chars : List Char) : Option (List Char) :=
  match room with
  | 0 => some chars
  | room + 1 => do
    let rest ← skipComment (skipBlanks chars)
    match readBreak rest with
    | some rest => skipFiller room rest
    | none => some rest

/-! ## Keys -/

/-- A part of a key: bare or quoted. -/
def readKeyPart (chars : List Char) : Option (String × List Char) :=
  let bare := chars.takeWhile fun c => c.isAlphanum || c = '_' || c = '-'
  if bare.isEmpty then readLine? chars else some (String.ofList bare, chars.drop bare.length)

/-- The parts of a dotted key, of which at most `room` are read. -/
def readKeyParts (room : Nat) (chars : List Char) : Option (List String × List Char) :=
  match room with
  | 0 => none
  | room + 1 => do
    let (part, rest) ← readKeyPart (skipBlanks chars)
    match skipBlanks rest with
    | '.' :: rest => (readKeyParts room rest).map fun (parts, rest) => (part :: parts, rest)
    | rest => some ([part], rest)

/-- How deep arrays and inline tables may be nested, and how many parts a key may have. -/
def maxDepth : Nat := 80

/-- A key: the path to its table, and its last part. Blanks around it are skipped. -/
def readKey (chars : List Char) : Option ((List String × String) × List Char) := do
  let (parts, rest) ← readKeyParts maxDepth chars
  let last ← parts.getLast?
  return ((parts.dropLast, last), rest)

/-! ## Values -/

/-- A list of what `item` reads, separated by commas, up to `close`; a comma may also stand behind the last.
    `skip` skips what may stand around an item. -/
def readItems {α : Type} (item : List Char → Option (α × List Char))
    (skip : List Char → Option (List Char)) (close : Char) :
    Nat → List Char → Option (List α × List Char)
  | 0, _ => none
  | room + 1, chars => do
    let chars ← skip chars
    let (value, rest) ←
      match chars with
      | c :: rest => if c = close then return ([], rest) else item chars
      | [] => none
    match ← skip rest with
    | ',' :: rest =>
      let (more, rest) ← readItems item skip close room rest
      return (value :: more, rest)
    | c :: rest => if c = close then some ([value], rest) else none
    | [] => none

/-- One `key = value` pair, given how a value is read; `skip` skips what may stand around the equals sign. -/
def readPair (value : List Char → Option (Value × List Char)) (skip : List Char → Option (List Char))
    (chars : List Char) : Option (((List String × String) × Value) × List Char) := do
  let (key, rest) ← readKey chars
  let (v, rest) ← value (← skip (← readMark '=' (← skip rest)))
  return ((key, v), rest)

/-- A value that opens at most `depth` nested brackets or braces. -/
def readValue (depth : Nat) (chars : List Char) : Option (Value × List Char) :=
  match chars with
  | '"' :: _ | '\'' :: _ => (readString chars).map fun (s, rest) => (.text s, rest)
  | '[' :: rest =>
    match depth with
    | 0 => none
    | depth + 1 =>
      (readItems (readValue depth) (skipFiller rest.length) ']' (rest.length + 1) rest).map
        fun (items, rest) => (.array items, rest)
  | '{' :: rest =>
    match depth with
    | 0 => none
    | depth + 1 => do
      let skip := skipFiller rest.length
      let (pairs, rest) ← readItems (readPair (readValue depth) skip) skip '}' (rest.length + 1) rest
      let entries ← pairs.foldlM (fun entries ((path, key), v) => insertKey path key v .written entries) []
      return (.table .inline entries, rest)
  | _ => (Scalar.read chars).map fun (s, rest) => (.scalar s, rest)

/-! ## Lines -/

/-- The header of a table that is being read. -/
structure Header where
  path : List String
  key : String
  isRow : Bool
  deriving DecidableEq, Repr

/-- What a reader of lines has read. -/
structure Reading where
  root : Entries := []
  header : Option Header := none
  current : Entries := []

/-- Put the table that is being read into its place. -/
def Reading.finish (r : Reading) : Option Entries :=
  match r.header with
  | none => some r.current
  | some h => closeTable h.path h.key h.isRow r.current r.root

/-- Begin the table of a header. -/
def Reading.start (r : Reading) (h : Header) : Option Reading := do
  let root ← r.finish
  if h.isRow then return { root, header := some h, current := [] }
  else
    let (current, root) ← openTable h.path h.key root
    return { root, header := some h, current }

/-- A header at the front. -/
def readHeader (chars : List Char) : Option (Header × List Char) :=
  match chars with
  | '[' :: '[' :: rest => do
    let ((path, key), rest) ← readKey rest
    let rest ← readMark ']' (← readMark ']' rest)
    return (⟨path, key, true⟩, rest)
  | '[' :: rest => do
    let ((path, key), rest) ← readKey rest
    return (⟨path, key, false⟩, ← readMark ']' rest)
  | _ => none

/-- What one line adds, and what is left behind it. -/
def Reading.readLine (r : Reading) (chars : List Char) : Option (Reading × List Char) :=
  match chars with
  | '[' :: _ => do
    let (header, rest) ← readHeader chars
    return (← r.start header, rest)
  | [] | '#' :: _ | '\n' :: _ | '\r' :: _ => some (r, chars)
  | _ => do
    let (((path, key), v), rest) ← readPair (readValue maxDepth) (fun rest => some (skipBlanks rest)) chars
    return ({ r with current := ← insertKey path key v .written r.current }, rest)

/-- Read at most `room` lines. -/
def Reading.readLines (room : Nat) (r : Reading) (chars : List Char) : Option Reading :=
  match room with
  | 0 => none
  | room + 1 => do
    let (r, rest) ← r.readLine (skipBlanks chars)
    match ← skipComment (skipBlanks rest) with
    | [] => return r
    | rest => readLines room r (← readBreak rest)

/-- The characters of a document without a byte order mark. -/
def dropMark : List Char → List Char
  | '\ufeff' :: rest => rest
  | chars => chars

/-- The entries of a document. -/
def parse? (text : String) : Option Entries :=
  let chars := dropMark text.toList
  ((Reading.readLines (chars.length + 1) {} chars).bind Reading.finish)

end Playout.Toml
