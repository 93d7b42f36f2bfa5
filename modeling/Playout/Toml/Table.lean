import Playout.Toml.Scalar

/-!
# `Playout.Toml.Table` — tables, and how a document builds them

A table remembers how it came about, since that decides who may add to it: a table written out by a
header is closed to headers and to dotted keys of others, one implied by the path of a header may still
be written out, one made by dotted keys may be added to by dotted keys, and an inline table is complete.

## Contents
- `Origin`, `Value`, `Value.isSound`.
- `get?`, `put` on the entries of a table.
- `descend` — follow a path, making the tables that are missing.
- `insertKey`, `openTable`, `closeTable` — the three ways in which a document adds to its root.
-/

namespace Playout.Toml

/-- How a table came about. -/
inductive Origin where
  /-- Written out: the root, or named by a header. -/
  | written
  /-- On the path of a header that names a table inside. -/
  | implied
  /-- On the path of a dotted key. -/
  | dotted
  /-- Between braces. -/
  | inline
  deriving DecidableEq, Repr

/-- A value. The rows of an array of tables are kept apart from an array between brackets, which cannot
    grow. -/
inductive Value where
  | text (s : String)
  | scalar (s : Scalar)
  | array (items : List Value)
  | rows (tables : List (Origin × List (String × Value)))
  | table (origin : Origin) (entries : List (String × Value))

/-- The entries of a table. -/
abbrev Entries := List (String × Value)

mutual

/-- Whether all numbers in a value are worth something. -/
def Value.isSound : Value → Bool
  | .text _ => true
  | .scalar s => s.isSound
  | .array items => itemsSound items
  | .rows tables => rowsSound tables
  | .table _ entries => entriesSound entries

/-- Whether all numbers in some values are worth something. -/
def Value.itemsSound : List Value → Bool
  | [] => true
  | v :: rest => v.isSound && itemsSound rest

/-- Whether all numbers in the rows of an array of tables are worth something. -/
def Value.rowsSound : List (Origin × List (String × Value)) → Bool
  | [] => true
  | (_, entries) :: rest => entriesSound entries && rowsSound rest

/-- Whether all numbers in a table are worth something. -/
def Value.entriesSound : List (String × Value) → Bool
  | [] => true
  | (_, v) :: rest => v.isSound && entriesSound rest

end

/-- The value of a key. -/
def Entries.get? (entries : Entries) (key : String) : Option Value := entries.lookup key

/-- Give a key a value, in its place if it has one already. -/
def Entries.put (entries : Entries) (key : String) (value : Value) : Entries :=
  if entries.any (·.1 = key) then entries.map fun e => if e.1 = key then (key, value) else e
  else entries ++ [(key, value)]

/-- Take a key out. -/
def Entries.remove (entries : Entries) (key : String) : Entries := entries.filter (·.1 ≠ key)

/-- Follow a path from a table and change the table it leads to. Tables that are missing are made with
    the origin `missing`; of an array of tables it is the last row that the path goes through. A dotted
    key may not go through a table that was written out. -/
def descend (missing : Origin) (change : Origin → Entries → Option (Origin × Entries)) :
    List String → Origin → Entries → Option (Origin × Entries)
  | [], origin, entries => change origin entries
  | key :: path, origin, entries =>
    match entries.get? key with
    | none =>
      (descend missing change path missing []).map fun (o, child) =>
        (origin, entries.put key (.table o child))
    | some (.table childOrigin child) =>
      if childOrigin = .inline || (missing = .dotted && childOrigin = .written) then none
      else (descend missing change path childOrigin child).map fun (o, child) =>
        (origin, entries.put key (.table o child))
    | some (.rows tables) =>
      match tables.getLast? with
      | some (rowOrigin, row) =>
        (descend missing change path rowOrigin row).map fun row =>
          (origin, entries.put key (.rows (tables.dropLast ++ [row])))
      | none => none
    | some _ => none

/-- Add a key under a dotted path. The key must be new, and the table it goes to must be the current one
    or one made by dotted keys. -/
def insertKey (path : List String) (key : String) (value : Value) (origin : Origin)
    (entries : Entries) : Option Entries :=
  let add (o : Origin) (target : Entries) : Option (Origin × Entries) :=
    if ((o == .dotted) == path.isEmpty) || (target.get? key).isSome then none
    else some (o, target.put key value)
  (descend .dotted add path origin entries).map (·.2)

/-- A header of one table: the entries it already has from headers of tables inside it, and the root
    without it. -/
def openTable (path : List String) (key : String) (root : Entries) : Option (Entries × Entries) :=
  let look (o : Origin) (parent : Entries) : Option (Origin × Entries) :=
    match parent.get? key with
    | none => some (o, parent)
    | some (.table .implied _) => some (o, parent)
    | some _ => none
  let inside (_ : Origin) (parent : Entries) : Option (Origin × Entries) :=
    match parent.get? key with
    | some (.table _ entries) => some (.written, entries)
    | _ => some (.written, [])
  let removed (o : Origin) (parent : Entries) : Option (Origin × Entries) :=
    some (o, parent.remove key)
  match descend .implied look path .written root with
  | none => none
  | some (_, prepared) =>
    match follow path .written prepared inside, descend .implied removed path .written prepared with
    | some (_, entries), some (_, root) => some (entries, root)
    | _, _ => none
where
  /-- The answer that `change` gives at the end of a path. -/
  follow : List String → Origin → Entries → (Origin → Entries → Option (Origin × Entries)) →
      Option (Origin × Entries)
    | [], origin, entries, change => change origin entries
    | key :: path, _, entries, change =>
      match entries.get? key with
      | some (.table o child) => follow path o child change
      | some (.rows tables) =>
        match tables.getLast? with
        | some (o, row) => follow path o row change
        | none => none
      | _ => none

/-- Put a table that a header began into its place: as the value of its key, or as a further row. -/
def closeTable (path : List String) (key : String) (isRow : Bool) (table root : Entries) :
    Option Entries :=
  let add (o : Origin) (parent : Entries) : Option (Origin × Entries) :=
    if isRow then
      match parent.get? key with
      | none => some (o, parent.put key (.rows [(.written, table)]))
      | some (.rows tables) => some (o, parent.put key (.rows (tables ++ [(.written, table)])))
      | some _ => none
    else some (o, parent.put key (.table .written table))
  (descend .implied add path .written root).map (·.2)

end Playout.Toml
