import RecordSearch.Document.Toml.Tree
import RecordSearch.Document.Toml.Scalar

/-!
# Reading TOML

A TOML text is a sequence of lines: blank lines and comments, headers that open a table, and keys
with their values. The values of the lines under a header go to its table.
-/

namespace RecordSearch.Toml

mutual

/-- A value, with arrays and inline tables nested at most `depth` deep. -/
def readValue? : (fuel depth : Nat) → Text → Option (Document × Text)
  | 0, _, _ => none
  | fuel + 1, depth, s =>
    match s with
    | '[' :: rest => if depth = 0 then none else readItems? fuel (depth - 1) rest
    | '\x7b' :: rest =>
      if depth = 0 then none
      else match skipSpace rest with
        | '\x7d' :: rest => some (.table [], rest)
        | rest => readInline? fuel (depth - 1) [] rest
    | c :: _ =>
      if c = '"' || c = literalQuote then (readString? true s).map fun (text, rest) ↦ (.text text, rest)
      else readBare? s
    | [] => none

/-- The items of an array up to its closing bracket. A comma may follow the last one. -/
def readItems? : (fuel depth : Nat) → Text → Option (Document × Text)
  | 0, _, _ => none
  | fuel + 1, depth, s =>
    match skipLines s.length s with
    | ']' :: rest => some (.sequence [], rest)
    | s =>
      match readValue? fuel depth s with
      | none => none
      | some (item, rest) =>
        match skipLines rest.length rest with
        | ',' :: rest =>
          match readItems? fuel depth rest with
          | some (.sequence items, rest) => some (.sequence (item :: items), rest)
          | _ => none
        | ']' :: rest => some (.sequence [item], rest)
        | _ => none

/-- The entries of an inline table up to its closing brace. -/
def readInline? : (fuel depth : Nat) → Entries → Text → Option (Document × Text)
  | 0, _, _, _ => none
  | fuel + 1, depth, entries, s =>
    match readEntry? fuel depth s with
    | none => none
    | some (path, key, d, rest) =>
      match addValue path key d entries with
      | none => none
      | some entries =>
        match skipSpace rest with
        | ',' :: rest => readInline? fuel depth entries rest
        | '\x7d' :: rest => some (.table (documentEntries entries), rest)
        | _ => none

/-- A key, an equals sign and a value. -/
def readEntry? : (fuel depth : Nat) → Text → Option (List Text × Text × Document × Text)
  | 0, _, _ => none
  | fuel + 1, depth, s =>
    match readKey? (s.length + 1) s with
    | some (keys, '=' :: rest) =>
      match keys.getLast?, readValue? fuel depth (skipSpace rest) with
      | some key, some (d, rest) => some (keys.dropLast, key, d, rest)
      | _, _ => none
    | _ => none

end

/-- The tables built so far, and the path of the open one. -/
structure Progress where
  root : Entries
  path : List Text

def nestingLimit : Nat := 79

/-- One line other than a blank one, and what is left of it. -/
def readLine? (progress : Progress) (s : Text) : Option (Progress × Text) :=
  match s with
  | '[' :: '[' :: rest => do
    let (keys, rest) ← readKey? (s.length + 1) rest
    let key ← keys.getLast?
    let rest ← Text.dropFront? "]]".toList rest
    let root ← openNext keys.dropLast key progress.root
    return (⟨root, keys⟩, rest)
  | '[' :: rest => do
    let (keys, rest) ← readKey? (s.length + 1) rest
    let key ← keys.getLast?
    let rest ← Text.dropFront? "]".toList rest
    let root ← openTable keys.dropLast key progress.root
    return (⟨root, keys⟩, rest)
  | _ => do
    let (path, key, d, rest) ← readEntry? (2 * s.length + 2) nestingLimit s
    let root ← addValueAt progress.path path key d progress.root
    return (⟨root, progress.path⟩, rest)

def readFrom? : (fuel : Nat) → Progress → Text → Option Entries
  | 0, _, _ => none
  | fuel + 1, progress, s =>
    match skipSpace s with
    | [] => some progress.root
    | '#' :: rest => readEnd? fuel progress ('#' :: rest)
    | s =>
      match afterBreak? s with
      | some rest => readFrom? fuel progress rest
      | none =>
        match readLine? progress s with
        | some (progress, rest) => readEnd? fuel progress rest
        | none => none
where
  /-- The end of a line: blanks and a comment. -/
  readEnd? (fuel : Nat) (progress : Progress) (s : Text) : Option Entries :=
    match fuel, skipComment (skipSpace s) with
    | _, [] => some progress.root
    | 0, _ => none
    | fuel + 1, s =>
      match afterBreak? s with
      | some rest => readFrom? fuel progress rest
      | none => none

/-- The table that a whole text holds. A byte order mark at its start does not count. -/
def read? (s : Text) : Option Document :=
  let s := match s with
    | c :: rest => if c.toNat = 0xFEFF then rest else s
    | [] => s
  (readFrom? (2 * s.length + 2) ⟨[], []⟩ s).map fun entries ↦ .table (documentEntries entries)

end RecordSearch.Toml
