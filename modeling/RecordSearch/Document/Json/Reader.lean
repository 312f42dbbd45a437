import RecordSearch.Document.Json.Number

/-!
# Reading JSON

Strict JSON: no comments, no trailing commas, no control characters and no unpaired surrogates in
strings. The nesting of arrays and objects may be limited.
-/

namespace RecordSearch.Json

def skipSpace (s : Text) : Text :=
  s.dropWhile fun c ↦ c = ' ' || c = '\n' || c = '\t' || c = '\r'

def hexValue? (c : Char) : Option Nat :=
  if '0' ≤ c && c ≤ '9' then some (c.toNat - '0'.toNat)
  else if 'a' ≤ c && c ≤ 'f' then some (c.toNat - 'a'.toNat + 10)
  else if 'A' ≤ c && c ≤ 'F' then some (c.toNat - 'A'.toNat + 10)
  else none

/-- The number that hexadecimal digits denote. -/
def hexNumber? (digits : Text) : Option Nat :=
  digits.foldlM (fun n c ↦ (hexValue? c).map (16 * n + ·)) 0

def readHex4? (s : Text) : Option (Nat × Text) :=
  if s.length < 4 then none else (hexNumber? (s.take 4)).map fun n ↦ (n, s.drop 4)

/-- The character of a `\u` escape, which for a surrogate takes a second one. -/
def readUnicode? (s : Text) : Option (Char × Text) := do
  let (unit, rest) ← readHex4? s
  if unit < 0xD800 || 0xE000 ≤ unit then return (Char.ofNat unit, rest)
  else if 0xDC00 ≤ unit then none
  else match rest with
    | '\\' :: 'u' :: rest => do
      let (low, rest) ← readHex4? rest
      if 0xDC00 ≤ low && low < 0xE000 then
        return (Char.ofNat (0x10000 + (unit - 0xD800) * 0x400 + (low - 0xDC00)), rest)
      else none
    | _ => none

def readEscape? : Text → Option (Char × Text)
  | [] => none
  | c :: s =>
    if c = '"' || c = '\\' || c = '/' then some (c, s)
    else if c = 'b' then some (Char.ofNat 8, s)
    else if c = 'f' then some (Char.ofNat 12, s)
    else if c = 'n' then some ('\n', s)
    else if c = 'r' then some ('\r', s)
    else if c = 't' then some ('\t', s)
    else if c = 'u' then readUnicode? s
    else none

/-- The rest of a string after the characters in `before`, which are held backwards. -/
def readStringFrom? : (fuel : Nat) → (before : Text) → Text → Option (Text × Text)
  | 0, _, _ | _, _, [] => none
  | fuel + 1, before, c :: s =>
    if c = '"' then some (before.reverse, s)
    else if c = '\\' then
      match readEscape? s with
      | some (d, s) => readStringFrom? fuel (d :: before) s
      | none => none
    else if c.toNat < 32 then none
    else readStringFrom? fuel (c :: before) s

/-- A string at its opening quote. -/
def readString? : Text → Option (Text × Text)
  | '"' :: s => readStringFrom? (s.length + 1) [] s
  | _ => none

def readWord? (word : String) (d : Document) (s : Text) : Option (Document × Text) :=
  (Text.dropFront? word.toList s).map fun rest ↦ (d, rest)

mutual

/-- A value, with arrays and objects nested at most `depth` deep. -/
def readValue? : (fuel depth : Nat) → Text → Option (Document × Text)
  | 0, _, _ => none
  | fuel + 1, depth, s =>
    match skipSpace s with
    | [] => none
    | '"' :: rest => (readString? ('"' :: rest)).map fun (s, rest) ↦ (.text s, rest)
    | '[' :: rest =>
      if depth = 0 then none
      else match skipSpace rest with
        | ']' :: rest => some (.sequence [], rest)
        | rest => (readItems? fuel (depth - 1) rest).map fun (items, rest) ↦ (.sequence items, rest)
    | '\x7b' :: rest =>
      if depth = 0 then none
      else match skipSpace rest with
        | '\x7d' :: rest => some (.table [], rest)
        | rest =>
          (readEntries? fuel (depth - 1) rest).map fun (entries, rest) ↦ (.table entries, rest)
    | 'n' :: rest => readWord? "null" .null ('n' :: rest)
    | 't' :: rest => readWord? "true" (.boolean true) ('t' :: rest)
    | 'f' :: rest => readWord? "false" (.boolean false) ('f' :: rest)
    | rest => readNumber? rest

/-- The items up to a closing bracket. -/
def readItems? : (fuel depth : Nat) → Text → Option (List Document × Text)
  | 0, _, _ => none
  | fuel + 1, depth, s =>
    match readValue? fuel depth s with
    | none => none
    | some (item, rest) =>
      match skipSpace rest with
      | ',' :: rest => (readItems? fuel depth rest).map fun (items, rest) ↦ (item :: items, rest)
      | ']' :: rest => some ([item], rest)
      | _ => none

/-- The entries up to a closing brace. -/
def readEntries? : (fuel depth : Nat) → Text → Option (List (Text × Document) × Text)
  | 0, _, _ => none
  | fuel + 1, depth, s =>
    match readString? (skipSpace s) with
    | none => none
    | some (key, rest) =>
      match skipSpace rest with
      | ':' :: rest =>
        match readValue? fuel depth rest with
        | none => none
        | some (value, rest) =>
          match skipSpace rest with
          | ',' :: rest =>
            (readEntries? fuel depth rest).map fun (entries, rest) ↦ ((key, value) :: entries, rest)
          | '\x7d' :: rest => some ([(key, value)], rest)
          | _ => none
      | _ => none

end

/-- The deepest nesting that a file may have. -/
def depthLimit : Nat := 127

/-- The document that a whole text holds. -/
def read? (depth : Nat) (s : Text) : Option Document :=
  match readValue? (2 * s.length + 1) depth s with
  | some (d, rest) => if (skipSpace rest).isEmpty then some d else none
  | none => none

end RecordSearch.Json
