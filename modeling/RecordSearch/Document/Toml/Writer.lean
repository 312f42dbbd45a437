import RecordSearch.Document.Basic
import RecordSearch.Document.Json.Writer

/-!
# Writing TOML

Tables are written under headers, their plain values first. A string takes the first of these forms
that needs no escape: double quotes, single quotes, three double quotes, three single quotes; one
that needs escapes stands between double quotes. Integers are limited to 64 bits with a sign.
-/

namespace RecordSearch.Toml

/-- The length of the longest run of a character. -/
def longestRun (c : Char) (s : Text) : Nat :=
  (s.foldl (fun (longest, current) d ↦
    if d = c then (max longest (current + 1), current + 1) else (longest, 0)) (0, 0)).1

/-- Control characters, apart from the tab and the line break, are always escaped. -/
def needsEscape (c : Char) : Bool :=
  (c.toNat < 32 && c ≠ '\t' && c ≠ '\n') || c.toNat = 127

def upperHex (n : Nat) : Char :=
  "0123456789ABCDEF".toList.getD n '0'

def escape (keepBreaks : Bool) (c : Char) : Text :=
  if c = '"' then "\\\"".toList
  else if c = '\\' then "\\\\".toList
  else if c = '\n' then (if keepBreaks then ['\n'] else "\\n".toList)
  else if c = '\r' then "\\r".toList
  else if c = '\t' then "\\t".toList
  else if c.toNat = 8 then "\\b".toList
  else if c.toNat = 12 then "\\f".toList
  else if needsEscape c then
    "\\u00".toList ++ [upperHex (c.toNat / 16), upperHex (c.toNat % 16)]
  else [c]

/-- The quotes of a string of several lines; a line break follows if the string holds one. -/
def linesQuote (quote : Char) (s : Text) : Text :=
  [quote, quote, quote] ++ (if s.any (· = '\n') then ['\n'] else [])

def quote (s : Text) : Text :=
  let double := longestRun '"' s
  let single := longestRun (Char.ofNat 39) s
  let control := s.any needsEscape
  let slash := s.any (· = '\\')
  let broken := s.any (· = '\n')
  let basic := '"' :: s.flatMap (escape false) ++ ['"']
  let basicLines := linesQuote '"' s ++ s.flatMap escapeInLines ++ "\"\"\"".toList
  if !control && !slash && double = 0 && !broken then basic
  else if !control && single = 0 && !broken then Char.ofNat 39 :: s ++ [Char.ofNat 39]
  else if !control && !slash && double ≤ 2 then basicLines
  else if !control && single ≤ 2 then linesQuote (Char.ofNat 39) s ++ s ++ "'''".toList
  else if broken then linesQuote '"' s ++ s.flatMap (escape true) ++ "\"\"\"".toList
  else basic
where
  /-- Quotes are safe in short runs. -/
  escapeInLines (c : Char) : Text :=
    if c = '"' then ['"'] else escape true c

def isTable : Document → Bool
  | .table _ => true
  | _ => false

def integerText? (n : Int) : Option Text :=
  if n < wordLimit 63 then some (Text.ofInt n) else none

/-- A value that stands on the line of its key. An array of two or more items takes a line for each
item. -/
def writeValue? : Document → Option Text
  | .boolean b => some (Json.writeBoolean b)
  | .integer n => integerText? n
  | .float x => some (x.render .document)
  | .single x => some (x.render .singleDocument)
  | .text s => some (quote s)
  | .sequence items => (writeItems? items).map fun texts ↦
    match texts with
    | [] => "[]".toList
    | [text] => '[' :: text ++ [']']
    | texts => "[\n".toList ++ texts.flatMap (fun text ↦ "    ".toList ++ text ++ ",\n".toList) ++ [']']
  | .null | .table _ => none
where
  writeItems? : List Document → Option (List Text)
    | [] => some []
    | item :: items => do
      let text ← writeValue? item
      let texts ← writeItems? items
      return text :: texts

def writeKey (key : Text) : Text :=
  if !key.isEmpty && key.all (fun c ↦ c.isAlphanum || c = '_' || c = '-') then key else quote key

/-- The lines of the plain values of a table. -/
def writePlain? : List (Text × Document) → Option (List Text)
  | [] => some []
  | (key, value) :: entries =>
    if isTable value then writePlain? entries
    else do
      let text ← writeValue? value
      let lines ← writePlain? entries
      return (writeKey key ++ " = ".toList ++ text) :: lines

mutual

/-- The blocks of lines of a table at a path: its own, and those of the tables in it. A table that
holds nothing but tables has no header. -/
def writeBlocks? (path : List Text) : Document → Option (List (List Text))
  | .table entries => do
    let plain ← writePlain? entries
    let below ← writeBelow? path entries
    let header := if path.isEmpty then [] else ['[' :: Text.join ['.'] path ++ [']']]
    let own := if plain.isEmpty && (path.isEmpty || !below.isEmpty) then [] else [header ++ plain]
    return own ++ below
  | _ => none

def writeBelow? (path : List Text) : List (Text × Document) → Option (List (List Text))
  | [] => some []
  | (key, value) :: entries => do
    let blocks ← if isTable value then writeBlocks? (path ++ [writeKey key]) value else some []
    let rest ← writeBelow? path entries
    return blocks ++ rest

end

/-- The text of a table, unless an integer in it is too large. -/
def write? (d : Document) : Option Text :=
  (writeBlocks? [] d).map fun blocks ↦
    Text.join ['\n'] (blocks.map fun lines ↦ lines.flatMap fun line ↦ line ++ ['\n'])

end RecordSearch.Toml
