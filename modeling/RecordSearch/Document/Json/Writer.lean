import RecordSearch.Document.Basic
import RecordSearch.Number.Shortest

/-!
# Writing JSON

Compact text, and text with one item a line behind two blanks per level. Control characters are
escaped and all others are written as they are; a float shows that it is one, and a float that is
no number is written as `null`.
-/

namespace RecordSearch.Json

def hexDigit (n : Nat) : Char :=
  "0123456789abcdef".toList.getD n '0'

def escape (c : Char) : Text :=
  if c = '"' then "\\\"".toList
  else if c = '\\' then "\\\\".toList
  else if c = '\n' then "\\n".toList
  else if c = '\r' then "\\r".toList
  else if c = '\t' then "\\t".toList
  else if c.toNat = 8 then "\\b".toList
  else if c.toNat = 12 then "\\f".toList
  else if c.toNat < 32 then
    "\\u00".toList ++ [hexDigit (c.toNat / 16), hexDigit (c.toNat % 16)]
  else [c]

def quote (s : Text) : Text :=
  '"' :: s.flatMap escape ++ ['"']

def writeFloat {format : Format} (style : DecimalStyle) (x : Binary format) : Text :=
  if x.isFinite then x.render style else "null".toList

def writeBoolean (b : Bool) : Text :=
  (if b then "true" else "false").toList

mutual

def write : Document → Text
  | .null => "null".toList
  | .boolean b => writeBoolean b
  | .integer n => Text.ofInt n
  | .float x => writeFloat .document x
  | .single x => writeFloat .singleDocument x
  | .text s => quote s
  | .sequence items => '[' :: Text.join [','] (writeItems items) ++ [']']
  | .table entries => '\x7b' :: Text.join [','] (writeEntries entries) ++ ['\x7d']

def writeItems : List Document → List Text
  | [] => []
  | item :: items => write item :: writeItems items

def writeEntries : List (Text × Document) → List Text
  | [] => []
  | (key, value) :: entries => (quote key ++ ':' :: write value) :: writeEntries entries

end

/-- The line break before an item at a level. -/
def newLine (level : Nat) : Text :=
  '\n' :: List.replicate (2 * level) ' '

/-- Items between brackets, one a line, at the level inside the brackets. -/
def enclose (opening closing : Char) (level : Nat) (items : List Text) : Text :=
  if items.isEmpty then [opening, closing]
  else opening :: newLine level ++ Text.join (',' :: newLine level) items ++
    newLine (level - 1) ++ [closing]

mutual

def writePrettyAt (level : Nat) : Document → Text
  | .null => "null".toList
  | .boolean b => writeBoolean b
  | .integer n => Text.ofInt n
  | .float x => writeFloat .document x
  | .single x => writeFloat .singleDocument x
  | .text s => quote s
  | .sequence items => enclose '[' ']' (level + 1) (writePrettyItems (level + 1) items)
  | .table entries => enclose '\x7b' '\x7d' (level + 1) (writePrettyEntries (level + 1) entries)

def writePrettyItems (level : Nat) : List Document → List Text
  | [] => []
  | item :: items => writePrettyAt level item :: writePrettyItems level items

def writePrettyEntries (level : Nat) : List (Text × Document) → List Text
  | [] => []
  | (key, value) :: entries =>
    (quote key ++ ':' :: ' ' :: writePrettyAt level value) :: writePrettyEntries level entries

end

def writePretty (d : Document) : Text :=
  writePrettyAt 0 d

end RecordSearch.Json
