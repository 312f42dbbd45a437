import RecordSearch.Number.Binary
import RecordSearch.Dictionary

/-!
# Documents

The tree of values that a JSON or TOML text holds. A table lists its entries as they are written,
repeated keys included; where order and repetition do not count it is brought into ascending order,
the last entry of a key standing for all.
-/

namespace RecordSearch

inductive Document where
  | null
  | boolean (b : Bool)
  | integer (n : Int)
  | float (x : Double)
  /-- A float of single precision. It is only written: one that is read is a double. -/
  | single (x : Single)
  | text (s : Text)
  | sequence (items : List Document)
  | table (entries : List (Text × Document))
  deriving Inhabited

namespace Document

mutual

/-- Every table in ascending order of its keys. -/
def sorted : Document → Document
  | .sequence items => .sequence (sortedItems items)
  | .table entries => .table (Dictionary.ofList (sortedEntries entries)).entries
  | .null => .null
  | .boolean b => .boolean b
  | .integer n => .integer n
  | .float x => .float x
  | .single x => .single x
  | .text s => .text s

def sortedItems : List Document → List Document
  | [] => []
  | item :: items => sorted item :: sortedItems items

def sortedEntries : List (Text × Document) → List (Text × Document)
  | [] => []
  | (key, value) :: entries => (key, sorted value) :: sortedEntries entries

end

/-- The value of the last entry with a key. -/
def entry? (key : Text) : Document → Option Document
  | .table entries => (entries.reverse.find? fun entry ↦ entry.1 == key).map Prod.snd
  | _ => none

/-- A text written in the source of this library. -/
def word (s : String) : Document :=
  .text s.toList

def natural (n : Nat) : Document :=
  .integer n

def ofOption (value : Option Document) : Document :=
  value.getD .null

/-- A table whose keys are written in the source of this library. -/
def record (fields : List (String × Document)) : Document :=
  .table (fields.map fun field ↦ (field.1.toList, field.2))

end Document

end RecordSearch
