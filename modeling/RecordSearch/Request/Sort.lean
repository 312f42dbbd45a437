import RecordSearch.Request.Fault
import RecordSearch.Schema.Basic
import RecordSearch.Settings.Basic

/-!
# Sort keys

A sort is a list of attributes, the first being the primary order, each ascending or descending. It
is written as names between semicolons, with a mark in front of a name for its direction.
-/

namespace RecordSearch

structure SortKey where
  name : Text
  descending : Bool
  deriving DecidableEq, Repr

namespace SortKey

def separator : Text := [';']

/-- A text without a mark in front of it. -/
def dropMark (mark s : Text) : Text :=
  (Text.dropFront? mark s).getD s

/-- The key of one token. The descending mark decides; an ascending mark may follow it or stand
alone. A token without a name is no key. -/
def ofToken? (marks : SortMarks) (token : Text) : Option SortKey :=
  let token := Text.trim token
  let name := Text.trim (dropMark marks.ascending (dropMark marks.descending token))
  if name.isEmpty then none else some ⟨name, Text.startsWith marks.descending token⟩

def ofTokens (marks : SortMarks) (raw : Text) : List SortKey :=
  (Text.splitOn separator raw).filterMap (ofToken? marks)

/-- The keys of a written sort; the first name that the schema lacks is a fault. -/
def parse (schema : Schema) (settings : Settings) (raw : Text) :
    Except RequestFault (List SortKey) :=
  let keys := ofTokens settings.sortMarks raw
  match keys.find? fun key ↦ !schema.contains key.name with
  | some key => .error (.sortAttribute key.name schema.keys)
  | none => .ok keys

/-- A key as reports show it, with a minus sign if it is descending. -/
def render (key : SortKey) : Text :=
  if key.descending then '-' :: key.name else key.name

def renderAll (keys : List SortKey) : Text :=
  Text.join separator (keys.map render)

end SortKey

end RecordSearch
