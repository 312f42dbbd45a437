import RecordSearch.Text.Case

/-!
# Similar names

The distance of two texts is the least number of insertions, deletions and replacements of single
characters that turn one into the other. A misspelt name is answered with the closest known name.
-/

namespace RecordSearch.Text

/-- Continues a row of the distance table after the cell `left`: the cells belong to the front
parts of the second text, and the list holds the row above from the cell above `left` on. -/
def fillRow (c : Char) : (left : Nat) → Text → List Nat → List Nat
  | left, d :: t, diagonal :: above :: row =>
    let cell := min (min (left + 1) (above + 1)) (if c = d then diagonal else diagonal + 1)
    cell :: fillRow c cell t (above :: row)
  | _, _, _ => []

def nextRow (t : Text) (row : List Nat) (c : Char) : List Nat :=
  let first := row.headD 0 + 1
  first :: fillRow c first t row

def distance (s t : Text) : Nat :=
  (s.foldl (nextRow t) (List.range (t.length + 1))).getLastD 0

/-- The first of the candidates at the least distance. -/
def nearest? (s : Text) : List Text → Option (Text × Nat)
  | [] => none
  | candidate :: candidates =>
    let own := (candidate, distance s (lower candidate))
    match nearest? s candidates with
    | none => some own
    | some other => if own.2 ≤ other.2 then some own else some other

/-- The greatest distance at which a name is still suggested. -/
def suggestionDistance : Nat := 3

/-- The name that a misspelt one was probably meant for. Case does not count, but a name is never
suggested for itself. -/
def findSimilar? (query : Text) (candidates : List Text) : Option Text :=
  match nearest? (lower query) (candidates.filter fun name ↦ !name.isEmpty) with
  | none => none
  | some (name, d) => if d ≤ suggestionDistance && name != query then some name else none

end RecordSearch.Text
