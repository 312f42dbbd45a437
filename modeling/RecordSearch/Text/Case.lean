import RecordSearch.Text.Basic
import RecordSearch.Text.CaseTable
import RecordSearch.Text.CaseContext

/-!
# Letter case

Full case conversion may lengthen a text: `ß` becomes `SS` and `İ` becomes `i` with a combining
dot. Folding is simple, one character for one, and two characters are alike exactly when they fold
to the same one.
-/

namespace RecordSearch.Text

def CaseRun.map? (run : CaseRun) (n : Nat) : Option Nat :=
  if run.first ≤ n && n ≤ run.last && (n - run.first) % run.step == 0 then
    some (n + run.shift).toNat
  else none

def mapCase (runs : List CaseRun) (c : Char) : Char :=
  ((runs.findSome? fun run ↦ run.map? c.toNat).map Char.ofNat).getD c

/-- Simple case folding. -/
def fold (c : Char) : Char :=
  mapCase foldRuns c

/-- The lower-case form of one character out of context. -/
def lowerChar (c : Char) : Text :=
  if c.toNat = 0x130 then ['i', Char.ofNat 0x307] else [mapCase lowerRuns c]

def upperChar (c : Char) : Text :=
  match longUpper.find? fun entry ↦ entry.1 == c.toNat with
  | some entry => entry.2.map Char.ofNat
  | none => [mapCase upperRuns c]

/-- Whether the first character that is not case-ignorable is a letter with case. -/
def meetsCased (s : Text) : Bool :=
  match s.dropWhile isCaseIgnorable with
  | [] => false
  | c :: _ => isCased c

/-- Lower-cases the text after `before`, which is read backwards. A capital sigma at the end of a
word has a form of its own. -/
def lowerAfter : (before : Text) → Text → Text
  | _, [] => []
  | before, c :: s =>
    let lowered :=
      if c = 'Σ' then (if meetsCased before && !meetsCased s then ['ς'] else ['σ'])
      else lowerChar c
    lowered ++ lowerAfter (c :: before) s

def lower (s : Text) : Text :=
  lowerAfter [] s

def upper (s : Text) : Text :=
  s.flatMap upperChar

/-- Equality of texts up to the case of ASCII letters. -/
def equalsIgnoringAsciiCase (s t : Text) : Bool :=
  s.map Char.toLower == t.map Char.toLower

end RecordSearch.Text
