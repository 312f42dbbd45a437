import RecordSearch.Text.Blank
import RecordSearch.Text.Digit

/-!
# Grammars

A grammar cuts a front part off a text. It lists what may be left, the preferred way first; parts in
sequence try the ways of the first part in turn, so the first way that works for all of them wins.
-/

namespace RecordSearch

abbrev Grammar := Text → List Text

namespace Grammar

def nothing : Grammar := fun s ↦ [s]

def piece (p : Text) : Grammar := fun s ↦
  match Text.dropFront? p s with
  | some rest => [rest]
  | none => []

def satisfying (test : Char → Bool) : Grammar
  | [] => []
  | c :: s => if test c then [s] else []

/-- Two parts one after the other. -/
def followedBy (g h : Grammar) : Grammar := fun s ↦
  (g s).flatMap h

def sequence (parts : List Grammar) : Grammar :=
  parts.foldr followedBy nothing

/-- Either of two parts, the first preferred. -/
def orElse (g h : Grammar) : Grammar := fun s ↦
  g s ++ h s

def oneOf (parts : List Grammar) : Grammar := fun s ↦
  parts.flatMap fun part ↦ part s

/-- A part or nothing, the part preferred. -/
def optional (g : Grammar) : Grammar :=
  orElse g nothing

/-- The rests behind runs of characters, longer runs in front of those in `shorter`. -/
def runOnto (test : Char → Bool) (shorter : List Text) : Text → List Text
  | [] => [] :: shorter
  | c :: s => if test c then runOnto test ((c :: s) :: shorter) s else (c :: s) :: shorter

/-- Any number of characters of a class, as many as possible preferred. -/
def run (test : Char → Bool) : Grammar :=
  runOnto test []

/-- At least one character of a class. -/
def nonEmptyRun (test : Char → Bool) : Grammar :=
  followedBy (satisfying test) (run test)

def exactly (n : Nat) (test : Char → Bool) : Grammar :=
  sequence (List.replicate n (satisfying test))

def blanks : Grammar := run Text.isBlank

def digits : Grammar := nonEmptyRun Text.isDigit

def someBlanks : Grammar := nonEmptyRun Text.isBlank

/-- Whether the grammar can take a whole text. -/
def accepts (g : Grammar) (s : Text) : Bool :=
  (g s).any List.isEmpty

/-- The part of a text in front of a rest of it. -/
def front (s rest : Text) : Text :=
  s.take (s.length - rest.length)

/-- The two parts around a separator that together are a text, blanks at its ends apart. -/
def splitPair? (part separator : Grammar) (s : Text) : Option (Text × Text) :=
  (blanks s).findSome? fun start ↦
    (part start).findSome? fun afterLow ↦
      (separator afterLow).findSome? fun high ↦
        (part high).findSome? fun rest ↦
          if rest.all Text.isBlank then some (front start afterLow, front high rest) else none

end Grammar

end RecordSearch
