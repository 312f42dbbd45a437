import RecordSearch.Text.Basic

/-!
# Integers in decimal

An optional sign and one or more ASCII digits, with nothing before, between or after them.
-/

namespace RecordSearch

/-- The natural number that a run of decimal digits denotes. -/
def digitsValue (digits : Text) : Nat :=
  digits.foldl (fun n c ↦ 10 * n + (c.toNat - '0'.toNat)) 0

def Text.toNat? (s : Text) : Option Nat :=
  if s.isEmpty || !s.all Char.isDigit then none else some (digitsValue s)

def Text.toInt? : Text → Option Int
  | '-' :: s => (Text.toNat? s).map fun n ↦ -(n : Int)
  | '+' :: s => (Text.toNat? s).map Int.ofNat
  | s => (Text.toNat? s).map Int.ofNat

/-- A natural number below a limit, which may be written with a plus sign. -/
def Text.toNatBelow? (limit : Nat) (s : Text) : Option Nat :=
  let digits := match s with
    | '+' :: rest => rest
    | _ => s
  match Text.toNat? digits with
  | some n => if n < limit then some n else none
  | none => none

/-- The least number that does not fit into an unsigned word of the given size. -/
def wordLimit (bits : Nat) : Nat :=
  Nat.pow 2 bits

/-- Whether an integer fits into a signed word of the given size. -/
def fitsSigned (bits : Nat) (n : Int) : Bool :=
  -(wordLimit (bits - 1) : Int) ≤ n && n < (wordLimit (bits - 1) : Int)

def Text.toSigned? (bits : Nat) (s : Text) : Option Int :=
  match Text.toInt? s with
  | some n => if fitsSigned bits n then some n else none
  | none => none

end RecordSearch
