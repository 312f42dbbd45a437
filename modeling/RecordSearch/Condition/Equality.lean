import RecordSearch.Condition.Basic

/-!
# Equal conditions

Conditions are equal if they have the same structure and literals; numbers are compared by size, so
that zeros of both signs are equal.
-/

namespace RecordSearch

def Bound.equals : Bound → Bound → Bool
  | .number a, .number b => a.equals b
  | .dateTime a, .dateTime b => a == b
  | _, _ => false

namespace Literal

mutual

def equals : Literal → Literal → Bool
  | .null, .null | .unrecognized, .unrecognized => true
  | .exact a, .exact b | .constant a, .constant b => a == b
  | .like a, .like b => a == b
  | .number a, .number b => a.equals b
  | .numberRange a b, .numberRange c d => a.equals c && b.equals d
  | .period a, .period b => a == b
  | .lessThan a, .lessThan b | .greaterThan a, .greaterThan b => a.equals b
  | .boolean a, .boolean b => a == b
  | .constants a, .constants b => a == b
  | .membership a, .membership b => allEqual a b
  | _, _ => false

def allEqual : List Literal → List Literal → Bool
  | [], [] => true
  | a :: as, b :: bs => equals a b && allEqual as bs
  | _, _ => false

end

end Literal

namespace Condition

mutual

def equals : Condition → Condition → Bool
  | .leaf m a, .leaf n b => m == n && a.equals b
  | .group c m as, .group d n bs => c == d && m == n && allEqual as bs
  | _, _ => false

def allEqual : List Condition → List Condition → Bool
  | [], [] => true
  | a :: as, b :: bs => equals a b && allEqual as bs
  | _, _ => false

end

/-- Equality of what may be no condition at all. -/
def optionEquals : Option Condition → Option Condition → Bool
  | none, none => true
  | some a, some b => equals a b
  | _, _ => false

end Condition

end RecordSearch
