import RecordSearch.Expression.Basic

/-!
# Predicates of a caller

A caller may hand in a tree of its own. A node with parts is a group of them; any other is one filter
on one attribute, and nothing at all if it lacks either.
-/

namespace RecordSearch

structure Predicate where
  name : Option Text
  filter : Option Text
  disjunctive : Bool
  negated : Bool
  /-- The filter is a list of alternatives. -/
  membership : Bool
  parts : List Predicate

namespace Predicate

def blank : Predicate := ⟨none, none, false, false, false, []⟩

def onFilter (name filter : Text) : Predicate := { blank with name, filter }

def allOf (parts : List Predicate) : Predicate := { blank with parts }

def anyOf (parts : List Predicate) : Predicate := { blank with disjunctive := true, parts }

def hasParts (p : Predicate) : Bool :=
  !p.parts.isEmpty

/-- The expression of a predicate without parts. -/
def leafExpression (name filter : Text) (negated membership : Bool) : Expression :=
  if name.isEmpty || filter.isEmpty then .empty
  else
    let leaf := if membership then Expression.membership name filter
      else Expression.comparison name filter
    if negated then .negate leaf else leaf

mutual

def toExpression : Predicate → Expression
  | ⟨name, filter, _, negated, membership, []⟩ =>
    leafExpression (name.getD []) (filter.getD []) negated membership
  | ⟨_, _, disjunctive, negated, _, part :: parts⟩ =>
    .group (.ofDisjunctive disjunctive) negated (toExpression part :: toExpressions parts)

def toExpressions : List Predicate → List Expression
  | [] => []
  | part :: parts => toExpression part :: toExpressions parts

end

end Predicate

end RecordSearch
