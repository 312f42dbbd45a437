import RecordSearch.Expression.Basic
import RecordSearch.Literal.Basic

/-!
# Conditions

A condition is an expression whose attributes are known and whose values are typed literals.
-/

namespace RecordSearch

inductive Condition where
  | leaf (name : Text) (literal : Literal)
  | group (connective : Connective) (negated : Bool) (children : List Condition)

namespace Condition

/-- All of the conditions: nothing for none, the condition itself for one. -/
def conjunction : List Condition → Option Condition
  | [] => none
  | [c] => some c
  | cs => some (.group .and false cs)

mutual

def leafCount : Condition → Nat
  | .leaf .. => 1
  | .group _ _ children => leafCounts children

def leafCounts : List Condition → Nat
  | [] => 0
  | child :: children => leafCount child + leafCounts children

end

mutual

def render : Condition → Text
  | .leaf name literal => name ++ ' ' :: literal.render
  | .group connective negated children => connective.renderGroup negated (renderAll children)

def renderAll : List Condition → List Text
  | [] => []
  | child :: children => render child :: renderAll children

end

end Condition

end RecordSearch
