import RecordSearch.Text.Basic

/-!
# Filter expressions

The structure of a filter before its attributes are looked up and its values are read: leaves joined
by AND and OR, any group of which may be negated.
-/

namespace RecordSearch

inductive Connective where
  | and
  | or
  deriving DecidableEq, Repr

namespace Connective

def ofDisjunctive (disjunctive : Bool) : Connective :=
  if disjunctive then .or else .and

def render : Connective → Text
  | .and => "AND".toList
  | .or => "OR".toList

/-- A group of rendered children. -/
def renderGroup (connective : Connective) (negated : Bool) (children : List Text) : Text :=
  (if negated then "NOT ".toList else []) ++ '(' ::
    Text.join (' ' :: connective.render ++ [' ']) children ++ [')']

end Connective

inductive LeafKind where
  /-- The value is one literal. -/
  | comparison
  /-- The value is a list of alternatives. -/
  | membership
  deriving DecidableEq, Repr

inductive Expression where
  | leaf (name value : Text) (kind : LeafKind)
  | group (connective : Connective) (negated : Bool) (children : List Expression)

namespace Expression

def comparison (name value : Text) : Expression := .leaf name value .comparison

def membership (name value : Text) : Expression := .leaf name value .membership

def all (children : List Expression) : Expression := .group .and false children

def any (children : List Expression) : Expression := .group .or false children

/-- The negation of an expression: a negated group with it as its only child. -/
def negate (e : Expression) : Expression := .group .and true [e]

def empty : Expression := all []

/-- Whether the expression is a group without children. -/
def isEmpty : Expression → Bool
  | .leaf .. => false
  | .group _ _ children => children.isEmpty

mutual

def leafCount : Expression → Nat
  | .leaf .. => 1
  | .group _ _ children => leafCounts children

def leafCounts : List Expression → Nat
  | [] => 0
  | child :: children => leafCount child + leafCounts children

end

mutual

def render : Expression → Text
  | .leaf name value .comparison => name ++ ':' :: value
  | .leaf name value .membership => name ++ " IN [".toList ++ value ++ [']']
  | .group connective negated children => connective.renderGroup negated (renderAll children)

def renderAll : List Expression → List Text
  | [] => []
  | child :: children => render child :: renderAll children

end

end Expression

end RecordSearch
