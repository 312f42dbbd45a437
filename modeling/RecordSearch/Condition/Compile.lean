import RecordSearch.Condition.Basic
import RecordSearch.Expression.Parse
import RecordSearch.Expression.Predicate
import RecordSearch.Literal.Classify

/-!
# Compiling expressions

Compiling looks up the attributes of an expression and classifies its values. What cannot constrain a
result is dropped: leaves on unknown attributes, blank and unrecognized values, and groups of which
nothing is left.
-/

namespace RecordSearch

namespace Condition

variable [Pattern.Engine]

/-- The literal of a leaf on a known attribute. -/
def literalOf (settings : Settings) (a : Attribute) (value : Text) : LeafKind → Literal
  | .comparison => Literal.classify settings a value
  | .membership => Literal.classifyMembership settings a value

def compileLeaf (schema : Schema) (settings : Settings) (name value : Text) (kind : LeafKind) :
    Option Condition :=
  let name := Text.trim name
  match schema.get? name with
  | none => none
  | some a =>
    if (Text.trim value).isEmpty then none
    else
      let literal := literalOf settings a value kind
      if literal.isRecognized then some (.leaf name literal) else none

mutual

def compile (schema : Schema) (settings : Settings) : Expression → Option Condition
  | .leaf name value kind => compileLeaf schema settings name value kind
  | .group connective negated children =>
    match compileAll schema settings children with
    | [] => none
    | child :: rest => some (.group connective negated (child :: rest))

/-- The conditions of the expressions that have one. -/
def compileAll (schema : Schema) (settings : Settings) : List Expression → List Condition
  | [] => []
  | e :: es =>
    match compile schema settings e with
    | some c => c :: compileAll schema settings es
    | none => compileAll schema settings es

end

end Condition

namespace Expression

/-- The filters of a map by ascending key. The disjunction key is no filter but joins the others by
OR. -/
def ofFilters (settings : Settings) (filters : Dictionary Text) : Expression :=
  let isSwitch (entry : Text × Text) : Bool := entry.1 == settings.disjunctionKey
  .group (.ofDisjunctive (filters.entries.any isSwitch)) false
    ((filters.entries.filter fun entry ↦ !isSwitch entry).filterMap fun entry ↦
      parse? settings entry.1 entry.2)

/-- A term asked for on every searchable attribute. -/
def ofSearchTerm (schema : Schema) (settings : Settings) (term : Text) : Expression :=
  if (Text.trim term).isEmpty then .empty
  else ofFilters settings
    ((Dictionary.ofList (schema.searchable.map fun name ↦ (name, term))).insert
      settings.disjunctionKey [])

end Expression

namespace Condition

variable [Pattern.Engine]

def ofFilters (schema : Schema) (settings : Settings) (filters : Dictionary Text) :
    Option Condition :=
  compile schema settings (Expression.ofFilters settings filters)

def ofSearchTerm (schema : Schema) (settings : Settings) (term : Text) : Option Condition :=
  compile schema settings (Expression.ofSearchTerm schema settings term)

def ofPredicate (schema : Schema) (settings : Settings) (p : Predicate) : Option Condition :=
  compile schema settings p.toExpression

end Condition

end RecordSearch
