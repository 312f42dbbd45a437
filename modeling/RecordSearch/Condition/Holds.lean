import RecordSearch.Condition.Basic
import RecordSearch.Record.Value

/-!
# Which records a condition selects

A missing value satisfies only the literal for one; a comparison with it is false. Numbers are
compared as integers where both sides are, and as floats otherwise.
-/

namespace RecordSearch

/-- How a value compares with a number. -/
def Value.orderNumber? (v : Value) : Number → Option Ordering
  | .float x => v.toDouble?.bind fun y ↦ (y.convert : Single).order? x
  | .double x => v.toDouble?.bind fun y ↦ y.order? x
  | .short n | .integer n | .long n =>
    match v.toInt? with
    | some m => some (compare m n)
    | none => v.toDouble?.bind fun y ↦ y.order? (.ofInt n)

def Value.orderBound? (v : Value) : Bound → Option Ordering
  | .number n => v.orderNumber? n
  | .dateTime t => v.toDateTime?.map fun u ↦ compare u t

namespace Literal

/-- Whether a value lies between two numbers, both included. -/
def withinNumbers (low high : Number) (v : Value) : Bool :=
  (v.orderNumber? low == some .gt || v.orderNumber? low == some .eq) &&
    (v.orderNumber? high == some .lt || v.orderNumber? high == some .eq)

def withinPeriod (p : Period) (t : DateTime) : Bool :=
  compare p.start t != .gt && compare t p.stop != .gt

mutual

/-- Whether a value other than a missing one satisfies a literal. -/
def holdsFor (v : Value) : Literal → Bool
  | .null => false
  | .exact s | .constant s => v.render == s
  | .like pattern => pattern.accepts v.render
  | .number n => v.orderNumber? n == some .eq
  | .numberRange low high => withinNumbers low high v
  | .period p => v.toDateTime?.any (withinPeriod p)
  | .lessThan bound => v.orderBound? bound == some .lt
  | .greaterThan bound => v.orderBound? bound == some .gt
  | .boolean b => v.toBool? == some b
  | .constants values => values.contains v.render
  | .membership items => holdsForAny v items
  | .unrecognized => true

def holdsForAny (v : Value) : List Literal → Bool
  | [] => false
  | item :: items => holdsFor v item || holdsForAny v items

end

/-- Whether a value satisfies a literal. -/
def holds (literal : Literal) (v : Value) : Bool :=
  match v, literal with
  | .null, .null => true
  | .null, _ => false
  | v, literal => holdsFor v literal

end Literal

namespace Condition

mutual

/-- Whether a record, given by its values, satisfies a condition. -/
def holds (view : Text → Value) : Condition → Bool
  | .leaf name literal => literal.holds (view name)
  | .group .and negated children => holdsAll view children != negated
  | .group .or negated children => holdsAny view children != negated

def holdsAll (view : Text → Value) : List Condition → Bool
  | [] => true
  | child :: children => holds view child && holdsAll view children

def holdsAny (view : Text → Value) : List Condition → Bool
  | [] => false
  | child :: children => holds view child || holdsAny view children

end

/-- Whether a record satisfies what may be no condition at all. -/
def selects {ρ : Type} [Record ρ] (condition : Option Condition) (record : ρ) : Bool :=
  match condition with
  | some c => c.holds (Record.value record)
  | none => true

end Condition

end RecordSearch
