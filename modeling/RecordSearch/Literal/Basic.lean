import RecordSearch.Literal.Number
import RecordSearch.Literal.Pattern
import RecordSearch.Calendar.Period
import RecordSearch.Text.Quoted

/-!
# Typed literals

What a filter value means once the type of its attribute is known.
-/

namespace RecordSearch

/-- The limit of an inequality. -/
inductive Bound where
  | number (n : Number)
  | dateTime (t : DateTime)
  deriving DecidableEq

inductive Literal where
  | null
  | exact (s : Text)
  | like (pattern : Pattern)
  | number (n : Number)
  | numberRange (low high : Number)
  | period (p : Period)
  | lessThan (bound : Bound)
  | greaterThan (bound : Bound)
  | boolean (b : Bool)
  /-- One declared constant of an enumeration. -/
  | constant (s : Text)
  /-- The declared constants that contain the text of the filter. -/
  | constants (values : List Text)
  | membership (items : List Literal)
  | unrecognized

def Bound.render : Bound → Text
  | .number n => n.render
  | .dateTime t => t.render

namespace Literal

def isRecognized : Literal → Bool
  | .unrecognized => false
  | _ => true

def between (low high : Text) : Text :=
  "BETWEEN ".toList ++ low ++ " AND ".toList ++ high

def equal (s : Text) : Text :=
  "= ".toList ++ s

mutual

/-- The literal as the right-hand side of a comparison. -/
def render : Literal → Text
  | .null => "IS NULL".toList
  | .exact s => equal (Text.inSingleQuotes s)
  | .like pattern => "LIKE ".toList ++ Text.inSingleQuotes pattern.text
  | .number n => equal n.render
  | .numberRange low high => between low.render high.render
  | .period p => between p.start.render p.stop.render
  | .lessThan bound => "< ".toList ++ bound.render
  | .greaterThan bound => "> ".toList ++ bound.render
  | .boolean b => equal (if b then "true".toList else "false".toList)
  | .constant s => equal s
  | .constants values => "IN \x7b".toList ++ Text.join ", ".toList values ++ "\x7d".toList
  | .membership items => "IN (".toList ++ Text.join ", ".toList (renderItems items) ++ ")".toList
  | .unrecognized => "<unrecognized>".toList

/-- The items of a membership, without the sign of equality. -/
def renderItems : List Literal → List Text
  | [] => []
  | .exact s :: items => Text.inSingleQuotes s :: renderItems items
  | .number n :: items => n.render :: renderItems items
  | .constant s :: items => s :: renderItems items
  | item :: items => render item :: renderItems items

end

end Literal

end RecordSearch
