import RecordSearch.Number.Shortest
import RecordSearch.Calendar.Timestamp
import RecordSearch.Text.Case

/-!
# Values of records

The value that a record has for an attribute, and what it is when a number, a truth value or a
date/time is asked for: texts are read as such.
-/

namespace RecordSearch

inductive Value where
  | null
  | text (s : Text)
  | integer (n : Int)
  | float (x : Double)
  | boolean (b : Bool)
  | date (d : Date)
  | dateTime (t : DateTime)
  deriving DecidableEq

namespace Value

def isNull : Value → Bool
  | .null => true
  | _ => false

def render : Value → Text
  | .null => []
  | .text s => s
  | .integer n => Text.ofInt n
  | .float x => x.render .plain
  | .boolean b => (if b then "true" else "false").toList
  | .date d => d.render
  | .dateTime t => t.renderToSecond

def toText? : Value → Option Text
  | .null => none
  | v => some v.render

def toInt? : Value → Option Int
  | .integer n => some n
  | .text s => Text.toSigned? 64 (Text.trim s)
  | _ => none

def toDouble? : Value → Option Double
  | .integer n => some (.ofInt n)
  | .float x => some x
  | .text s => (Binary.read? (Text.trim s)).filter Binary.isFinite
  | _ => none

def toBool? : Value → Option Bool
  | .boolean b => some b
  | .text s =>
    if Text.equalsIgnoringAsciiCase s "true".toList then some true
    else if Text.equalsIgnoringAsciiCase s "false".toList then some false
    else none
  | _ => none

def toDateTime? : Value → Option DateTime
  | .dateTime t => some t
  | .date d => some (.startOf d)
  | .text s => Timestamp.read? (Text.trim s)
  | _ => none

/-- The order of two texts, code point by code point. -/
def textOrder (a b : Value) : Ordering :=
  compare a.render b.render

/-- The order of two values. Numbers are ordered by size, dates by time, truth values with `false`
first, and all else by text; a missing value and a number that is none have no order. -/
def order? : Value → Value → Option Ordering
  | .null, _ | _, .null => none
  | .integer a, .integer b => some (compare a b)
  | .integer a, .float y => (Binary.ofInt a).order? y
  | .float x, .integer b => x.order? (.ofInt b)
  | .float x, .float y => x.order? y
  | .boolean a, .boolean b => some (compare a.toNat b.toNat)
  | .date a, .date b => some (compare (DateTime.startOf a) (.startOf b))
  | .date a, .dateTime b => some (compare (DateTime.startOf a) b)
  | .dateTime a, .date b => some (compare a (.startOf b))
  | .dateTime a, .dateTime b => some (compare a b)
  | a, b => some (textOrder a b)

end Value

/-- Anything that has a value for every attribute, a missing one included. -/
class Record (ρ : Type) where
  value : ρ → Text → Value

instance : Record (Text → Value) := ⟨id⟩

instance : Record (List (Text × Value)) where
  value entries name := (entries.lookup name).getD .null

end RecordSearch
