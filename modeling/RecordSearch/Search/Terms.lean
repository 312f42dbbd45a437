import RecordSearch.Search.Basic
import RecordSearch.Search.Order
import RecordSearch.Text.Quoted

/-!
# Terms

The different values that the results have for an attribute and how often each occurs, the most
frequent first. Values of one count stay in the order in which they first occur. While they are
counted, a term is found again by the key of its value, a text that shows form and content.
-/

namespace RecordSearch

namespace Value

inductive Form where
  | null | text | integer | float | boolean | date | dateTime
  deriving DecidableEq, Repr

/-- The name of a form in keys; that of a missing value begins like no other. -/
def Form.name : Form → Text
  | .null => "\x00null".toList
  | .text => "Text".toList
  | .integer => "Integer".toList
  | .float => "Float".toList
  | .boolean => "Boolean".toList
  | .date => "Date".toList
  | .dateTime => "DateTime".toList

def form : Value → Form
  | .null => .null
  | .text _ => .text
  | .integer _ => .integer
  | .float _ => .float
  | .boolean _ => .boolean
  | .date _ => .date
  | .dateTime _ => .dateTime

/-- The content of a value in its key; a missing value has none. A date/time is written out, and so
a leap second within a minute is taken for the second after it. -/
def content? : Value → Option Text
  | .null => none
  | .text s => some (Text.inDoubleQuotes s)
  | .integer n => some (Text.ofInt n)
  | .float x => some (x.render .distinct)
  | .boolean b => some (if b then "true" else "false").toList
  | .date d => some d.render
  | .dateTime t => some (t.renderWith 'T')

/-- The text by which values are told apart when they are counted. -/
def key (v : Value) : Text :=
  match v.content? with
  | none => v.form.name
  | some content => v.form.name ++ '(' :: content ++ [')']

end Value

structure Term where
  value : Value
  count : Nat
  deriving DecidableEq

namespace Term

def increment (term : Term) : Term :=
  { term with count := term.count + 1 }

/-- The order of descending counts. -/
def order (a b : Term) : Ordering :=
  compare b.count a.count

end Term

/-- Terms in the order in which their values first occur, and the position of each under the key of
its value. -/
structure TermTable where
  terms : List Term
  positions : Dictionary Nat

namespace TermTable

def empty : TermTable := ⟨[], .empty⟩

/-- Counts one more occurrence of a value. -/
def add (table : TermTable) (value : Value) : TermTable :=
  match table.positions.get? value.key with
  | some position => { table with terms := table.terms.modify position Term.increment }
  | none => ⟨table.terms ++ [⟨value, 1⟩], table.positions.insert value.key table.terms.length⟩

def ofValues (values : List Value) : TermTable :=
  values.foldl add empty

end TermTable

/-- The `most` most frequent values of an attribute among all results. -/
def Search.terms {ρ : Type} [Record ρ] (search : Search) (name : Text) (most : Nat)
    (records : List ρ) : List Term :=
  let values := (search.matching records).map fun record ↦ Record.value record name
  (StableSort.sort Term.order (TermTable.ofValues values).terms).take most

end RecordSearch
