import RecordSearch.Dictionary
import RecordSearch.Expression.Predicate
import RecordSearch.Number.Integer
import RecordSearch.Request.Fault
import RecordSearch.Text.Blank

/-!
# Requests

A request as a caller states it, by name and value: where to start, how to sort, and what to filter
by. A later value of a name takes the place of an earlier one.
-/

namespace RecordSearch

structure Request where
  /-- The position of the first result. -/
  index : Option Int
  /-- The number of a page, the first being one. -/
  page : Option Int
  limit : Option Int
  sort : Option Text
  /-- A term to look for on every searchable attribute. -/
  term : Option Text
  /-- Filters by attribute. -/
  filters : Dictionary Text
  predicate : Option Predicate

namespace Request

def empty : Request := ⟨none, none, none, none, none, .empty, none⟩

/-- Adds a filter, unless its attribute or its value is blank. -/
def addFilter (request : Request) (name value : Text) : Request :=
  match Text.nonBlank? name, Text.nonBlank? value with
  | some name, some value => { request with filters := request.filters.insert name value }
  | _, _ => request

def withSort (request : Request) (raw : Text) : Request :=
  { request with sort := Text.nonBlank? raw }

def withTerm (request : Request) (raw : Text) : Request :=
  { request with term := Text.nonBlank? raw }

def hasFilters (request : Request) : Bool :=
  request.term.isSome || !request.filters.isEmpty || request.predicate.isSome

/-- The integer of a parameter, which counts as missing if it is blank. -/
def readInteger (name value : Text) : Except RequestFault (Option Int) :=
  match Text.nonBlank? value with
  | none => .ok none
  | some trimmed =>
    match Text.toSigned? 64 trimmed with
    | some n => .ok (some n)
    | none => .error (.invalidParameter name value)

/-- What stands before the attribute in the name of a filter. -/
def filterMark : Text := "filter-".toList

/-- Takes in one name and value. Unknown names do not count. -/
def bind (request : Request) (name value : Text) : Except RequestFault Request :=
  if name = "index".toList then
    (readInteger name value).map fun n ↦ { request with index := n }
  else if name = "page".toList then
    (readInteger name value).map fun n ↦ { request with page := n }
  else if name = "limit".toList then
    (readInteger name value).map fun n ↦ { request with limit := n }
  else if name = "sort".toList then .ok (request.withSort value)
  else if name = "filter".toList then .ok (request.withTerm value)
  else match Text.dropFront? filterMark name with
    | some target => .ok (request.addFilter target value)
    | none => .ok request

/-- The request of a list of names and values. -/
def ofPairs (pairs : List (Text × Text)) : Except RequestFault Request :=
  pairs.foldlM (fun request pair ↦ request.bind pair.1 pair.2) empty

end Request

end RecordSearch
