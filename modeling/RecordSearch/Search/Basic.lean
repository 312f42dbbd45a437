import RecordSearch.Condition.Compile
import RecordSearch.Condition.Holds
import RecordSearch.Request.Basic
import RecordSearch.Request.Page
import RecordSearch.Request.Sort

/-!
# Searches

A search is what a request means for the records of one schema: the condition that they must satisfy,
the order of the results, and the page to show.
-/

namespace RecordSearch

structure Search where
  /-- The condition, or none if every record is a result. -/
  condition : Option Condition
  sort : List SortKey
  page : Page

namespace Search

def sortOf (schema : Schema) (settings : Settings) (request : Request) :
    Except RequestFault (List SortKey) :=
  match request.sort with
  | some raw => SortKey.parse schema settings raw
  | none => .ok []

/-- The search term, the filters and the predicate must all hold; those that constrain nothing are
left out. -/
def conditionOf [Pattern.Engine] (schema : Schema) (settings : Settings) (request : Request) :
    Option Condition :=
  Condition.conjunction
    ((request.term.bind (Condition.ofSearchTerm schema settings)).toList ++
      (Condition.ofFilters schema settings request.filters).toList ++
      (request.predicate.bind (Condition.ofPredicate schema settings)).toList)

def pageOf (settings : Settings) (request : Request) : Page :=
  .resolve settings request.index request.page request.limit

/-- The search of a request. Only its sort can be at fault. -/
def ofRequest [Pattern.Engine] (schema : Schema) (settings : Settings) (request : Request) :
    Except RequestFault Search :=
  (sortOf schema settings request).map fun sort ↦
    ⟨conditionOf schema settings request, sort, pageOf settings request⟩

variable {ρ : Type} [Record ρ]

/-- Whether a record is a result. -/
def selects (search : Search) (record : ρ) : Bool :=
  Condition.selects search.condition record

def matching (search : Search) (records : List ρ) : List ρ :=
  records.filter search.selects

def count (search : Search) (records : List ρ) : Nat :=
  (search.matching records).length

end Search

end RecordSearch
