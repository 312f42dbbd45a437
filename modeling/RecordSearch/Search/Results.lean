import RecordSearch.Search.Basic
import RecordSearch.Search.Order

/-!
# Results of a search

The page of results that a search asks for, and where this page lies among all results.
-/

namespace RecordSearch

structure Metadata where
  /-- The count of all results, on any page. -/
  count : Nat
  page : Nat
  pageCount : Nat
  /-- The position of the first result shown. -/
  start : Nat
  /-- The position after the last result shown. -/
  stop : Nat
  limit : Nat
  sort : List SortKey
  /-- The rendered condition. -/
  filter : Option Text
  deriving DecidableEq

structure Results (ρ : Type) where
  metadata : Metadata
  records : List ρ

namespace Search

variable {ρ : Type} [Record ρ]

/-- All results in their order. -/
def sortedMatches (search : Search) (records : List ρ) : List ρ :=
  SortKey.sortRecords search.sort (search.matching records)

def run (search : Search) (records : List ρ) : Results ρ :=
  let found := search.sortedMatches records
  let shown := search.page.window found
  let start := min search.page.offset found.length
  ⟨{ count := found.length
     page := search.page.number
     pageCount := search.page.count found.length
     start
     stop := start + shown.length
     limit := search.page.limit
     sort := search.sort
     filter := search.condition.map Condition.render }, shown⟩

end Search

end RecordSearch
