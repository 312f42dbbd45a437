import RecordSearch.Proofs.Condition.Conjunction
import RecordSearch.Search.Basic

/-!
# The inputs of a search

A request filters by a search term, by attribute filters and by a predicate, and each of these
constrains the records by itself. The condition does not depend on the sort or the page, nor do
these on the filters; only the sort can be at fault.
-/

namespace RecordSearch

namespace Condition

variable {ρ : Type} [Record ρ] {record : ρ}

/-- Conditions are joined without a change of meaning, be there none, one or several. -/
theorem selects_conjunction_iff {conditions : List Condition} :
    selects (conjunction conditions) record ↔
      ∀ c ∈ conditions, c.holds (Record.value record) := by
  cases conditions with
  | nil => simp [conjunction, selects]
  | cons c conditions =>
    cases conditions with
    | nil => simp [conjunction, selects]
    | cons d conditions => simp [conjunction, selects, holds, holdsAll_iff, holdsAll]

theorem ofFilters_empty [Pattern.Engine] (schema : Schema) (settings : Settings) :
    ofFilters schema settings .empty = none := rfl

end Condition

namespace Request

/-- The request with the search term as its only filter. -/
def onlyTerm (request : Request) : Request :=
  { request with filters := .empty, predicate := none }

/-- The request with the attribute filters as its only ones. -/
def onlyFilters (request : Request) : Request :=
  { request with term := none, predicate := none }

/-- The request with the predicate as its only filter. -/
def onlyPredicate (request : Request) : Request :=
  { request with term := none, filters := .empty }

end Request

namespace Search

variable {ρ : Type} [Record ρ] {schema : Schema} {settings : Settings} {request : Request}
  {search : Search}

theorem ofRequest_eq_ok_iff [Pattern.Engine] :
    ofRequest schema settings request = .ok search ↔
      sortOf schema settings request = .ok search.sort ∧
        search.condition = conditionOf schema settings request ∧
        search.page = pageOf settings request := by
  unfold ofRequest
  cases sortOf schema settings request with
  | error fault => simp [Except.map]
  | ok keys =>
    obtain ⟨condition, sort, page⟩ := search
    simp only [Except.map, Except.ok.injEq, Search.mk.injEq]
    tauto

/-- The sort alone decides whether a request is at fault, and how. -/
theorem ofRequest_eq_error_iff [Pattern.Engine] {fault : RequestFault} :
    ofRequest schema settings request = .error fault ↔
      ∃ raw, request.sort = some raw ∧ SortKey.parse schema settings raw = .error fault := by
  have hsort : ofRequest schema settings request = .error fault ↔
      sortOf schema settings request = .error fault := by
    unfold ofRequest
    cases sortOf schema settings request <;> simp [Except.map]
  rw [hsort, sortOf]
  cases request.sort <;> simp

/-- A record satisfies the condition of a request if it satisfies that of each input. -/
theorem selects_conditionOf_iff [Pattern.Engine] {record : ρ} :
    Condition.selects (conditionOf schema settings request) record ↔
      Condition.selects (request.term.bind (Condition.ofSearchTerm schema settings)) record ∧
      Condition.selects (Condition.ofFilters schema settings request.filters) record ∧
      Condition.selects (request.predicate.bind (Condition.ofPredicate schema settings)) record := by
  rw [conditionOf, Condition.selects_conjunction_iff]
  simp only [List.forall_mem_append, Option.mem_toList, Option.mem_def, Condition.selects_iff,
    and_assoc]

/-- A request selects what its term, its filters and its predicate each select on their own. -/
theorem selects_ofRequest [Pattern.Engine] (schema : Schema) (settings : Settings)
    (request : Request) :
    (∀ fault, ofRequest schema settings request = .error fault ↔
      ∃ raw, request.sort = some raw ∧ SortKey.parse schema settings raw = .error fault) ∧
    ∀ search, ofRequest schema settings request = .ok search →
      (∃ byTerm byFilters byPredicate : Search,
        ofRequest schema settings request.onlyTerm = .ok byTerm ∧
        ofRequest schema settings request.onlyFilters = .ok byFilters ∧
        ofRequest schema settings request.onlyPredicate = .ok byPredicate ∧
        ∀ record : ρ, search.selects record ↔
          byTerm.selects record ∧ byFilters.selects record ∧ byPredicate.selects record) ∧
      (∀ sort index page limit other,
        ofRequest schema settings { request with sort, index, page, limit } = .ok other →
          other.condition = search.condition) ∧
      ∀ term filters predicate, ∃ other,
        ofRequest schema settings { request with term, filters, predicate } = .ok other ∧
          other.sort = search.sort ∧ other.page = search.page := by
  refine ⟨fun fault ↦ ofRequest_eq_error_iff, fun search hsearch ↦ ?_⟩
  obtain ⟨hsort, hcondition, hpage⟩ := ofRequest_eq_ok_iff.mp hsearch
  -- Other filters change the condition and nothing else.
  have hfilters (term : Option Text) (filters : Dictionary Text) (predicate : Option Predicate) :
      ofRequest schema settings { request with term, filters, predicate } =
        .ok ⟨conditionOf schema settings { request with term, filters, predicate }, search.sort,
          search.page⟩ :=
    ofRequest_eq_ok_iff.mpr ⟨hsort, rfl, hpage⟩
  refine ⟨⟨_, _, _, hfilters request.term .empty none, hfilters none request.filters none,
    hfilters none .empty request.predicate, fun record ↦ ?_⟩, ?_, ?_⟩
  · have htrivial : Condition.selects none record = true := rfl
    simp only [selects, hcondition, selects_conditionOf_iff, Option.bind_none,
      Condition.ofFilters_empty, htrivial, and_true, true_and]
  · intro sort index page limit other hother
    rw [(ofRequest_eq_ok_iff.mp hother).2.1, hcondition]
    rfl
  · exact fun term filters predicate ↦ ⟨_, hfilters term filters predicate, rfl, rfl⟩

/-- Only the last of four records passes all three inputs, of which the predicate is an OR group. -/
theorem selects_ofRequest_mixed :
    let schema : Schema := (Dictionary.empty.insert "name".toList (Attribute.ofType .text)).insert
      "size".toList (Attribute.ofType (.numeric .integer))
    let filters := Dictionary.empty.insert "size".toList "<5".toList
    let predicate := Predicate.anyOf [.onFilter "size".toList "1".toList,
      .onFilter "name".toList "*n".toList]
    let request : Request := { Request.empty with
      sort := some "-size".toList
      term := some "a".toList
      filters
      predicate := some predicate }
    let record (name : Text) (size : ℤ) : List (Text × Value) :=
      [("name".toList, .text name), ("size".toList, .integer size)]
    ∃ search, ofRequest schema .default request = .ok search ∧
      ¬ search.selects (record "bob".toList 1) ∧ ¬ search.selects (record "ann".toList 7) ∧
      ¬ search.selects (record "max".toList 3) ∧ search.selects (record "ann".toList 3) := by
  intro schema filters predicate request record
  have hsearch : ofRequest schema .default request =
      .ok ⟨conditionOf schema .default request, [⟨"size".toList, true⟩], ⟨0, 10, 1⟩⟩ := rfl
  obtain ⟨⟨byTerm, byFilters, byPredicate, hterm, hfilters, hpredicate, hselects⟩, -⟩ :=
    (selects_ofRequest (ρ := List (Text × Value)) schema .default request).2 _ hsearch
  cases hterm
  cases hfilters
  cases hpredicate
  refine ⟨_, hsearch, ?_⟩
  simp only [hselects]
  decide +kernel

end Search

end RecordSearch
