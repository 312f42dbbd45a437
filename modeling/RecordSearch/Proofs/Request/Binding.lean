import RecordSearch.Proofs.Dictionary
import RecordSearch.Proofs.Text.Ends
import RecordSearch.Request.Basic

/-!
# Binding pairs

A request is bound pair by pair. A pair has one target, a parameter or the filter of an attribute, and
changes nothing else, so a request is known by the values that each target has, in their order: the
last one decides a parameter and the last visible one a filter. Only an integer parameter can be at
fault.
-/

namespace RecordSearch.Request

/-- What a pair is about: the parameter of its name, or the filter of an attribute. -/
inductive Target where
  | parameter (name : Text)
  | filter (name : Text)
  deriving DecidableEq

/-- The target of the pairs with a name. -/
def targetOf (name : Text) : Target :=
  match Text.dropFront? filterMark name with
  | some filtered => .filter (Text.trim filtered)
  | none => .parameter name

/-- The values for a target, in the order of their pairs. -/
def valuesFor (target : Target) (pairs : List (Text × Text)) : List Text :=
  (pairs.filter fun pair ↦ targetOf pair.1 = target).map Prod.snd

/-- A visible value of an integer parameter that is no integer of 64 bits. -/
def IsMalformed (pair : Text × Text) : Prop :=
  pair.1 ∈ ["index".toList, "page".toList, "limit".toList] ∧
    Text.trim pair.2 ≠ [] ∧ Text.toSigned? 64 (Text.trim pair.2) = none

instance : DecidablePred IsMalformed := fun _ ↦ inferInstanceAs (Decidable (_ ∧ _ ∧ _))

/-- The integer of a value, if it is not blank. -/
def integer? (value : Text) : Option ℤ :=
  (Text.nonBlank? value).bind (Text.toSigned? 64)

def latest (target : Target) (pairs : List (Text × Text)) : Option Text :=
  (valuesFor target pairs).getLast?

/-- The last value for a target that is not blank, trimmed. -/
def latestVisible (target : Target) (pairs : List (Text × Text)) : Option Text :=
  ((valuesFor target pairs).filterMap Text.nonBlank?).getLast?

/-- What decides each part of a request that is bound from pairs. -/
structure IsBoundFrom (request : Request) (pairs : List (Text × Text)) : Prop where
  index : request.index = (latest (.parameter "index".toList) pairs).bind integer?
  page : request.page = (latest (.parameter "page".toList) pairs).bind integer?
  limit : request.limit = (latest (.parameter "limit".toList) pairs).bind integer?
  sort : request.sort = (latest (.parameter "sort".toList) pairs).bind Text.nonBlank?
  term : request.term = (latest (.parameter "filter".toList) pairs).bind Text.nonBlank?
  filters : ∀ name, request.filters.get? name =
    if name = [] then none else latestVisible (.filter name) pairs
  predicate : request.predicate = none

/-- The same pairs in another order, in which those of each target follow each other as before. -/
structure IsReordering (pairs others : List (Text × Text)) : Prop where
  perm : pairs.Perm others
  ordered : ∀ target, (pairs.filter fun pair ↦ targetOf pair.1 = target) =
    others.filter fun pair ↦ targetOf pair.1 = target

variable {request next : Request} {pairs others front back : List (Text × Text)}
  {pair : Text × Text} {name value : Text} {target : Target}

section Pair

theorem targetOf_of_absent (h : Text.dropFront? filterMark name = none) :
    targetOf name = .parameter name := by
  rw [targetOf, h]

theorem readInteger_eq (name value : Text) :
    readInteger name value =
      if Text.trim value ≠ [] ∧ Text.toSigned? 64 (Text.trim value) = none then
        .error (.invalidParameter name value)
      else .ok (integer? value) := by
  unfold readInteger integer?
  by_cases hblank : Text.trim value = []
  · rw [Text.nonBlank?_eq_none_iff.mpr hblank, if_neg fun h ↦ h.1 hblank]
    rfl
  · rw [Text.nonBlank?_of_visible hblank]
    cases hread : Text.toSigned? 64 (Text.trim value) <;> simp [hblank, hread]

/-- A filter is only added to the others. -/
theorem addFilter_eq (request : Request) (name value : Text) :
    request.addFilter name value =
      { request with filters := (request.addFilter name value).filters } := by
  unfold addFilter
  split <;> rfl

theorem get?_addFilter (request : Request) (name value key : Text) :
    (request.addFilter name value).filters.get? key =
      if Text.trim name = key ∧ key ≠ [] then
        (Text.nonBlank? value).or (request.filters.get? key)
      else request.filters.get? key := by
  unfold addFilter
  by_cases hname : Text.trim name = []
  · simp [Text.nonBlank?_eq_none_iff.mpr hname, hname]
  · rw [Text.nonBlank?_of_visible hname]
    cases hvalue : Text.nonBlank? value with
    | none => simp
    | some visible =>
      have hkey : key = Text.trim name ↔ Text.trim name = key ∧ key ≠ [] :=
        ⟨fun h ↦ ⟨h.symm, h ▸ hname⟩, fun h ↦ h.1.symm⟩
      simp only [Dictionary.get?_insert, hkey, Option.some_or]

/-- What one pair does: it gives its value to its target, and a blank value no filter. -/
structure IsStep (target : Target) (value : Text) (request next : Request) : Prop where
  index : next.index =
    if target = .parameter "index".toList then integer? value else request.index
  page : next.page =
    if target = .parameter "page".toList then integer? value else request.page
  limit : next.limit =
    if target = .parameter "limit".toList then integer? value else request.limit
  sort : next.sort =
    if target = .parameter "sort".toList then Text.nonBlank? value else request.sort
  term : next.term =
    if target = .parameter "filter".toList then Text.nonBlank? value else request.term
  filters : ∀ key, next.filters.get? key =
    if target = .filter key ∧ key ≠ [] then (Text.nonBlank? value).or (request.filters.get? key)
    else request.filters.get? key
  predicate : next.predicate = request.predicate

theorem exists_bind_isStep (request : Request) (h : ¬ IsMalformed (name, value)) :
    ∃ next, request.bind name value = .ok next ∧ IsStep (targetOf name) value request next := by
  have hread (hname : name ∈ ["index".toList, "page".toList, "limit".toList]) :
      readInteger name value = .ok (integer? value) := by
    rw [readInteger_eq, if_neg fun hvalue ↦ h ⟨hname, hvalue⟩]
  unfold Request.bind
  split_ifs with hindex hpage hlimit hsort hterm
  · rw [hread (by simp [hindex]), targetOf_of_absent (by rw [hindex]; rfl)]
    exact ⟨_, rfl, by constructor <;> simp [hindex]⟩
  · rw [hread (by simp [hpage]), targetOf_of_absent (by rw [hpage]; rfl)]
    exact ⟨_, rfl, by constructor <;> simp [hpage]⟩
  · rw [hread (by simp [hlimit]), targetOf_of_absent (by rw [hlimit]; rfl)]
    exact ⟨_, rfl, by constructor <;> simp [hlimit]⟩
  · rw [targetOf_of_absent (by rw [hsort]; rfl)]
    exact ⟨_, rfl, by constructor <;> simp [hsort, withSort]⟩
  · rw [targetOf_of_absent (by rw [hterm]; rfl)]
    exact ⟨_, rfl, by constructor <;> simp [hterm, withTerm]⟩
  · cases hfilter : Text.dropFront? filterMark name with
    | some filtered =>
      have htarget : targetOf name = .filter (Text.trim filtered) := by rw [targetOf, hfilter]
      refine ⟨_, rfl, ?_⟩
      rw [htarget, addFilter_eq]
      constructor <;> simp [get?_addFilter]
    | none =>
      rw [targetOf_of_absent hfilter]
      exact ⟨_, rfl, by constructor <;> simp_all⟩

theorem bind_of_isMalformed (request : Request) (h : IsMalformed (name, value)) :
    request.bind name value = .error (.invalidParameter name value) := by
  obtain ⟨hname, hvalue⟩ := h
  have hread : readInteger name value = .error (.invalidParameter name value) := by
    rw [readInteger_eq, if_pos hvalue]
  simp only [List.mem_cons, List.not_mem_nil, or_false] at hname
  unfold Request.bind
  rw [hread]
  rcases hname with rfl | rfl | rfl <;> rfl

end Pair

section Concat

theorem valuesFor_concat (target : Target) (pairs : List (Text × Text)) (name value : Text) :
    valuesFor target (pairs ++ [(name, value)]) =
      valuesFor target pairs ++ if targetOf name = target then [value] else [] := by
  rw [valuesFor, valuesFor, List.filter_append, List.map_append, List.filter_singleton]
  by_cases h : targetOf name = target <;> simp [h]

theorem latest_concat (target : Target) (pairs : List (Text × Text)) (name value : Text) :
    latest target (pairs ++ [(name, value)]) =
      if targetOf name = target then some value else latest target pairs := by
  rw [latest, valuesFor_concat, latest]
  split <;> simp

theorem latestVisible_concat (target : Target) (pairs : List (Text × Text)) (name value : Text) :
    latestVisible target (pairs ++ [(name, value)]) =
      if targetOf name = target then (Text.nonBlank? value).or (latestVisible target pairs)
      else latestVisible target pairs := by
  rw [latestVisible, valuesFor_concat, latestVisible, List.filterMap_append, List.getLast?_append]
  split
  · cases h : Text.nonBlank? value <;> simp [h]
  · rfl

/-- A bound request takes in one more pair. -/
theorem IsStep.isBoundFrom (hstep : IsStep (targetOf name) value request next)
    (h : request.IsBoundFrom pairs) : next.IsBoundFrom (pairs ++ [(name, value)]) where
  index := by rw [hstep.index, latest_concat, h.index]; split <;> rfl
  page := by rw [hstep.page, latest_concat, h.page]; split <;> rfl
  limit := by rw [hstep.limit, latest_concat, h.limit]; split <;> rfl
  sort := by rw [hstep.sort, latest_concat, h.sort]; split <;> rfl
  term := by rw [hstep.term, latest_concat, h.term]; split <;> rfl
  filters key := by
    rw [hstep.filters, latestVisible_concat, h.filters]
    by_cases hkey : key = [] <;> simp [hkey]
  predicate := hstep.predicate.trans h.predicate

end Concat

section Pairs

theorem isBoundFrom_empty : empty.IsBoundFrom [] :=
  ⟨rfl, rfl, rfl, rfl, rfl, fun _ ↦ (ite_self none).symm, rfl⟩

theorem ofPairs_concat (pairs : List (Text × Text)) (pair : Text × Text) :
    ofPairs (pairs ++ [pair]) =
      (ofPairs pairs).bind fun request ↦ request.bind pair.1 pair.2 := by
  rw [ofPairs, List.foldlM_append]
  congr
  funext request
  exact bind_pure _

theorem exists_ofPairs (h : ∀ pair ∈ pairs, ¬ IsMalformed pair) :
    ∃ request, ofPairs pairs = .ok request ∧ request.IsBoundFrom pairs := by
  induction pairs using List.reverseRecOn with
  | nil => exact ⟨empty, rfl, isBoundFrom_empty⟩
  | append_singleton pairs pair ih =>
    obtain ⟨hpairs, hpair⟩ := List.forall_mem_append.mp h
    obtain ⟨request, hrequest, hbound⟩ := ih hpairs
    obtain ⟨next, hnext, hstep⟩ := exists_bind_isStep request (hpair pair List.mem_cons_self)
    refine ⟨next, ?_, hstep.isBoundFrom hbound⟩
    rw [ofPairs_concat, hrequest]
    exact hnext

/-- The first malformed pair is the fault. -/
theorem ofPairs_of_isMalformed (hfront : ∀ pair ∈ front, ¬ IsMalformed pair)
    (h : IsMalformed pair) (back : List (Text × Text)) :
    ofPairs (front ++ pair :: back) = .error (.invalidParameter pair.1 pair.2) := by
  obtain ⟨request, hrequest, -⟩ := exists_ofPairs hfront
  unfold ofPairs at hrequest ⊢
  rw [List.foldlM_append, hrequest]
  have hstep : request.bind pair.1 pair.2 = .error (.invalidParameter pair.1 pair.2) :=
    bind_of_isMalformed request h
  change (request.bind pair.1 pair.2 >>= _) = _
  rw [hstep]
  rfl

/-- A bound request is known by the values of each target. -/
theorem IsBoundFrom.unique {other : Request} (h : request.IsBoundFrom pairs)
    (hother : other.IsBoundFrom others)
    (hvalues : ∀ target, valuesFor target pairs = valuesFor target others) : request = other := by
  have hlatest (target : Target) : latest target pairs = latest target others :=
    congrArg List.getLast? (hvalues target)
  have hindex : request.index = other.index := by rw [h.index, hlatest, hother.index]
  have hpage : request.page = other.page := by rw [h.page, hlatest, hother.page]
  have hlimit : request.limit = other.limit := by rw [h.limit, hlatest, hother.limit]
  have hsort : request.sort = other.sort := by rw [h.sort, hlatest, hother.sort]
  have hterm : request.term = other.term := by rw [h.term, hlatest, hother.term]
  have hfilters : request.filters = other.filters := by
    apply Dictionary.ext_get?
    intro key
    rw [h.filters, hother.filters, latestVisible, hvalues, latestVisible]
  have hpredicate : request.predicate = other.predicate := h.predicate.trans hother.predicate.symm
  cases request
  cases other
  exact (mk.injEq ..).mpr ⟨hindex, hpage, hlimit, hsort, hterm, hfilters, hpredicate⟩

/-- Neighbours with different targets may change places. -/
theorem isReordering_swap {first second : Text × Text}
    (h : targetOf first.1 ≠ targetOf second.1) (front back : List (Text × Text)) :
    IsReordering (front ++ first :: second :: back) (front ++ second :: first :: back) where
  perm := (List.Perm.swap second first back).append_left front
  ordered target := by
    by_cases hfirst : targetOf first.1 = target
    · have hsecond : targetOf second.1 ≠ target := fun hsecond ↦ h (hfirst.trans hsecond.symm)
      simp [hfirst, hsecond]
    · simp [List.filter_cons, hfirst]

/-- Binding fails exactly on malformed pairs, with the first one as the fault. Otherwise each part of
the request is decided by the last pair for it, and the order of the pairs matters within a target
only. -/
theorem ofPairs_binds (pairs : List (Text × Text)) :
    (∀ fault, ofPairs pairs = .error fault ↔
        ∃ pair, pairs.find? (IsMalformed ·) = some pair ∧
          fault = .invalidParameter pair.1 pair.2) ∧
      ((∀ pair ∈ pairs, ¬ IsMalformed pair) →
        ∃ request, ofPairs pairs = .ok request ∧ request.IsBoundFrom pairs ∧
          ∀ others, IsReordering pairs others → ofPairs others = .ok request) := by
  constructor
  · intro fault
    cases hfind : pairs.find? (IsMalformed ·) with
    | none =>
      have hclean : ∀ pair ∈ pairs, ¬ IsMalformed pair := by
        simpa using List.find?_eq_none.mp hfind
      obtain ⟨request, hrequest, -⟩ := exists_ofPairs hclean
      simp [hrequest]
    | some pair =>
      obtain ⟨hpair, front, back, rfl, hfront⟩ := List.find?_eq_some_iff_append.mp hfind
      rw [ofPairs_of_isMalformed (by simpa using hfront) (by simpa using hpair)]
      simp [eq_comm]
  · intro hclean
    obtain ⟨request, hrequest, hbound⟩ := exists_ofPairs hclean
    refine ⟨request, hrequest, hbound, fun others hothers ↦ ?_⟩
    obtain ⟨other, hother, hboundOther⟩ := exists_ofPairs fun pair hpair ↦
      hclean pair (hothers.perm.mem_iff.mpr hpair)
    have hvalues (target : Target) : valuesFor target pairs = valuesFor target others :=
      congrArg (List.map Prod.snd) (hothers.ordered target)
    rw [hother, hbound.unique hboundOther hvalues]

/-- Two names of one attribute, a page that is cleared, and two pairs that change places; and two
malformed pairs. -/
theorem ofPairs_binds_names :
    let pair (name value : String) : Text × Text := (name.toList, value.toList)
    let rest := [pair "filter- name" " bob ", pair "filter-name" " ", pair "page" " "]
    let pairs := pair "filter-name" "ann" :: pair "page" "2" :: rest
    let others := pair "page" "2" :: pair "filter-name" "ann" :: rest
    let malformed := [pair "sort" "-x", pair "limit" " ten", pair "page" "x"]
    ofPairs malformed = .error (.invalidParameter "limit".toList " ten".toList) ∧
      ∃ request, ofPairs pairs = .ok request ∧ ofPairs others = .ok request ∧
        request.page = none ∧ request.filters.get? "name".toList = some "bob".toList := by
  intro pair rest pairs others malformed
  obtain ⟨request, hrequest, hbound, horder⟩ := (ofPairs_binds pairs).2 (by decide)
  have hswap : IsReordering pairs others := isReordering_swap (by decide) [] rest
  refine ⟨((ofPairs_binds malformed).1 _).mpr ⟨pair "limit" " ten", rfl, rfl⟩, request, hrequest,
    horder others hswap, hbound.page, hbound.filters "name".toList⟩

end Pairs

end RecordSearch.Request
