import Mathlib.Algebra.Ring.Nat
import Mathlib.Data.Int.Notation
import Mathlib.Data.List.Basic
import RecordSearch.Literal.Engine
import RecordSearch.Search.Results

/-!
# Pages of a search

Page numbers cut the results of a search into consecutive windows of one size. Put together, the
pages up to the reported count of pages are all results in their order, and later pages are empty.
-/

namespace RecordSearch

namespace Page

section Parts

variable {α : Type} {xs : List α}

/-- Consecutive parts of one size make up the front of a list. -/
theorem flatMap_extract (xs : List α) (size count : ℕ) :
    ((List.range count).flatMap fun i ↦ xs.extract (i * size) ((i + 1) * size)) =
      xs.take (count * size) := by
  induction count with
  | zero => simp
  | succ count ih =>
    rw [List.range_succ, List.flatMap_append, ih, List.flatMap_singleton, Nat.succ_mul,
      List.take_add, List.extract, Nat.add_sub_cancel_left]

/-- Positions are capped far behind the end of any list that occurs. -/
theorem length_le_greatestPosition (hfew : xs.length < 2 ^ 63) :
    xs.length ≤ greatestPosition := by
  have hcap : (2 : ℕ) ^ 63 ≤ greatestPosition := by decide
  omega

theorem drop_min_greatestPosition (hfew : xs.length < 2 ^ 63) (n : ℕ) :
    xs.drop (min n greatestPosition) = xs.drop n := by
  have hcap := length_le_greatestPosition hfew
  rcases Nat.le_total n greatestPosition with h | h
  · rw [Nat.min_eq_left h]
  · rw [Nat.min_eq_right h, List.drop_eq_nil_of_le hcap, List.drop_eq_nil_of_le (by omega)]

end Parts

/-- The count of pages is the least one that takes in all results. -/
theorem pagesFor_le_iff {count size pages : ℕ} (hsize : 0 < size) :
    pagesFor count size ≤ pages ↔ count ≤ pages * size := by
  rw [pagesFor, ← Nat.lt_succ_iff, Nat.div_lt_iff_lt_mul hsize, Nat.succ_mul]
  omega

/-- The window of a page that is asked for by its number. -/
theorem resolve_number (settings : Settings) {page limit : ℕ} (hpage : 1 ≤ page) :
    resolve settings none (some page) (some limit) =
      ⟨min ((page - 1) * limit) greatestPosition, limit, page⟩ := by
  have hnumber : atLeast? 1 (some (page : ℤ)) = some page := by
    rw [atLeast?, if_pos (Int.ofNat_le.mpr hpage), Int.toNat_natCast]
  simp only [resolve, hnumber, Option.map_some, Int.toNat_natCast, Option.getD_some]
  rfl

/-- A window is a part of the list, wherever it lies. -/
theorem window_eq_extract {α : Type} (page : Page) (xs : List α) :
    page.window xs = xs.extract (min page.offset xs.length)
      (min page.offset xs.length + (page.window xs).length) := by
  have hdrop : xs.drop (min page.offset xs.length) = xs.drop page.offset := by
    rcases Nat.le_total page.offset xs.length with h | h
    · rw [Nat.min_eq_left h]
    · rw [Nat.min_eq_right h, List.drop_length, List.drop_eq_nil_of_le h]
  have hprefix : page.window xs <+: xs.drop page.offset := by
    unfold window
    split
    · exact List.prefix_rfl
    · exact List.take_prefix _ _
  rw [List.extract, Nat.add_sub_cancel_left, hdrop]
  exact List.prefix_iff_eq_take.mp hprefix

theorem length_window_le {α : Type} (page : Page) (xs : List α) :
    min page.offset xs.length + (page.window xs).length ≤ xs.length := by
  have hlength : (page.window xs).length ≤ xs.length - page.offset := by
    unfold window
    split
    · simp
    · simp only [List.length_take, List.length_drop]
      omega
  omega

/-- The window of a page by its number, over a list that is not too long to be counted. -/
theorem window_resolve_number {α : Type} {xs : List α} (settings : Settings) {page limit : ℕ}
    (hfew : xs.length < 2 ^ 63) (hpage : 1 ≤ page) (hlimit : 0 < limit) :
    (resolve settings none (some page) (some limit)).window xs =
      xs.extract ((page - 1) * limit) (page * limit) := by
  have hbounded : isUnbounded ⟨min ((page - 1) * limit) greatestPosition, limit, page⟩ = false := by
    simp [isUnbounded, Nat.ne_of_gt hlimit]
  have hsize : page * limit - (page - 1) * limit = limit := by
    obtain ⟨n, rfl⟩ := Nat.exists_eq_add_of_le hpage
    rw [Nat.add_sub_cancel_left, Nat.add_mul, Nat.one_mul, Nat.add_sub_cancel]
  rw [resolve_number settings hpage, window, hbounded, List.extract, hsize,
    drop_min_greatestPosition hfew]
  rfl

end Page

namespace Request

/-- The request for a page of a size, in place of the window that was asked for. -/
def onPage (request : Request) (page limit : ℕ) : Request :=
  { request with index := none, page := some page, limit := some limit }

/-- The request for all results from the first one on. -/
def unpaged (request : Request) : Request :=
  { request with index := some 0, limit := some 0 }

end Request

/-- What a page of a size shows of all results, and what it says about them. -/
structure Results.IsPage {ρ : Type} (results : Results ρ) (full : List ρ) (page limit : ℕ) :
    Prop where
  records_eq : results.records = full.extract ((page - 1) * limit) (page * limit)
  count_eq : results.metadata.count = full.length
  start_le_stop : results.metadata.start ≤ results.metadata.stop
  stop_le_count : results.metadata.stop ≤ results.metadata.count
  length_eq : results.metadata.stop - results.metadata.start = results.records.length
  between_eq : results.records = full.extract results.metadata.start results.metadata.stop

namespace Search

variable {ρ : Type} [Record ρ] {schema : Schema} {settings : Settings} {request : Request}
  {search : Search} {records : List ρ} {page limit : ℕ}

theorem length_sortedMatches (search : Search) (records : List ρ) :
    (search.sortedMatches records).length = search.count records :=
  (SortKey.perm_sortRecords search.sort (search.matching records)).length_eq

/-- Another window leaves the condition and the order of a request as they are. -/
theorem ofRequest_window [Pattern.Engine] (hsearch : ofRequest schema settings request = .ok search)
    (index page limit : Option ℤ) :
    ofRequest schema settings { request with index, page, limit } =
      .ok { search with page := .resolve settings index page limit } := by
  unfold ofRequest at hsearch ⊢
  have hsort : sortOf schema settings { request with index, page, limit } =
      sortOf schema settings request := rfl
  rw [hsort]
  cases hkeys : sortOf schema settings request with
  | error fault =>
    rw [hkeys] at hsearch
    cases hsearch
  | ok keys =>
    rw [hkeys] at hsearch
    cases hsearch
    rfl

/-- What is shown are the results between the positions that are reported. -/
theorem run_extract (search : Search) (records : List ρ) :
    let results := search.run records
    results.metadata.start ≤ results.metadata.stop ∧
      results.metadata.stop ≤ results.metadata.count ∧
      results.metadata.stop - results.metadata.start = results.records.length ∧
      results.records =
        (search.sortedMatches records).extract results.metadata.start results.metadata.stop :=
  ⟨Nat.le_add_right _ _, search.page.length_window_le _, Nat.add_sub_cancel_left _ _,
    search.page.window_eq_extract _⟩

section Paged

variable (search : Search) (settings : Settings)

/-- A search for a page by its number shows the part of the results at its positions. -/
theorem isPage_run (hfew : records.length < 2 ^ 63) (hpage : 1 ≤ page) (hlimit : 0 < limit) :
    ({ search with page := .resolve settings none (some page) (some limit) }.run records).IsPage
      (search.sortedMatches records) page limit := by
  have hlength : (search.sortedMatches records).length < 2 ^ 63 := by
    have hcount : search.count records ≤ records.length := List.length_filter_le _ _
    rw [length_sortedMatches]
    omega
  obtain ⟨hstart, hstop, hshown, hbetween⟩ := run_extract
    { search with page := .resolve settings none (some page) (some limit) } records
  exact ⟨Page.window_resolve_number settings hlength hpage hlimit, rfl, hstart, hstop, hshown,
    hbetween⟩

theorem pageCount_run (hpage : 1 ≤ page) (hlimit : 0 < limit) :
    ({ search with page := .resolve settings none (some page) (some limit) }.run
      records).metadata.pageCount =
        Page.pagesFor (search.sortedMatches records).length limit := by
  have hlimit : limit ≠ 0 := Nat.ne_of_gt hlimit
  change Page.count (.resolve settings none (some page) (some limit)) _ = _
  rw [Page.resolve_number settings hpage]
  simp [Page.count, Page.isUnbounded, hlimit]
  rfl

end Paged

/-- The pages of a request are the consecutive parts of all its results: up to the count of pages
they make up all results, and behind it they are empty. -/
theorem run_onPage [Pattern.Engine] (hsearch : ofRequest schema settings request = .ok search)
    (hfew : records.length < 2 ^ 63) (hlimit : 0 < limit) :
    ∃ (whole : Search) (paged : ℕ → Search),
      ofRequest schema settings request.unpaged = .ok whole ∧
      (∀ page, ofRequest schema settings (request.onPage page limit) = .ok (paged page)) ∧
      let full := (whole.run records).records
      let results (page : ℕ) := (paged page).run records
      let pageCount := (results 1).metadata.pageCount
      (∀ page, 1 ≤ page →
        (results page).IsPage full page limit ∧
        (results page).metadata.count = (paged page).count records ∧
        (results page).metadata.pageCount = pageCount ∧
        (pageCount < page → (results page).records = [])) ∧
      ((List.range pageCount).flatMap fun i ↦ (results (i + 1)).records) = full := by
  have hwhole := ofRequest_window hsearch (some 0) request.page (some 0)
  have hpaged (page : ℕ) := ofRequest_window hsearch none (some (page : ℤ)) (some (limit : ℤ))
  refine ⟨_, _, hwhole, hpaged, ?_⟩
  intro full results pageCount
  have hfull : full = search.sortedMatches records := rfl
  have hpage (page : ℕ) (h : 1 ≤ page) : (results page).IsPage full page limit :=
    isPage_run search settings hfew h hlimit
  have hcount : pageCount = Page.pagesFor full.length limit :=
    pageCount_run search settings (Nat.le_refl 1) hlimit
  refine ⟨fun page h ↦ ⟨hpage page h, ?_, ?_, fun hbehind ↦ ?_⟩, ?_⟩
  · exact (hpage page h).count_eq.trans (length_sortedMatches search records)
  · rw [hcount]
    exact pageCount_run search settings h hlimit
  · have hend : full.length ≤ (page - 1) * limit := by
      rw [← Page.pagesFor_le_iff hlimit, ← hcount]
      omega
    rw [(hpage page h).records_eq, List.extract, List.drop_eq_nil_of_le hend, List.take_nil]
  · calc
      ((List.range pageCount).flatMap fun i ↦ (results (i + 1)).records) =
          (List.range pageCount).flatMap fun i ↦ full.extract (i * limit) ((i + 1) * limit) := by
        refine List.flatMap_congr fun i _ ↦ ?_
        rw [(hpage (i + 1) (Nat.le_add_left 1 i)).records_eq, Nat.add_sub_cancel]
      _ = full.take (pageCount * limit) := Page.flatMap_extract full limit pageCount
      _ = full := by
        have hall : full.length ≤ pageCount * limit :=
          (Page.pagesFor_le_iff hlimit).mp (Nat.le_of_eq hcount.symm)
        exact List.take_of_length_le hall

/-- Five records on pages of two, the last of which is not full. -/
theorem run_onPage_descending :
    let schema : Schema := Dictionary.empty.insert "n".toList (Attribute.ofType (.numeric .integer))
    let request := { Request.empty with sort := some "-n".toList }
    let record (n : ℤ) : List (Text × Value) := [("n".toList, .integer n)]
    let records := [record 2, record 5, record 1, record 4, record 3]
    records.length < 2 ^ 63 ∧
      ∃ search paged, ofRequest schema .default request = .ok search ∧
        ofRequest schema .default (request.onPage 3 2) = .ok paged ∧
        (paged.run records).records = [record 1] := by
  intro schema request record records
  have hsearch : ofRequest schema .default request =
      .ok ⟨none, [⟨"n".toList, true⟩], ⟨0, 10, 1⟩⟩ := rfl
  have hfew : records.length < 2 ^ 63 := by decide
  obtain ⟨whole, paged, hwhole, hpaged, hpages, -⟩ := run_onPage hsearch hfew (Nat.zero_lt_two)
  obtain ⟨hpage, -⟩ := hpages 3 (by decide)
  have hfull : whole = ⟨none, [⟨"n".toList, true⟩], ⟨0, 0, 1⟩⟩ := by
    exact (Except.ok.inj hwhole).symm
  refine ⟨hfew, _, paged 3, hsearch, hpaged 3, hpage.records_eq.trans ?_⟩
  rw [hfull]
  decide

end Search

end RecordSearch
