import RecordSearch.Proofs.Record.Kind
import RecordSearch.Proofs.Search.Order
import RecordSearch.Proofs.Search.StableSort
import RecordSearch.Search.Results

/-!
# Sorted results

Where the values under each sort key are of one kind, results are sorted by the strict orders of
these kinds, key by key, and missing values come last whatever the direction of the key is. Results
that no key tells apart stay in the order of the records.
-/

namespace RecordSearch

namespace SortKey

variable {ρ : Type} [Record ρ] {keys : List SortKey} {records : List ρ} {a b c : ρ}

/-- Whether a value comes before another under a key. Any value comes before a missing one. -/
def Before (key : SortKey) (x y : Value) : Prop :=
  (x ≠ .null ∧ y = .null) ∨ if key.descending then y.Less x else x.Less y

/-- Whether the first key that tells two lists of values apart puts the first list before the
second. -/
def BeforeAll : List SortKey → List Value → List Value → Prop
  | key :: keys, x :: xs, y :: ys =>
    key.Before x y ∨ ¬ key.Before y x ∧ BeforeAll keys xs ys
  | _, _, _ => False

/-- The values by which a record is sorted. -/
def vector (keys : List SortKey) (record : ρ) : List Value :=
  keys.map fun key ↦ Record.value record key.name

/-- Each key has values of one kind only, as far as it has any. -/
def Uniform (keys : List SortKey) (records : List ρ) : Prop :=
  ∀ key ∈ keys, ∃ kind : Value.Kind, ∀ record ∈ records,
    Value.HasKind kind (Record.value record key.name)

theorem order_eq_lt_iff (key : SortKey) {kind : Value.Kind} {x y : Value}
    (hx : Value.HasKind kind x) (hy : Value.HasKind kind y) :
    key.order x y = .lt ↔ key.Before x y := by
  unfold Before
  by_cases hx' : x = .null
  · subst hx'
    by_cases hy' : y = .null
    · subst hy'
      simp [Value.not_less_null_left]
    · simp [order_null_left key hy', Value.not_less_null_left, Value.not_less_null_right, hy']
  by_cases hy' : y = .null
  · subst hy'
    simp [order_null_right key hx', hx']
  rw [order_of_not_null key hx' hy']
  cases key.descending with
  | false => simp [Value.sortOrder_eq_lt_iff hx hy hx' hy', hy']
  | true => simp [← Value.sortOrder_swap, Value.sortOrder_eq_lt_iff hy hx hy' hx', hy']

theorem orderAll_eq_lt_iff (hkinds : Uniform keys records) (ha : a ∈ records) (hb : b ∈ records) :
    orderAll keys (vector keys a) (vector keys b) = .lt ↔
      BeforeAll keys (vector keys a) (vector keys b) := by
  induction keys with
  | nil => simp [orderAll, BeforeAll]
  | cons key keys ih =>
    obtain ⟨⟨kind, hkind⟩, hkinds⟩ := List.forall_mem_cons.mp hkinds
    have hlt := order_eq_lt_iff key (hkind a ha) (hkind b hb)
    have hgt := order_eq_lt_iff key (hkind b hb) (hkind a ha)
    rw [order_swap, Ordering.swap_eq_lt] at hgt
    simp only [vector, List.map_cons, orderAll, BeforeAll, Ordering.then_eq_lt] at ih ⊢
    rw [ih hkinds, ← hlt, ← hgt]
    cases key.order (Record.value a key.name) (Record.value b key.name) <;> simp

theorem shareOrders_vector (hkinds : Uniform keys records) (ha : a ∈ records) (hb : b ∈ records)
    (hc : c ∈ records) : ShareOrders (vector keys a) (vector keys b) (vector keys c) := by
  induction keys with
  | nil => trivial
  | cons key keys ih =>
    obtain ⟨⟨kind, hkind⟩, hkinds⟩ := List.forall_mem_cons.mp hkinds
    exact ⟨Value.shareOrder_of_hasKind (hkind a ha) (hkind b hb) (hkind c hc), ih hkinds⟩

/-- A record with the values by which it is sorted. -/
def decorate (keys : List SortKey) (record : ρ) : List Value × ρ :=
  (vector keys record, record)

theorem sortRecords_eq (keys : List SortKey) (records : List ρ) :
    sortRecords keys records =
      (StableSort.sort (fun a b ↦ orderAll keys a.1 b.1)
        (records.map (decorate keys))).map Prod.snd := rfl

theorem preorderOn_decorate (hkinds : Uniform keys records) :
    StableSort.PreorderOn (fun a b : List Value × ρ ↦ orderAll keys a.1 b.1)
      (records.map (decorate keys)) where
  swap a b := orderAll_swap keys a.1 b.1
  trans := by
    simp only [List.forall_mem_map]
    intro a ha b hb c hc hab hbc
    have hlength (record : ρ) : (vector keys record).length = keys.length := List.length_map _
    exact (orderAll_preorder (hlength a) (hlength b) (hlength c)).2.1
      (shareOrders_vector hkinds ha hb hc) hab hbc

/-- No record is sorted behind one that comes before it. -/
theorem pairwise_sortRecords (hkinds : Uniform keys records) :
    (sortRecords keys records).Pairwise fun a b ↦
      ¬ BeforeAll keys (vector keys b) (vector keys a) := by
  rw [sortRecords_eq, List.pairwise_map]
  refine (StableSort.pairwise_sort (preorderOn_decorate hkinds)).imp_of_mem ?_
  intro x y hx hy hxy
  obtain ⟨a, ha, rfl⟩ := List.mem_map.mp ((StableSort.perm_sort _ _).mem_iff.mp hx)
  obtain ⟨b, hb, rfl⟩ := List.mem_map.mp ((StableSort.perm_sort _ _).mem_iff.mp hy)
  change ¬ BeforeAll keys (vector keys b) (vector keys a)
  rw [← orderAll_eq_lt_iff hkinds hb ha, orderAll_swap keys (vector keys a), Ordering.swap_eq_lt]
  exact hxy

/-- Records of which none comes before another are sorted into the order in which they stand. -/
theorem filter_sortRecords (hkinds : Uniform keys records) {p : ρ → Bool}
    (hclass : ∀ a ∈ records, ∀ b ∈ records, p a → p b →
      ¬ BeforeAll keys (vector keys a) (vector keys b)) :
    (sortRecords keys records).filter p = records.filter p := by
  have hsorted : (StableSort.sort (fun a b ↦ orderAll keys a.1 b.1)
      (records.map (decorate keys))).filter (p ∘ Prod.snd) =
        (records.map (decorate keys)).filter (p ∘ Prod.snd) := by
    apply StableSort.filter_sort
    simp only [List.forall_mem_map]
    intro a ha b hb hpa hpb hlt
    exact hclass a ha b hb hpa hpb ((orderAll_eq_lt_iff hkinds ha hb).mp hlt)
  rw [sortRecords_eq, List.filter_map, hsorted, List.filter_map, List.map_map]
  exact List.map_id' _

end SortKey

namespace Page

theorem window_whole {α : Type} {page : Page} (hoffset : page.offset = 0) (hlimit : page.limit = 0)
    (xs : List α) : page.window xs = xs := by
  rw [window, hoffset, List.drop_zero, isUnbounded, hlimit]
  rfl

end Page

namespace Search

variable {ρ : Type} [Record ρ]

/-- The results of a search for all of them are the records that it selects in the order of the sort
keys, and those that the keys do not tell apart keep their order. -/
theorem run_sorted {search : Search} {records : List ρ} (hoffset : search.page.offset = 0)
    (hlimit : search.page.limit = 0) (hkinds : SortKey.Uniform search.sort records) :
    let results := (search.run records).records
    let before (a b : ρ) : Prop := SortKey.BeforeAll search.sort (SortKey.vector search.sort a)
      (SortKey.vector search.sort b)
    results.Perm (records.filter search.selects) ∧
      results.Pairwise (fun a b ↦ ¬ before b a) ∧
      ∀ p : ρ → Bool, (∀ a ∈ records, ∀ b ∈ records, p a → p b → ¬ before a b) →
        results.filter p = (records.filter search.selects).filter p := by
  intro results before
  have hresults : results = SortKey.sortRecords search.sort (records.filter search.selects) :=
    Page.window_whole hoffset hlimit _
  have hselected : ∀ record ∈ records.filter search.selects, record ∈ records :=
    fun _ ↦ List.mem_of_mem_filter
  have hkinds : SortKey.Uniform search.sort (records.filter search.selects) := fun key hkey ↦
    (hkinds key hkey).imp fun _ hkind record hrecord ↦ hkind record (hselected record hrecord)
  rw [hresults]
  refine ⟨SortKey.perm_sortRecords _ _, SortKey.pairwise_sortRecords hkinds, fun p hclass ↦ ?_⟩
  apply SortKey.filter_sortRecords hkinds
  intro a ha b hb
  exact hclass a (hselected a ha) b (hselected b hb)

/-- The latest day comes first and a missing one last; a day and the date/time at which it begins
are not told apart, so the two records that have them keep their order. -/
theorem run_sorted_days :
    let search : Search := ⟨none, [⟨"day".toList, true⟩, ⟨"name".toList, false⟩], ⟨0, 0, 1⟩⟩
    let record (day : Value) (name : Text) : List (Text × Value) :=
      [("day".toList, day), ("name".toList, .text name)]
    let first : Date := ⟨2024, 1, 1, by decide⟩
    let second : Date := ⟨2024, 1, 2, by decide⟩
    let tied := [record (.date first) "b".toList, record (.dateTime (.startOf first)) "b".toList]
    let records := record .null "a".toList :: tied ++ [record (.date second) "c".toList]
    let results := (search.run records).records
    (search.page.offset = 0 ∧ search.page.limit = 0) ∧ SortKey.Uniform search.sort records ∧
      results.Perm records ∧ results.filter (fun r ↦ tied.contains r) = tied ∧
      results = [record (.date second) "c".toList] ++ tied ++ [record .null "a".toList] := by
  intro search record first second tied records results
  have hkinds : SortKey.Uniform search.sort records := by
    refine List.forall_mem_cons.mpr ⟨⟨.moment, ?_⟩, List.forall_mem_singleton.mpr ⟨.text, ?_⟩⟩
    · simp only [records, tied, List.cons_append, List.nil_append, List.forall_mem_cons]
      exact ⟨.null _, .date _, .dateTime _, .date _, by simp⟩
    · simp only [records, tied, List.cons_append, List.nil_append, List.forall_mem_cons]
      exact ⟨.text _, .text _, .text _, .text _, by simp⟩
  have hclass : ∀ a ∈ records, ∀ b ∈ records, tied.contains a → tied.contains b →
      SortKey.orderAll search.sort (SortKey.vector search.sort a)
        (SortKey.vector search.sort b) ≠ .lt := by
    decide +kernel
  obtain ⟨hperm, -, hstable⟩ := run_sorted rfl rfl hkinds
  refine ⟨⟨rfl, rfl⟩, hkinds, hperm, (hstable _ ?_).trans (by decide +kernel), by decide +kernel⟩
  intro a ha b hb hta htb hbefore
  exact hclass a ha b hb hta htb ((SortKey.orderAll_eq_lt_iff hkinds ha hb).mpr hbefore)

end Search

end RecordSearch
