import RecordSearch.Record.Value
import RecordSearch.Request.Sort

/-!
# The order of results

Results are sorted by insertion: each one moves to the front past all that are strictly greater, so
equal ones keep their order. Missing values come last in either direction.
-/

namespace RecordSearch

/-- The order of two values under a key. Values that have none are equal. -/
def SortKey.order (key : SortKey) (a b : Value) : Ordering :=
  match a.isNull, b.isNull with
  | true, true => .eq
  | true, false => .gt
  | false, true => .lt
  | false, false =>
    let order := (a.order? b).getD .eq
    if key.descending then order.swap else order

/-- The order of two lists of values, one for each key. The first key that tells them apart
decides. -/
def SortKey.orderAll : List SortKey → List Value → List Value → Ordering
  | key :: keys, a :: as, b :: bs => (key.order a b).then (orderAll keys as bs)
  | _, _, _ => .eq

namespace StableSort

variable {α : Type}

/-- Inserts an item into a list whose greatest item comes first. -/
def insert (order : α → α → Ordering) (x : α) : List α → List α
  | [] => [x]
  | y :: ys => if order x y = .lt then y :: insert order x ys else x :: y :: ys

theorem perm_insert (order : α → α → Ordering) (x : α) :
    (ys : List α) → (insert order x ys).Perm (x :: ys)
  | [] => .refl _
  | y :: ys => by
    unfold insert
    split
    · exact ((perm_insert order x ys).cons y).trans (.swap x y ys)
    · exact .refl _

def sort (order : α → α → Ordering) (xs : List α) : List α :=
  (xs.foldl (fun done x ↦ insert order x done) []).reverse

theorem perm_foldl_insert (order : α → α → Ordering) (xs done : List α) :
    (xs.foldl (fun done x ↦ insert order x done) done).Perm (xs ++ done) := by
  induction xs generalizing done with
  | nil => exact .refl _
  | cons x xs ih =>
    exact (ih _).trans (((perm_insert order x done).append_left xs).trans List.perm_middle)

theorem perm_sort (order : α → α → Ordering) (xs : List α) : (sort order xs).Perm xs := by
  have h := perm_foldl_insert order xs []
  rw [List.append_nil] at h
  exact (List.reverse_perm _).trans h

end StableSort

/-- Sorts records by the values that they have for the keys. -/
def SortKey.sortRecords {ρ : Type} [Record ρ] (keys : List SortKey) (records : List ρ) : List ρ :=
  let decorated := records.map fun record ↦
    (keys.map fun key ↦ Record.value record key.name, record)
  (StableSort.sort (fun a b ↦ SortKey.orderAll keys a.1 b.1) decorated).map Prod.snd

theorem SortKey.perm_sortRecords {ρ : Type} [Record ρ] (keys : List SortKey) (records : List ρ) :
    (SortKey.sortRecords keys records).Perm records := by
  have h := (StableSort.perm_sort (fun a b ↦ SortKey.orderAll keys a.1 b.1)
    (records.map fun record ↦ (keys.map fun key ↦ Record.value record key.name, record))).map
      Prod.snd
  rwa [List.map_map, Function.comp_def, List.map_id'] at h

end RecordSearch
