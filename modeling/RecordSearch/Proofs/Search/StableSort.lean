import RecordSearch.Search.Order

/-!
# Sorting by insertion

Sorting puts no item behind a strictly smaller one, where the comparison is a total preorder, and
keeps the order of items that are not apart. What one insertion does to a list whose greatest item
comes first, sorting does to the list of all items.
-/

namespace RecordSearch.StableSort

variable {α : Type} {order : α → α → Ordering}

/-- A comparison is a total preorder on the items of a list. -/
structure PreorderOn (order : α → α → Ordering) (items : List α) : Prop where
  swap : ∀ a b, order b a = (order a b).swap
  trans : ∀ a ∈ items, ∀ b ∈ items, ∀ c ∈ items,
    order a b ≠ .gt → order b c ≠ .gt → order a c ≠ .gt

theorem mem_insert {x z : α} {ys : List α} : z ∈ insert order x ys ↔ z = x ∨ z ∈ ys := by
  rw [(perm_insert order x ys).mem_iff, List.mem_cons]

section Sorted

variable {items : List α}

theorem PreorderOn.ne_gt_of_not_lt (h : PreorderOn order items) {x y : α} (hxy : order x y ≠ .lt) :
    order y x ≠ .gt := by
  rw [h.swap x y]
  revert hxy
  cases order x y <;> decide

/-- An insertion keeps the greatest items in front. -/
theorem pairwise_insert (h : PreorderOn order items) {x : α} (hx : x ∈ items) {ys : List α}
    (hys : ∀ y ∈ ys, y ∈ items) (hsorted : ys.Pairwise fun y z ↦ order z y ≠ .gt) :
    (insert order x ys).Pairwise fun y z ↦ order z y ≠ .gt := by
  induction ys with
  | nil => exact List.pairwise_singleton _ _
  | cons y ys ih =>
    obtain ⟨hy, hrest⟩ := List.pairwise_cons.mp hsorted
    obtain ⟨hyitem, hyitems⟩ := List.forall_mem_cons.mp hys
    rw [insert]
    split
    · rename_i hless
      refine List.pairwise_cons.mpr ⟨fun z hz ↦ ?_, ih hyitems hrest⟩
      rcases mem_insert.mp hz with rfl | hz
      · rw [hless]
        decide
      · exact hy z hz
    · rename_i hnot
      have hyx : order y x ≠ .gt := h.ne_gt_of_not_lt hnot
      refine List.pairwise_cons.mpr ⟨fun z hz ↦ ?_, hsorted⟩
      rcases List.mem_cons.mp hz with rfl | hz
      · exact hyx
      · exact h.trans z (hyitems z hz) y hyitem x hx (hy z hz) hyx

theorem pairwise_foldl_insert (h : PreorderOn order items) {xs done : List α}
    (hxs : ∀ x ∈ xs, x ∈ items) (hdone : ∀ y ∈ done, y ∈ items)
    (hsorted : done.Pairwise fun y z ↦ order z y ≠ .gt) :
    (xs.foldl (fun done x ↦ insert order x done) done).Pairwise fun y z ↦ order z y ≠ .gt := by
  induction xs generalizing done with
  | nil => exact hsorted
  | cons x xs ih =>
    obtain ⟨hx, hxs⟩ := List.forall_mem_cons.mp hxs
    refine ih hxs (fun y hy ↦ ?_) (pairwise_insert h hx hdone hsorted)
    rcases mem_insert.mp hy with rfl | hy
    · exact hx
    · exact hdone y hy

/-- No item comes behind a greater one. -/
theorem pairwise_sort {xs : List α} (h : PreorderOn order xs) :
    (sort order xs).Pairwise fun y z ↦ order y z ≠ .gt := by
  rw [sort, List.pairwise_reverse]
  exact pairwise_foldl_insert h (fun _ hx ↦ hx) (by simp) .nil

end Sorted

section Stable

variable {p : α → Bool}

/-- An item is inserted in front of all items that it is not less than. -/
theorem filter_insert {x : α} {ys : List α}
    (hclass : ∀ y ∈ ys, p x → p y → order x y ≠ .lt) :
    (insert order x ys).filter p = (x :: ys).filter p := by
  induction ys with
  | nil => rfl
  | cons y ys ih =>
    obtain ⟨hy, hys⟩ := List.forall_mem_cons.mp hclass
    rw [insert]
    split
    · rename_i hless
      rw [List.filter_cons, ih hys]
      simp only [List.filter_cons]
      cases hpx : p x with
      | false => rfl
      | true =>
        have hpy : p y = false := Bool.eq_false_iff.mpr fun hpy ↦ hy hpx hpy hless
        simp [hpy]
    · rfl

theorem filter_foldl_insert {xs done : List α}
    (hclass : ∀ x ∈ xs, ∀ y ∈ xs ++ done, p x → p y → order x y ≠ .lt) :
    (xs.foldl (fun done x ↦ insert order x done) done).filter p =
      (xs.reverse ++ done).filter p := by
  induction xs generalizing done with
  | nil => rfl
  | cons x xs ih =>
    obtain ⟨hx, hxs⟩ := List.forall_mem_cons.mp hclass
    have hrest : ∀ a ∈ xs, ∀ y ∈ xs ++ insert order x done, p a → p y → order a y ≠ .lt := by
      intro a ha y hy
      apply hxs a ha y
      have hperm : (xs ++ insert order x done).Perm (x :: xs ++ done) :=
        ((perm_insert order x done).append_left xs).trans List.perm_middle
      exact hperm.mem_iff.mp hy
    rw [List.foldl_cons, ih hrest, List.filter_append,
      filter_insert fun y hy ↦ hx y (List.mem_append_right _ hy)]
    simp

/-- Items of which none is less than another keep their order. -/
theorem filter_sort {xs : List α} (hclass : ∀ x ∈ xs, ∀ y ∈ xs, p x → p y → order x y ≠ .lt) :
    (sort order xs).filter p = xs.filter p := by
  rw [sort, List.filter_reverse, filter_foldl_insert (by simpa using hclass), List.append_nil,
    ← List.filter_reverse, List.reverse_reverse]

end Stable

end RecordSearch.StableSort
