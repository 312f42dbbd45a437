import RecordSearch.Proofs.Record.Order
import RecordSearch.Search.Order

/-!
# The order of sorted records

Records are sorted by the values that they have for the sort keys. Reversing a comparison swaps its
outcome whatever the values are. The comparison is transitive where one notion of order is enough for
each key; a key whose values are ordered by size here and by text there can run in a circle.
-/

namespace RecordSearch.SortKey

open Value

/-- Of two steps that do not descend, the one that ascends decides. -/
theorem then_comm {o p : Ordering} (ho : o ≠ .gt) (hp : p ≠ .gt) : o.then p = p.then o := by
  revert ho hp
  cases o <;> cases p <;> decide

theorem order_of_not_null (key : SortKey) {x y : Value} (hx : x ≠ .null) (hy : y ≠ .null) :
    key.order x y = if key.descending then (sortOrder x y).swap else sortOrder x y := by
  have hnull {v : Value} (hv : v ≠ .null) : v.isNull = false := by
    cases v with
    | null => exact absurd rfl hv
    | _ => rfl
  simp only [order, hnull hx, hnull hy]
  rfl

@[simp] theorem order_null_null (key : SortKey) : key.order .null .null = .eq := rfl

theorem order_null_left (key : SortKey) {y : Value} (hy : y ≠ .null) : key.order .null y = .gt := by
  cases y with
  | null => exact absurd rfl hy
  | _ => rfl

theorem order_null_right (key : SortKey) {x : Value} (hx : x ≠ .null) :
    key.order x .null = .lt := by
  cases x with
  | null => exact absurd rfl hx
  | _ => rfl

theorem order_swap (key : SortKey) (x y : Value) : key.order y x = (key.order x y).swap := by
  by_cases hx : x = .null <;> by_cases hy : y = .null
  · rw [hx, hy]
    rfl
  · rw [hx, order_null_left key hy, order_null_right key hy]
    rfl
  · rw [hy, order_null_left key hx, order_null_right key hx]
    rfl
  · rw [order_of_not_null key hx hy, order_of_not_null key hy hx, sortOrder_swap x y]
    split <;> rfl

/-- Under one key, comparisons along an ascending chain compose. -/
theorem order_trans (key : SortKey) {x y z : Value} (h : ShareOrder x y z)
    (hxy : key.order x y ≠ .gt) (hyz : key.order y z ≠ .gt) :
    key.order x z = (key.order x y).then (key.order y z) := by
  by_cases hx : x = .null
  · subst hx
    have hy : y = .null := not_ne_iff.mp fun hy ↦ hxy (order_null_left key hy)
    rw [hy, order_null_null]
    rfl
  by_cases hy : y = .null
  · subst hy
    have hz : z = .null := not_ne_iff.mp fun hz ↦ hyz (order_null_left key hz)
    rw [hz, order_null_right key hx]
    rfl
  by_cases hz : z = .null
  · subst hz
    rw [order_null_right key hx, order_null_right key hy]
    cases hchain : key.order x y with
    | gt => exact absurd hchain hxy
    | _ => rfl
  rw [order_of_not_null key hx hy] at hxy ⊢
  rw [order_of_not_null key hy hz] at hyz ⊢
  rw [order_of_not_null key hx hz]
  cases hdirection : key.descending with
  | false =>
    rw [hdirection] at hxy hyz
    exact h.sortOrder_trans hx hy hz hxy hyz
  | true =>
    -- Downwards the chain is read from its other end.
    rw [hdirection] at hxy hyz
    simp only [if_true, ← sortOrder_swap] at hxy hyz ⊢
    rw [h.reverse.sortOrder_trans hz hy hx hyz hxy]
    exact then_comm hyz hxy

/-- Three lists of values of which those at each place share a notion of order. -/
def ShareOrders : List Value → List Value → List Value → Prop
  | x :: a, y :: b, z :: c => ShareOrder x y z ∧ ShareOrders a b c
  | _, _, _ => True

theorem orderAll_swap (keys : List SortKey) (a b : List Value) :
    orderAll keys b a = (orderAll keys a b).swap := by
  induction keys generalizing a b with
  | nil => rfl
  | cons key keys ih =>
    cases a with
    | nil => cases b <;> rfl
    | cons x a =>
      cases b with
      | nil => rfl
      | cons y b => rw [orderAll, orderAll, ih a b, order_swap key x y, Ordering.swap_then]

theorem orderAll_trans {keys : List SortKey} {a b c : List Value} (ha : a.length = keys.length)
    (hb : b.length = keys.length) (hc : c.length = keys.length) (h : ShareOrders a b c)
    (hab : orderAll keys a b ≠ .gt) (hbc : orderAll keys b c ≠ .gt) :
    orderAll keys a c = (orderAll keys a b).then (orderAll keys b c) := by
  induction keys generalizing a b c with
  | nil => rfl
  | cons key keys ih =>
    obtain ⟨x, a, rfl⟩ := List.exists_cons_of_length_eq_add_one ha
    obtain ⟨y, b, rfl⟩ := List.exists_cons_of_length_eq_add_one hb
    obtain ⟨z, c, rfl⟩ := List.exists_cons_of_length_eq_add_one hc
    simp only [List.length_cons, Nat.add_right_cancel_iff] at ha hb hc
    rw [orderAll] at hab hbc ⊢
    rw [orderAll, orderAll]
    have hfirst {o p : Ordering} (hop : o.then p ≠ .gt) : o ≠ .gt := by
      rintro rfl
      exact hop rfl
    rw [order_trans key h.1 (hfirst hab) (hfirst hbc)]
    cases hxy : key.order x y with
    | gt => exact absurd hxy (hfirst hab)
    | lt => rfl
    | eq =>
      rw [hxy] at hab
      cases hyz : key.order y z with
      | gt => exact absurd hyz (hfirst hbc)
      | lt =>
        cases hrest : orderAll keys a b with
        | gt => exact absurd hrest hab
        | _ => rfl
      | eq =>
        rw [hyz] at hbc
        exact ih ha hb hc h.2 hab hbc

/-- Sorting compares by a total preorder wherever each key is ordered by one notion. -/
theorem orderAll_preorder {keys : List SortKey} {a b c : List Value}
    (ha : a.length = keys.length) (hb : b.length = keys.length) (hc : c.length = keys.length) :
    orderAll keys b a = (orderAll keys a b).swap ∧
      (ShareOrders a b c → orderAll keys a b ≠ .gt → orderAll keys b c ≠ .gt →
        orderAll keys a c ≠ .gt) ∧
      (ShareOrders a b c → orderAll keys a b = .eq → orderAll keys b c = .eq →
        orderAll keys a c = .eq) := by
  refine ⟨orderAll_swap keys a b, fun h hab hbc ↦ ?_, fun h hab hbc ↦ ?_⟩
  · rw [orderAll_trans ha hb hc h hab hbc]
    cases hfirst : orderAll keys a b with
    | lt => exact fun hgt ↦ by cases hgt
    | eq => exact hbc
    | gt => exact absurd hfirst hab
  · rw [orderAll_trans ha hb hc h (by rw [hab]; decide) (by rw [hbc]; decide), hab, hbc]
    rfl

/-- Numbers of both kinds under an ascending key, then a text, a truth value and a number under a
descending one. -/
theorem orderAll_preorder_mixed :
    orderAll [⟨"size".toList, false⟩, ⟨"name".toList, true⟩]
        [.float (.finite false 4503599627370496 (-52)), .boolean true]
        [.integer 1, .text "z".toList] =
      (orderAll [⟨"size".toList, false⟩, ⟨"name".toList, true⟩] [.integer 1, .text "z".toList]
        [.float (.finite false 4503599627370496 (-52)), .boolean true]).swap ∧
      ShareOrders [.integer 1, .text "z".toList]
        [.float (.finite false 4503599627370496 (-52)), .boolean true] [.integer 1, .integer 5] ∧
      orderAll [⟨"size".toList, false⟩, ⟨"name".toList, true⟩] [.integer 1, .text "z".toList]
        [.integer 1, .integer 5] ≠ .gt := by
  have hsize : BySize (.integer 1) (.float (.finite false 4503599627370496 (-52))) (.integer 1) :=
    ⟨by decide, id, id, fun h ↦ h.1 rfl⟩
  have hshare : ShareOrders [.integer 1, .text "z".toList]
      [.float (.finite false 4503599627370496 (-52)), .boolean true] [.integer 1, .integer 5] :=
    ⟨.inr (.inr (.inr (.inl hsize))), shareOrder_of_apart (by decide), trivial⟩
  refine ⟨(orderAll_preorder (c := [.null, .null]) rfl rfl rfl).1, hshare, ?_⟩
  exact (orderAll_preorder rfl rfl rfl).2.1 hshare (by decide +kernel) (by decide +kernel)

/-- A chain that does not descend, with ends that do. -/
def Circular (key : SortKey) (x y z : Value) : Prop :=
  orderAll [key] [x] [y] ≠ .gt ∧ orderAll [key] [y] [z] ≠ .gt ∧ orderAll [key] [x] [z] = .gt

instance (key : SortKey) (x y z : Value) : Decidable (Circular key x y z) :=
  inferInstanceAs (Decidable (_ ∧ _ ∧ _))

/-- Numbers by size and then by text, numbers around a NaN, integers rounded to one float, and dates
by time and then by text run in circles. -/
theorem orderAll_circular :
    Circular ⟨"n".toList, false⟩ (.integer 9) (.integer 10) (.text "5".toList) ∧
      Circular ⟨"n".toList, false⟩ (.integer 2) (.float .nan) (.integer 1) ∧
      Circular ⟨"n".toList, false⟩ (.integer 9007199254740993)
        (.float (.finite false 4503599627370496 1)) (.integer 9007199254740992) ∧
      Circular ⟨"n".toList, false⟩ (.dateTime ⟨⟨2024, 1, 1, by decide⟩, .midnight⟩)
        (.date ⟨2024, 1, 1, by decide⟩) (.text "2024-01-01T".toList) := by
  decide +kernel

end RecordSearch.SortKey
