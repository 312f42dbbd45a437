import RecordSearch.Proofs.Calendar.Order
import RecordSearch.Proofs.Number.Rounding
import RecordSearch.Record.Value

/-!
# The order of values

Which notion of order two values are compared by depends on their kinds: size for numbers, time for
dates, and text for all else. The order is antisymmetric for any two values. It is transitive where
three values are compared by one notion only.
-/

namespace RecordSearch

/-- Comparisons along an ascending chain compose: the ends are as far apart as the first strict
step. -/
theorem compare_trans {α : Type} (order : α → α → Ordering) [Std.TransCmp order] {a b c : α}
    (hab : order a b ≠ .gt) (hbc : order b c ≠ .gt) :
    order a c = (order a b).then (order b c) := by
  cases h : order a b with
  | lt =>
    cases h' : order b c with
    | lt => exact Std.TransCmp.lt_trans h h'
    | eq => exact Std.TransCmp.lt_of_lt_of_eq h h'
    | gt => exact absurd h' hbc
  | eq => exact Std.TransCmp.congr_left h
  | gt => exact absurd h hab

section Rounding

variable {φ : ℤ → EReal} {m n : ℤ} {x : EReal}

/-- Two integers below a number keep their distance from it, unless both are rounded to it. -/
theorem compare_integer_below (hφ : ∀ k l, k ≤ l → φ k ≤ φ l)
    (hapart : ¬ (m ≠ n ∧ φ m = x ∧ φ n = x))
    (hmn : compare m n ≠ .gt) (hnx : compare (φ n) x ≠ .gt) :
    compare (φ m) x = (compare m n).then (compare (φ n) x) := by
  have hnx' : φ n ≤ x := compare_le_iff_le.mp hnx
  rcases (compare_le_iff_le.mp hmn).eq_or_lt with rfl | hlt
  · rw [compare_eq_iff_eq.mpr rfl]
    rfl
  · have hle : φ m ≤ φ n := hφ m n hlt.le
    have hne : φ m ≠ x := fun h ↦ hapart ⟨hlt.ne, h, le_antisymm hnx' (h ▸ hle)⟩
    rw [compare_lt_iff_lt.mpr hlt, compare_lt_iff_lt.mpr ((hle.trans hnx').lt_of_ne hne)]
    rfl

theorem compare_integer_above (hφ : ∀ k l, k ≤ l → φ k ≤ φ l)
    (hapart : ¬ (m ≠ n ∧ φ m = x ∧ φ n = x))
    (hxm : compare x (φ m) ≠ .gt) (hmn : compare m n ≠ .gt) :
    compare x (φ n) = (compare x (φ m)).then (compare m n) := by
  have hxm' : x ≤ φ m := compare_le_iff_le.mp hxm
  rcases (compare_le_iff_le.mp hmn).eq_or_lt with rfl | hlt
  · rw [compare_eq_iff_eq.mpr rfl, Ordering.then_eq]
  · have hle : φ m ≤ φ n := hφ m n hlt.le
    have hne : x ≠ φ n := fun h ↦ hapart ⟨hlt.ne, le_antisymm (h ▸ hle) hxm', h.symm⟩
    rw [compare_lt_iff_lt.mpr hlt, compare_lt_iff_lt.mpr ((hxm'.trans hle).lt_of_ne hne)]
    cases h : compare x (φ m) with
    | gt => exact absurd h hxm
    | _ => rfl

/-- A number between two integers separates them, unless both are rounded to it. -/
theorem compare_integer_between (hφ : ∀ k l, k ≤ l → φ k ≤ φ l)
    (hapart : ¬ (m ≠ n ∧ φ m = x ∧ φ n = x))
    (hmx : compare (φ m) x ≠ .gt) (hxn : compare x (φ n) ≠ .gt) :
    compare m n = (compare (φ m) x).then (compare x (φ n)) := by
  have hmx' : φ m ≤ x := compare_le_iff_le.mp hmx
  have hxn' : x ≤ φ n := compare_le_iff_le.mp hxn
  rw [← compare_trans compare hmx hxn]
  rcases (hmx'.trans hxn').eq_or_lt with heq | hlt
  · have hm : φ m = x := le_antisymm hmx' (heq ▸ hxn')
    have hmn : m = n := not_ne_iff.mp fun h ↦ hapart ⟨h, hm, heq ▸ hm⟩
    rw [compare_eq_iff_eq.mpr heq, compare_eq_iff_eq.mpr hmn]
  · have hmn : m < n := not_le.mp fun h ↦ hlt.not_ge (hφ n m h)
    rw [compare_lt_iff_lt.mpr hlt, compare_lt_iff_lt.mpr hmn]

end Rounding

namespace Value

/-- The double that a number is compared as. -/
def double? : Value → Option Double
  | .integer n => some (.ofInt n)
  | .float x => some x
  | _ => none

/-- The moment that a date or a date/time is compared as. -/
def moment? : Value → Option DateTime
  | .date d => some (.startOf d)
  | .dateTime t => some t
  | _ => none

theorem order?_moments {x y : Value} {t u : DateTime} (hx : x.moment? = some t)
    (hy : y.moment? = some u) : x.order? y = some (compare t u) := by
  cases x <;> simp only [moment?, Option.some.injEq, reduceCtorEq] at hx <;>
    cases y <;> simp only [moment?, Option.some.injEq, reduceCtorEq] at hy <;>
    subst hx hy <;> rfl

/-- Values that are not both numbers and not both dates are ordered by text. -/
theorem order?_other {x y : Value} (hx : x ≠ .null) (hy : y ≠ .null)
    (hdouble : ¬ (x.double?.isSome ∧ y.double?.isSome))
    (hmoment : ¬ (x.moment?.isSome ∧ y.moment?.isSome)) : x.order? y = some (textOrder x y) := by
  cases x with
  | null => exact absurd rfl hx
  | text =>
    cases y with
    | null => exact absurd rfl hy
    | _ => rfl
  | boolean a =>
    cases y with
    | null => exact absurd rfl hy
    | boolean b => cases a <;> cases b <;> decide
    | _ => rfl
  | integer | float =>
    cases y with
    | null => exact absurd rfl hy
    | integer | float => exact absurd ⟨rfl, rfl⟩ hdouble
    | _ => rfl
  | date | dateTime =>
    cases y with
    | null => exact absurd rfl hy
    | date | dateTime => exact absurd ⟨rfl, rfl⟩ hmoment
    | _ => rfl

theorem order?_swap (x y : Value) : y.order? x = (x.order? y).map Ordering.swap := by
  by_cases hx : x = .null
  · subst hx
    cases y <;> rfl
  by_cases hy : y = .null
  · subst hy
    cases x <;> rfl
  by_cases hdouble : x.double?.isSome ∧ y.double?.isSome
  · cases x <;> simp only [double?, Option.isSome_some, Option.isSome_none, Bool.false_eq_true,
      false_and, true_and] at hdouble <;> cases y <;> simp only [Option.isSome_none,
        Bool.false_eq_true] at hdouble
    · exact congrArg some Std.OrientedOrd.eq_swap
    · exact Binary.order?_swap _ _
    · exact Binary.order?_swap _ _
    · exact Binary.order?_swap _ _
  by_cases hmoment : x.moment?.isSome ∧ y.moment?.isSome
  · obtain ⟨t, ht⟩ := Option.isSome_iff_exists.mp hmoment.1
    obtain ⟨u, hu⟩ := Option.isSome_iff_exists.mp hmoment.2
    rw [order?_moments ht hu, order?_moments hu ht]
    exact congrArg some Std.OrientedOrd.eq_swap
  · rw [order?_other hx hy hdouble hmoment,
      order?_other hy hx (mt And.symm hdouble) (mt And.symm hmoment)]
    exact congrArg some Std.OrientedOrd.eq_swap

/-- Two different integers that are both rounded to the same float. -/
def Merge : Value → Value → Value → Prop
  | .integer m, .integer n, .float x =>
    m ≠ n ∧ (Binary.ofInt m).order? x = some .eq ∧ (Binary.ofInt n).order? x = some .eq
  | _, _, _ => False

/-- Numbers other than a NaN, no two of which are integers told apart only until they are rounded to
the third. -/
def BySize (x y z : Value) : Prop :=
  (∀ v ∈ [x, y, z], v.double?.any (· ≠ .nan)) ∧ ¬ Merge x y z ∧ ¬ Merge y z x ∧ ¬ Merge x z y

/-- Dates and date/times. -/
def ByTime (x y z : Value) : Prop :=
  ∀ v ∈ [x, y, z], v.moment?.isSome

/-- Values each two of which are ordered as their texts are. -/
def ByText (x y z : Value) : Prop :=
  x.order? y = some (textOrder x y) ∧ y.order? z = some (textOrder y z) ∧
    x.order? z = some (textOrder x z)

/-- Three values that one notion of order puts in order, as far as none is missing. -/
def ShareOrder (x y z : Value) : Prop :=
  x = .null ∨ y = .null ∨ z = .null ∨ BySize x y z ∨ ByTime x y z ∨ ByText x y z

/-- Values of which no two are numbers and no two are dates share the order of texts. -/
theorem shareOrder_of_apart {x y z : Value}
    (h : [x, y, z].Pairwise fun u v ↦ ¬ (u.double?.isSome ∧ v.double?.isSome) ∧
      ¬ (u.moment?.isSome ∧ v.moment?.isSome)) : ShareOrder x y z := by
  by_cases hx : x = .null
  · exact .inl hx
  by_cases hy : y = .null
  · exact .inr (.inl hy)
  by_cases hz : z = .null
  · exact .inr (.inr (.inl hz))
  obtain ⟨hfirst, hrest⟩ := List.pairwise_cons.mp h
  have hxy := hfirst y (by simp)
  have hxz := hfirst z (by simp)
  have hyz := (List.pairwise_cons.mp hrest).1 z (by simp)
  exact .inr (.inr (.inr (.inr (.inr ⟨order?_other hx hy hxy.1 hxy.2, order?_other hy hz hyz.1 hyz.2,
    order?_other hx hz hxz.1 hxz.2⟩))))

theorem Merge.symm {x y z : Value} (h : Merge x y z) : Merge y x z := by
  unfold Merge at h
  split at h
  · exact ⟨h.1.symm, h.2.2, h.2.1⟩
  · exact h.elim

theorem textOrder_swap (x y : Value) : textOrder y x = (textOrder x y).swap :=
  Std.OrientedOrd.eq_swap

theorem ShareOrder.reverse {x y z : Value} (h : ShareOrder x y z) : ShareOrder z y x := by
  have hflip {u v : Value} (huv : u.order? v = some (textOrder u v)) :
      v.order? u = some (textOrder v u) := by
    rw [order?_swap, huv, textOrder_swap u v]
    rfl
  rcases h with h | h | h | ⟨hnumber, hxy, hyz, hxz⟩ | h | ⟨hxy, hyz, hxz⟩
  · exact .inr (.inr (.inl h))
  · exact .inr (.inl h)
  · exact .inl h
  · refine .inr (.inr (.inr (.inl ⟨?_, mt Merge.symm hyz, mt Merge.symm hxy, mt Merge.symm hxz⟩)))
    simpa [and_comm, and_left_comm, and_assoc] using hnumber
  · refine .inr (.inr (.inr (.inr (.inl ?_))))
    unfold ByTime at h ⊢
    simpa [and_comm, and_left_comm, and_assoc] using h
  · exact .inr (.inr (.inr (.inr (.inr ⟨hflip hyz, hflip hxy, hflip hxz⟩))))

/-- The order that sorting uses: values that have none are equal. -/
def sortOrder (x y : Value) : Ordering := (x.order? y).getD .eq

theorem sortOrder_eq {x y : Value} {o : Ordering} (h : x.order? y = some o) : sortOrder x y = o := by
  rw [sortOrder, h, Option.getD_some]

theorem sortOrder_swap (x y : Value) : sortOrder y x = (sortOrder x y).swap := by
  unfold sortOrder
  rw [order?_swap]
  cases x.order? y <;> rfl

theorem sortOrder_integer_float (n : ℤ) {a : Double} (ha : a ≠ .nan) :
    sortOrder (.integer n) (.float a) = compare (Binary.ofInt n : Double).toEReal a.toEReal :=
  sortOrder_eq (Binary.order?_eq_compare (Binary.ofInt_ne_nan n) ha)

theorem sortOrder_float_integer {a : Double} (ha : a ≠ .nan) (n : ℤ) :
    sortOrder (.float a) (.integer n) = compare a.toEReal (Binary.ofInt n : Double).toEReal :=
  sortOrder_eq (Binary.order?_eq_compare ha (Binary.ofInt_ne_nan n))

theorem sortOrder_float_float {a b : Double} (ha : a ≠ .nan) (hb : b ≠ .nan) :
    sortOrder (.float a) (.float b) = compare a.toEReal b.toEReal :=
  sortOrder_eq (Binary.order?_eq_compare ha hb)

theorem integer_or_float {v : Value} (h : v.double?.any (· ≠ .nan)) :
    (∃ n, v = .integer n) ∨ ∃ a, v = .float a ∧ a ≠ .nan := by
  cases v with
  | integer n => exact .inl ⟨n, rfl⟩
  | float a => exact .inr ⟨a, rfl, by simpa [double?] using h⟩
  | _ => simp [double?] at h

/-- Integers that do not merge with a float are not both rounded to its value. -/
theorem not_rounded_together {m n : ℤ} {a : Double} (ha : a ≠ .nan)
    (h : ¬ Merge (.integer m) (.integer n) (.float a)) :
    ¬ (m ≠ n ∧ (Binary.ofInt m : Double).toEReal = a.toEReal ∧
      (Binary.ofInt n : Double).toEReal = a.toEReal) := by
  have hequal (k : ℤ) : (Binary.ofInt k : Double).order? a = some .eq ↔
      (Binary.ofInt k : Double).toEReal = a.toEReal := by
    rw [Binary.order?_eq_compare (Binary.ofInt_ne_nan k) ha, Option.some.injEq, compare_eq_iff_eq]
  rw [← hequal, ← hequal]
  exact h

/-- Numbers in ascending order compose, although integers and floats are compared in two ways. -/
theorem BySize.sortOrder_trans {x y z : Value} (h : BySize x y z) (hxy : sortOrder x y ≠ .gt)
    (hyz : sortOrder y z ≠ .gt) : sortOrder x z = (sortOrder x y).then (sortOrder y z) := by
  obtain ⟨hnumber, hapart, hapart', hapart''⟩ := h
  have hmono (m n : ℤ) (h : m ≤ n) :
      (Binary.ofInt m : Double).toEReal ≤ (Binary.ofInt n : Double).toEReal :=
    Binary.toEReal_ofInt_mono h
  rcases integer_or_float (hnumber x (by simp)) with ⟨l, rfl⟩ | ⟨a, rfl, ha⟩ <;>
    rcases integer_or_float (hnumber y (by simp)) with ⟨m, rfl⟩ | ⟨b, rfl, hb⟩ <;>
    rcases integer_or_float (hnumber z (by simp)) with ⟨n, rfl⟩ | ⟨c, rfl, hc⟩
  · exact compare_trans (compare : ℤ → ℤ → Ordering) hxy hyz
  · rw [sortOrder_integer_float _ hc] at hyz ⊢
    rw [sortOrder_integer_float _ hc]
    exact compare_integer_below hmono (not_rounded_together hc hapart) hxy hyz
  · rw [sortOrder_integer_float _ hb] at hxy ⊢
    rw [sortOrder_float_integer hb] at hyz ⊢
    exact compare_integer_between hmono (not_rounded_together hb hapart'') hxy hyz
  · rw [sortOrder_integer_float _ hb] at hxy ⊢
    rw [sortOrder_float_float hb hc] at hyz ⊢
    rw [sortOrder_integer_float _ hc]
    exact compare_trans compare hxy hyz
  · rw [sortOrder_float_integer ha] at hxy ⊢
    rw [sortOrder_float_integer ha]
    exact compare_integer_above hmono (not_rounded_together ha hapart') hxy hyz
  · rw [sortOrder_float_integer ha] at hxy ⊢
    rw [sortOrder_integer_float _ hc] at hyz ⊢
    rw [sortOrder_float_float ha hc]
    exact compare_trans compare hxy hyz
  · rw [sortOrder_float_float ha hb] at hxy ⊢
    rw [sortOrder_float_integer hb] at hyz ⊢
    rw [sortOrder_float_integer ha]
    exact compare_trans compare hxy hyz
  · rw [sortOrder_float_float ha hb] at hxy ⊢
    rw [sortOrder_float_float hb hc] at hyz ⊢
    rw [sortOrder_float_float ha hc]
    exact compare_trans compare hxy hyz

theorem ShareOrder.sortOrder_trans {x y z : Value} (hx : x ≠ .null) (hy : y ≠ .null)
    (hz : z ≠ .null) (h : ShareOrder x y z) (hxy : sortOrder x y ≠ .gt)
    (hyz : sortOrder y z ≠ .gt) : sortOrder x z = (sortOrder x y).then (sortOrder y z) := by
  rcases h with h | h | h | h | h | ⟨htxy, htyz, htxz⟩
  · exact absurd h hx
  · exact absurd h hy
  · exact absurd h hz
  · exact h.sortOrder_trans hxy hyz
  · obtain ⟨t, ht⟩ := Option.isSome_iff_exists.mp (h x (by simp))
    obtain ⟨u, hu⟩ := Option.isSome_iff_exists.mp (h y (by simp))
    obtain ⟨v, hv⟩ := Option.isSome_iff_exists.mp (h z (by simp))
    rw [sortOrder_eq (order?_moments ht hu)] at hxy ⊢
    rw [sortOrder_eq (order?_moments hu hv)] at hyz ⊢
    rw [sortOrder_eq (order?_moments ht hv)]
    exact compare_trans compare hxy hyz
  · rw [sortOrder_eq htxy] at hxy ⊢
    rw [sortOrder_eq htyz] at hyz ⊢
    rw [sortOrder_eq htxz]
    exact compare_trans (compare : Text → Text → Ordering) hxy hyz

end Value

end RecordSearch
