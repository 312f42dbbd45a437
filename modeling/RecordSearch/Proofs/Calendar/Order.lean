import RecordSearch.Calendar.DateTime

/-!
# The order of dates and times

Dates and times of day are compared field by field, so their orders are lexicographic and lawful,
and only equal dates compare as equal.
-/

namespace RecordSearch

theorem Date.order_eq_compareLex :
    Date.order = compareLex (compareOn Date.year)
      (compareLex (compareOn Date.month) (compareOn Date.day)) := rfl

instance : Std.TransOrd Date := by
  change Std.TransCmp Date.order
  rw [Date.order_eq_compareLex]
  infer_instance

theorem TimeOfDay.order_eq_compareLex :
    TimeOfDay.order = compareLex (compareOn TimeOfDay.second) (compareOn TimeOfDay.nanosecond) := rfl

instance : Std.TransOrd TimeOfDay := by
  change Std.TransCmp TimeOfDay.order
  rw [TimeOfDay.order_eq_compareLex]
  infer_instance

theorem DateTime.order_eq_compareLex :
    DateTime.order = compareLex (compareOn DateTime.date) (compareOn DateTime.time) := rfl

instance : Std.TransOrd DateTime := by
  change Std.TransCmp DateTime.order
  rw [DateTime.order_eq_compareLex]
  infer_instance

theorem Date.compare_eq_lt {a b : Date} : compare a b = .lt ↔
    a.year < b.year ∨ a.year = b.year ∧
      (a.month < b.month ∨ a.month = b.month ∧ a.day < b.day) := by
  change Date.order a b = .lt ↔ _
  simp only [Date.order, Ordering.then_eq_lt, Std.compare_eq_lt,
    Std.LawfulEqOrd.compare_eq_iff_eq]

theorem Date.compare_isLE {a b : Date} : (compare a b).isLE ↔
    a.year < b.year ∨ a.year = b.year ∧
      (a.month < b.month ∨ a.month = b.month ∧ a.day ≤ b.day) := by
  rw [Ordering.isLE_iff_ne_gt, Std.OrientedCmp.gt_iff_lt, Date.compare_eq_lt]
  omega

instance : Std.LawfulEqOrd Date where
  eq_of_compare {a b} h := by
    change Date.order a b = .eq at h
    simp only [Date.order, Ordering.then_eq_eq, Std.LawfulEqOrd.compare_eq_iff_eq] at h
    cases a
    cases b
    simpa using h

theorem TimeOfDay.compare_eq_lt {a b : TimeOfDay} : compare a b = .lt ↔
    a.second < b.second ∨ a.second = b.second ∧ a.nanosecond < b.nanosecond := by
  change TimeOfDay.order a b = .lt ↔ _
  simp only [TimeOfDay.order, Ordering.then_eq_lt, Std.compare_eq_lt,
    Std.LawfulEqOrd.compare_eq_iff_eq]

instance : Std.LawfulEqOrd TimeOfDay where
  eq_of_compare {a b} h := by
    change TimeOfDay.order a b = .eq at h
    simp only [TimeOfDay.order, Ordering.then_eq_eq, Std.LawfulEqOrd.compare_eq_iff_eq] at h
    cases a
    cases b
    simpa using h

theorem DateTime.compare_eq_lt {a b : DateTime} : compare a b = .lt ↔
    compare a.date b.date = .lt ∨ a.date = b.date ∧ compare a.time b.time = .lt := by
  change DateTime.order a b = .lt ↔ _
  simp only [DateTime.order, Ordering.then_eq_lt, Std.LawfulEqOrd.compare_eq_iff_eq]

instance : Std.LawfulEqOrd DateTime where
  eq_of_compare {a b} h := by
    change DateTime.order a b = .eq at h
    simp only [DateTime.order, Ordering.then_eq_eq, Std.LawfulEqOrd.compare_eq_iff_eq] at h
    cases a
    cases b
    simpa using h

end RecordSearch
