import Mathlib.Data.Char
import RecordSearch.Proofs.Record.Order

/-!
# Kinds of values

Integers, texts, truth values, and dates with date/times are kinds of values that each have a strict
order. Any three values of one kind are compared by one notion of order, and that notion is the
strict order of the kind.
-/

namespace RecordSearch

/-- Texts are compared as lists are ordered, by their first difference. -/
theorem Text.compare_eq_lt {s t : Text} : compare s t = .lt ↔ s < t := by
  induction s generalizing t with
  | nil => cases t <;> simp [compare, List.compareLex]
  | cons c s ih =>
    cases t with
    | nil => simp [compare, List.compareLex]
    | cons d t =>
      rw [List.compare_cons_cons, Ordering.then_eq_lt, ih, compare_lt_iff_lt,
        Std.LawfulEqOrd.compare_eq_iff_eq, List.cons_lt_cons_iff]

namespace Value

inductive Kind where
  | integer
  | text
  | boolean
  /-- Dates, and dates with a time. -/
  | moment
  deriving DecidableEq, Repr

/-- A value that is missing or of a kind. -/
inductive HasKind : Kind → Value → Prop
  | null (kind : Kind) : HasKind kind .null
  | integer (n : ℤ) : HasKind .integer (.integer n)
  | text (s : Text) : HasKind .text (.text s)
  | boolean (b : Bool) : HasKind .boolean (.boolean b)
  | date (d : Date) : HasKind .moment (.date d)
  | dateTime (t : DateTime) : HasKind .moment (.dateTime t)

/-- The strict order of each kind: integers by size, texts code point by code point, `false` before
`true`, and dates by the moment at which they begin. -/
def Less : Value → Value → Prop
  | .integer m, .integer n => m < n
  | .text s, .text t => s < t
  | .boolean a, .boolean b => a < b
  | x, y => ∃ t ∈ x.moment?, ∃ u ∈ y.moment?, compare t u = .lt

variable {kind : Kind} {x y z : Value}

theorem not_less_null_left : ¬ Less .null y := by
  cases y <;> simp [Less, moment?]

theorem not_less_null_right : ¬ Less x .null := by
  cases x <;> simp [Less, moment?]

theorem less_moments {t u : DateTime} (hx : x.moment? = some t) (hy : y.moment? = some u) :
    x.Less y ↔ compare t u = .lt := by
  cases x <;> simp only [moment?, Option.some.injEq, reduceCtorEq] at hx <;>
    cases y <;> simp only [moment?, Option.some.injEq, reduceCtorEq] at hy <;>
    subst hx hy <;> simp [Less, moment?]

theorem HasKind.exists_integer (h : HasKind .integer x) (hx : x ≠ .null) :
    ∃ n, x = .integer n := by
  cases h with
  | null => exact absurd rfl hx
  | integer n => exact ⟨n, rfl⟩

theorem HasKind.exists_text (h : HasKind .text x) (hx : x ≠ .null) : ∃ s, x = .text s := by
  cases h with
  | null => exact absurd rfl hx
  | text s => exact ⟨s, rfl⟩

theorem HasKind.exists_boolean (h : HasKind .boolean x) (hx : x ≠ .null) :
    ∃ b, x = .boolean b := by
  cases h with
  | null => exact absurd rfl hx
  | boolean b => exact ⟨b, rfl⟩

theorem HasKind.exists_moment (h : HasKind .moment x) (hx : x ≠ .null) :
    ∃ t, x.moment? = some t := by
  cases h with
  | null => exact absurd rfl hx
  | date d => exact ⟨_, rfl⟩
  | dateTime t => exact ⟨_, rfl⟩

/-- Values of one kind are sorted by the order of the kind. -/
theorem sortOrder_eq_lt_iff (hx : HasKind kind x) (hy : HasKind kind y) (hx' : x ≠ .null)
    (hy' : y ≠ .null) : sortOrder x y = .lt ↔ x.Less y := by
  cases kind with
  | integer =>
    obtain ⟨m, rfl⟩ := hx.exists_integer hx'
    obtain ⟨n, rfl⟩ := hy.exists_integer hy'
    exact compare_lt_iff_lt
  | text =>
    obtain ⟨s, rfl⟩ := hx.exists_text hx'
    obtain ⟨t, rfl⟩ := hy.exists_text hy'
    exact Text.compare_eq_lt
  | boolean =>
    obtain ⟨a, rfl⟩ := hx.exists_boolean hx'
    obtain ⟨b, rfl⟩ := hy.exists_boolean hy'
    have hall : ∀ a b : Bool, compare a.toNat b.toNat = .lt ↔ a < b := by decide
    exact hall a b
  | moment =>
    obtain ⟨t, ht⟩ := hx.exists_moment hx'
    obtain ⟨u, hu⟩ := hy.exists_moment hy'
    rw [sortOrder_eq (order?_moments ht hu), less_moments ht hu]

/-- Three values of one kind are compared by one notion of order. -/
theorem shareOrder_of_hasKind (hx : HasKind kind x) (hy : HasKind kind y) (hz : HasKind kind z) :
    ShareOrder x y z := by
  by_cases hx' : x = .null
  · exact .inl hx'
  by_cases hy' : y = .null
  · exact .inr (.inl hy')
  by_cases hz' : z = .null
  · exact .inr (.inr (.inl hz'))
  have hall {p : Value → Prop} (hx : p x) (hy : p y) (hz : p z) : ∀ v ∈ [x, y, z], p v := by
    simp [hx, hy, hz]
  cases kind with
  | integer =>
    obtain ⟨l, rfl⟩ := hx.exists_integer hx'
    obtain ⟨m, rfl⟩ := hy.exists_integer hy'
    obtain ⟨n, rfl⟩ := hz.exists_integer hz'
    have hnumber (k : ℤ) : (Value.integer k).double?.any (· ≠ .nan) := by
      simp [double?, Binary.ofInt_ne_nan]
    exact .inr (.inr (.inr (.inl ⟨hall (hnumber l) (hnumber m) (hnumber n), id, id, id⟩)))
  | text =>
    obtain ⟨s, rfl⟩ := hx.exists_text hx'
    obtain ⟨t, rfl⟩ := hy.exists_text hy'
    apply shareOrder_of_apart
    simp [double?, moment?]
  | boolean =>
    obtain ⟨a, rfl⟩ := hx.exists_boolean hx'
    obtain ⟨b, rfl⟩ := hy.exists_boolean hy'
    apply shareOrder_of_apart
    simp [double?, moment?]
  | moment =>
    refine .inr (.inr (.inr (.inr (.inl (hall ?_ ?_ ?_)))))
    · exact Option.isSome_iff_exists.mpr (hx.exists_moment hx')
    · exact Option.isSome_iff_exists.mpr (hy.exists_moment hy')
    · exact Option.isSome_iff_exists.mpr (hz.exists_moment hz')

end Value

end RecordSearch
