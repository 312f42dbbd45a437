import Mathlib.Data.EReal.Operations
import RecordSearch.Number.Binary

/-!
# The order of binary numbers

Every binary number except a NaN stands for an extended real, and the numeric order of binary numbers
is the order of what they stand for.
-/

namespace RecordSearch

theorem scaleRatio_value (num den : ℕ) (exponent : ℤ) :
    ((scaleRatio 2 num den exponent).1 : ℚ) / (scaleRatio 2 num den exponent).2 =
      num / den / 2 ^ exponent := by
  unfold scaleRatio
  split_ifs with h
  · have hexponent : (2 : ℚ) ^ exponent = 2 ^ exponent.toNat := by
      rw [← zpow_natCast, Int.toNat_of_nonneg h]
    simp only [hexponent, Nat.pow_eq]
    push_cast
    rw [div_div]
  · have hexponent : (2 : ℚ) ^ exponent = (2 ^ (-exponent).toNat)⁻¹ := by
      rw [← zpow_natCast, Int.toNat_of_nonneg (by omega), ← zpow_neg, neg_neg]
    simp only [hexponent, div_inv_eq_mul, Nat.pow_eq]
    push_cast
    ring

namespace Binary

variable {format : Format}

theorem finiteValue_eq (negative : Bool) (significand : ℕ) (exponent : ℤ) :
    finiteValue negative significand exponent =
      (if negative then -1 else 1) * (significand * (2 : ℚ) ^ exponent) := by
  have hvalue := scaleRatio_value significand 1 (-exponent)
  rw [zpow_neg, div_inv_eq_mul, Nat.cast_one, div_one] at hvalue
  unfold finiteValue magnitude
  rw [← hvalue, Rat.mkRat_eq_div]
  cases negative
  · simp
  · simp [neg_div]

/-- The extended real that a number stands for. A NaN stands for none. -/
noncomputable def toEReal : Binary format → EReal
  | .nan => 0
  | .infinite negative => if negative then ⊥ else ⊤
  | .finite negative significand exponent => ((finiteValue negative significand exponent : ℚ) : ℝ)

/-- Away from NaNs the numeric order is that of the extended reals. -/
theorem order?_eq_compare {x y : Binary format} (hx : x ≠ .nan) (hy : y ≠ .nan) :
    x.order? y = some (compare x.toEReal y.toEReal) := by
  have hlt {a b : EReal} (h : a < b) : compare a b = .lt := compare_lt_iff_lt.mpr h
  have hgt {a b : EReal} (h : b < a) : compare a b = .gt := compare_gt_iff_gt.mpr h
  have heq (a : EReal) : compare a a = .eq := compare_eq_iff_eq.mpr rfl
  cases x with
  | nan => exact absurd rfl hx
  | infinite a =>
    cases y with
    | nan => exact absurd rfl hy
    | infinite b =>
      cases a <;> cases b
      · exact congrArg some (heq _).symm
      · exact congrArg some (hgt bot_lt_top).symm
      · exact congrArg some (hlt bot_lt_top).symm
      · exact congrArg some (heq _).symm
    | finite =>
      cases a
      · exact congrArg some (hgt (EReal.coe_lt_top _)).symm
      · exact congrArg some (hlt (EReal.bot_lt_coe _)).symm
  | finite n₁ s₁ e₁ =>
    cases y with
    | nan => exact absurd rfl hy
    | infinite b =>
      cases b
      · exact congrArg some (hlt (EReal.coe_lt_top _)).symm
      · exact congrArg some (hgt (EReal.bot_lt_coe _)).symm
    | finite n₂ s₂ e₂ =>
      refine congrArg some (Eq.symm ?_)
      rcases lt_trichotomy (finiteValue n₁ s₁ e₁) (finiteValue n₂ s₂ e₂) with h | h | h
      · rw [if_pos h]
        exact hlt (EReal.coe_lt_coe_iff.mpr (Rat.cast_lt.mpr h))
      · rw [if_neg h.not_lt, if_pos h]
        simp only [toEReal, h]
        exact heq _
      · rw [if_neg h.not_gt, if_neg h.ne']
        exact hgt (EReal.coe_lt_coe_iff.mpr (Rat.cast_lt.mpr h))

theorem order?_swap (x y : Binary format) : y.order? x = (x.order? y).map Ordering.swap := by
  by_cases hx : x = .nan
  · subst hx
    cases y <;> rfl
  · by_cases hy : y = .nan
    · subst hy
      cases x <;> rfl
    · rw [order?_eq_compare hx hy, order?_eq_compare hy hx]
      exact congrArg some Std.OrientedOrd.eq_swap

end Binary

end RecordSearch
