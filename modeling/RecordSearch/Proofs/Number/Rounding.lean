import Mathlib.Algebra.Order.Field.Power
import Mathlib.Tactic.Positivity
import RecordSearch.Proofs.Number.Order

/-!
# Rounding integers

An integer is rounded to a multiple of a power of two that depends on its length in bits. Rounding is
monotone: within one length the multiples keep the order, and across lengths the power of two between
them is itself a number of the format.
-/

namespace RecordSearch

theorem roundRatio_le_succ (num den : ℕ) : roundRatio num den ≤ num / den + 1 := by
  unfold roundRatio
  dsimp only
  split_ifs <;> omega

theorem div_le_roundRatio (num den : ℕ) : num / den ≤ roundRatio num den := by
  unfold roundRatio
  dsimp only
  split_ifs <;> omega

theorem roundRatio_mono {num num' den : ℕ} (h : num ≤ num') :
    roundRatio num den ≤ roundRatio num' den := by
  have hquotient : num / den ≤ num' / den := Nat.div_le_div_right h
  by_cases hsame : num / den = num' / den
  · have hnum := Nat.div_add_mod num den
    have hnum' := Nat.div_add_mod num' den
    rw [hsame] at hnum
    unfold roundRatio
    dsimp only
    rw [hsame]
    split_ifs <;> omega
  · have hupper := roundRatio_le_succ num den
    have hlower := div_le_roundRatio num' den
    omega

/-- A natural number in units that cut its binary length down to `k + 1` bits. -/
theorem scaleRatio_binade {n : ℕ} (hn : n ≠ 0) (k : ℕ) :
    2 ^ k ≤ (scaleRatio 2 n 1 (n.log2 - k)).1 / (scaleRatio 2 n 1 (n.log2 - k)).2 ∧
      (scaleRatio 2 n 1 (n.log2 - k)).1 / (scaleRatio 2 n 1 (n.log2 - k)).2 < 2 ^ (k + 1) := by
  have hlow : 2 ^ n.log2 ≤ n := Nat.log2_self_le hn
  have hhigh : n < 2 ^ (n.log2 + 1) := Nat.lt_log2_self
  unfold scaleRatio
  split_ifs with h
  · obtain ⟨d, hd⟩ : ∃ d : ℕ, n.log2 = k + d := ⟨n.log2 - k, by omega⟩
    have hexponent : ((n.log2 : ℤ) - k).toNat = d := by omega
    simp only [hexponent, Nat.pow_eq, one_mul]
    rw [hd] at hlow hhigh
    constructor
    · rw [Nat.le_div_iff_mul_le (by positivity), ← pow_add]
      exact hlow
    · rw [Nat.div_lt_iff_lt_mul (by positivity), ← pow_add]
      rwa [show k + 1 + d = k + d + 1 by omega]
  · obtain ⟨d, hd⟩ : ∃ d : ℕ, k = n.log2 + d := ⟨k - n.log2, by omega⟩
    have hexponent : (-((n.log2 : ℤ) - k)).toNat = d := by omega
    simp only [hexponent, Nat.pow_eq, Nat.div_one]
    rw [hd]
    constructor
    · rw [pow_add]
      exact Nat.mul_le_mul_right _ hlow
    · rw [show n.log2 + d + 1 = n.log2 + 1 + d by omega, pow_add]
      exact Nat.mul_lt_mul_of_pos_right hhigh (by positivity)

theorem scaleRatio_mono {m n : ℕ} (exponent : ℤ) (h : m ≤ n) :
    (scaleRatio 2 m 1 exponent).1 ≤ (scaleRatio 2 n 1 exponent).1 ∧
      (scaleRatio 2 m 1 exponent).2 = (scaleRatio 2 n 1 exponent).2 := by
  unfold scaleRatio
  split_ifs
  · exact ⟨h, rfl⟩
  · exact ⟨Nat.mul_le_mul_right _ h, rfl⟩

namespace Binary

theorem unitExponent_double {n : ℕ} (hn : n ≠ 0) :
    unitExponent Format.double n 1 = n.log2 - 52 := by
  have hfull : 2 ^ 53 ≤
      (scaleRatio 2 n 1 (n.log2 - 53)).1 / (scaleRatio 2 n 1 (n.log2 - 53)).2 :=
    (scaleRatio_binade hn 53).1
  have hlog : Nat.log2 1 = 0 := by decide
  simp only [unitExponent, Format.double, hlog, Nat.pow_eq, Nat.cast_zero, sub_zero, Nat.cast_ofNat]
  rw [if_neg hfull.not_gt]
  omega

/-- The rounded significand of a natural number, before a carry is taken out of it. -/
def integerSignificand (n : ℕ) : ℕ :=
  let scaled := scaleRatio 2 n 1 (n.log2 - 52)
  roundRatio scaled.1 scaled.2

/-- The double that a natural number is rounded to, if there were no greatest one. -/
def roundedNat (n : ℕ) : ℚ :=
  integerSignificand n * 2 ^ ((n.log2 : ℤ) - 52)

theorem integerSignificand_bounds {n : ℕ} (hn : n ≠ 0) :
    2 ^ 52 ≤ integerSignificand n ∧ integerSignificand n ≤ 2 ^ 53 := by
  have hbinade := scaleRatio_binade hn 52
  have hlower := div_le_roundRatio (scaleRatio 2 n 1 (n.log2 - 52)).1
    (scaleRatio 2 n 1 (n.log2 - 52)).2
  have hupper := roundRatio_le_succ (scaleRatio 2 n 1 (n.log2 - 52)).1
    (scaleRatio 2 n 1 (n.log2 - 52)).2
  exact ⟨hbinade.1.trans hlower, hupper.trans hbinade.2⟩

/-- Rounding does not leave the two powers of two around a number. -/
theorem roundedNat_bounds {n : ℕ} (hn : n ≠ 0) :
    (2 : ℚ) ^ n.log2 ≤ roundedNat n ∧ roundedNat n ≤ 2 ^ (n.log2 + 1) := by
  obtain ⟨hlow, hhigh⟩ := integerSignificand_bounds hn
  have hunit : (0 : ℚ) < 2 ^ ((n.log2 : ℤ) - 52) := by positivity
  have hsplit (k : ℕ) : (2 : ℚ) ^ (52 + k) * 2 ^ ((n.log2 : ℤ) - 52) = 2 ^ (n.log2 + k) := by
    rw [← zpow_natCast, ← zpow_natCast, ← zpow_add₀ two_ne_zero]
    congr 1
    push_cast
    ring
  constructor
  · calc
      (2 : ℚ) ^ n.log2 = 2 ^ 52 * 2 ^ ((n.log2 : ℤ) - 52) := (hsplit 0).symm
      _ ≤ _ := mul_le_mul_of_nonneg_right (by exact_mod_cast hlow) hunit.le
  · calc
      _ ≤ 2 ^ 53 * (2 : ℚ) ^ ((n.log2 : ℤ) - 52) :=
        mul_le_mul_of_nonneg_right (by exact_mod_cast hhigh) hunit.le
      _ = 2 ^ (n.log2 + 1) := hsplit 1

theorem roundedNat_zero : roundedNat 0 = 0 := by
  have h : integerSignificand 0 = 0 := by decide
  rw [roundedNat, h, Nat.cast_zero, zero_mul]

theorem roundedNat_nonneg (n : ℕ) : 0 ≤ roundedNat n :=
  mul_nonneg (Nat.cast_nonneg _) (by positivity)

theorem roundedNat_mono {m n : ℕ} (h : m ≤ n) : roundedNat m ≤ roundedNat n := by
  by_cases hm : m = 0
  · rw [hm, roundedNat_zero]
    exact roundedNat_nonneg n
  have hn : n ≠ 0 := by omega
  have hlog : m.log2 ≤ n.log2 := (Nat.le_log2 hn).mpr ((Nat.log2_self_le hm).trans h)
  rcases hlog.lt_or_eq with hlt | heq
  · calc
      roundedNat m ≤ 2 ^ (m.log2 + 1) := (roundedNat_bounds hm).2
      _ ≤ 2 ^ n.log2 := pow_le_pow_right₀ (by norm_num) hlt
      _ ≤ roundedNat n := (roundedNat_bounds hn).1
  · have hsignificand : integerSignificand m ≤ integerSignificand n := by
      obtain ⟨hnum, hden⟩ := scaleRatio_mono (m := m) ((n.log2 : ℤ) - 52) h
      unfold integerSignificand
      dsimp only
      rw [heq, hden]
      exact roundRatio_mono hnum
    unfold roundedNat
    rw [heq]
    exact mul_le_mul_of_nonneg_right (by exact_mod_cast hsignificand) (by positivity)

/-- A magnitude that is infinite from `2 ^ 1024` on. -/
noncomputable def bounded (x : ℚ) : EReal :=
  if 2 ^ 1024 ≤ x then ⊤ else (x : ℝ)

theorem bounded_zero : bounded 0 = 0 := by
  rw [bounded, if_neg (not_le.mpr (by positivity)), Rat.cast_zero, EReal.coe_zero]

theorem bounded_mono {x y : ℚ} (h : x ≤ y) : bounded x ≤ bounded y := by
  unfold bounded
  split_ifs with hx hy hy
  · exact le_rfl
  · exact absurd (hx.trans h) hy
  · exact le_top
  · exact EReal.coe_le_coe_iff.mpr (Rat.cast_le.mpr h)

/-- A full-length significand overflows exactly where its exponent does. -/
theorem overflow_iff {significand : ℕ} (hlow : 2 ^ 52 ≤ significand) (hhigh : significand < 2 ^ 53)
    (exponent : ℤ) : 971 < exponent ↔ 2 ^ 1024 ≤ (significand : ℚ) * 2 ^ exponent := by
  have hunit : (0 : ℚ) < 2 ^ exponent := by positivity
  have hpower (k : ℕ) : (2 : ℚ) ^ k * 2 ^ exponent = 2 ^ (k + exponent) := by
    rw [← zpow_natCast, ← zpow_add₀ two_ne_zero]
  have hlimit : (2 : ℚ) ^ 1024 = 2 ^ (1024 : ℤ) := (zpow_natCast _ _).symm
  constructor
  · intro h
    calc
      (2 : ℚ) ^ 1024 ≤ 2 ^ ((52 : ℕ) + exponent) := by
        rw [hlimit]
        exact zpow_le_zpow_right₀ (by norm_num) (by omega)
      _ = 2 ^ 52 * 2 ^ exponent := (hpower 52).symm
      _ ≤ _ := mul_le_mul_of_nonneg_right (by exact_mod_cast hlow) hunit.le
  · intro h
    have hlt : (2 : ℚ) ^ (1024 : ℤ) < 2 ^ ((53 : ℕ) + exponent) := by
      rw [← hlimit, ← hpower 53]
      exact h.trans_lt (mul_lt_mul_of_pos_right (by exact_mod_cast hhigh) hunit)
    have := (zpow_lt_zpow_iff_right₀ (by norm_num : (1 : ℚ) < 2)).mp hlt
    omega

/-- A number with a full-length significand, unless its exponent is too great. -/
def ofParts (negative : Bool) (significand : ℕ) (exponent : ℤ) : Double :=
  if 971 < exponent then .infinite negative else .finite negative significand exponent

theorem toEReal_ofParts (negative : Bool) {significand : ℕ} (hlow : 2 ^ 52 ≤ significand)
    (hhigh : significand < 2 ^ 53) (exponent : ℤ) :
    (ofParts negative significand exponent).toEReal =
      if negative then -bounded (significand * 2 ^ exponent)
      else bounded (significand * 2 ^ exponent) := by
  unfold ofParts bounded
  by_cases h : 971 < exponent
  · rw [if_pos h, if_pos ((overflow_iff hlow hhigh exponent).mp h), EReal.neg_top]
    rfl
  · rw [if_neg h, if_neg (mt (overflow_iff hlow hhigh exponent).mpr h)]
    simp only [toEReal, finiteValue_eq]
    cases negative
    · simp
    · simp

theorem ofRatio_one (negative : Bool) {n : ℕ} (hn : n ≠ 0) :
    (ofRatio negative n 1 : Double) =
      if integerSignificand n = 2 ^ 53 then ofParts negative (2 ^ 52) (n.log2 - 52 + 1)
      else ofParts negative (integerSignificand n) (n.log2 - 52) := by
  have hpos : integerSignificand n ≠ 0 := by
    have := (integerSignificand_bounds hn).1
    omega
  have hsignificand : roundRatio (scaleRatio 2 n 1 (n.log2 - 52)).1
      (scaleRatio 2 n 1 (n.log2 - 52)).2 = integerSignificand n := rfl
  unfold ofRatio
  dsimp only
  rw [if_neg hn, unitExponent_double hn, hsignificand]
  by_cases hcarry : integerSignificand n = 2 ^ 53
  · rw [hcarry]
    rfl
  · have hsame : (integerSignificand n == Nat.pow 2 Format.double.precision) = false :=
      beq_false_of_ne hcarry
    rw [hsame, if_neg hcarry]
    simp only [Bool.false_eq_true, if_false]
    rw [if_neg hpos]
    rfl

theorem toEReal_ofRatio_one (negative : Bool) (n : ℕ) :
    (ofRatio negative n 1 : Double).toEReal =
      if negative then -bounded (roundedNat n) else bounded (roundedNat n) := by
  by_cases hn : n = 0
  · subst hn
    rw [roundedNat_zero, bounded_zero]
    cases negative <;> simp [ofRatio, zero, toEReal, finiteValue_eq]
  · obtain ⟨hlow, hhigh⟩ := integerSignificand_bounds hn
    rw [ofRatio_one negative hn]
    by_cases hcarry : integerSignificand n = 2 ^ 53
    · have hvalue : ((2 ^ 52 : ℕ) : ℚ) * 2 ^ ((n.log2 : ℤ) - 52 + 1) = roundedNat n := by
        unfold roundedNat
        rw [hcarry, zpow_add_one₀ two_ne_zero]
        push_cast
        ring
      rw [if_pos hcarry, toEReal_ofParts negative le_rfl (by norm_num), hvalue]
    · rw [if_neg hcarry]
      exact toEReal_ofParts negative hlow (lt_of_le_of_ne hhigh hcarry) _

theorem ofInt_ne_nan (n : ℤ) : (ofInt n : Double) ≠ .nan := by
  unfold ofInt ofRatio
  dsimp only
  split_ifs <;> exact fun h ↦ by cases h

theorem toEReal_ofInt_natCast (n : ℕ) : (ofInt n : Double).toEReal = bounded (roundedNat n) := by
  have hsign : decide ((n : ℤ) < 0) = false := by simp
  rw [ofInt, toEReal_ofRatio_one, hsign, Int.natAbs_natCast]
  rfl

theorem toEReal_ofInt_neg_natCast (n : ℕ) :
    (ofInt (-n) : Double).toEReal = -bounded (roundedNat n) := by
  rw [ofInt, toEReal_ofRatio_one, Int.natAbs_neg, Int.natAbs_natCast]
  by_cases hn : n = 0
  · simp [hn, roundedNat_zero, bounded_zero]
  · rw [if_pos (by simp; omega)]

/-- A greater integer is never rounded to a smaller number. -/
theorem toEReal_ofInt_mono {m n : ℤ} (h : m ≤ n) :
    (ofInt m : Double).toEReal ≤ (ofInt n : Double).toEReal := by
  have hnonneg (k : ℕ) : 0 ≤ bounded (roundedNat k) := by
    rw [← bounded_zero]
    exact bounded_mono (roundedNat_nonneg k)
  obtain ⟨a, rfl | rfl⟩ := m.eq_nat_or_neg <;> obtain ⟨b, rfl | rfl⟩ := n.eq_nat_or_neg
  · rw [toEReal_ofInt_natCast, toEReal_ofInt_natCast]
    exact bounded_mono (roundedNat_mono (by omega))
  · have hzero : a = 0 ∧ b = 0 := by omega
    simp [hzero]
  · rw [toEReal_ofInt_natCast, toEReal_ofInt_neg_natCast]
    exact (EReal.neg_le_zero.mpr (hnonneg a)).trans (hnonneg b)
  · rw [toEReal_ofInt_neg_natCast, toEReal_ofInt_neg_natCast, EReal.neg_le_neg_iff]
    exact bounded_mono (roundedNat_mono (by omega))

end Binary

end RecordSearch
