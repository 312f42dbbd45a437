import Mathlib.Data.Nat.Digits.Defs
import RecordSearch.Calendar.Layout
import RecordSearch.Proofs.Calendar.Span
import RecordSearch.Proofs.Number.Reading

/-!
# Dates and times in text

Different dates have different texts. Different times of day have too, with one exception: a leap
second that is not the last second of its minute is written like the second after it. What the text
of a time shows is the time `asWritten`. No layout reads a text as such a leap second.
-/

namespace RecordSearch

namespace Text

variable {m n width : ℕ}

theorem isDigit_of_mem_ofNat {c : Char} (hc : c ∈ ofNat n) : c.isDigit :=
  (all_digits_of_toNat? (toNat?_ofNat n)).2 c hc

theorem isDigit_of_mem_ofNatPadded {c : Char} (hc : c ∈ ofNatPadded width n) : c.isDigit := by
  rcases List.mem_append.mp hc with hc | hc
  · rw [List.eq_of_mem_replicate hc]
    rfl
  · exact isDigit_of_mem_ofNat hc

theorem not_mem_ofNatPadded {mark : Char} (hmark : mark.isDigit = false) :
    mark ∉ ofNatPadded width n := by
  intro hmem
  rw [isDigit_of_mem_ofNatPadded hmem] at hmark
  cases hmark

/-- Zeros in front do not change the value of digits. -/
theorem digitsValue_ofNatPadded (width n : ℕ) : digitsValue (ofNatPadded width n) = n := by
  have hzeros (count : ℕ) :
      (List.replicate count '0').foldl (fun n c ↦ 10 * n + (c.toNat - '0'.toNat)) 0 = 0 := by
    induction count with
    | zero => rfl
    | succ count ih => simpa [List.replicate_succ] using ih
  have hvalue : digitsValue (ofNat n) = n := Nat.ofDigitChars_ten_toDigits
  rw [ofNatPadded, digitsValue, List.foldl_append, hzeros]
  exact hvalue

theorem ofNatPadded_inj (h : ofNatPadded width m = ofNatPadded width n) : m = n := by
  rw [← digitsValue_ofNatPadded width m, h, digitsValue_ofNatPadded]

theorem length_ofNatPadded (hwidth : 0 < width) (h : n < 10 ^ width) :
    (ofNatPadded width n).length = width := by
  have hle : (ofNat n).length ≤ width := Nat.toDigits_length 10 n width hwidth h
  rw [ofNatPadded, List.length_append, List.length_replicate]
  omega

end Text

namespace Date

theorem renderYear_inj {y z : ℤ} (h : renderYear y = renderYear z) : y = z := by
  have hsign (x : ℤ) : (if x < 0 then '-' else '+').isDigit = false := by
    split <;> rfl
  -- A year with a sign begins with no digit.
  have hsigned {x : ℤ} {digits : Text} {n : ℕ} :
      Text.ofNatPadded 4 n ≠ (if x < 0 then '-' else '+') :: digits := by
    intro heq
    have hmem : (if x < 0 then '-' else '+') ∈ Text.ofNatPadded 4 n :=
      heq ▸ List.mem_cons_self
    exact Text.not_mem_ofNatPadded (hsign x) hmem
  by_cases hy : (0 ≤ y && y ≤ 9999) <;> by_cases hz : (0 ≤ z && z ≤ 9999) <;>
    simp only [renderYear, hy, hz, if_true, if_false, Bool.false_eq_true] at h
  · have hvalue : y.toNat = z.toNat := Text.ofNatPadded_inj h
    simp only [Bool.and_eq_true, decide_eq_true_eq] at hy hz
    omega
  · exact absurd h hsigned
  · exact absurd h.symm hsigned
  · obtain ⟨hsame, hdigits⟩ := List.cons.inj h
    have hvalue : y.natAbs = z.natAbs := Text.ofNatPadded_inj hdigits
    have hnegative : y < 0 ↔ z < 0 := by
      by_cases hy : y < 0 <;> by_cases hz : z < 0 <;> simp [hy, hz] at hsame ⊢
    omega

theorem render_inj {d e : Date} (h : d.render = e.render) : d = e := by
  have hlength (d : Date) : ('-' :: (Text.ofNatPadded 2 d.month ++
      '-' :: Text.ofNatPadded 2 d.day)).length = 6 := by
    obtain ⟨-, -, -, hmonth, -, hday⟩ := d.isReal
    have hbounds := daysInMonth_bounds d.year d.month
    rw [List.length_cons, List.length_append, List.length_cons,
      Text.length_ofNatPadded (by decide) (by omega),
      Text.length_ofNatPadded (by decide) (by omega)]
  have hmark {n : ℕ} : '-' ∉ Text.ofNatPadded 2 n := Text.not_mem_ofNatPadded rfl
  simp only [render, List.append_assoc, List.cons_append] at h
  obtain ⟨hyear, hrest⟩ := List.append_inj' h ((hlength d).trans (hlength e).symm)
  obtain ⟨hmonth, hday⟩ := Text.append_cons_inj hmark hmark (List.cons.inj hrest).2
  have hyear : d.year = e.year := renderYear_inj hyear
  have hmonth : d.month = e.month := Text.ofNatPadded_inj hmonth
  have hday : d.day = e.day := Text.ofNatPadded_inj hday
  cases d
  cases e
  simp_all

/-- A date is written in digits and signs. -/
theorem not_mem_render (d : Date) {mark : Char} (hdigit : mark.isDigit = false)
    (hminus : mark ≠ '-') (hplus : mark ≠ '+') : mark ∉ d.render := by
  have hyear : mark ∉ renderYear d.year := by
    unfold renderYear
    split
    · exact Text.not_mem_ofNatPadded hdigit
    · rw [List.mem_cons, not_or]
      refine ⟨?_, Text.not_mem_ofNatPadded hdigit⟩
      split
      · exact hminus
      · exact hplus
  simp [render, hyear, hminus, Text.not_mem_ofNatPadded hdigit]

end Date

attribute [ext] TimeOfDay

namespace TimeOfDay

variable {t u : TimeOfDay}

/-- The time that the text of a time shows. A leap second that is not the last second of its minute
shows as the second after it. -/
def asWritten (t : TimeOfDay) : TimeOfDay :=
  if h : nanosecondsPerSecond ≤ t.nanosecond ∧ t.second % 60 ≠ 59 then
    ⟨t.second + 1, t.nanosecond - nanosecondsPerSecond,
      by have := t.second_lt; unfold secondsPerDay at *; omega,
      by have := t.nanosecond_lt; omega⟩
  else t

/-- A leap second is as written if it is the last second of its minute. -/
theorem asWritten_eq_self_iff :
    t.asWritten = t ↔ (nanosecondsPerSecond ≤ t.nanosecond → t.second % 60 = 59) := by
  unfold asWritten
  split
  · rename_i h
    have hne : t.second + 1 ≠ t.second := by omega
    simp only [TimeOfDay.ext_iff, hne, false_and, false_iff]
    tauto
  · tauto

end TimeOfDay

namespace DateTime

/-- The date/time that the text of a date/time shows. -/
def asWritten (t : DateTime) : DateTime :=
  { t with time := t.time.asWritten }

end DateTime

section Reading

namespace TimeOfDay

variable {t : TimeOfDay}

theorem eq_of_of? {second nanosecond : ℕ} (h : of? second nanosecond = some t) :
    t.second = second ∧ t.nanosecond = nanosecond := by
  unfold of? at h
  split at h
  · split at h
    · cases h
      exact ⟨rfl, rfl⟩
    · cases h
  · cases h

/-- Second 60 of a clock is the last second of its minute. -/
theorem asWritten_of_ofClock? {hour minute second nanosecond : ℕ}
    (h : ofClock? hour minute second nanosecond = some t) : t.asWritten = t := by
  rw [asWritten_eq_self_iff]
  unfold ofClock? at h
  split at h
  · cases h
  · rename_i hbounds
    simp only [Bool.or_eq_true, decide_eq_true_eq, not_or, not_le] at hbounds
    split at h
    all_goals
      obtain ⟨hsecond, hnanosecond⟩ := eq_of_of? h
      omega

end TimeOfDay

/-- A date/time that is read by a layout is as written. -/
theorem Layout.asWritten_of_readDateTime? {layout : Layout} {s : Text} {t : DateTime}
    (h : layout.readDateTime? s = some t) : t.asWritten = t := by
  obtain ⟨f, -, hfields⟩ := Option.bind_eq_some_iff.mp h
  simp only [CalendarFields.dateTime?, Option.bind_eq_bind, Option.bind_eq_some_iff,
    Option.pure_def, Option.some.injEq] at hfields
  obtain ⟨date, -, time, htime, rfl⟩ := hfields
  exact congrArg (DateTime.mk date) (TimeOfDay.asWritten_of_ofClock? htime)

end Reading

end RecordSearch
