import RecordSearch.Proofs.Calendar.Form
import RecordSearch.Proofs.Number.Reading
import RecordSearch.Proofs.Text.Grammar

/-!
# Reading written dates

The readers of dates are lenient, but on a written date each of them either takes it as it is
written or fails. Only ASCII digits are read, and a time behind `T` only after a day with its year
first.
-/

namespace RecordSearch

open Grammar (Run)

namespace Text

theorem digitZeros_not_blank : ∀ first ∈ digitZeros, first = 0x30 ∨
    0xA0 < first ∧ first + 9 < 0x1680 ∨ 0x1680 < first ∧ first + 9 < 0x2000 ∨ 0x3000 < first := by
  decide

/-- A digit of any script is an ASCII digit or no ASCII character, and never blank. -/
theorem isDigit_cases {c : Char} (hc : isDigit c) :
    (c.isDigit ∨ 0x80 < c.toNat) ∧ isBlank c = false := by
  obtain ⟨first, hfirst, hrange⟩ := List.any_eq_true.mp hc
  have hfirst := digitZeros_not_blank first hfirst
  have hrange : first ≤ c.toNat ∧ c.toNat ≤ first + 9 := by simpa using hrange
  constructor
  · rcases hfirst with rfl | hfirst
    · left
      simp only [Char.isDigit, Bool.and_eq_true, decide_eq_true_eq, UInt32.le_iff_toNat_le]
      exact ⟨hrange.1, hrange.2⟩
    · right
      omega
  · simp only [isBlank, Bool.or_eq_false_iff, Bool.and_eq_false_iff, decide_eq_false_iff_not,
      beq_eq_false_iff_ne]
    omega

theorem not_isBlank_of_isDigit {c : Char} (hc : c.isDigit) : isBlank c = false :=
  (isDigit_cases (Grammar.isDigit_of_ascii hc)).2

section Digits

variable {digits : Text} (hdigits : ∀ c ∈ digits, c.isDigit)
include hdigits

theorem not_mem_digits {mark : Char} (hmark : mark.isDigit = false) : mark ∉ digits := by
  intro hmem
  rw [hdigits mark hmem] at hmark
  cases hmark

theorem byteLength_digits : byteLength digits = digits.length := by
  have hsize : ∀ c ∈ digits, c.utf8Size = 1 := by
    intro c hc
    have hdigit := hdigits c hc
    simp only [Char.isDigit, Bool.and_eq_true, decide_eq_true_eq, UInt32.le_iff_toNat_le] at hdigit
    have hle : c.val ≤ 0x7F := by
      rw [UInt32.le_iff_toNat_le]
      exact hdigit.2.trans (by decide)
    simp [Char.utf8Size, hle]
  have hfold (n : ℕ) : digits.foldl (fun n c ↦ n + c.utf8Size) n = n + digits.length := by
    clear hdigits
    induction digits generalizing n with
    | nil => rfl
    | cons c digits ih =>
      rw [List.foldl_cons, ih fun d hd ↦ hsize d (List.mem_cons_of_mem c hd),
        hsize c List.mem_cons_self, List.length_cons]
      omega
  simpa [byteLength] using hfold 0

end Digits

end Text

/-- A number with few digits is small. -/
theorem Grammar.Run.value_lt {low high : ℕ} {digits : Text}
    (hdigits : Run Char.isDigit low high digits) :
    digitsValue digits < 10 ^ high := by
  calc
    digitsValue digits < 10 ^ digits.length := digitsValue_lt hdigits.2.2
    _ ≤ 10 ^ high := Nat.pow_le_pow_right (by decide) hdigits.2.1

namespace Layout

variable {digits rest : Text} {f : CalendarFields} {items : Layout}

/-- A number is not blank at its start and has no sign. -/
theorem exists_digit_cons (hne : digits ≠ []) (hall : ∀ c ∈ digits, c.isDigit) (rest : Text) :
    ∃ c s, digits ++ rest = c :: s ∧ c.isDigit := by
  cases digits with
  | nil => exact absurd rfl hne
  | cons c digits => exact ⟨c, digits ++ rest, rfl, hall c List.mem_cons_self⟩

theorem trimStart_digit {c : Char} (hc : c.isDigit) (s : Text) :
    Text.trimStart (c :: s) = c :: s := by
  simp [Text.trimStart, Text.not_isBlank_of_isDigit hc]

theorem head?_mark {mark : Char} (hmark : mark.isDigit = false) (s : Text) :
    ∀ c ∈ (mark :: s).head?, c.isDigit = false := by
  intro c hc
  obtain rfl : mark = c := by simpa using hc
  exact hmark

theorem ne_of_isDigit {c mark : Char} (hc : c.isDigit) (hmark : mark.isDigit = false) :
    c ≠ mark := by
  rintro rfl
  rw [hc] at hmark
  cases hmark

theorem readDigits?_append {width : ℕ} (hdigits : Run Char.isDigit 1 width digits)
    (hrest : digits.length = width ∨ ∀ c ∈ rest.head?, c.isDigit = false) :
    readDigits? width (digits ++ rest) = some (digitsValue digits, rest) := by
  obtain ⟨hlow, hhigh, hall⟩ := hdigits
  have hnone : (rest.take (width - digits.length)).takeWhile Char.isDigit = [] := by
    rcases hrest with heq | hhead
    · simp [heq]
    · cases rest with
      | nil => simp
      | cons c rest =>
        have hc : c.isDigit = false := hhead c rfl
        cases width - digits.length <;> simp [hc]
  have htake : ((digits ++ rest).take width).takeWhile Char.isDigit = digits := by
    rw [List.take_append, List.take_of_length_le hhigh, List.takeWhile_append_of_pos hall, hnone,
      List.append_nil]
  have hne : digits.isEmpty = false := by
    cases digits with
    | nil => simp at hlow
    | cons c digits => rfl
  simp [readDigits?, htake, hne]

theorem readSmall?_append (hdigits : Run Char.isDigit 1 2 digits)
    (hrest : digits.length = 2 ∨ ∀ c ∈ rest.head?, c.isDigit = false) :
    readSmall? (digits ++ rest) = some (digitsValue digits, rest) := by
  have hne : digits ≠ [] := List.ne_nil_of_length_pos hdigits.1
  have hread := readDigits?_append hdigits hrest
  obtain ⟨c, s, heq, hc⟩ := exists_digit_cons hne hdigits.2.2 rest
  rw [heq] at hread ⊢
  rw [readSmall?, trimStart_digit hc, hread]

theorem readYear?_append (hdigits : Run Char.isDigit 1 4 digits)
    (hrest : digits.length = 4 ∨ ∀ c ∈ rest.head?, c.isDigit = false) :
    readYear? (digits ++ rest) = some ((digitsValue digits : ℤ), rest) := by
  have hne : digits ≠ [] := List.ne_nil_of_length_pos hdigits.1
  have hread := readDigits?_append hdigits hrest
  obtain ⟨c, s, heq, hc⟩ := exists_digit_cons hne hdigits.2.2 rest
  have hminus : c ≠ '-' := ne_of_isDigit hc rfl
  have hplus : c ≠ '+' := ne_of_isDigit hc rfl
  rw [heq] at hread ⊢
  simp [readYear?, trimStart_digit hc, hminus, hplus, hread]

theorem readSmall?_eq_none (h : ∀ c ∈ (Text.trimStart rest).head?, c.isDigit = false) :
    readSmall? rest = none := by
  rw [readSmall?]
  cases hrest : Text.trimStart rest with
  | nil => rfl
  | cons c s =>
    rw [hrest] at h
    have hc : c.isDigit = false := h c rfl
    simp [readDigits?, hc]

section Days

variable {year : Text}

/-- The first two of four digits are read, and the third is no point. -/
theorem exists_readSmall? (hyear : Run Char.isDigit 4 4 year) (rest : Text) :
    ∃ n c s, readSmall? (year ++ rest) = some (n, c :: s) ∧ c.isDigit := by
  obtain ⟨hlow, hhigh, hall⟩ := hyear
  have hfirst : Run Char.isDigit 1 2 (year.take 2) :=
    ⟨by simp; omega, by simp, fun c hc ↦ hall c (List.mem_of_mem_take hc)⟩
  have hlast : year.drop 2 ≠ [] := List.ne_nil_of_length_pos (by simp; omega)
  obtain ⟨c, s, heq, hc⟩ :=
    exists_digit_cons hlast (fun c hc ↦ hall c (List.mem_of_mem_drop hc)) rest
  refine ⟨digitsValue (year.take 2), c, s, ?_, hc⟩
  rw [← heq, ← readSmall?_append hfirst (.inl (by simp; omega)), ← List.append_assoc,
    List.take_append_drop]

theorem readFrom?_dayFirst_year (hyear : Run Char.isDigit 4 4 year) (items : Layout)
    (rest : Text) : readFrom? (dayFirst ++ items) f (year ++ rest) = none := by
  obtain ⟨n, c, s, hread, hc⟩ := exists_readSmall? hyear rest
  simp [dayFirst, readFrom?, readItem?, hread, ne_of_isDigit hc]

theorem readFrom?_dayFirst_month (hmonth : Run Char.isDigit 1 2 digits)
    (hyear : Run Char.isDigit 4 4 year) (items : Layout) :
    readFrom? (dayFirst ++ items) f (digits ++ '.' :: year) = none := by
  have hread := readSmall?_append hmonth (.inr (head?_mark (by decide : '.'.isDigit = false) year))
  obtain ⟨n, c, s, hread', hc⟩ := exists_readSmall? hyear []
  rw [List.append_nil] at hread'
  simp [dayFirst, readFrom?, readItem?, hread, hread', ne_of_isDigit hc]

/-- No hyphen follows the number that is read as a year. -/
theorem readFrom?_yearFirst_eq_none (rest : Text) (hdigits : Run Char.isDigit 1 4 digits)
    (hrest : ∀ c ∈ rest.head?, c.isDigit = false ∧ c ≠ '-') (items : Layout) :
    readFrom? (yearFirst ++ items) f (digits ++ rest) = none := by
  have hread := readYear?_append hdigits (.inr fun c hc ↦ (hrest c hc).1)
  cases rest with
  | nil =>
    rw [List.append_nil] at hread ⊢
    simp [yearFirst, readFrom?, readItem?, hread]
  | cons c rest =>
    have hc : c ≠ '-' := (hrest c rfl).2
    simp [yearFirst, readFrom?, readItem?, hread, hc]

variable {form : DayForm} (hwritten : form.IsWritten Char.isDigit)
include hwritten

theorem readFrom?_dayFirst (hform : form.yearFirst = false) (items : Layout) (rest : Text) :
    readFrom? (dayFirst ++ items) {} (form.render ++ rest) = readFrom? items form.fields rest := by
  obtain ⟨hyear, hmonth, hday⟩ := hwritten
  have hread : readSmall? (form.day ++ '.' :: (form.month ++ '.' :: (form.year ++ rest))) = _ :=
    readSmall?_append hday (.inr (head?_mark rfl _))
  have hread' : readSmall? (form.month ++ '.' :: (form.year ++ rest)) = _ :=
    readSmall?_append hmonth (.inr (head?_mark rfl _))
  have hread'' : readYear? (form.year ++ rest) = _ :=
    readYear?_append (hyear.weaken (by decide) le_rfl) (.inl (le_antisymm hyear.2.1 hyear.1))
  simp [DayForm.render, hform, dayFirst, readFrom?, readItem?, hread, hread', hread'',
    DayForm.fields]

theorem readFrom?_yearFirst (hform : form.yearFirst) (items : Layout)
    (hrest : ∀ c ∈ rest.head?, c.isDigit = false) :
    readFrom? (yearFirst ++ items) {} (form.render ++ rest) = readFrom? items form.fields rest := by
  obtain ⟨hyear, hmonth, hday⟩ := hwritten
  have hread : readYear? (form.year ++ '-' :: (form.month ++ '-' :: (form.day ++ rest))) = _ :=
    readYear?_append (hyear.weaken (by decide) le_rfl) (.inl (le_antisymm hyear.2.1 hyear.1))
  have hread' : readSmall? (form.month ++ '-' :: (form.day ++ rest)) = _ :=
    readSmall?_append hmonth (.inr (head?_mark rfl _))
  have hread'' : readSmall? (form.day ++ rest) = _ := readSmall?_append hday (.inr hrest)
  simp [DayForm.render, hform, yearFirst, readFrom?, readItem?, hread, hread', hread'',
    DayForm.fields]

/-- Neither layout of a day takes a day that is written the other way. -/
theorem readFrom?_yearFirst_of_dayFirst (hform : form.yearFirst = false) (items : Layout)
    (rest : Text) : readFrom? (yearFirst ++ items) f (form.render ++ rest) = none := by
  obtain ⟨-, -, hday⟩ := hwritten
  simp only [DayForm.render, hform, Bool.false_eq_true, if_false, List.append_assoc,
    List.cons_append]
  apply readFrom?_yearFirst_eq_none _ (hday.weaken le_rfl (by decide))
  intro c hc
  obtain rfl : '.' = c := by simpa using hc
  decide

theorem readFrom?_dayFirst_of_yearFirst (hform : form.yearFirst) (items : Layout)
    (rest : Text) : readFrom? (dayFirst ++ items) f (form.render ++ rest) = none := by
  simp only [DayForm.render, hform, if_true, List.append_assoc]
  exact readFrom?_dayFirst_year hwritten.1 items _

end Days

section Time

variable {clock : ClockForm}

/-- Seconds are read if they are written, and only then. -/
theorem readFrom?_clock (hclock : clock.IsWritten Char.isDigit) :
    readFrom? toSecond f clock.render =
        (if clock.second.isSome then some (clock.addTo f) else none) ∧
      readFrom? toMinute f clock.render =
        (if clock.second.isSome then none else some (clock.addTo f)) := by
  obtain ⟨h, m, _ | s⟩ := clock
  · obtain ⟨hhour, hminute, -⟩ := hclock
    have hread : readSmall? (h ++ ':' :: m) = _ :=
      readSmall?_append hhour (.inr (head?_mark rfl _))
    have hread' : readSmall? (m ++ []) = _ :=
      readSmall?_append (hminute.weaken (by decide) le_rfl) (.inr (by simp))
    rw [List.append_nil] at hread'
    simp [ClockForm.render, toSecond, toMinute, readFrom?, readItem?, hread, hread',
      ClockForm.addTo]
  · obtain ⟨hhour, hminute, hsecond⟩ := hclock
    have hsecond := hsecond s rfl
    have hread : readSmall? (h ++ ':' :: (m ++ ':' :: s)) = _ :=
      readSmall?_append hhour (.inr (head?_mark rfl _))
    have hread' : readSmall? (m ++ ':' :: s) = _ :=
      readSmall?_append (hminute.weaken (by decide) le_rfl) (.inr (head?_mark rfl _))
    have hread'' : readSmall? (s ++ []) = _ :=
      readSmall?_append (hsecond.weaken (by decide) le_rfl) (.inr (by simp))
    rw [List.append_nil] at hread''
    simp [ClockForm.render, toSecond, toMinute, readFrom?, readItem?, hread, hread', hread'',
      ClockForm.addTo]

/-- A gap and an hour: what follows the day must be a number after blanks. -/
theorem readFrom?_gap_eq_none (h : ∀ c ∈ (Text.trimStart rest).head?, c.isDigit = false)
    (items : Layout) : readFrom? (.gap :: .hour :: items) f rest = none := by
  have hidem : Text.trimStart (Text.trimStart rest) = Text.trimStart rest :=
    List.dropWhile_idempotent Text.isBlank rest
  have hread : readSmall? (Text.trimStart rest) = none :=
    readSmall?_eq_none (by rwa [hidem])
  simp [readFrom?, readItem?, hread]

theorem readFrom?_gap_space (hclock : clock.IsWritten Char.isDigit) (items : Layout) :
    readFrom? (.gap :: items) f (' ' :: clock.render) = readFrom? items f clock.render := by
  obtain ⟨⟨hlow, -, hhour⟩, -⟩ := hclock
  obtain ⟨c, s, hrender, hc⟩ : ∃ c s, clock.render = c :: s ∧ c.isDigit := by
    rw [ClockForm.render, List.append_assoc]
    exact exists_digit_cons (List.ne_nil_of_length_pos hlow) hhour _
  have htrim : Text.trimStart (' ' :: c :: s) = c :: s := trimStart_digit hc s
  simp [readFrom?, readItem?, hrender, htrim]

end Time

end Layout

end RecordSearch
