import RecordSearch.Proofs.Calendar.Reading

/-!
# Real dates

A written date is real if the calendar has its day, its month or its year, and a clock its time.
These are the dates that name a period.
-/

namespace RecordSearch

open Grammar (Run)

section Calendar

variable {year : ℤ} {month day hour minute second : ℕ}

theorem Date.isSome_of? : (of? year month day).isSome ↔ Exists year month day := by
  unfold of?
  split <;> simpa

/-- A clock shows the seconds of a minute and a leap second. -/
theorem TimeOfDay.isSome_ofClock? :
    (ofClock? hour minute second 0).isSome ↔ hour ≤ 23 ∧ minute ≤ 59 ∧ second ≤ 60 := by
  have hof {n nanosecond : ℕ} (hn : n < secondsPerDay)
      (hnanosecond : nanosecond < 2 * nanosecondsPerSecond) : (of? n nanosecond).isSome := by
    rw [of?, dif_pos hn, dif_pos hnanosecond]
    rfl
  have hfraction : 0 < nanosecondsPerSecond := by decide
  unfold ofClock?
  split
  · rename_i hout
    simp only [Bool.or_eq_true, decide_eq_true_eq] at hout
    simp only [Option.isSome_none, Bool.false_eq_true, false_iff]
    omega
  · rename_i hin
    simp only [Bool.or_eq_true, decide_eq_true_eq] at hin
    refine iff_of_true ?_ (by omega)
    split
    · exact hof (by simp only [secondsPerDay]; omega) (by decide)
    · exact hof (by simp only [secondsPerDay]; omega) (by decide)

namespace Period

variable (hfirst : Date.firstYear ≤ year) (hlast : year < Date.lastYear)
include hfirst hlast

theorem isSome_ofYear? : (ofYear? year).isSome := by
  have hnewYear {y : ℤ} (hy : Date.firstYear ≤ y ∧ y ≤ Date.lastYear) :
      ∃ d, Date.of? y 1 1 = some d :=
    Date.exists_of? ⟨hy.1, hy.2, by decide, by decide, by decide, by simp [daysInMonth]⟩
  obtain ⟨first, hfirstDay⟩ := hnewYear ⟨hfirst, hlast.le⟩
  obtain ⟨next, hnext⟩ := hnewYear (y := year + 1) (by omega)
  obtain ⟨hny, hnm, hnd⟩ := Date.of?_eq_some_iff.mp hnext
  have hdecember : next.previous? = Date.of? year 12 31 := by
    simp [Date.previous?, hny, hnm, hnd]
  obtain ⟨last, hlastDay⟩ : ∃ d, Date.of? year 12 31 = some d :=
    Date.exists_of? ⟨hfirst, hlast.le, by decide, by decide, by decide, by simp [daysInMonth]⟩
  simp [ofYear?, hfirstDay, hnext, until?, DateTime.endBefore?, hdecember, hlastDay]

theorem isSome_ofMonth? : (ofMonth? year month).isSome ↔ 1 ≤ month ∧ month ≤ 12 := by
  have hbounds := daysInMonth_bounds year month
  constructor
  · intro h
    obtain ⟨p, hp⟩ := Option.isSome_iff_exists.mp h
    obtain ⟨first, hfirstDay, -⟩ := Option.bind_eq_some_iff.mp hp
    have hreal := Date.isSome_of?.mp (Option.isSome_of_eq_some hfirstDay)
    exact ⟨hreal.2.2.1, hreal.2.2.2.1⟩
  · rintro ⟨hmin, hmax⟩
    obtain ⟨first, hfirstDay⟩ : ∃ d, Date.of? year month 1 = some d :=
      Date.exists_of? ⟨hfirst, hlast.le, hmin, hmax, by decide, by omega⟩
    obtain ⟨next, hnext⟩ : ∃ d, Date.firstOfNextMonth? year month = some d := by
      unfold Date.firstOfNextMonth?
      split
      · exact Date.exists_of? ⟨by omega, by omega, by decide, by decide, by decide,
          by simp [daysInMonth]⟩
      · have hnextBounds := daysInMonth_bounds year (month + 1)
        exact Date.exists_of? ⟨hfirst, hlast.le, by omega, by omega, by decide, by omega⟩
    obtain ⟨last, hlastDay⟩ : ∃ d, Date.of? year month (daysInMonth year month) = some d :=
      Date.exists_of? ⟨hfirst, hlast.le, hmin, hmax, by omega, le_rfl⟩
    have hprevious := Date.previous?_of_firstOfNextMonth? hmin hnext
    simp [ofMonth?, hfirstDay, hnext, until?, DateTime.endBefore?, hprevious, hlastDay]

end Period

end Calendar

/-- The calendar has the day. -/
def DayForm.IsReal (form : DayForm) : Prop :=
  Date.Exists (digitsValue form.year) (digitsValue form.month) (digitsValue form.day)

instance (form : DayForm) : Decidable form.IsReal :=
  inferInstanceAs (Decidable (Date.Exists _ _ _))

/-- A clock shows the time, be it a leap second. -/
def ClockForm.IsReal (form : ClockForm) : Prop :=
  digitsValue form.hour ≤ 23 ∧ digitsValue form.minute ≤ 59 ∧
    ∀ second ∈ form.second, digitsValue second ≤ 60

instance (form : ClockForm) : Decidable form.IsReal :=
  inferInstanceAs (Decidable (_ ∧ _ ∧ _))

theorem DayForm.isSome_date? (form : DayForm) : form.fields.date?.isSome ↔ form.IsReal :=
  Date.isSome_of?

theorem ClockForm.isSome_dateTime? (form : DayForm) (clock : ClockForm) :
    (clock.addTo form.fields).dateTime?.isSome ↔ form.IsReal ∧ clock.IsReal := by
  have htime : (TimeOfDay.ofClock? (digitsValue clock.hour) (digitsValue clock.minute)
      ((clock.second.map digitsValue).getD 0) 0).isSome ↔ clock.IsReal := by
    rw [TimeOfDay.isSome_ofClock?, IsReal]
    cases clock.second <;> simp
  have hboth : (clock.addTo form.fields).dateTime? = form.fields.date?.bind fun date ↦
      (TimeOfDay.ofClock? (digitsValue clock.hour) (digitsValue clock.minute)
        ((clock.second.map digitsValue).getD 0) 0).bind fun time ↦ some ⟨date, time⟩ := rfl
  rw [hboth, ← DayForm.isSome_date?, ← htime]
  cases form.fields.date? <;> cases TimeOfDay.ofClock? _ _ _ _ <;> simp

namespace DateForm

/-- The calendar has what is written, and a clock shows its time. -/
def IsReal : DateForm → Prop
  | year _ => True
  | month m _ => 1 ≤ digitsValue m ∧ digitsValue m ≤ 12
  | day form => form.IsReal
  | instant form _ clock => form.IsReal ∧ clock.IsReal

instance : (form : DateForm) → Decidable form.IsReal
  | year _ => inferInstanceAs (Decidable True)
  | month _ _ => inferInstanceAs (Decidable (_ ∧ _))
  | day form => inferInstanceAs (Decidable form.IsReal)
  | instant _ _ _ => inferInstanceAs (Decidable (_ ∧ _))

/-- A written date names a period if it is real. -/
theorem isSome_period_iff {form : DateForm} (h : form.IsWritten Char.isDigit) :
    (form.span?.bind CalendarSpan.period?).isSome ↔ form.IsReal := by
  have hyear {y : Text} (hy : Run Char.isDigit 4 4 y) :
      Date.firstYear ≤ (digitsValue y : ℤ) ∧ (digitsValue y : ℤ) < Date.lastYear := by
    have hlt : digitsValue y < 10 ^ 4 := hy.value_lt
    simp only [Date.firstYear, Date.lastYear]
    omega
  cases form with
  | year y => exact iff_of_true (Period.isSome_ofYear? (hyear h).1 (hyear h).2) trivial
  | month m y => exact Period.isSome_ofMonth? (hyear h.2).1 (hyear h.2).2
  | day form =>
    rw [IsReal, ← DayForm.isSome_date?, span?]
    cases form.fields.date? <;> simp [CalendarSpan.period?]
  | instant form mark clock =>
    rw [IsReal, ← ClockForm.isSome_dateTime?, span?]
    cases (clock.addTo form.fields).dateTime? <;> simp [CalendarSpan.period?]

end DateForm

end RecordSearch
