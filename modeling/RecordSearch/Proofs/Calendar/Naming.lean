import RecordSearch.Proofs.Calendar.Reading
import RecordSearch.Proofs.Literal.IntegerFilter
import RecordSearch.Proofs.Text.Split

/-!
# The periods of written dates

The readers of periods try layout after layout. On a written date the first that fits is the one it
is written in, so its period is that of the span it names.
-/

namespace RecordSearch

open Grammar (Run)

namespace Period

open Layout

section Timed

variable {f g : CalendarFields} {s rest : Text} {clock : ClockForm} {mark : Layout}

/-- The date/time that is read behind a day, by the layouts of a time with and without seconds. -/
def timeBehind? (mark : Layout) (f : CalendarFields) (s : Text) : Option DateTime :=
  [mark ++ toSecond, mark ++ toMinute].findSome? fun layout ↦
    (readFrom? layout f s).bind CalendarFields.dateTime?

theorem findSome?_instantLayouts_eq (s : Text) :
    (instantLayouts.findSome? fun layout ↦ layout.readDateTime? s) =
      ((timeBehind? (dayFirst ++ [.gap]) {} s).or (timeBehind? (yearFirst ++ [.gap]) {} s)).or
        (timeBehind? (yearFirst ++ [.mark 'T']) {} s) := by
  rw [timeBehind?, timeBehind?, timeBehind?, ← List.findSome?_append, ← List.findSome?_append]
  rfl

theorem timeBehind?_eq_none (h : ∀ items, readFrom? (mark ++ .hour :: items) f s = none) :
    timeBehind? mark f s = none := by
  simp [timeBehind?, toSecond, toMinute, h]

/-- What a day, or the mark behind it, is read by makes no difference to the time behind it. -/
theorem timeBehind?_append (day mark : Layout)
    (h : ∀ items, readFrom? (day ++ items) f s = readFrom? items g rest) :
    timeBehind? (day ++ mark) f s = timeBehind? mark g rest := by
  simp only [timeBehind?, List.findSome?_cons, List.findSome?_nil, List.append_assoc, h]

theorem timeBehind?_append_eq_none {day : Layout}
    (h : ∀ items, readFrom? (day ++ items) f s = none) : timeBehind? (day ++ mark) f s = none := by
  apply timeBehind?_eq_none
  intro items
  rw [List.append_assoc]
  exact h _

/-- A written time is read by the one layout that has seconds if they are written. -/
theorem timeBehind?_clock (hclock : clock.IsWritten Char.isDigit) :
    timeBehind? [] f clock.render = (clock.addTo f).dateTime? := by
  obtain ⟨hsecond, hminute⟩ := readFrom?_clock (f := f) hclock
  simp only [timeBehind?, List.findSome?_cons, List.findSome?_nil, List.nil_append, hsecond,
    hminute]
  cases clock.second.isSome <;> cases hread : (clock.addTo f).dateTime? <;> simp [hread]

theorem timeBehind?_gap_eq_none (h : ∀ c ∈ (Text.trimStart rest).head?, c.isDigit = false) :
    timeBehind? [.gap] f rest = none :=
  timeBehind?_eq_none fun items ↦ readFrom?_gap_eq_none h items

theorem timeBehind?_gap_space (hclock : clock.IsWritten Char.isDigit) :
    timeBehind? [.gap] f (' ' :: clock.render) = (clock.addTo f).dateTime? := by
  rw [← timeBehind?_clock hclock]
  exact timeBehind?_append [.gap] [] fun items ↦ readFrom?_gap_space hclock items

theorem timeBehind?_mark_eq_none {c : Char} (h : ∀ d ∈ rest.head?, d ≠ c) :
    timeBehind? [.mark c] f rest = none := by
  apply timeBehind?_eq_none
  intro items
  cases rest with
  | nil => rfl
  | cons d rest => simp [readFrom?, readItem?, h d rfl]

theorem timeBehind?_mark (hclock : clock.IsWritten Char.isDigit) (c : Char) :
    timeBehind? [.mark c] f (c :: clock.render) = (clock.addTo f).dateTime? := by
  rw [← timeBehind?_clock hclock]
  exact timeBehind?_append [.mark c] [] fun items ↦ by simp [readFrom?, readItem?]

end Timed

section Days

variable {form : DayForm} {clock : ClockForm} (hwritten : form.IsWritten Char.isDigit)
include hwritten

/-- Behind a day that is written with points a time follows blanks. -/
theorem findSome?_instantLayouts_dayFirst (hform : form.yearFirst = false) (rest : Text) :
    (instantLayouts.findSome? fun layout ↦ layout.readDateTime? (form.render ++ rest)) =
      timeBehind? [.gap] form.fields rest := by
  have hother := fun items ↦ readFrom?_yearFirst_of_dayFirst hwritten hform items rest (f := {})
  rw [findSome?_instantLayouts_eq,
    timeBehind?_append dayFirst _ fun items ↦ readFrom?_dayFirst hwritten hform items rest,
    timeBehind?_append_eq_none hother, timeBehind?_append_eq_none hother, Option.or_none,
    Option.or_none]

/-- Behind a day that is written with hyphens it follows blanks or `T`. -/
theorem findSome?_instantLayouts_yearFirst (hform : form.yearFirst) {rest : Text}
    (hrest : ∀ c ∈ rest.head?, c.isDigit = false) :
    (instantLayouts.findSome? fun layout ↦ layout.readDateTime? (form.render ++ rest)) =
      (timeBehind? [.gap] form.fields rest).or (timeBehind? [.mark 'T'] form.fields rest) := by
  have hread := fun items ↦ readFrom?_yearFirst hwritten hform items hrest
  have hother := fun items ↦ readFrom?_dayFirst_of_yearFirst hwritten hform items rest (f := {})
  rw [findSome?_instantLayouts_eq, timeBehind?_append_eq_none hother,
    timeBehind?_append yearFirst _ hread, timeBehind?_append yearFirst _ hread, Option.none_or]

/-- No time is found where none is written. -/
theorem findSome?_instantLayouts_eq_none (rest : Text)
    (hrest : ∀ c ∈ (Text.trimStart rest).head?, c.isDigit = false)
    (hmark : form.yearFirst → ∀ c ∈ rest.head?, c.isDigit = false ∧ c ≠ 'T') :
    (instantLayouts.findSome? fun layout ↦ layout.readDateTime? (form.render ++ rest)) = none := by
  have hgap := timeBehind?_gap_eq_none (f := form.fields) hrest
  cases hform : form.yearFirst with
  | false => rw [findSome?_instantLayouts_dayFirst hwritten hform, hgap]
  | true =>
    have hmark := hmark hform
    rw [findSome?_instantLayouts_yearFirst hwritten hform fun c hc ↦ (hmark c hc).1, hgap,
      timeBehind?_mark_eq_none fun c hc ↦ (hmark c hc).2, Option.or_none]

/-- A time behind a blank or, with the year first, behind `T` is read. -/
theorem findSome?_instantLayouts (hclock : clock.IsWritten Char.isDigit) {mark : Char}
    (hmark : mark = ' ' ∨ mark = 'T' ∧ form.yearFirst) :
    (instantLayouts.findSome? fun layout ↦
        layout.readDateTime? (form.render ++ mark :: clock.render)) =
      (clock.addTo form.fields).dateTime? := by
  cases hform : form.yearFirst with
  | false =>
    obtain rfl : mark = ' ' := by simpa [hform] using hmark
    rw [findSome?_instantLayouts_dayFirst hwritten hform, timeBehind?_gap_space hclock]
  | true =>
    rcases hmark with rfl | ⟨rfl, -⟩
    · rw [findSome?_instantLayouts_yearFirst hwritten hform (head?_mark (by decide) _),
        timeBehind?_gap_space hclock, timeBehind?_mark_eq_none (by simp), Option.or_none]
    · have htrim : Text.trimStart ('T' :: clock.render) = 'T' :: clock.render := rfl
      rw [findSome?_instantLayouts_yearFirst hwritten hform (head?_mark (by decide) _),
        timeBehind?_gap_eq_none (by rw [htrim]; exact head?_mark (by decide) _),
        timeBehind?_mark hclock, Option.none_or]

/-- A layout of a day reads a written day, and no layout reads anything behind it. -/
theorem findSome?_dayLayouts (rest : Text) (hrest : ∀ c ∈ rest.head?, c.isDigit = false) :
    (dayLayouts.findSome? fun layout ↦ layout.readDate? (form.render ++ rest)) =
      if rest.isEmpty then form.fields.date? else none := by
  have hend : readFrom? [] form.fields rest = if rest.isEmpty then some form.fields else none := rfl
  cases hform : form.yearFirst with
  | false =>
    have hfirst := readFrom?_dayFirst hwritten hform [] rest
    have hother := readFrom?_yearFirst_of_dayFirst hwritten hform [] rest (f := {})
    rw [List.append_nil] at hfirst hother
    simp only [dayLayouts, List.findSome?_cons, List.findSome?_nil, readDate?, Layout.read?, hfirst,
      hother, hend]
    cases rest.isEmpty <;> cases hdate : form.fields.date? <;> simp [hdate]
  | true =>
    have hfirst := readFrom?_yearFirst hwritten hform [] hrest
    have hother := readFrom?_dayFirst_of_yearFirst hwritten hform [] rest (f := {})
    rw [List.append_nil] at hfirst hother
    simp only [dayLayouts, List.findSome?_cons, List.findSome?_nil, readDate?, Layout.read?, hfirst,
      hother, hend]
    cases rest.isEmpty <;> cases hdate : form.fields.date? <;> simp [hdate]

/-- A day is neither a month nor a year. -/
theorem readMonthOrYear?_day (rest : Text) (hrest : '.' ∉ rest) :
    readMonthOrYear? (form.render ++ rest) = none := by
  obtain ⟨⟨hyear, -, hyears⟩, ⟨hmonth, -, hmonths⟩, hday, -, hdays⟩ := hwritten
  have hpoint {s : Text} (hs : ∀ c ∈ s, c.isDigit) : '.' ∉ s :=
    Text.not_mem_digits hs (by decide)
  have hsigned {front : Text} (hfront : 1 ≤ front.length) {mark : Char}
      (hmark : mark.isDigit = false) (s : Text) : Text.toSigned? 32 (front ++ mark :: s) = none :=
    Text.toSigned?_eq_none (Text.toInt?_eq_none_of_mark (List.ne_nil_of_length_pos hfront) hmark)
  cases hform : form.yearFirst with
  | false =>
    have hcut := Text.splitOnce_append (hpoint hdays) (form.month ++ '.' :: (form.year ++ rest))
    simp only [DayForm.render, hform, Bool.false_eq_true, if_false, List.append_assoc,
      List.cons_append, readMonthOrYear?, hcut, hsigned hmonth (by decide : '.'.isDigit = false)]
    cases Text.toNatBelow? (wordLimit 32) form.day <;> rfl
  | true =>
    have hnone : '.' ∉ form.year ++ '-' :: (form.month ++ '-' :: (form.day ++ rest)) := by
      simp [hpoint hyears, hpoint hmonths, hpoint hdays, hrest]
    simp only [DayForm.render, hform, if_true, List.append_assoc,
      List.cons_append, readMonthOrYear?, Text.splitOnce_eq_none hnone,
      hsigned (by omega : 1 ≤ form.year.length) (by decide : '-'.isDigit = false), Option.bind_none,
      ite_self]

section Time

variable {mark : Char} (hmark : mark = ' ' ∨ mark = 'T')
include hmark

theorem findSome?_dayLayouts_time (clock : ClockForm) :
    (dayLayouts.findSome? fun layout ↦
      layout.readDate? (form.render ++ mark :: clock.render)) = none := by
  have hdigit : mark.isDigit = false := by rcases hmark with rfl | rfl <;> rfl
  rw [findSome?_dayLayouts hwritten _ (head?_mark hdigit _)]
  rfl

theorem readMonthOrYear?_time (hclock : clock.IsWritten Char.isDigit) :
    readMonthOrYear? (form.render ++ mark :: clock.render) = none := by
  apply readMonthOrYear?_day hwritten
  obtain ⟨⟨-, -, hhour⟩, ⟨-, -, hminute⟩, hsecond⟩ := hclock
  have hpoint : mark ≠ '.' := by rcases hmark with rfl | rfl <;> decide
  rw [List.mem_cons, ClockForm.mem_render]
  rintro (rfl | (hc | hc | ⟨s, hs, hc⟩) | hc)
  · exact hpoint rfl
  · exact Text.not_mem_digits hhour (by decide) hc
  · exact Text.not_mem_digits hminute (by decide) hc
  · exact Text.not_mem_digits (hsecond s hs).2.2 (by decide) hc
  · exact absurd hc (by decide)

end Time

end Days

section Short

variable {month year : Text}

theorem toNatBelow?_digits {digits : Text} (hdigits : Run Char.isDigit 1 2 digits) :
    Text.toNatBelow? (wordLimit 32) digits = some (digitsValue digits) := by
  have hne : digits ≠ [] := List.ne_nil_of_length_pos hdigits.1
  have hlt : digitsValue digits < wordLimit 32 := hdigits.value_lt.trans (by decide)
  have hread := Text.toNat?_digits hne hdigits.2.2
  unfold Text.toNatBelow?
  split
  · exact absurd (hdigits.2.2 '+' List.mem_cons_self) (by decide)
  · simp [hread, hlt]

theorem toSigned?_digits {digits : Text} (hdigits : Run Char.isDigit 4 4 digits) :
    Text.toSigned? 32 digits = some (digitsValue digits : ℤ) := by
  have hne : digits ≠ [] := List.ne_nil_of_length_pos (by have := hdigits.1; omega)
  have hlt : digitsValue digits < 10000 := hdigits.value_lt
  have hlimit : wordLimit 31 = 2147483648 := by decide
  have hfits : fitsSigned 32 (digitsValue digits : ℤ) := by
    simp only [fitsSigned, hlimit, Bool.and_eq_true, decide_eq_true_eq]
    omega
  simp [Text.toSigned?, Text.toInt?_digits hne hdigits.2.2, hfits]

theorem readMonthOrYear?_month (hmonth : Run Char.isDigit 1 2 month)
    (hyear : Run Char.isDigit 4 4 year) :
    readMonthOrYear? (month ++ '.' :: year) = ofMonth? (digitsValue year) (digitsValue month) := by
  have hcut : Text.splitOnce '.' (month ++ '.' :: year) = some (month, year) :=
    Text.splitOnce_append (Text.not_mem_digits hmonth.2.2 (by decide)) year
  simp [readMonthOrYear?, hcut, toNatBelow?_digits hmonth, toSigned?_digits hyear]

theorem readMonthOrYear?_year (hyear : Run Char.isDigit 4 4 year) :
    readMonthOrYear? year = ofYear? (digitsValue year) := by
  have hnone : Text.splitOnce '.' year = none :=
    Text.splitOnce_eq_none (Text.not_mem_digits hyear.2.2 (by decide))
  have hlength : Text.byteLength year = 4 :=
    (Text.byteLength_digits hyear.2.2).trans (le_antisymm hyear.2.1 hyear.1)
  simp [readMonthOrYear?, hnone, hlength, toSigned?_digits hyear]

end Short

end Period

/-- Whether a time of day stands where the readers look for one. -/
def DateForm.IsReadable : DateForm → Prop
  | instant form mark _ => mark = 'T' → form.yearFirst
  | _ => True

instance : (form : DateForm) → Decidable form.IsReadable
  | .instant _ _ _ => inferInstanceAs (Decidable (_ → _))
  | .year _ | .month _ _ | .day _ => inferInstanceAs (Decidable True)

namespace Period

open Layout

/-- Where no layout reads a day, a month or a year is read. -/
theorem read?_of_no_day {s : Text} (htrim : Text.trim s = s)
    (hdayFirst : ∀ items, readFrom? (dayFirst ++ items) {} s = none)
    (hyearFirst : ∀ items, readFrom? (yearFirst ++ items) {} s = none) :
    read? s = readMonthOrYear? s := by
  have hinstant : (instantLayouts.findSome? fun layout ↦ layout.readDateTime? s) = none := by
    rw [findSome?_instantLayouts_eq, timeBehind?_append_eq_none hdayFirst,
      timeBehind?_append_eq_none hyearFirst, timeBehind?_append_eq_none hyearFirst]
    rfl
  have hdayFirst := hdayFirst []
  have hyearFirst := hyearFirst []
  rw [List.append_nil] at hdayFirst hyearFirst
  simp [read?, htrim, hinstant, dayLayouts, readDate?, Layout.read?, hdayFirst, hyearFirst]

section Form

variable {form : DateForm} (h : form.IsWritten Char.isDigit)
include h

/-- The period of a written date is that of the span it names. -/
theorem read?_render (hreadable : form.IsReadable) :
    read? form.render = form.span?.bind CalendarSpan.period? := by
  have htrim := h.trim_render fun _ ↦ Text.not_isBlank_of_isDigit
  cases form with
  | year y =>
    have hhyphen := readFrom?_yearFirst_eq_none (f := {}) [] (h.weaken (by decide) le_rfl) (by simp)
    have hpoint (items : Layout) := readFrom?_dayFirst_year (f := {}) h items []
    simp only [List.append_nil] at hhyphen hpoint
    rw [read?_of_no_day htrim hpoint hhyphen]
    exact readMonthOrYear?_year h
  | month m y =>
    obtain ⟨hmonth, hyear⟩ := h
    have hhyphen := readFrom?_yearFirst_eq_none (f := {}) ('.' :: y)
      (hmonth.weaken le_rfl (by decide)) (by simp)
    have hpoint := readFrom?_dayFirst_month (f := {}) hmonth hyear
    rw [read?_of_no_day htrim hpoint hhyphen]
    exact readMonthOrYear?_month hmonth hyear
  | day form =>
    have hinstant := findSome?_instantLayouts_eq_none h [] (by simp [Text.trimStart]) (by simp)
    have hday := findSome?_dayLayouts h [] (by simp)
    have hnone := readMonthOrYear?_day h [] (by simp)
    rw [List.append_nil] at hinstant hday hnone
    rw [read?, htrim]
    simp only [DateForm.render, DateForm.span?, hinstant, hday, hnone]
    cases form.fields.date? <;> rfl
  | instant form mark clock =>
    obtain ⟨hform, hmark, hclock⟩ := h
    have hmarks : mark = ' ' ∨ mark = 'T' ∧ form.yearFirst :=
      hmark.imp_right fun hT ↦ ⟨hT, hreadable hT⟩
    have hinstant := findSome?_instantLayouts hform hclock hmarks
    rw [read?, htrim]
    simp only [DateForm.render, DateForm.span?, hinstant, findSome?_dayLayouts_time hform hmark,
      readMonthOrYear?_time hform hmark hclock]
    cases (clock.addTo form.fields).dateTime? <;> rfl

/-- Behind a day that is written with points, `T` is no mark of a time. -/
theorem read?_render_eq_none (hreadable : ¬ form.IsReadable) : read? form.render = none := by
  have htrim := h.trim_render fun _ ↦ Text.not_isBlank_of_isDigit
  cases form with
  | year | month | day => exact absurd trivial hreadable
  | instant form mark clock =>
    obtain ⟨hform, hmark, hclock⟩ := h
    obtain ⟨rfl, hfalse⟩ : mark = 'T' ∧ ¬ form.yearFirst :=
      Classical.not_imp.mp hreadable
    have htime : Text.trimStart ('T' :: clock.render) = 'T' :: clock.render := rfl
    have hinstant := findSome?_instantLayouts_eq_none hform ('T' :: clock.render)
      (by rw [htime]; exact head?_mark (by decide) _) (fun hform ↦ absurd hform hfalse)
    rw [read?, htrim]
    simp only [DateForm.render, hinstant, findSome?_dayLayouts_time hform hmark,
      readMonthOrYear?_time hform hmark hclock]
    rfl

end Form

end Period

end RecordSearch
