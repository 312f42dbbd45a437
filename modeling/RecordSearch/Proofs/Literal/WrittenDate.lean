import RecordSearch.Proofs.Calendar.Joined
import RecordSearch.Proofs.Calendar.Real
import RecordSearch.Proofs.Literal.DatePeriod

/-!
# The grammar and the readers of dates

The grammar of dates admits what the readers read but for one form: a time behind `T` after a day
that is written with points. A filter that is any other written date is recognized exactly if the
date is real.
-/

namespace RecordSearch

/-- The texts that the date grammar accepts, if their digits are ASCII. -/
theorem Grammar.accepts_date_ascii_iff {s : Text} :
    (date.accepts s ∧ ∀ c ∈ s, Text.isDigit c → c.isDigit) ↔
      ∃ form : DateForm, form.IsWritten Char.isDigit ∧ s = form.render := by
  constructor
  · rintro ⟨haccepts, hascii⟩
    obtain ⟨form, hform, rfl⟩ := takes_date.accepts_iff.mp haccepts
    exact ⟨form, hform.mono hascii, rfl⟩
  · rintro ⟨form, hform, rfl⟩
    refine ⟨takes_date.accepts_iff.mpr ⟨form, hform.mono fun c _ ↦ isDigit_of_ascii, rfl⟩,
      fun c hc hdigit ↦ (hform.of_mem_render hc).resolve_right fun hmark ↦ ?_⟩
    have hnone : ".-: T".toList.all fun c ↦ !Text.isDigit c := by decide
    have hc := List.all_eq_true.mp hnone c hmark
    rw [hdigit] at hc
    cases hc

/-- The readers read the dates that are real, but for a time behind `T` after a day with points. -/
theorem Period.isSome_read?_render_iff {form : DateForm} (h : form.IsWritten Char.isDigit) :
    (read? form.render).isSome ↔ form.IsReal ∧ form.IsReadable := by
  by_cases hreadable : form.IsReadable
  · rw [read?_render h hreadable, DateForm.isSome_period_iff h]
    simp [hreadable]
  · rw [read?_render_eq_none h hreadable]
    simp [hreadable]

namespace Literal

variable {type : SemanticType} {form : DateForm} {s d : Text} {c : Char}

/-- A written date is no range of dates. -/
theorem dateRange?_render (h : form.IsWritten Text.isDigit) :
    dateRange? .default form.render = none := by
  have hnone : Grammar.splitPair? Grammar.date
      (Grammar.rangeSeparator Settings.default.operators.range) form.render = none := by
    rw [Option.eq_none_iff_forall_ne_some]
    rintro ⟨low, high⟩ hsplit
    obtain ⟨start, mark, stop, heq, hstart, ⟨low, hlow, rfl⟩, hmark, ⟨high, hhigh, rfl⟩, hstop⟩ :=
      Grammar.spelling_of_splitPair? Grammar.takes_date Grammar.takes_rangeSeparator hsplit
    exact h.ne_joined hlow hhigh hmark hstart hstop heq
  rw [dateRange?, hnone]
  rfl

/-- A text that begins with a digit is a date or a range of dates. -/
theorem classifyDate_of_digit (hhead : s.head? = some c) (hc : Text.isDigit c) :
    classifyDate .default s =
      ((datePeriod? s).map .period).getD ((dateRange? .default s).getD .unrecognized) := by
  have hne {mark : Char} (hmark : Text.isDigit mark = false) : c ≠ mark := by
    rintro rfl
    rw [hc] at hmark
    cases hmark
  have hless : Settings.default.operators.less.operand? s = none :=
    Operators.marked_default.less.operand?_eq_none hhead (hne (by decide))
      fun h ↦ hne (by decide) (Option.some.inj h).symm
  have hgreater : Settings.default.operators.greater.operand? s = none :=
    Operators.marked_default.greater.operand?_eq_none hhead (hne (by decide))
      fun h ↦ hne (by decide) (Option.some.inj h).symm
  rw [classifyDate]
  cases datePeriod? s <;> simp [hless, hgreater]

theorem datePeriod?_render (h : form.IsWritten Text.isDigit) :
    datePeriod? form.render = Period.read? form.render := by
  rw [datePeriod?, if_pos (Grammar.takes_date.accepts_iff.mpr ⟨form, h, rfl⟩)]

/-- A written date is recognized if its period is read. -/
theorem classifyAs_render [Pattern.Engine] (htype : type.isTemporal)
    (h : form.IsWritten Text.isDigit)
    (hd : Text.trim d = form.render) : classifyAs .default type d =
      ((Period.read? form.render).map .period).getD .unrecognized := by
  obtain ⟨c, hhead, hc⟩ := h.head?_render
  rw [classifyAs_temporal htype (hd.symm ▸ hhead) (beginsPlainly_of_isDigit hc), hd,
    classifyDate_of_digit hhead hc, datePeriod?_render h, dateRange?_render h, Option.getD_none]

/-- What the date grammar accepts in ASCII digits are the written dates. One of them is recognized,
as the period that it names, if it is real and has no `T` after a day with points. -/
theorem classify_written_date [Pattern.Engine] {a : Attribute} (ha : a.effectiveType.isTemporal) :
    (∀ s, (Grammar.date.accepts s ∧ ∀ c ∈ s, Text.isDigit c → c.isDigit) ↔
      ∃ form : DateForm, form.IsWritten Char.isDigit ∧ s = form.render) ∧
    ∀ form : DateForm, form.IsWritten Char.isDigit →
      (form.IsReal ∧ form.IsReadable → ∃ span p, form.span? = some span ∧
        span.period? = some p ∧ classify .default a form.render = .period p ∧
        ∀ settings : Settings, settings.isNullToken form.render = false →
          classify settings a form.render = .period p) ∧
      (¬ (form.IsReal ∧ form.IsReadable) →
        classify .default a form.render = .unrecognized) := by
  refine ⟨fun s ↦ Grammar.accepts_date_ascii_iff, fun form hform ↦ ?_⟩
  have hwritten : form.IsWritten Text.isDigit := hform.mono fun c _ ↦ Grammar.isDigit_of_ascii
  have htrim : Text.trim form.render = form.render :=
    hform.trim_render fun _ ↦ Text.not_isBlank_of_isDigit
  have hclassify : classify .default a form.render = _ := classifyAs_render ha hwritten htrim
  constructor
  · rintro ⟨hreal, hreadable⟩
    obtain ⟨p, hp⟩ := Option.isSome_iff_exists.mp ((DateForm.isSome_period_iff hform).mpr hreal)
    obtain ⟨span, hspan, hperiod⟩ := Option.bind_eq_some_iff.mp hp
    have hread : Period.read? form.render = some p := by
      rw [Period.read?_render hform hreadable, hp]
    refine ⟨span, p, hspan, hperiod, by rw [hclassify, hread]; rfl, fun settings hnull ↦ ?_⟩
    have hne : form.render ≠ [] := hform.render_ne_nil
    rw [← htrim] at hnull hne
    rw [classify, classifyAs_of_not_null ha hne hnull, htrim, classifyDate,
      datePeriod?_render hwritten, hread]
  · intro h
    rw [← Period.isSome_read?_render_iff hform, Option.not_isSome_iff_eq_none] at h
    rw [hclassify, h]
    rfl

/-- An instant of a leap day, once with hyphens and once with points, and a day that is not real. -/
theorem classify_written_date_instant :
    let a := Attribute.ofType .date
    let clock : ClockForm := ⟨"7".toList, "05".toList, none⟩
    let hyphens := DateForm.instant ⟨true, "2024".toList, "2".toList, "29".toList⟩ 'T' clock
    let points := DateForm.instant ⟨false, "2024".toList, "2".toList, "29".toList⟩ 'T' clock
    let unreal := DateForm.day ⟨false, "2023".toList, "02".toList, "29".toList⟩
    a.effectiveType.isTemporal ∧ hyphens.IsWritten Char.isDigit ∧ points.IsWritten Char.isDigit ∧
      unreal.IsWritten Char.isDigit ∧ hyphens.IsReal ∧ hyphens.IsReadable ∧
      ¬ points.IsReadable ∧ ¬ unreal.IsReal ∧
      (∃ span p, hyphens.span? = some span ∧ span.period? = some p ∧
        classify .default a "2024-2-29T7:05".toList = .period p) ∧
      classify .default a "29.2.2024T7:05".toList = .unrecognized ∧
      classify .default a "29.02.2023".toList = .unrecognized := by
  intro a clock hyphens points unreal
  have ha : a.effectiveType.isTemporal := rfl
  obtain ⟨-, hclassify⟩ := classify_written_date ha
  have hhyphens : hyphens.IsWritten Char.isDigit := by decide
  have hpoints : points.IsWritten Char.isDigit := by decide
  have hunreal : unreal.IsWritten Char.isDigit := by decide
  have hreal : hyphens.IsReal := by decide +kernel
  have hreadable : hyphens.IsReadable := by decide
  have hmark : ¬ points.IsReadable := by decide
  have hday : ¬ unreal.IsReal := by decide +kernel
  obtain ⟨span, p, hspan, hperiod, hp, -⟩ := (hclassify hyphens hhyphens).1 ⟨hreal, hreadable⟩
  exact ⟨ha, hhyphens, hpoints, hunreal, hreal, hreadable, hmark, hday, ⟨span, p, hspan, hperiod, hp⟩,
    (hclassify points hpoints).2 fun h ↦ hmark h.2, (hclassify unreal hunreal).2 fun h ↦ hday h.1⟩

/-- A real day and time of day that the grammar admits and no reader reads. -/
theorem unrecognized_instant_behind_points :
    let a := Attribute.ofType .dateTime
    let s := "01.02.2024T10:00".toList
    let form := DateForm.instant ⟨false, "2024".toList, "02".toList, "01".toList⟩ 'T'
      ⟨"10".toList, "00".toList, none⟩
    a.effectiveType.isTemporal ∧ Grammar.date.accepts s ∧ (∀ c ∈ s, Text.isDigit c → c.isDigit) ∧
      form.IsWritten Char.isDigit ∧ s = form.render ∧ form.IsReal ∧
      classify .default a s = .unrecognized := by
  intro a s form
  have hform : form.IsWritten Char.isDigit := by decide
  obtain ⟨haccepts, hascii⟩ : Grammar.date.accepts s ∧ ∀ c ∈ s, Text.isDigit c → c.isDigit :=
    Grammar.accepts_date_ascii_iff.mpr ⟨form, hform, rfl⟩
  have hunread : Period.read? form.render = none := Period.read?_render_eq_none hform (by decide)
  have hclassify : classify .default a s =
      ((Period.read? form.render).map .period).getD .unrecognized :=
    classifyAs_render rfl (hform.mono fun c _ ↦ Grammar.isDigit_of_ascii) (by decide)
  rw [hunread] at hclassify
  exact ⟨rfl, haccepts, hascii, hform, rfl, by decide +kernel, hclassify⟩

end Literal

end RecordSearch
