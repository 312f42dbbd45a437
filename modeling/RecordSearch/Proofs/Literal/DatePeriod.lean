import RecordSearch.Literal.Engine
import RecordSearch.Proofs.Calendar.Legible
import RecordSearch.Proofs.Calendar.Naming
import RecordSearch.Proofs.Literal.Membership

/-!
# Filters on dates

A filter that is a written date selects the span of the calendar that it names, and behind the
operators for less and greater the date/times before and after it. A leap second that closes the
last day of the span counts as after it.
-/

namespace RecordSearch

theorem DateForm.isBounded_of_span? {form : DateForm} {span : CalendarSpan}
    (h : form.IsWritten Char.isDigit) (hspan : form.span? = some span) : span.IsBounded := by
  cases form with
  | year y =>
    obtain rfl := Option.some.inj hspan
    trivial
  | month m y =>
    obtain rfl := Option.some.inj hspan
    trivial
  | day form =>
    obtain ⟨date, hdate, rfl⟩ := Option.map_eq_some_iff.mp hspan
    have hyear : date.year = digitsValue form.year := (Date.of?_eq_some_iff.mp hdate).1
    have hlt : digitsValue form.year < 10 ^ 4 := h.1.value_lt
    simp only [CalendarSpan.IsBounded, Date.lastYear, hyear]
    omega
  | instant form mark clock =>
    obtain ⟨t, -, rfl⟩ := Option.map_eq_some_iff.mp hspan
    trivial

theorem beginsPlainly_of_isDigit {c : Char} (hc : Text.isDigit c) : beginsPlainly c := by
  rcases (Text.isDigit_cases hc).1 with hascii | hlarge
  · exact Number.beginsPlainly_of_mem_numberChars
      (Number.mem_numberChars (by simp [Number.isNumberChar, Number.isDecimalChar, hascii]))
  · have hne {d : Char} (hd : d.toNat ≤ 0x80) : c ≠ d := by
      rintro rfl
      omega
    have hlower : c.toLower = c := by
      unfold Char.toLower
      split
      · rename_i hupper
        have hupper : c.toNat ≤ 'Z'.toNat := UInt32.le_iff_toNat_le.mp hupper.2
        exact absurd (hupper.trans (by decide : 'Z'.toNat ≤ 0x80)) (by omega)
      · rfl
    simp [beginsPlainly, hlower, hne (by decide : '!'.toNat ≤ 0x80),
      hne (by decide : 'N'.toNat ≤ 0x80), hne (by decide : 'n'.toNat ≤ 0x80)]

namespace Literal

variable {s d : Text} {p : Period}

/-- The dates that are classified are written in ASCII digits and name a span of the calendar. -/
theorem datePeriod?_eq_some (h : datePeriod? s = some p) :
    ∃ (form : DateForm) (span : CalendarSpan), form.IsWritten Char.isDigit ∧ s = form.render ∧
      form.span? = some span ∧ span.period? = some p := by
  unfold datePeriod? at h
  split at h
  · rename_i haccepts
    obtain ⟨form, hform, rfl⟩ := Grammar.takes_date.accepts_iff.mp haccepts
    have hlegible := Period.legible_of_read? h
    have hascii : form.IsWritten Char.isDigit := hform.mono fun c hc hdigit ↦
      isDigit_of_isLegible hdigit (hlegible c hc)
    by_cases hreadable : form.IsReadable
    · rw [Period.read?_render hascii hreadable] at h
      obtain ⟨span, hspan, hperiod⟩ := Option.bind_eq_some_iff.mp h
      exact ⟨form, span, hascii, rfl, hspan, hperiod⟩
    · rw [Period.read?_render_eq_none hascii hreadable] at h
      cases h
  · cases h

theorem datePeriod?_eq_none {c : Char} (hc : Text.isDigit c = false) (s : Text) :
    datePeriod? (c :: s) = none := by
  rw [datePeriod?, if_neg]
  intro haccepts
  obtain ⟨form, hform, heq⟩ := Grammar.takes_date.accepts_iff.mp haccepts
  obtain ⟨e, hhead, he⟩ := hform.head?_render
  rw [← heq] at hhead
  obtain rfl := Option.some.inj hhead
  rw [hc] at he
  cases he

section Classify

variable [Pattern.Engine] {type : SemanticType} (htype : type.isTemporal)
include htype

/-- Where it is not the literal for a missing value, a text that is not blank is classified as a
date. -/
theorem classifyAs_of_not_null {settings : Settings} {raw : Text} (hne : Text.trim raw ≠ [])
    (hnull : settings.isNullToken (Text.trim raw) = false) :
    classifyAs settings type raw = classifyDate settings (Text.trim raw) := by
  cases type with
  | date | dateTime => simp [classifyAs, hne, hnull]
  | text | numeric | boolean | enumeration => cases htype

/-- A text that begins like no literal for a missing value is classified as a date. -/
theorem classifyAs_temporal {raw : Text} {c : Char} (hhead : (Text.trim raw).head? = some c)
    (hplain : beginsPlainly c) :
    classifyAs .default type raw = classifyDate .default (Text.trim raw) := by
  apply classifyAs_of_not_null htype
  · exact List.ne_nil_of_mem (List.mem_of_mem_head? hhead)
  · exact (Settings.plain_of_head rfl hhead hplain).2

variable (hd : datePeriod? (Text.trim d) = some p)
include hd

theorem classifyAs_date : classifyAs .default type d = .period p := by
  obtain ⟨form, span, hform, hrender, -⟩ := datePeriod?_eq_some hd
  obtain ⟨c, hhead, hc⟩ := hform.head?_render
  have hplain : beginsPlainly c := beginsPlainly_of_isDigit (Grammar.isDigit_of_ascii hc)
  rw [classifyAs_temporal htype (hrender ▸ hhead) hplain, classifyDate, hd]

theorem classifyAs_less : classifyAs .default type ('<' :: d) = .lessThan (.dateTime p.start) := by
  have htrim : Text.trim ('<' :: d) = '<' :: Text.trimEnd d := Text.trim_cons (by decide) d
  have hhead : (Text.trim ('<' :: d)).head? = some '<' := by rw [htrim]; rfl
  have hoperand : Operators.default.less.operand? ('<' :: Text.trimEnd d) = some (Text.trim d) := by
    rw [← Text.trim_trimEnd d]
    exact Operators.marked_default.less.operand?_before false (Text.trimEnd d)
  rw [classifyAs_temporal htype hhead (by decide), htrim, classifyDate,
    datePeriod?_eq_none (by decide)]
  simp [Settings.default, hoperand, hd]

theorem classifyAs_greater :
    classifyAs .default type ('>' :: d) = .greaterThan (.dateTime p.stop) := by
  have htrim : Text.trim ('>' :: d) = '>' :: Text.trimEnd d := Text.trim_cons (by decide) d
  have hhead : (Text.trim ('>' :: d)).head? = some '>' := by rw [htrim]; rfl
  have hother : Operators.default.less.operand? ('>' :: Text.trimEnd d) = none :=
    Operators.marked_default.less.operand?_eq_none rfl (by decide) (by decide)
  have hoperand :
      Operators.default.greater.operand? ('>' :: Text.trimEnd d) = some (Text.trim d) := by
    rw [← Text.trim_trimEnd d]
    exact Operators.marked_default.greater.operand?_before false (Text.trimEnd d)
  rw [classifyAs_temporal htype hhead (by decide), htrim, classifyDate,
    datePeriod?_eq_none (by decide)]
  simp [Settings.default, hother, hoperand, hd]

end Classify

section Holds

variable {v : Value} {t : DateTime} (hv : v.toDateTime? = some t)
include hv

theorem holds_of_toDateTime? (literal : Literal) : literal.holds v = literal.holdsFor v := by
  apply holds_of_ne_null
  rintro rfl
  cases hv

theorem holds_period : (Literal.period p).holds v ↔ withinPeriod p t := by
  rw [holds_of_toDateTime? hv, holdsFor, hv]
  rfl

theorem holds_lessThan {u : DateTime} :
    (Literal.lessThan (.dateTime u)).holds v ↔ compare t u = .lt := by
  simp [holds_of_toDateTime? hv, holdsFor, Value.orderBound?, hv]

theorem holds_greaterThan {u : DateTime} :
    (Literal.greaterThan (.dateTime u)).holds v ↔ compare t u = .gt := by
  simp [holds_of_toDateTime? hv, holdsFor, Value.orderBound?, hv]

end Holds

/-- A written date selects what falls in the span that it names, and behind the operators for less
and greater what is before and after it. -/
theorem date_selects_span [Pattern.Engine] {a : Attribute} (ha : a.effectiveType.isTemporal)
    (hd : datePeriod? (Text.trim d) = some p) :
    ∃ (form : DateForm) (span : CalendarSpan), form.IsWritten Char.isDigit ∧
      Text.trim d = form.render ∧ form.span? = some span ∧
      classify .default a d = .period p ∧
      ∀ v t, Value.toDateTime? v = some t →
        ((classify .default a d).holds v ↔ span.Contains t ∧ ¬ span.EndsWith t) ∧
        ((classify .default a ('<' :: d)).holds v ↔ span.Follows t) ∧
        ((classify .default a ('>' :: d)).holds v ↔ span.Precedes t ∨ span.EndsWith t) := by
  obtain ⟨form, span, hform, hrender, hspan, hperiod⟩ := datePeriod?_eq_some hd
  have hbounded : span.IsBounded := form.isBounded_of_span? hform hspan
  have hclassify : classify .default a d = .period p := classifyAs_date ha hd
  refine ⟨form, span, hform, hrender, hspan, hclassify, fun v t hv ↦ ⟨?_, ?_, ?_⟩⟩
  · rw [hclassify, holds_period hv]
    exact CalendarSpan.withinPeriod_iff hperiod hbounded
  · rw [classify, classifyAs_less ha hd, holds_lessThan hv]
    exact CalendarSpan.lt_start_iff hperiod hbounded
  · rw [classify, classifyAs_greater ha hd, holds_greaterThan hv]
    exact CalendarSpan.gt_stop_iff hperiod hbounded

/-- A month of a leap year, with blanks around it. -/
theorem date_selects_span_month :
    let a := Attribute.ofType .dateTime
    let d := " 2.2024\t".toList
    let p : Period := .ofDays ⟨2024, 2, 1, by decide⟩ ⟨2024, 2, 29, by decide⟩
    a.effectiveType.isTemporal ∧ datePeriod? (Text.trim d) = some p ∧
      ∃ (form : DateForm) (span : CalendarSpan), form.IsWritten Char.isDigit ∧
        Text.trim d = form.render ∧ form.span? = some span ∧
        classify .default a d = .period p ∧
        ∀ v t, Value.toDateTime? v = some t →
          ((classify .default a d).holds v ↔ span.Contains t ∧ ¬ span.EndsWith t) ∧
          ((classify .default a ('<' :: d)).holds v ↔ span.Follows t) ∧
          ((classify .default a ('>' :: d)).holds v ↔ span.Precedes t ∨ span.EndsWith t) := by
  intro a d p
  have ha : a.effectiveType.isTemporal := rfl
  have hd : datePeriod? (Text.trim d) = some p := by decide +kernel
  exact ⟨ha, hd, date_selects_span ha hd⟩

/-- A leap second at the end of a day falls in the day, but the filter for the day does not select
it, and the one for what is after the day does. -/
theorem date_misses_leap_second :
    let a := Attribute.ofType .dateTime
    let d := "01.02.2024".toList
    let day : Date := ⟨2024, 2, 1, by decide⟩
    let t : DateTime := ⟨day, 86399, 1000000000, by decide, by decide⟩
    let v := Value.text "2024-02-01T23:59:60".toList
    (DateForm.day ⟨false, "2024".toList, "02".toList, "01".toList⟩).render = Text.trim d ∧
      (DateForm.day ⟨false, "2024".toList, "02".toList, "01".toList⟩).span? = some (.day day) ∧
      (datePeriod? (Text.trim d)).isSome ∧ v.toDateTime? = some t ∧
      (CalendarSpan.day day).Contains t ∧ ¬ (CalendarSpan.day day).Precedes t ∧
      (classify .default a d).holds v = false ∧
      (classify .default a ('>' :: d)).holds v = true := by
  intro a d day t v
  have hcontains : (CalendarSpan.day day).Contains t := rfl
  have hprecedes : ¬ (CalendarSpan.day day).Precedes t := by
    intro h
    have hself : compare t t = .gt := h t hcontains
    simp at hself
  exact ⟨by decide, by rfl, by decide +kernel, by decide +kernel, hcontains, hprecedes,
    by decide +kernel, by decide +kernel⟩

end Literal

end RecordSearch
