import RecordSearch.Proofs.Literal.DateRange

/-!
# Before, within and after dates

Behind the operators for less and greater and without them, a date parts time into three: each value
that stands for a date/time is selected by exactly one of the filters. Two dates do so with the range
between them, unless the first begins after the second ends.
-/

namespace RecordSearch.Literal

variable {start stop : DateTime} {s d e : Text} {p q : Period} {a : Attribute}

/-- Exactly one of some literals selects each value that stands for a date/time. -/
def PartitionsTime (literals : List Literal) : Prop :=
  ∀ (v : Value) (t : DateTime), v.toDateTime? = some t → literals.countP (·.holds v) = 1

/-- A period that does not end before it starts parts what is before it from what is after it. -/
theorem partitionsTime_of_isLE (h : (compare start stop).isLE) :
    PartitionsTime [.lessThan (.dateTime start), .period ⟨start, stop⟩,
      .greaterThan (.dateTime stop)] := by
  intro v t hv
  have hwithin : (Literal.period ⟨start, stop⟩).holds v ↔
      compare t start ≠ .lt ∧ compare t stop ≠ .gt := by
    rw [holds_period hv]
    simp [withinPeriod, Std.OrientedCmp.gt_iff_lt]
  simp only [List.countP_cons, List.countP_nil, hwithin, holds_lessThan hv, holds_greaterThan hv]
  by_cases hbefore : compare t start = .lt
  · have hstop : compare t stop = .lt := Std.TransCmp.lt_of_lt_of_isLE hbefore h
    simp [hbefore, hstop]
  · by_cases hafter : compare t stop = .gt <;> simp [hbefore, hafter]

/-- A filter that is written as a date and is read as the period that the date names. -/
structure IsDate [Pattern.Engine] (a : Attribute) (d : Text) (p : Period) : Prop where
  written : Grammar.date.accepts (Text.trim d)
  classified : classify .default a d = .period p

theorem IsDate.datePeriod?_eq [Pattern.Engine] (ha : a.effectiveType.isTemporal)
    (h : IsDate a d p) :
    datePeriod? (Text.trim d) = some p := by
  obtain ⟨form, hform, hdate⟩ := Grammar.takes_date.accepts_iff.mp h.written
  rw [hdate, datePeriod?_render hform]
  exact (classify_eq_period_iff ha hdate hform).mp h.classified

theorem start_isLE_stop_of_datePeriod? (h : datePeriod? s = some p) :
    (compare p.start p.stop).isLE := by
  obtain ⟨form, span, hform, -, hspan, hperiod⟩ := datePeriod?_eq_some h
  exact CalendarSpan.start_isLE_stop hperiod (form.isBounded_of_span? hform hspan)

/-- What is before a date, within it and after it are apart, and together all of time; so are what is
before a date, from it to another one and after this one. -/
theorem partitionsTime_of_dates [Pattern.Engine] (ha : a.effectiveType.isTemporal) :
    (∀ d p, IsDate a d p →
      PartitionsTime [classify .default a ('<' :: d), classify .default a d,
        classify .default a ('>' :: d)]) ∧
    ∀ d e p q, IsDate a d p → IsDate a e q → compare p.start q.stop ≠ .gt →
      PartitionsTime [classify .default a ('<' :: d), classify .default a (d ++ '-' :: e),
        classify .default a ('>' :: e)] := by
  constructor
  · intro d p hd
    have hp : datePeriod? (Text.trim d) = some p := hd.datePeriod?_eq ha
    have hless : classify .default a ('<' :: d) = .lessThan (.dateTime p.start) :=
      classifyAs_less ha hp
    have hgreater : classify .default a ('>' :: d) = .greaterThan (.dateTime p.stop) :=
      classifyAs_greater ha hp
    rw [hless, hd.classified, hgreater]
    exact partitionsTime_of_isLE (start_isLE_stop_of_datePeriod? hp)
  · intro d e p q hd he hle
    have hless : classify .default a ('<' :: d) = .lessThan (.dateTime p.start) :=
      classifyAs_less ha (hd.datePeriod?_eq ha)
    have hgreater : classify .default a ('>' :: e) = .greaterThan (.dateTime q.stop) :=
      classifyAs_greater ha (he.datePeriod?_eq ha)
    have hrange : classify .default a (d ++ '-' :: e) = .period ⟨p.start, q.stop⟩ := by
      obtain ⟨low, hlow, hdate⟩ := Grammar.takes_date.accepts_iff.mp hd.written
      obtain ⟨high, hhigh, hdate'⟩ := Grammar.takes_date.accepts_iff.mp he.written
      have hp := (classify_eq_period_iff ha hdate hlow).mp hd.classified
      have hq := (classify_eq_period_iff ha hdate' hhigh).mp he.classified
      exact classify_joined ha hlow hhigh hdate hdate' hp hq false
    rw [hless, hrange, hgreater]
    exact partitionsTime_of_isLE (Ordering.isLE_iff_ne_gt.mpr hle)

/-- A month, and the range from it to a minute of its last day: a text before them, a date/time within
them and a date after them. -/
theorem partitionsTime_of_dates_month :
    let a := Attribute.ofType .dateTime
    let d := " 2.2024".toList
    let e := "2024-02-29T23:59".toList
    let p : Period := .ofDays ⟨2024, 2, 1, by decide⟩ ⟨2024, 2, 29, by decide⟩
    let q : Period := .instant ⟨⟨2024, 2, 29, by decide⟩, 86340, 0, by decide, by decide⟩
    let values : List Value := [.text " 2024-01-31T23:59:59".toList,
      .dateTime ⟨⟨2024, 2, 29, by decide⟩, 86340, 0, by decide, by decide⟩,
      .date ⟨2024, 3, 1, by decide⟩]
    a.effectiveType.isTemporal ∧ IsDate a d p ∧ IsDate a e q ∧ compare p.start q.stop ≠ .gt ∧
      ∀ v ∈ values, v.toDateTime?.isSome ∧
        [classify .default a "< 2.2024".toList, classify .default a " 2.2024".toList,
          classify .default a "> 2.2024".toList].countP (·.holds v) = 1 ∧
        [classify .default a "< 2.2024".toList,
          classify .default a " 2.2024-2024-02-29T23:59".toList,
          classify .default a ">2024-02-29T23:59".toList].countP (·.holds v) = 1 := by
  intro a d e p q values
  have ha : a.effectiveType.isTemporal := rfl
  have hd : IsDate a d p := ⟨by decide +kernel,
    classifyAs_date ha (by decide +kernel : datePeriod? (Text.trim d) = some p)⟩
  have he : IsDate a e q := ⟨by decide +kernel,
    classifyAs_date ha (by decide +kernel : datePeriod? (Text.trim e) = some q)⟩
  have hle : compare p.start q.stop ≠ .gt := by decide +kernel
  have hvalues : ∀ v ∈ values, v.toDateTime?.isSome := by decide +kernel
  obtain ⟨hdate, hrange⟩ := partitionsTime_of_dates ha
  refine ⟨ha, hd, he, hle, fun v hv ↦ ?_⟩
  obtain ⟨t, ht⟩ := Option.isSome_iff_exists.mp (hvalues v hv)
  exact ⟨hvalues v hv, hdate d p hd v t ht, hrange d e p q hd he hle v t ht⟩

end RecordSearch.Literal
