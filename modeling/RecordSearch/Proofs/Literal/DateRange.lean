import RecordSearch.Proofs.Literal.WrittenDate
import RecordSearch.Proofs.Text.Margin

/-!
# Ranges of dates

Two dates around the range operator are read as the range from the start of the first to the end of
the second. The text is no date itself, and it is cut at no other hyphen and no other word.
-/

namespace RecordSearch

/-- Blanks around the range operator belong to it. -/
theorem Grammar.isRangeMark_between (byWord : Bool) {before after : Text}
    (hbefore : ∀ c ∈ before, Text.isBlank c) (hafter : ∀ c ∈ after, Text.isBlank c) :
    IsRangeMark (before ++ (rangeMark byWord ++ after)) := by
  have hblank : Text.isBlank ' ' := rfl
  cases byWord with
  | false => exact .inl ⟨before, after, rfl, hbefore, hafter⟩
  | true =>
    refine .inr ⟨before ++ [' '], ' ' :: after, by simp [rangeMark], ⟨by simp, ?_⟩, by simp, ?_⟩
    · exact List.forall_mem_append.mpr ⟨hbefore, List.forall_mem_singleton.mpr hblank⟩
    · exact List.forall_mem_cons.mpr ⟨hblank, hafter⟩

namespace Literal

variable {low high : DateForm} {mark d : Text} {p q : Period} {a : Attribute}

section Joined

variable (hlow : low.IsWritten Text.isDigit) (hhigh : high.IsWritten Text.isDigit)
include hlow hhigh

/-- No blanks stand at the ends of two dates, whatever is between them. -/
theorem trim_joined (middle : Text) : Text.trim (low.render ++ (middle ++ high.render)) =
    low.render ++ (middle ++ high.render) := by
  have htrim {form : DateForm} (hform : form.IsWritten Text.isDigit) :
      Text.trim form.render = form.render :=
    hform.trim_render fun _ hc ↦ (Text.isDigit_cases hc).2
  rw [← List.append_assoc]
  exact Text.trim_append_append (htrim hlow) hlow.render_ne_nil (htrim hhigh)
    hhigh.render_ne_nil middle

omit hhigh in
theorem head?_joined (rest : Text) :
    ∃ c, (low.render ++ rest).head? = some c ∧ Text.isDigit c := by
  obtain ⟨c, hhead, hc⟩ := hlow.head?_render
  refine ⟨c, ?_, hc⟩
  rw [List.head?_append, hhead]
  rfl

variable (hmark : Grammar.IsRangeMark mark)
include hmark

/-- The split of two dates around the range operator is at the operator. -/
theorem splitPair?_joined :
    Grammar.splitPair? Grammar.date (Grammar.rangeSeparator Settings.default.operators.range)
      (low.render ++ (mark ++ high.render)) = some (low.render, high.render) := by
  obtain ⟨⟨first, last⟩, hsplit⟩ := Option.isSome_iff_exists.mp
    (Grammar.isSome_splitPair? Grammar.takes_date Grammar.takes_rangeSeparator
      ⟨low, hlow, rfl⟩ hmark ⟨high, hhigh, rfl⟩)
  obtain ⟨start, mark', stop, heq, hstart, ⟨first, hfirst, rfl⟩, hmark', ⟨last, hlast, rfl⟩,
    hstop⟩ := Grammar.spelling_of_splitPair? Grammar.takes_date Grammar.takes_rangeSeparator hsplit
  -- The text has no blanks at its ends, so none are cut off there.
  have hcut : low.render ++ (mark ++ high.render) = first.render ++ (mark' ++ last.render) := by
    have hstop' : first.render ++ (mark' ++ (last.render ++ stop)) =
        first.render ++ (mark' ++ last.render) ++ stop := by simp
    rw [← trim_joined hlow hhigh mark, heq, Text.trim_append_of_blank_front hstart, hstop',
      Text.trim_append_of_blank hstop, trim_joined hfirst hlast]
  obtain ⟨hlowEq, hhighEq⟩ := DateForm.joined_inj hlow hhigh hfirst hlast hmark hmark' hcut
  rwa [← hlowEq, ← hhighEq] at hsplit

theorem datePeriod?_joined : datePeriod? (low.render ++ (mark ++ high.render)) = none := by
  rw [datePeriod?, if_neg]
  intro haccepts
  obtain ⟨form, hform, heq⟩ := Grammar.takes_date.accepts_iff.mp haccepts
  have hnone : ∀ c ∈ ([] : Text), Text.isBlank c := by simp
  apply hform.ne_joined hlow hhigh hmark hnone hnone
  simpa using heq.symm

theorem classifyDate_joined (hp : Period.read? low.render = some p)
    (hq : Period.read? high.render = some q) :
    classifyDate .default (low.render ++ (mark ++ high.render)) =
      .period ⟨p.start, q.stop⟩ := by
  obtain ⟨c, hhead, hc⟩ := head?_joined hlow (mark ++ high.render)
  rw [classifyDate_of_digit hhead hc, datePeriod?_joined hlow hhigh hmark, dateRange?,
    splitPair?_joined hlow hhigh hmark]
  simp [hp, hq]

end Joined

/-- What a text with the form of a date is classified as is the period that it names. -/
theorem classify_eq_period_iff [Pattern.Engine] (ha : a.effectiveType.isTemporal)
    (hd : Text.trim d = low.render) (hlow : low.IsWritten Text.isDigit) :
    classify .default a d = .period p ↔ Period.read? low.render = some p := by
  rw [classify, classifyAs_render ha hlow hd]
  cases Period.read? low.render <;> simp

/-- Two texts that are dates but for blanks at their ends are, around the range operator, the two
dates around an operator that takes in the blanks between them. -/
theorem exists_rangeMark_joined {e : Text} (hlow : low.IsWritten Text.isDigit)
    (hhigh : high.IsWritten Text.isDigit) (hd : Text.trim d = low.render)
    (he : Text.trim e = high.render) (byWord : Bool) :
    ∃ mark, Grammar.IsRangeMark mark ∧
      Text.trim (d ++ (Grammar.rangeMark byWord ++ e)) = low.render ++ (mark ++ high.render) := by
  let mark := Text.rightMargin d ++ (Grammar.rangeMark byWord ++ Text.leftMargin e)
  have hmark : Grammar.IsRangeMark mark :=
    Grammar.isRangeMark_between byWord Text.isBlank_of_mem_rightMargin
      Text.isBlank_of_mem_leftMargin
  have htext : d ++ (Grammar.rangeMark byWord ++ e) = Text.leftMargin d ++
      (low.render ++ (mark ++ high.render) ++ Text.rightMargin e) := by
    calc
      d ++ (Grammar.rangeMark byWord ++ e) =
          Text.leftMargin d ++ (Text.trim d ++ Text.rightMargin d) ++ (Grammar.rangeMark byWord ++
            (Text.leftMargin e ++ (Text.trim e ++ Text.rightMargin e))) := by
        rw [Text.margins_append, Text.margins_append]
      _ = _ := by
        rw [hd, he]
        simp only [mark, List.append_assoc]
  refine ⟨mark, hmark, ?_⟩
  rw [htext, Text.trim_append_of_blank_front Text.isBlank_of_mem_leftMargin,
    Text.trim_append_of_blank Text.isBlank_of_mem_rightMargin, trim_joined hlow hhigh]

/-- Two dates that are read make a range around the range operator. -/
theorem classify_joined [Pattern.Engine] {e : Text} (ha : a.effectiveType.isTemporal)
    (hlow : low.IsWritten Text.isDigit) (hhigh : high.IsWritten Text.isDigit)
    (hd : Text.trim d = low.render) (he : Text.trim e = high.render)
    (hp : Period.read? low.render = some p) (hq : Period.read? high.render = some q)
    (byWord : Bool) :
    classify .default a (d ++ (Grammar.rangeMark byWord ++ e)) = .period ⟨p.start, q.stop⟩ := by
  obtain ⟨mark, hmark, htrim⟩ := exists_rangeMark_joined hlow hhigh hd he byWord
  obtain ⟨c, hhead, hc⟩ := head?_joined hlow (mark ++ high.render)
  rw [classify, classifyAs_temporal ha (htrim.symm ▸ hhead) (beginsPlainly_of_isDigit hc), htrim]
  exact classifyDate_joined hlow hhigh hmark hp hq

/-- Two dates, however they are written, make a range around the range operator. -/
theorem classify_date_range [Pattern.Engine] {d e : Text} (ha : a.effectiveType.isTemporal)
    (hd : Grammar.date.accepts (Text.trim d)) (hp : classify .default a d = .period p)
    (he : Grammar.date.accepts (Text.trim e)) (hq : classify .default a e = .period q)
    (byWord : Bool) :
    classify .default a (d ++ (Grammar.rangeMark byWord ++ e)) = .period ⟨p.start, q.stop⟩ := by
  obtain ⟨low, hlow, hdate⟩ := Grammar.takes_date.accepts_iff.mp hd
  obtain ⟨high, hhigh, hdate'⟩ := Grammar.takes_date.accepts_iff.mp he
  rw [classify_eq_period_iff ha hdate hlow] at hp
  rw [classify_eq_period_iff ha hdate' hhigh] at hq
  exact classify_joined ha hlow hhigh hdate hdate' hp hq byWord

/-- Days with hyphens and a blank, joined by a hyphen and by the word. -/
theorem classify_date_range_hyphens :
    let a := Attribute.ofType .date
    let d := "2024-02-1\t".toList
    let e := "2024-03-31".toList
    let p : Period := .ofDays ⟨2024, 2, 1, by decide⟩ ⟨2024, 2, 1, by decide⟩
    let q : Period := .ofDays ⟨2024, 3, 31, by decide⟩ ⟨2024, 3, 31, by decide⟩
    a.effectiveType.isTemporal ∧
      Grammar.date.accepts (Text.trim d) ∧ classify .default a d = .period p ∧
      Grammar.date.accepts (Text.trim e) ∧ classify .default a e = .period q ∧
      classify .default a "2024-02-1\t-2024-03-31".toList = .period ⟨p.start, q.stop⟩ ∧
      classify .default a "2024-02-1\t TO 2024-03-31".toList = .period ⟨p.start, q.stop⟩ := by
  intro a d e p q
  have ha : a.effectiveType.isTemporal := rfl
  have hd : Grammar.date.accepts (Text.trim d) := by decide +kernel
  have he : Grammar.date.accepts (Text.trim e) := by decide +kernel
  have hp : classify .default a d = .period p :=
    classifyAs_date ha (by decide +kernel : datePeriod? (Text.trim d) = some p)
  have hq : classify .default a e = .period q :=
    classifyAs_date ha (by decide +kernel : datePeriod? (Text.trim e) = some q)
  exact ⟨ha, hd, hp, he, hq, classify_date_range ha hd hp he hq false,
    classify_date_range ha hd hp he hq true⟩

end Literal

end RecordSearch
