import RecordSearch.Proofs.Calendar.Reading
import RecordSearch.Proofs.Text.Split

/-!
# Written dates around the range operator

The symbol of the range operator is also the hyphen in a day with its year first. Such a day has two
hyphens, behind four digits and behind one or two, and no other date has one. So dates around the
operator are no date, and no other operator in the text has a date on both sides.
-/

namespace RecordSearch

open Grammar (Run IsRangeMark)

namespace Text

/-- A text without hyphens, or with two: four characters at least in front of the first, and fewer
in front of the second. -/
def Hyphenated (s : Text) : Prop :=
  '-' ∉ s ∨ ∃ first second last, s = first ++ '-' :: (second ++ '-' :: last) ∧ '-' ∉ first ∧
    '-' ∉ second ∧ '-' ∉ last ∧ 4 ≤ first.length ∧ second.length < 4

namespace Hyphenated

variable {s t s' t' : Text}

theorem append (h : Hyphenated s) {back : Text} (hback : '-' ∉ back) :
    Hyphenated (s ++ back) := by
  rcases h with hnone | ⟨first, second, last, rfl, hfirst, hsecond, hlast, hlong, hshort⟩
  · exact .inl (by simp [hnone, hback])
  · exact .inr ⟨first, second, last ++ back, by simp, hfirst, hsecond, by simp [hlast, hback],
      hlong, hshort⟩

theorem prepend (h : Hyphenated s) {front : Text} (hfront : '-' ∉ front) :
    Hyphenated (front ++ s) := by
  rcases h with hnone | ⟨first, second, last, rfl, hfirst, hsecond, hlast, hlong, hshort⟩
  · exact .inl (by simp [hfront, hnone])
  · exact .inr ⟨front ++ first, second, last, by simp, by simp [hfront, hfirst], hsecond, hlast,
      by rw [List.length_append]; omega, hshort⟩

theorem count_hyphen (h : Hyphenated s) : s.count '-' = 0 ∨ s.count '-' = 2 := by
  rcases h with hnone | ⟨first, second, last, rfl, hfirst, hsecond, hlast, -, -⟩
  · exact .inl (List.count_eq_zero.mpr hnone)
  · right
    simp [List.count_eq_zero.mpr hfirst, List.count_eq_zero.mpr hsecond,
      List.count_eq_zero.mpr hlast]

/-- Two such texts have an odd number of hyphens once one stands between them. -/
theorem not_joined (hs : Hyphenated s) (ht : Hyphenated t) : ¬ Hyphenated (s ++ '-' :: t) := by
  intro h
  have hs := hs.count_hyphen
  have ht := ht.count_hyphen
  have hcount := h.count_hyphen
  rw [List.count_append, List.count_cons_self] at hcount
  omega

/-- The first of three hyphens between such texts is not the one before the last two. -/
theorem not_shifted (ht : Hyphenated t) {first second : Text} (hs : '-' ∉ s) (hfirst : '-' ∉ first)
    (hsecond : '-' ∉ second) (hshort : second.length < 4) (rest : Text) :
    s ++ '-' :: t ≠ first ++ '-' :: (second ++ '-' :: rest) := by
  intro heq
  obtain ⟨-, rfl⟩ := append_cons_inj hs hfirst heq
  rcases ht with hnone | ⟨first', second', last', heq, hfirst', -, -, hlong, -⟩
  · exact hnone (by simp)
  · obtain ⟨rfl, -⟩ := append_cons_inj hsecond hfirst' heq
    omega

/-- In a text of two such texts around a hyphen, the hyphen between them is determined. -/
theorem joined_inj (hs : Hyphenated s) (ht : Hyphenated t) (hs' : Hyphenated s')
    (ht' : Hyphenated t') (heq : s ++ '-' :: t = s' ++ '-' :: t') : s = s' ∧ t = t' := by
  -- Either both fronts have the same hyphens, or a front without any would end at a shifted one.
  rcases hs with hs | ⟨first, second, last, rfl, hfirst, hsecond, hlast, -, hshort⟩
  · rcases hs' with hs' | ⟨first', second', last', rfl, hfirst', hsecond', -, -, hshort'⟩
    · exact append_cons_inj hs hs' heq
    · refine absurd ?_ (ht.not_shifted hs hfirst' hsecond' hshort' (last' ++ '-' :: t'))
      simpa using heq
  · rcases hs' with hs' | ⟨first', second', last', rfl, hfirst', hsecond', hlast', -, -⟩
    · refine absurd ?_ (ht'.not_shifted hs' hfirst hsecond hshort (last ++ '-' :: t))
      simpa using heq.symm
    · simp only [List.append_assoc, List.cons_append] at heq
      obtain ⟨rfl, hbehind⟩ := append_cons_inj hfirst hfirst' heq
      obtain ⟨rfl, hend⟩ := append_cons_inj hsecond hsecond' hbehind
      obtain ⟨rfl, rfl⟩ := append_cons_inj hlast hlast' hend
      exact ⟨rfl, rfl⟩

end Hyphenated

end Text

theorem Text.not_mem_blanks {blanks : Text} (h : ∀ c ∈ blanks, isBlank c) {c : Char}
    (hc : isBlank c = false) : c ∉ blanks := by
  intro hmem
  rw [h c hmem] at hc
  cases hc

namespace DateForm

open Text (not_mem_blanks)

variable {form low high low' high' : DateForm} {mark mark' : Text}

/-- The characters of a written date. -/
theorem IsWritten.of_mem_render {digit : Char → Bool} (h : form.IsWritten digit) {c : Char}
    (hc : c ∈ form.render) : digit c ∨ c ∈ ".-: T".toList := by
  have hday {day : DayForm} (hday : day.IsWritten digit) (hc : c ∈ day.render) :
      digit c ∨ c ∈ ".-: T".toList := by
    obtain ⟨⟨-, -, hyear⟩, ⟨-, -, hmonth⟩, -, -, hdays⟩ := hday
    rcases DayForm.mem_render.mp hc with (hc | hc | hc) | rfl
    · exact .inl (hyear c hc)
    · exact .inl (hmonth c hc)
    · exact .inl (hdays c hc)
    · unfold DayForm.mark
      split <;> simp
  cases form with
  | year y => exact .inl (h.2.2 c hc)
  | month m y =>
    rcases List.mem_append.mp hc with hc | hc
    · exact .inl (h.1.2.2 c hc)
    · rcases List.mem_cons.mp hc with rfl | hc
      · simp
      · exact .inl (h.2.2.2 c hc)
  | day form => exact hday h hc
  | instant form mark clock =>
    obtain ⟨hform, hmark, ⟨-, -, hhour⟩, ⟨-, -, hminute⟩, hsecond⟩ := h
    rcases List.mem_append.mp hc with hc | hc
    · exact hday hform hc
    · rcases List.mem_cons.mp hc with rfl | hc
      · rcases hmark with rfl | rfl <;> simp
      · rcases ClockForm.mem_render.mp hc with (hc | hc | ⟨second, hs, hc⟩) | rfl
        · exact .inl (hhour c hc)
        · exact .inl (hminute c hc)
        · exact .inl ((hsecond second hs).2.2 c hc)
        · simp

section Digits

variable (h : form.IsWritten Text.isDigit) (hlow : low.IsWritten Text.isDigit)
  (hhigh : high.IsWritten Text.isDigit) (hlow' : low'.IsWritten Text.isDigit)
  (hhigh' : high'.IsWritten Text.isDigit)

include h in
theorem IsWritten.not_mem_render {c : Char} (hdigit : Text.isDigit c = false)
    (hmark : c ∉ ".-: T".toList) : c ∉ form.render := by
  intro hc
  rcases h.of_mem_render hc with hc | hc
  · rw [hdigit] at hc
    cases hc
  · exact hmark hc

include h in
theorem IsWritten.hyphenated_render : form.render.Hyphenated := by
  have hrun {low high : ℕ} {s : Text} (hs : Run Text.isDigit low high s) : '-' ∉ s := fun hc ↦
    absurd (hs.2.2 _ hc) (by decide)
  have hday {day : DayForm} (hday : day.IsWritten Text.isDigit) {rest : Text}
      (hrest : '-' ∉ rest) : (day.render ++ rest).Hyphenated := by
    obtain ⟨hyear, hmonth, hdays⟩ := hday
    unfold DayForm.render
    split
    · exact .inr ⟨day.year, day.month, day.day ++ rest, by simp, hrun hyear, hrun hmonth,
        by simp [hrun hdays, hrest], hyear.1, by have := hmonth.2.1; omega⟩
    · exact .inl (by simp [hrun hyear, hrun hmonth, hrun hdays, hrest])
  cases form with
  | year y => exact .inl (hrun h)
  | month m y => exact .inl (by simp [render, hrun h.1, hrun h.2])
  | day form => simpa [render] using hday h (List.not_mem_nil : '-' ∉ [])
  | instant form mark clock =>
    obtain ⟨hform, hmark, hhour, hminute, hsecond⟩ := h
    apply hday hform
    rw [List.mem_cons, ClockForm.mem_render]
    rintro (rfl | (hc | hc | ⟨second, hs, hc⟩) | hc)
    · rcases hmark with hmark | hmark <;> cases hmark
    · exact hrun hhour hc
    · exact hrun hminute hc
    · exact hrun (hsecond second hs) hc
    · cases hc

include h in
theorem IsWritten.trim_render_append {blanks : Text} (hblanks : ∀ c ∈ blanks, Text.isBlank c) :
    Text.trim (form.render ++ blanks) = form.render ∧
      Text.trim (blanks ++ form.render) = form.render := by
  have htrim := h.trim_render fun _ hc ↦ (Text.isDigit_cases hc).2
  rw [Text.trim_append_of_blank hblanks, Text.trim_append_of_blank_front hblanks]
  exact ⟨htrim, htrim⟩

include h hlow hhigh in
/-- Two dates around the range operator are no date. -/
theorem IsWritten.ne_joined (hmark : IsRangeMark mark) {start stop : Text}
    (hstart : ∀ c ∈ start, Text.isBlank c) (hstop : ∀ c ∈ stop, Text.isBlank c) :
    form.render ≠ start ++ (low.render ++ (mark ++ (high.render ++ stop))) := by
  intro heq
  rcases hmark with ⟨before, after, rfl, hbefore, hafter⟩ | ⟨before, after, rfl, -, -⟩
  · have hleft := (hlow.hyphenated_render.append (not_mem_blanks hbefore (by decide))).prepend
      (not_mem_blanks hstart (by decide))
    have hright := (hhigh.hyphenated_render.append (not_mem_blanks hstop (by decide))).prepend
      (not_mem_blanks hafter (by decide))
    apply hleft.not_joined hright
    have hform := h.hyphenated_render
    rw [heq] at hform
    simpa using hform
  · apply h.not_mem_render (c := 'O') (by decide) (by decide)
    rw [heq]
    simp

section Operator

variable {before after before' after' : Text} (hbefore : ∀ c ∈ before, Text.isBlank c)
  (hafter : ∀ c ∈ after, Text.isBlank c) (hbefore' : ∀ c ∈ before', Text.isBlank c)
  (hafter' : ∀ c ∈ after', Text.isBlank c)

include hlow hhigh hbefore hafter in
/-- No `O` is in two dates around a hyphen. -/
theorem not_mem_around_hyphen :
    'O' ∉ low.render ++ (before ++ '-' :: after ++ high.render) := by
  simp [hlow.not_mem_render (c := 'O') (by decide) (by decide),
    hhigh.not_mem_render (c := 'O') (by decide) (by decide),
    not_mem_blanks hbefore (c := 'O') (by decide), not_mem_blanks hafter (c := 'O') (by decide)]

include hlow hhigh hlow' hhigh' hbefore hafter hbefore' hafter'

/-- Blanks do not count among what stands on either side of the operator. -/
theorem render_inj (hleft : low.render ++ before = low'.render ++ before')
    (hright : after ++ high.render = after' ++ high'.render) :
    low.render = low'.render ∧ high.render = high'.render := by
  constructor
  · rw [← (hlow.trim_render_append hbefore).1, hleft, (hlow'.trim_render_append hbefore').1]
  · rw [← (hhigh.trim_render_append hafter).2, hright, (hhigh'.trim_render_append hafter').2]

theorem around_hyphen_inj (heq : low.render ++ (before ++ '-' :: after ++ high.render) =
      low'.render ++ (before' ++ '-' :: after' ++ high'.render)) :
    low.render = low'.render ∧ high.render = high'.render := by
  have hfront {a : DateForm} (ha : a.IsWritten Text.isDigit) {x : Text}
      (hx : ∀ c ∈ x, Text.isBlank c) : (a.render ++ x).Hyphenated :=
    ha.hyphenated_render.append (not_mem_blanks hx (by decide))
  have hback {a : DateForm} (ha : a.IsWritten Text.isDigit) {x : Text}
      (hx : ∀ c ∈ x, Text.isBlank c) : (x ++ a.render).Hyphenated :=
    ha.hyphenated_render.prepend (not_mem_blanks hx (by decide))
  obtain ⟨hleft, hright⟩ := (hfront hlow hbefore).joined_inj (hback hhigh hafter)
    (hfront hlow' hbefore') (hback hhigh' hafter') (by simpa using heq)
  exact render_inj hlow hhigh hlow' hhigh' hbefore hafter hbefore' hafter' hleft hright

theorem around_word_inj (heq : low.render ++ (before ++ 'T' :: 'O' :: after ++ high.render) =
      low'.render ++ (before' ++ 'T' :: 'O' :: after' ++ high'.render)) :
    low.render = low'.render ∧ high.render = high'.render := by
  have hfront {a : DateForm} (ha : a.IsWritten Text.isDigit) {x : Text}
      (hx : ∀ c ∈ x, Text.isBlank c) : 'O' ∉ a.render ++ x ++ ['T'] := by
    simp [ha.not_mem_render (c := 'O') (by decide) (by decide),
      not_mem_blanks hx (c := 'O') (by decide)]
  have heq : low.render ++ before ++ ['T'] ++ 'O' :: (after ++ high.render) =
      low'.render ++ before' ++ ['T'] ++ 'O' :: (after' ++ high'.render) := by simpa using heq
  obtain ⟨hleft, hright⟩ :=
    Text.append_cons_inj (hfront hlow hbefore) (hfront hlow' hbefore') heq
  exact render_inj hlow hhigh hlow' hhigh' hbefore hafter hbefore' hafter'
    (List.append_cancel_right hleft) hright

end Operator

include hlow hhigh hlow' hhigh' in
/-- The dates around the range operator are determined by the text. -/
theorem joined_inj (hmark : IsRangeMark mark) (hmark' : IsRangeMark mark')
    (heq : low.render ++ (mark ++ high.render) = low'.render ++ (mark' ++ high'.render)) :
    low.render = low'.render ∧ high.render = high'.render := by
  -- Only the word has an `O`, so the operator is written alike on both sides.
  have hword (a b : DateForm) (x y : Text) :
      'O' ∈ a.render ++ (x ++ 'T' :: 'O' :: y ++ b.render) := by simp
  rcases hmark with ⟨before, after, rfl, hbefore, hafter⟩ | ⟨before, after, rfl, hbefore, hafter⟩
  · rcases hmark' with
      ⟨before', after', rfl, hbefore', hafter'⟩ | ⟨before', after', rfl, -, -⟩
    · exact around_hyphen_inj hlow hhigh hlow' hhigh' hbefore hafter hbefore' hafter' heq
    · exact absurd (heq ▸ hword low' high' before' after')
        (not_mem_around_hyphen hlow hhigh hbefore hafter)
  · rcases hmark' with
      ⟨before', after', rfl, hbefore', hafter'⟩ | ⟨before', after', rfl, hbefore', hafter'⟩
    · exact absurd (heq ▸ hword low high before after)
        (not_mem_around_hyphen hlow' hhigh' hbefore' hafter')
    · exact around_word_inj hlow hhigh hlow' hhigh' hbefore.2 hafter.2 hbefore'.2 hafter'.2 heq

end Digits

end DateForm

end RecordSearch
