import RecordSearch.Literal.Classify
import RecordSearch.Proofs.Text.Ends
import RecordSearch.Proofs.Text.Language
import RecordSearch.Proofs.Calendar.Span

/-!
# Written dates

A date is written as a year, as a month of a year, or as a day with or without a time of day. The
date grammar accepts exactly these forms, in the digits of any script.
-/

namespace RecordSearch

open Grammar (Run)

/-- A day, with the year first or last. -/
structure DayForm where
  yearFirst : Bool
  year : Text
  month : Text
  day : Text

/-- A time of day, with or without seconds. -/
structure ClockForm where
  hour : Text
  minute : Text
  second : Option Text

inductive DateForm where
  | year (year : Text)
  | month (month year : Text)
  | day (day : DayForm)
  | instant (day : DayForm) (mark : Char) (clock : ClockForm)

namespace DayForm

/-- The character between the numbers. -/
def mark (form : DayForm) : Char :=
  if form.yearFirst then '-' else '.'

def render (form : DayForm) : Text :=
  if form.yearFirst then form.year ++ '-' :: form.month ++ '-' :: form.day
  else form.day ++ '.' :: form.month ++ '.' :: form.year

def IsWritten (digit : Char → Bool) (form : DayForm) : Prop :=
  Run digit 4 4 form.year ∧ Run digit 1 2 form.month ∧ Run digit 1 2 form.day

instance (digit : Char → Bool) (form : DayForm) : Decidable (form.IsWritten digit) :=
  inferInstanceAs (Decidable (_ ∧ _ ∧ _))

def fields (form : DayForm) : CalendarFields :=
  { year := digitsValue form.year, month := digitsValue form.month, day := digitsValue form.day }

end DayForm

namespace ClockForm

def render (form : ClockForm) : Text :=
  form.hour ++ ':' :: form.minute ++
    match form.second with
    | none => []
    | some second => ':' :: second

def IsWritten (digit : Char → Bool) (form : ClockForm) : Prop :=
  Run digit 1 2 form.hour ∧ Run digit 2 2 form.minute ∧
    ∀ second ∈ form.second, Run digit 2 2 second

instance (digit : Char → Bool) (form : ClockForm) : Decidable (form.IsWritten digit) :=
  inferInstanceAs (Decidable (_ ∧ _ ∧ _))

/-- The time on top of a day. -/
def addTo (f : CalendarFields) (form : ClockForm) : CalendarFields :=
  { f with
    hour := digitsValue form.hour
    minute := digitsValue form.minute
    second := (form.second.map digitsValue).getD f.second }

end ClockForm

namespace DateForm

def render : DateForm → Text
  | year y => y
  | month m y => m ++ '.' :: y
  | day form => form.render
  | instant form mark clock => form.render ++ mark :: clock.render

/-- The form has the right numbers of digits. -/
def IsWritten (digit : Char → Bool) : DateForm → Prop
  | year y => Run digit 4 4 y
  | month m y => Run digit 1 2 m ∧ Run digit 4 4 y
  | day form => form.IsWritten digit
  | instant form mark clock =>
    form.IsWritten digit ∧ (mark = ' ' ∨ mark = 'T') ∧ clock.IsWritten digit

instance (digit : Char → Bool) : (form : DateForm) → Decidable (form.IsWritten digit)
  | year y => inferInstanceAs (Decidable (Run digit 4 4 y))
  | month _ _ => inferInstanceAs (Decidable (_ ∧ _))
  | day form => inferInstanceAs (Decidable (form.IsWritten digit))
  | instant _ _ _ => inferInstanceAs (Decidable (_ ∧ _ ∧ _))

/-- What a written date names, if its day and its time exist. -/
def span? : DateForm → Option CalendarSpan
  | year y => some (.year (digitsValue y))
  | month m y => some (.month (digitsValue y) (digitsValue m))
  | day form => form.fields.date?.map .day
  | instant form _ clock => (clock.addTo form.fields).dateTime?.map .instant

end DateForm

section Characters

variable {c : Char}

theorem DayForm.mem_render {form : DayForm} : c ∈ form.render ↔
    (c ∈ form.year ∨ c ∈ form.month ∨ c ∈ form.day) ∨ c = form.mark := by
  unfold render mark
  split <;> simp only [List.mem_append, List.mem_cons] <;> tauto

theorem ClockForm.mem_render {form : ClockForm} : c ∈ form.render ↔
    (c ∈ form.hour ∨ c ∈ form.minute ∨ ∃ second ∈ form.second, c ∈ second) ∨ c = ':' := by
  unfold render
  cases form.second with
  | none => simp; tauto
  | some second => simp; tauto

end Characters

section Ends

variable {digit : Char → Bool}

/-- Each written date begins with a digit. -/
theorem DateForm.IsWritten.head?_render {form : DateForm} (h : form.IsWritten digit) :
    ∃ c, form.render.head? = some c ∧ digit c := by
  have hrun {low high : ℕ} {s : Text} (hs : Run digit (low + 1) high s) (rest : Text) :
      ∃ c, (s ++ rest).head? = some c ∧ digit c := by
    obtain ⟨hlow, -, hall⟩ := hs
    cases s with
    | nil => simp at hlow
    | cons c s => exact ⟨c, rfl, hall c List.mem_cons_self⟩
  have hday {form : DayForm} (hform : form.IsWritten digit) (rest : Text) :
      ∃ c, (form.render ++ rest).head? = some c ∧ digit c := by
    unfold DayForm.render
    split <;> simp only [List.append_assoc]
    · exact hrun hform.1 _
    · exact hrun hform.2.2 _
  cases form with
  | year y => simpa [render] using hrun h []
  | month m y => exact hrun h.1 _
  | day form => simpa [render] using hday h []
  | instant form mark clock => exact hday h.1 _

theorem DateForm.IsWritten.render_ne_nil {form : DateForm} (h : form.IsWritten digit) :
    form.render ≠ [] := by
  obtain ⟨c, hhead, -⟩ := h.head?_render
  exact List.ne_nil_of_mem (List.mem_of_mem_head? hhead)

/-- Each written date ends with a digit. -/
theorem DateForm.IsWritten.getLast?_render {form : DateForm} (h : form.IsWritten digit) :
    ∃ c, form.render.getLast? = some c ∧ digit c := by
  have hrun {low high : ℕ} {s : Text} (hs : Run digit (low + 1) high s) (front : Text) :
      ∃ c, (front ++ s).getLast? = some c ∧ digit c := by
    obtain ⟨hlow, -, hall⟩ := hs
    have hne : s ≠ [] := List.ne_nil_of_length_pos (by omega)
    rw [List.getLast?_append_of_ne_nil _ hne, List.getLast?_eq_some_getLast hne]
    exact ⟨_, rfl, hall _ (List.getLast_mem hne)⟩
  have hmarked {low high : ℕ} {s : Text} (hs : Run digit (low + 1) high s) (front : Text)
      (mark : Char) : ∃ c, (front ++ mark :: s).getLast? = some c ∧ digit c := by
    rw [List.append_cons]
    exact hrun hs _
  cases form with
  | year y => exact hrun h []
  | month m y => exact hmarked h.2 m '.'
  | day form =>
    simp only [render, DayForm.render]
    split
    · exact hmarked h.2.2 _ '-'
    · exact hmarked h.1 _ '.'
  | instant form mark clock =>
    obtain ⟨-, -, hhour, hminute, hsecond⟩ := h
    simp only [render, ClockForm.render]
    cases hs : clock.second with
    | none =>
      rw [List.append_nil, ← List.cons_append, ← List.append_assoc]
      exact hmarked hminute _ ':'
    | some second =>
      rw [← List.cons_append, ← List.append_assoc]
      exact hmarked (hsecond second hs) _ ':'

theorem DateForm.IsWritten.trim_render {form : DateForm} (h : form.IsWritten digit)
    (hdigit : ∀ c, digit c → Text.isBlank c = false) : Text.trim form.render = form.render := by
  obtain ⟨first, hfirst, hfirstDigit⟩ := h.head?_render
  obtain ⟨last, hlast, hlastDigit⟩ := h.getLast?_render
  apply Text.trim_of_ends
  · rw [hfirst]
    exact fun c hc ↦ Option.mem_some_iff.mp hc ▸ hdigit first hfirstDigit
  · rw [hlast]
    exact fun c hc ↦ Option.mem_some_iff.mp hc ▸ hdigit last hlastDigit

end Ends

section Digits

variable {digit digit' : Char → Bool}

theorem Grammar.Run.mono {low high : ℕ} {s : Text} (h : Run digit low high s)
    (hdigit : ∀ c ∈ s, digit c → digit' c) : Run digit' low high s :=
  ⟨h.1, h.2.1, fun c hc ↦ hdigit c hc (h.2.2 c hc)⟩

theorem Grammar.Run.weaken {low low' high high' : ℕ} {s : Text} (h : Run digit low high s)
    (hlow : low' ≤ low) (hhigh : high ≤ high') : Run digit low' high' s :=
  ⟨Nat.le_trans hlow h.1, Nat.le_trans h.2.1 hhigh, h.2.2⟩

theorem DayForm.IsWritten.mono {form : DayForm} (h : form.IsWritten digit)
    (hdigit : ∀ c ∈ form.render, digit c → digit' c) : form.IsWritten digit' := by
  obtain ⟨hyear, hmonth, hday⟩ := h
  refine ⟨hyear.mono ?_, hmonth.mono ?_, hday.mono ?_⟩
  all_goals
    intro c hc
    exact hdigit c (mem_render.mpr (by simp [hc]))

theorem ClockForm.IsWritten.mono {form : ClockForm} (h : form.IsWritten digit)
    (hdigit : ∀ c ∈ form.render, digit c → digit' c) : form.IsWritten digit' := by
  obtain ⟨hhour, hminute, hsecond⟩ := h
  refine ⟨hhour.mono ?_, hminute.mono ?_, fun second hs ↦ (hsecond second hs).mono ?_⟩
  · intro c hc
    exact hdigit c (mem_render.mpr (by simp [hc]))
  · intro c hc
    exact hdigit c (mem_render.mpr (by simp [hc]))
  · intro c hc
    exact hdigit c (mem_render.mpr (.inl (.inr (.inr ⟨second, hs, hc⟩))))

/-- Of the class of digits only those that are written matter. -/
theorem DateForm.IsWritten.mono {form : DateForm} (h : form.IsWritten digit)
    (hdigit : ∀ c ∈ form.render, digit c → digit' c) : form.IsWritten digit' := by
  cases form with
  | year y => exact Run.mono h hdigit
  | month m y =>
    simp only [render, List.mem_append, List.mem_cons] at hdigit
    exact ⟨h.1.mono fun c hc ↦ hdigit c (.inl hc), h.2.mono fun c hc ↦ hdigit c (.inr (.inr hc))⟩
  | day form => exact DayForm.IsWritten.mono h hdigit
  | instant form mark clock =>
    simp only [render, List.mem_append, List.mem_cons] at hdigit
    exact ⟨h.1.mono fun c hc ↦ hdigit c (.inl hc), h.2.1,
      h.2.2.mono fun c hc ↦ hdigit c (.inr (.inr hc))⟩

end Digits

namespace Grammar

theorem takes_fourDigits : Takes fourDigits (Run Text.isDigit 4 4) :=
  takes_exactly 4 Text.isDigit

theorem takes_twoDigits : Takes twoDigits (Run Text.isDigit 2 2) :=
  takes_exactly 2 Text.isDigit

theorem takes_oneOrTwoDigits : Takes oneOrTwoDigits (Run Text.isDigit 1 2) := by
  apply (takes_twoDigits.orElse (takes_exactly 1 Text.isDigit)).congr
  intro front
  simp only [Run, ← or_and_right, ← and_assoc]
  constructor
  · rintro ⟨hlength, hall⟩
    exact ⟨by omega, hall⟩
  · rintro ⟨hlength, hall⟩
    exact ⟨by omega, hall⟩

theorem takes_mark (c : Char) : Takes (mark c) (· = [c]) :=
  takes_piece [c]

theorem takes_day : Takes day fun front ↦
    ∃ form : DayForm, form.IsWritten Text.isDigit ∧ front = form.render := by
  have hdayFirst := takes_sequence (.cons takes_oneOrTwoDigits <| .cons (takes_mark '.') <|
    .cons takes_oneOrTwoDigits <| .cons (takes_mark '.') <| .cons takes_fourDigits .nil)
  have hyearFirst := takes_sequence (.cons takes_fourDigits <| .cons (takes_mark '-') <|
    .cons takes_oneOrTwoDigits <| .cons (takes_mark '-') <| .cons takes_oneOrTwoDigits .nil)
  apply (hdayFirst.orElse hyearFirst).congr
  intro front
  constructor
  · simp only [Text.cutBy_cons, Text.cutBy_nil]
    rintro (⟨d, _, rfl, hd, _, _, rfl, rfl, m, _, rfl, hm, _, _, rfl, rfl, y, _, rfl, hy, rfl⟩ |
      ⟨y, _, rfl, hy, _, _, rfl, rfl, m, _, rfl, hm, _, _, rfl, rfl, d, _, rfl, hd, rfl⟩)
    · exact ⟨⟨false, y, m, d⟩, ⟨hy, hm, hd⟩, by simp [DayForm.render]⟩
    · exact ⟨⟨true, y, m, d⟩, ⟨hy, hm, hd⟩, by simp [DayForm.render]⟩
  · rintro ⟨⟨_ | _, y, m, d⟩, ⟨hy, hm, hd⟩, rfl⟩
    · exact .inl ⟨[d, ['.'], m, ['.'], y], .cons hd (.cons rfl (.cons hm (.cons rfl
        (.cons hy .nil)))), by simp [DayForm.render]⟩
    · exact .inr ⟨[y, ['-'], m, ['-'], d], .cons hy (.cons rfl (.cons hm (.cons rfl
        (.cons hd .nil)))), by simp [DayForm.render]⟩

theorem takes_timeOfDay : Takes timeOfDay fun front ↦
    ∃ mark, ∃ clock : ClockForm, (mark = ' ' ∨ mark = 'T') ∧ clock.IsWritten Text.isDigit ∧
      front = mark :: clock.render := by
  have hseconds := ((takes_mark ':').followedBy takes_twoDigits).optional
  apply (takes_sequence (.cons (takes_satisfying fun c ↦ c = ' ' || c = 'T') <|
    .cons takes_oneOrTwoDigits <| .cons (takes_mark ':') <| .cons takes_twoDigits <|
    .cons hseconds .nil)).congr
  intro front
  constructor
  · simp only [Text.cutBy_cons, Text.cutBy_nil]
    rintro ⟨_, _, rfl, ⟨mark, rfl, hmark⟩, h, _, rfl, hh, _, _, rfl, rfl, m, _, rfl, hm, s, _, rfl,
      hs, rfl⟩
    have hmark : mark = ' ' ∨ mark = 'T' := by simpa using hmark
    obtain ⟨_, s, rfl, rfl, hs⟩ | rfl := hs
    · exact ⟨mark, ⟨h, m, some s⟩, hmark, ⟨hh, hm, by simpa using hs⟩, by simp [ClockForm.render]⟩
    · exact ⟨mark, ⟨h, m, none⟩, hmark, ⟨hh, hm, by simp⟩, by simp [ClockForm.render]⟩
  · rintro ⟨mark, ⟨h, m, _ | s⟩, hmark, ⟨hh, hm, hs⟩, rfl⟩
    · exact ⟨[[mark], h, [':'], m, []], .cons ⟨mark, rfl, by simpa using hmark⟩ (.cons hh
        (.cons rfl (.cons hm (.cons (.inr rfl) .nil)))), by simp [ClockForm.render]⟩
    · exact ⟨[[mark], h, [':'], m, ':' :: s], .cons ⟨mark, rfl, by simpa using hmark⟩ (.cons hh
        (.cons rfl (.cons hm (.cons (.inl ⟨[':'], s, rfl, rfl, hs s rfl⟩) .nil)))),
        by simp [ClockForm.render]⟩

/-- The date grammar takes the written dates. -/
theorem takes_date : Takes date fun front ↦
    ∃ form : DateForm, form.IsWritten Text.isDigit ∧ front = form.render := by
  have hmonth := takes_sequence (.cons takes_oneOrTwoDigits <| .cons (takes_mark '.') <|
    .cons takes_fourDigits .nil)
  apply (takes_oneOf (.cons (takes_day.followedBy takes_timeOfDay.optional) <| .cons hmonth <|
    .cons takes_fourDigits .nil)).congr
  intro front
  simp only [List.mem_cons, List.not_mem_nil, or_false, exists_eq_or_imp, exists_eq_left]
  constructor
  · rintro (⟨_, _, rfl, ⟨form, hform, rfl⟩, ⟨mark, clock, hmark, hclock, rfl⟩ | rfl⟩ | h | hy)
    · exact ⟨.instant form mark clock, ⟨hform, hmark, hclock⟩, rfl⟩
    · exact ⟨.day form, hform, by simp [DateForm.render]⟩
    · simp only [Text.cutBy_cons, Text.cutBy_nil] at h
      obtain ⟨m, _, rfl, hm, _, _, rfl, rfl, y, _, rfl, hy, rfl⟩ := h
      exact ⟨.month m y, ⟨hm, hy⟩, by simp [DateForm.render]⟩
    · exact ⟨.year front, hy, rfl⟩
  · rintro ⟨form, hform, rfl⟩
    cases form with
    | year y => exact .inr (.inr hform)
    | month m y =>
      exact .inr (.inl ⟨[m, ['.'], y], .cons hform.1 (.cons rfl (.cons hform.2 .nil)),
        by simp [DateForm.render]⟩)
    | day form =>
      exact .inl ⟨form.render, [], by simp [DateForm.render], ⟨form, hform, rfl⟩, .inr rfl⟩
    | instant form mark clock =>
      exact .inl ⟨form.render, mark :: clock.render, rfl, ⟨form, hform.1, rfl⟩,
        .inl ⟨mark, clock, hform.2.1, hform.2.2, rfl⟩⟩

end Grammar

end RecordSearch
