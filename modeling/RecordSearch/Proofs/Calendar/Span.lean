import Mathlib.Data.Nat.Notation
import Mathlib.Data.Int.Notation
import RecordSearch.Condition.Holds
import RecordSearch.Proofs.Calendar.Order

/-!
# Spans of the calendar

A year, a month, a day or an instant. A period of whole days begins at the midnight of its first day
and ends with the nanosecond before the day after its last, so it holds all date/times of its span
but a leap second that closes the last day.
-/

namespace RecordSearch

/-- What a date in a filter names. -/
inductive CalendarSpan where
  | year (year : ℤ)
  | month (year : ℤ) (month : ℕ)
  | day (date : Date)
  | instant (t : DateTime)

/-- A leap second at the end of a day. -/
def TimeOfDay.ClosesDay (t : TimeOfDay) : Prop :=
  t.second = secondsPerDay - 1 ∧ nanosecondsPerSecond ≤ t.nanosecond

namespace CalendarSpan

def Contains (t : DateTime) : CalendarSpan → Prop
  | year y => t.date.year = y
  | month y m => t.date.year = y ∧ t.date.month = m
  | day d => t.date = d
  | instant u => t = u

/-- A date/time is before a span if it is before all of it. -/
def Follows (t : DateTime) (span : CalendarSpan) : Prop :=
  ∀ u, span.Contains u → compare t u = .lt

def Precedes (t : DateTime) (span : CalendarSpan) : Prop :=
  ∀ u, span.Contains u → compare t u = .gt

/-- Whether a date/time is the leap second that closes a span: the whole day is in the span, and no
later one is. -/
def EndsWith (t : DateTime) (span : CalendarSpan) : Prop :=
  t.time.ClosesDay ∧ (∀ u : DateTime, u.date = t.date → span.Contains u) ∧
    ∀ u, span.Contains u → compare t.date u.date ≠ .lt

def period? : CalendarSpan → Option Period
  | year y => Period.ofYear? y
  | month y m => Period.ofMonth? y m
  | day d => some (.ofDay d)
  | instant t => some (.instant t)

end CalendarSpan

section Days

theorem daysInMonth_bounds (year : ℤ) (month : ℕ) :
    28 ≤ daysInMonth year month ∧ daysInMonth year month ≤ 31 := by
  unfold daysInMonth
  split
  · split <;> decide
  all_goals decide

namespace Date

variable {year : ℤ} {month day : ℕ} {d next : Date}

theorem of?_eq_some_iff :
    of? year month day = some d ↔ d.year = year ∧ d.month = month ∧ d.day = day := by
  unfold of?
  split
  · rw [Option.some.injEq]
    constructor
    · rintro rfl
      exact ⟨rfl, rfl, rfl⟩
    · rintro ⟨rfl, rfl, rfl⟩
      rfl
  · rename_i h
    constructor
    · intro hnone
      cases hnone
    · rintro ⟨rfl, rfl, rfl⟩
      exact absurd d.isReal h

theorem of?_self (d : Date) : of? d.year d.month d.day = some d :=
  of?_eq_some_iff.mpr ⟨rfl, rfl, rfl⟩

/-- The day before the first of the next month is the last of the month. -/
theorem previous?_of_firstOfNextMonth? (hmonth : 1 ≤ month)
    (h : firstOfNextMonth? year month = some next) :
    next.previous? = of? year month (daysInMonth year month) := by
  unfold firstOfNextMonth? at h
  split at h
  · rename_i hlast
    obtain ⟨hy, hm, hd⟩ := of?_eq_some_iff.mp h
    simp [previous?, hy, hm, hd, hlast, daysInMonth]
  · obtain ⟨hy, hm, hd⟩ := of?_eq_some_iff.mp h
    have hprevious : 1 < month + 1 := by omega
    simp [previous?, hy, hm, hd, hprevious]

theorem previous?_of_next? (h : d.next? = some next) : next.previous? = some d := by
  obtain ⟨-, -, hmonth, -, hday, hlast⟩ := d.isReal
  unfold next? at h
  split at h
  · obtain ⟨hy, hm, hd⟩ := of?_eq_some_iff.mp h
    have hprevious : 1 < d.day + 1 := by omega
    simp [previous?, hy, hm, hd, hprevious, of?_self]
  · have hday : d.day = daysInMonth d.year d.month := by omega
    rw [previous?_of_firstOfNextMonth? hmonth h, ← hday, of?_self]

theorem exists_of? (h : Exists year month day) : ∃ d, of? year month day = some d :=
  ⟨_, dif_pos h⟩

theorem exists_next? (h : d.year < lastYear) : ∃ next, d.next? = some next := by
  have hreal := d.isReal
  unfold Exists at hreal
  unfold next?
  split
  · apply exists_of?
    unfold Exists
    omega
  · unfold firstOfNextMonth?
    split
    · apply exists_of?
      have hbounds := daysInMonth_bounds (d.year + 1) 1
      unfold Exists
      omega
    · apply exists_of?
      have hbounds := daysInMonth_bounds d.year (d.month + 1)
      unfold Exists
      omega

end Date

/-- A period of whole days. -/
def Period.ofDays (first last : Date) : Period :=
  ⟨.startOf first, last, .dayEnd⟩

variable {first last next : Date} {t : DateTime}

theorem Period.until?_eq_some {p : Period} (h : until? first next = some p) :
    ∃ last, next.previous? = some last ∧ p = ofDays first last := by
  obtain ⟨stop, hstop, rfl⟩ := Option.map_eq_some_iff.mp h
  obtain ⟨last, hlast, rfl⟩ := Option.map_eq_some_iff.mp hstop
  exact ⟨last, hlast, rfl⟩

namespace TimeOfDay

theorem not_lt_midnight (t : TimeOfDay) : compare t midnight ≠ .lt := by
  rw [ne_eq, compare_eq_lt]
  simp [midnight]

theorem dayEnd_lt_iff {t : TimeOfDay} : compare dayEnd t = .lt ↔ t.ClosesDay := by
  have hsecond := t.second_lt
  rw [compare_eq_lt]
  simp only [dayEnd, ClosesDay, secondsPerDay, nanosecondsPerSecond] at *
  omega

end TimeOfDay

theorem DateTime.lt_startOf_iff {d : Date} : compare t (.startOf d) = .lt ↔
    compare t.date d = .lt := by
  rw [compare_eq_lt]
  simp [startOf, TimeOfDay.not_lt_midnight]

theorem DateTime.dayEnd_lt_iff {d : Date} : compare ⟨d, .dayEnd⟩ t = .lt ↔
    compare d t.date = .lt ∨ d = t.date ∧ t.time.ClosesDay := by
  rw [compare_eq_lt, TimeOfDay.dayEnd_lt_iff]

end Days

namespace CalendarSpan

variable {span : CalendarSpan} {first last : Date} {p : Period} {t : DateTime}

/-- A span with the days from a first to a last one. -/
structure HasDays (span : CalendarSpan) (first last : Date) : Prop where
  contains_iff : ∀ t, span.Contains t ↔ (compare first t.date).isLE ∧ (compare t.date last).isLE
  ordered : (compare first last).isLE

section Named

variable {y : ℤ} {m : ℕ} {d : Date}

theorem hasDays_year (h : Period.ofYear? y = some p) :
    ∃ first last, p = .ofDays first last ∧ (year y).HasDays first last := by
  obtain ⟨first, hfirst, h⟩ := Option.bind_eq_some_iff.mp h
  obtain ⟨next, hnext, h⟩ := Option.bind_eq_some_iff.mp h
  obtain ⟨last, hlast, rfl⟩ := Period.until?_eq_some h
  have hyear : y + 1 - 1 = y := by omega
  obtain ⟨hfy, hfm, hfd⟩ := Date.of?_eq_some_iff.mp hfirst
  obtain ⟨hny, hnm, hnd⟩ := Date.of?_eq_some_iff.mp hnext
  have hdecember : Date.of? y 12 31 = some last := by
    simpa [Date.previous?, hny, hnm, hnd, hyear] using hlast
  obtain ⟨hly, hlm, hld⟩ := Date.of?_eq_some_iff.mp hdecember
  refine ⟨first, last, rfl, fun t ↦ ?_, ?_⟩
  · obtain ⟨-, -, hmin, hmax, hday, hend⟩ := t.date.isReal
    have hbounds := daysInMonth_bounds t.date.year t.date.month
    simp only [Contains, Date.compare_isLE, hfy, hfm, hfd, hly, hlm, hld]
    omega
  · simp only [Date.compare_isLE, hfy, hfm, hfd, hly, hlm, hld, true_and]
    omega

theorem hasDays_month (h : Period.ofMonth? y m = some p) :
    ∃ first last, p = .ofDays first last ∧ (month y m).HasDays first last := by
  obtain ⟨first, hfirst, h⟩ := Option.bind_eq_some_iff.mp h
  obtain ⟨next, hnext, h⟩ := Option.bind_eq_some_iff.mp h
  obtain ⟨last, hlast, rfl⟩ := Period.until?_eq_some h
  obtain ⟨hfy, hfm, hfd⟩ := Date.of?_eq_some_iff.mp hfirst
  have hmonth : 1 ≤ m := hfm ▸ first.isReal.2.2.1
  rw [Date.previous?_of_firstOfNextMonth? hmonth hnext] at hlast
  obtain ⟨hly, hlm, hld⟩ := Date.of?_eq_some_iff.mp hlast
  have hbounds := daysInMonth_bounds y m
  refine ⟨first, last, rfl, fun t ↦ ?_, ?_⟩
  · obtain ⟨-, -, hmin, hmax, hday, hend⟩ := t.date.isReal
    simp only [Contains, Date.compare_isLE, hfy, hfm, hfd, hly, hlm, hld]
    constructor
    · rintro ⟨hy, hm⟩
      rw [hy, hm] at hend
      omega
    · omega
  · simp only [Date.compare_isLE, hfy, hfm, hfd, hly, hlm, hld, true_and]
    omega

theorem hasDays_day (d : Date) : (day d).HasDays d d where
  contains_iff t := by
    constructor
    · rintro rfl
      exact ⟨Std.ReflCmp.isLE_rfl, Std.ReflCmp.isLE_rfl⟩
    · rintro ⟨hfirst, hlast⟩
      exact Std.LawfulEqOrd.eq_of_compare (Std.OrientedCmp.isLE_antisymm hlast hfirst)
  ordered := Std.ReflCmp.isLE_rfl

theorem ofDay_eq_ofDays (h : d.year < Date.lastYear) : Period.ofDay d = .ofDays d d := by
  obtain ⟨next, hnext⟩ := Date.exists_next? h
  have hprevious : next.previous? = some d := Date.previous?_of_next? hnext
  simp [Period.ofDay, hnext, Period.until?, DateTime.endBefore?, hprevious, Period.ofDays]

end Named

section Days

variable (h : span.HasDays first last)
include h

theorem HasDays.follows_iff : span.Follows t ↔ compare t.date first = .lt := by
  constructor
  · intro hfollows
    have hfirst : span.Contains (.startOf first) :=
      (h.contains_iff _).mpr ⟨Std.ReflCmp.isLE_rfl, h.ordered⟩
    exact DateTime.lt_startOf_iff.mp (hfollows _ hfirst)
  · intro hlt u hu
    have hle := ((h.contains_iff u).mp hu).1
    exact DateTime.compare_eq_lt.mpr (.inl (Std.TransCmp.lt_of_lt_of_isLE hlt hle))

theorem HasDays.precedes_iff : span.Precedes t ↔ compare last t.date = .lt := by
  constructor
  · intro hprecedes
    -- No time of day is later than the last nanosecond of a leap second.
    let latest : DateTime := ⟨last, secondsPerDay - 1, 2 * nanosecondsPerSecond - 1,
      by decide, by decide⟩
    have hlatest : span.Contains latest := (h.contains_iff _).mpr ⟨h.ordered, Std.ReflCmp.isLE_rfl⟩
    have hlt : compare latest t = .lt := Std.OrientedCmp.gt_iff_lt.mp (hprecedes _ hlatest)
    refine (DateTime.compare_eq_lt.mp hlt).resolve_right fun ⟨_, htime⟩ ↦ ?_
    have hsecond := t.time.second_lt
    have hnanosecond := t.time.nanosecond_lt
    rw [TimeOfDay.compare_eq_lt] at htime
    simp only [latest] at htime
    omega
  · intro hlt u hu
    have hle := ((h.contains_iff u).mp hu).2
    apply Std.OrientedCmp.gt_iff_lt.mpr
    exact DateTime.compare_eq_lt.mpr (.inl (Std.TransCmp.lt_of_isLE_of_lt hle hlt))

theorem HasDays.endsWith_iff : span.EndsWith t ↔ t.date = last ∧ t.time.ClosesDay := by
  constructor
  · rintro ⟨htime, hday, hlatest⟩
    have hcontains : span.Contains t := hday t rfl
    have hlast : span.Contains (.startOf last) :=
      (h.contains_iff _).mpr ⟨h.ordered, Std.ReflCmp.isLE_rfl⟩
    have hle : (compare last t.date).isLE := by
      rw [Ordering.isLE_iff_ne_gt, Std.OrientedCmp.gt_iff_lt]
      exact hlatest _ hlast
    have hge := ((h.contains_iff t).mp hcontains).2
    exact ⟨Std.LawfulEqOrd.eq_of_compare (Std.OrientedCmp.isLE_antisymm hge hle), htime⟩
  · rintro ⟨rfl, htime⟩
    refine ⟨htime, fun u hu ↦ ?_, fun u hu ↦ ?_⟩
    · rw [h.contains_iff, hu]
      exact ⟨h.ordered, Std.ReflCmp.isLE_rfl⟩
    · exact Std.OrientedCmp.not_lt_of_isLE ((h.contains_iff u).mp hu).2

/-- The last nanosecond of a period of days is before what is after the days, and before a leap
second that closes them. -/
theorem HasDays.dayEnd_lt_iff :
    compare ⟨last, .dayEnd⟩ t = .lt ↔ span.Precedes t ∨ span.EndsWith t := by
  rw [DateTime.dayEnd_lt_iff, h.precedes_iff, h.endsWith_iff, eq_comm (a := last)]

/-- The first day begins before the last one ends. -/
theorem HasDays.start_isLE_stop :
    (compare (Period.ofDays first last).start (Period.ofDays first last).stop).isLE := by
  rw [Ordering.isLE_iff_ne_gt, Std.OrientedCmp.gt_iff_lt]
  intro hlt
  have hdays : compare last first = .lt := DateTime.lt_startOf_iff.mp hlt
  exact Std.OrientedCmp.not_lt_of_isLE h.ordered hdays

theorem HasDays.withinPeriod_iff :
    Literal.withinPeriod (.ofDays first last) t ↔ span.Contains t ∧ ¬ span.EndsWith t := by
  have hstart : compare (.startOf first) t ≠ .gt ↔ (compare first t.date).isLE := by
    rw [ne_eq, Std.OrientedCmp.gt_iff_lt, DateTime.lt_startOf_iff, Ordering.isLE_iff_ne_gt,
      Std.OrientedCmp.gt_iff_lt]
  have hstop : compare t ⟨last, .dayEnd⟩ ≠ .gt ↔
      (compare t.date last).isLE ∧ ¬ span.EndsWith t := by
    rw [ne_eq, Std.OrientedCmp.gt_iff_lt, h.dayEnd_lt_iff, not_or, h.precedes_iff,
      Ordering.isLE_iff_ne_gt, Std.OrientedCmp.gt_iff_lt]
  calc
    _ ↔ compare (.startOf first) t ≠ .gt ∧ compare t ⟨last, .dayEnd⟩ ≠ .gt := by
      simp [Literal.withinPeriod, Period.ofDays]
    _ ↔ _ := by rw [hstart, hstop, ← and_assoc, ← h.contains_iff]

end Days

section Instant

variable {u : DateTime}

theorem withinPeriod_instant : Literal.withinPeriod (.instant u) t ↔ t = u := by
  constructor
  · intro hwithin
    simp only [Literal.withinPeriod, Period.instant, Bool.and_eq_true, bne_iff_ne, ne_eq,
      ← Ordering.isLE_iff_ne_gt] at hwithin
    exact Std.LawfulEqOrd.eq_of_compare (Std.OrientedCmp.isLE_antisymm hwithin.2 hwithin.1)
  · rintro rfl
    simp [Literal.withinPeriod, Period.instant]

theorem follows_instant : (instant u).Follows t ↔ compare t u = .lt := by
  simp [Follows, Contains]

theorem precedes_instant : (instant u).Precedes t ↔ compare t u = .gt := by
  simp [Precedes, Contains]

/-- An instant is no whole day. -/
theorem not_endsWith_instant : ¬ (instant u).EndsWith t := by
  rintro ⟨-, hday, -⟩
  have hfirst : ⟨t.date, .midnight⟩ = u := hday _ rfl
  have hlast : ⟨t.date, .dayEnd⟩ = u := hday _ rfl
  have htime : TimeOfDay.midnight = TimeOfDay.dayEnd :=
    congrArg DateTime.time (hfirst.trans hlast.symm)
  exact absurd htime (by decide)

end Instant

/-- Days are counted to the end of the calendar; the last one has no day after it. -/
def IsBounded : CalendarSpan → Prop
  | day d => d.year < Date.lastYear
  | _ => True

theorem hasDays_or_instant (h : span.period? = some p) (hbounded : span.IsBounded) :
    (∃ first last, p = .ofDays first last ∧ span.HasDays first last) ∨
      ∃ u, p = .instant u ∧ span = instant u := by
  cases span with
  | year y => exact .inl (hasDays_year h)
  | month y m => exact .inl (hasDays_month h)
  | day d =>
    obtain rfl := Option.some.inj h
    exact .inl ⟨d, d, ofDay_eq_ofDays hbounded, hasDays_day d⟩
  | instant u =>
    obtain rfl := Option.some.inj h
    exact .inr ⟨u, rfl, rfl⟩

/-- The period of a span has what falls in the span, but not a leap second that closes it. -/
theorem withinPeriod_iff (h : span.period? = some p) (hbounded : span.IsBounded) :
    Literal.withinPeriod p t ↔ span.Contains t ∧ ¬ span.EndsWith t := by
  obtain ⟨first, last, rfl, hdays⟩ | ⟨u, rfl, rfl⟩ := hasDays_or_instant h hbounded
  · exact hdays.withinPeriod_iff
  · simp [withinPeriod_instant, not_endsWith_instant, Contains]

theorem lt_start_iff (h : span.period? = some p) (hbounded : span.IsBounded) :
    compare t p.start = .lt ↔ span.Follows t := by
  obtain ⟨first, last, rfl, hdays⟩ | ⟨u, rfl, rfl⟩ := hasDays_or_instant h hbounded
  · rw [hdays.follows_iff, ← DateTime.lt_startOf_iff]
    rfl
  · exact follows_instant.symm

theorem gt_stop_iff (h : span.period? = some p) (hbounded : span.IsBounded) :
    compare t p.stop = .gt ↔ span.Precedes t ∨ span.EndsWith t := by
  obtain ⟨first, last, rfl, hdays⟩ | ⟨u, rfl, rfl⟩ := hasDays_or_instant h hbounded
  · rw [← hdays.dayEnd_lt_iff]
    exact Std.OrientedCmp.gt_iff_lt
  · simp [precedes_instant, not_endsWith_instant, Period.instant]

theorem start_isLE_stop (h : span.period? = some p) (hbounded : span.IsBounded) :
    (compare p.start p.stop).isLE := by
  obtain ⟨first, last, rfl, hdays⟩ | ⟨u, rfl, rfl⟩ := hasDays_or_instant h hbounded
  · exact hdays.start_isLE_stop
  · exact Std.ReflCmp.isLE_rfl

end CalendarSpan

end RecordSearch
