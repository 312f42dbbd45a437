import RecordSearch.Calendar.Layout

/-!
# Date periods

A date in a filter names a stretch of time: a year, a month, a day, or a single instant if a time is
given. A period holds its first and its last nanosecond.
-/

namespace RecordSearch

structure Period where
  start : DateTime
  stop : DateTime
  deriving DecidableEq

namespace Period

def instant (t : DateTime) : Period := ⟨t, t⟩

/-- The days from a first one to the day before `next`. -/
def until? (first next : Date) : Option Period :=
  (DateTime.endBefore? next).map fun stop ↦ ⟨.startOf first, stop⟩

/-- A whole day. The last day of the calendar ends where it starts. -/
def ofDay (d : Date) : Period :=
  ((d.next?).bind (until? d)).getD ⟨.startOf d, .startOf d⟩

def ofMonth? (year : Int) (month : Nat) : Option Period := do
  let first ← Date.of? year month 1
  let next ← Date.firstOfNextMonth? year month
  until? first next

def ofYear? (year : Int) : Option Period := do
  let first ← Date.of? year 1 1
  let next ← Date.of? (year + 1) 1 1
  until? first next

def instantLayouts : List Layout := [
  Layout.dayFirst ++ [.gap] ++ Layout.toSecond,
  Layout.dayFirst ++ [.gap] ++ Layout.toMinute,
  Layout.yearFirst ++ [.gap] ++ Layout.toSecond,
  Layout.yearFirst ++ [.gap] ++ Layout.toMinute,
  Layout.yearFirst ++ [.mark 'T'] ++ Layout.toSecond,
  Layout.yearFirst ++ [.mark 'T'] ++ Layout.toMinute]

def dayLayouts : List Layout := [Layout.dayFirst, Layout.yearFirst]

/-- A month before a point and a year after it, or a year of four bytes alone. -/
def readMonthOrYear? (s : Text) : Option Period :=
  match Text.splitOnce '.' s with
  | some (month, year) => do
    let month ← Text.toNatBelow? (wordLimit 32) month
    let year ← Text.toSigned? 32 year
    ofMonth? year month
  | none =>
    if Text.byteLength s = 4 then (Text.toSigned? 32 s).bind ofYear? else none

/-- The period that a date names; the first layout that fits decides. -/
def read? (s : Text) : Option Period :=
  let s := Text.trim s
  ((instantLayouts.findSome? fun layout ↦ layout.readDateTime? s).map instant <|>
    (dayLayouts.findSome? fun layout ↦ layout.readDate? s).map ofDay) <|>
    readMonthOrYear? s

end Period

end RecordSearch
