import RecordSearch.Calendar.Date

/-!
# Dates with a time of day

A time of day counts seconds from midnight and nanoseconds in the second. A leap second is the last
second of its minute with a billion nanoseconds or more, so that time of day and date order a
date/time lexicographically.
-/

namespace RecordSearch

def secondsPerDay : Nat := 86400

def nanosecondsPerSecond : Nat := 1000000000

structure TimeOfDay where
  second : Nat
  nanosecond : Nat
  second_lt : second < secondsPerDay
  nanosecond_lt : nanosecond < 2 * nanosecondsPerSecond
  deriving DecidableEq

namespace TimeOfDay

def midnight : TimeOfDay := ⟨0, 0, by decide, by decide⟩

/-- The last nanosecond of a day without a leap second. -/
def dayEnd : TimeOfDay :=
  ⟨secondsPerDay - 1, nanosecondsPerSecond - 1, by decide, by decide⟩

def of? (second nanosecond : Nat) : Option TimeOfDay :=
  if h : second < secondsPerDay then
    if h' : nanosecond < 2 * nanosecondsPerSecond then some ⟨second, nanosecond, h, h'⟩ else none
  else none

/-- The time a clock shows. Second 60 is a leap second of any minute. -/
def ofClock? (hour minute second nanosecond : Nat) : Option TimeOfDay :=
  if 23 < hour || 59 < minute || 60 < second || nanosecondsPerSecond ≤ nanosecond then none
  else if second = 60 then
    of? (hour * 3600 + minute * 60 + 59) (nanosecondsPerSecond + nanosecond)
  else of? (hour * 3600 + minute * 60 + second) nanosecond

def order (a b : TimeOfDay) : Ordering :=
  (compare a.second b.second).then (compare a.nanosecond b.nanosecond)

instance : Ord TimeOfDay := ⟨order⟩

/-- Hours, minutes and seconds without a fraction. -/
def renderClock (t : TimeOfDay) : Text :=
  Text.ofNatPadded 2 (t.second / 3600) ++ ':' :: Text.ofNatPadded 2 (t.second / 60 % 60) ++
    ':' :: Text.ofNatPadded 2 (t.second % 60 + t.nanosecond / nanosecondsPerSecond)

/-- The fewest groups of three digits that hold the fraction of the second. -/
def renderFraction (t : TimeOfDay) : Text :=
  let nano := t.nanosecond % nanosecondsPerSecond
  if nano = 0 then []
  else if nano % 1000000 = 0 then '.' :: Text.ofNatPadded 3 (nano / 1000000)
  else if nano % 1000 = 0 then '.' :: Text.ofNatPadded 6 (nano / 1000)
  else '.' :: Text.ofNatPadded 9 nano

end TimeOfDay

structure DateTime where
  date : Date
  time : TimeOfDay
  deriving DecidableEq

namespace DateTime

def order (a b : DateTime) : Ordering :=
  (compare a.date b.date).then (compare a.time b.time)

instance : Ord DateTime := ⟨order⟩

def startOf (d : Date) : DateTime := ⟨d, .midnight⟩

/-- The nanosecond before a day begins. -/
def endBefore? (d : Date) : Option DateTime :=
  d.previous?.map fun day ↦ ⟨day, .dayEnd⟩

/-- Shifts a date/time by less than a day, keeping the fraction of the second. -/
def shift? (t : DateTime) (seconds : Int) : Option DateTime := do
  let total : Int := t.time.second + seconds
  let date ← if total < 0 then t.date.previous?
    else if (secondsPerDay : Int) ≤ total then t.date.next?
    else some t.date
  let time ← TimeOfDay.of? (total % secondsPerDay).toNat t.time.nanosecond
  return ⟨date, time⟩

/-- Date and time with a mark between them. -/
def renderWith (mark : Char) (t : DateTime) : Text :=
  t.date.render ++ mark :: t.time.renderClock ++ t.time.renderFraction

def render (t : DateTime) : Text :=
  t.renderWith ' '

/-- Date and time to the second. -/
def renderToSecond (t : DateTime) : Text :=
  t.date.render ++ 'T' :: t.time.renderClock

end DateTime

end RecordSearch
