import RecordSearch.Text.Basic

/-!
# Calendar dates

Days of the proleptic Gregorian calendar between two fixed years. Every value of the type is a real
day; the neighbours of a day exist except at the two ends of the range.
-/

namespace RecordSearch

def isLeapYear (year : Int) : Bool :=
  year % 4 == 0 && (year % 100 != 0 || year % 400 == 0)

def daysInMonth (year : Int) (month : Nat) : Nat :=
  match month with
  | 2 => if isLeapYear year then 29 else 28
  | 4 | 6 | 9 | 11 => 30
  | _ => 31

def Date.firstYear : Int := -262143

def Date.lastYear : Int := 262142

/-- The year is in range and has the month, and the month has the day. -/
def Date.Exists (year : Int) (month day : Nat) : Prop :=
  Date.firstYear ≤ year ∧ year ≤ Date.lastYear ∧ 1 ≤ month ∧ month ≤ 12 ∧
    1 ≤ day ∧ day ≤ daysInMonth year month

instance (year : Int) (month day : Nat) : Decidable (Date.Exists year month day) := by
  unfold Date.Exists
  infer_instance

structure Date where
  year : Int
  month : Nat
  day : Nat
  isReal : Date.Exists year month day
  deriving DecidableEq

namespace Date

def of? (year : Int) (month day : Nat) : Option Date :=
  if h : Exists year month day then some ⟨year, month, day, h⟩ else none

def order (a b : Date) : Ordering :=
  (compare a.year b.year).then ((compare a.month b.month).then (compare a.day b.day))

instance : Ord Date := ⟨order⟩

/-- The first day of the month after a month. -/
def firstOfNextMonth? (year : Int) (month : Nat) : Option Date :=
  if month = 12 then of? (year + 1) 1 1 else of? year (month + 1) 1

def next? (d : Date) : Option Date :=
  if d.day < daysInMonth d.year d.month then of? d.year d.month (d.day + 1)
  else firstOfNextMonth? d.year d.month

def previous? (d : Date) : Option Date :=
  if 1 < d.day then of? d.year d.month (d.day - 1)
  else if 1 < d.month then of? d.year (d.month - 1) (daysInMonth d.year (d.month - 1))
  else of? (d.year - 1) 12 31

/-- Four digits, or a sign and at least four digits where four do not do. -/
def renderYear (year : Int) : Text :=
  if 0 ≤ year && year ≤ 9999 then Text.ofNatPadded 4 year.toNat
  else (if year < 0 then '-' else '+') :: Text.ofNatPadded 4 year.natAbs

def render (d : Date) : Text :=
  renderYear d.year ++ '-' :: Text.ofNatPadded 2 d.month ++ '-' :: Text.ofNatPadded 2 d.day

end Date

end RecordSearch
