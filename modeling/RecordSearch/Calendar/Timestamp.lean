import RecordSearch.Calendar.Layout

/-!
# Reading time stamps

The texts that are taken for a date/time when a record holds one: an Internet time stamp with its
offset from universal time, a date with a time to the second or to the minute, or a date alone.
-/

namespace RecordSearch.Timestamp

/-- A number of exactly `width` digits. -/
def readExactly? (width : Nat) (s : Text) : Option (Nat × Text) :=
  let digits := s.take width
  if digits.length = width && digits.all Char.isDigit then some (digitsValue digits, s.drop width)
  else none

def skip? (c : Char) : Text → Option Text
  | [] => none
  | d :: s => if d = c then some s else none

/-- The offset at the end of an Internet time stamp, in seconds east of universal time. -/
def readOffset? : Text → Option Int
  | ['Z'] | ['z'] => some 0
  | [] => none
  | sign :: s => do
    let negative ← if sign = '+' then some false
      else if sign = '-' || sign = '−' then some true
      else none
    let (hours, s) ← readExactly? 2 s
    let s ← skip? ':' s
    let (minutes, s) ← readExactly? 2 s
    if !s.isEmpty || 59 < minutes || 23 < hours then none
    else
      let seconds : Int := (hours * 60 + minutes) * 60
      return if negative then -seconds else seconds

/-- An Internet time stamp: every number in full, and the offset required. -/
def readInternet? (s : Text) : Option DateTime := do
  let (year, s) ← readExactly? 4 s
  let s ← skip? '-' s
  let (month, s) ← readExactly? 2 s
  let s ← skip? '-' s
  let (day, s) ← readExactly? 2 s
  let s ← match s with
    | c :: rest => if c = 'T' || c = 't' || c = ' ' then some rest else none
    | [] => none
  let (hour, s) ← readExactly? 2 s
  let s ← skip? ':' s
  let (minute, s) ← readExactly? 2 s
  let s ← skip? ':' s
  let (second, s) ← readExactly? 2 s
  let (nanosecond, s) ← match s with
    | '.' :: rest => Layout.readNanoseconds? rest
    | _ => some (0, s)
  let offset ← readOffset? s
  let date ← Date.of? year month day
  let time ← TimeOfDay.ofClock? hour minute second nanosecond
  DateTime.shift? ⟨date, time⟩ (-offset)

/-- The layouts without an offset, in the order in which they are tried. -/
def layouts : List Layout := [
  Layout.yearFirst ++ [.mark 'T'] ++ Layout.toSecond ++ [.fraction],
  Layout.yearFirst ++ [.gap] ++ Layout.toSecond ++ [.fraction],
  Layout.yearFirst ++ [.mark 'T'] ++ Layout.toMinute]

def read? (s : Text) : Option DateTime :=
  (readInternet? s <|> layouts.findSome? fun layout ↦ layout.readDateTime? s) <|>
    (Layout.yearFirst.readDate? s).map DateTime.startOf

/-- The strict written form of a date, with blanks allowed around its numbers. -/
def readPlainDate? (s : Text) : Option Date :=
  Layout.readDate? [.year, .gap, .mark '-', .month, .gap, .mark '-', .day, .gap] s

/-- The strict written form of a date/time, with blanks allowed around its numbers. -/
def readPlainDateTime? (s : Text) : Option DateTime :=
  Layout.readDateTime?
    [.year, .gap, .mark '-', .month, .gap, .mark '-', .day, .gap, .mark 'T', .hour, .gap, .mark ':',
      .minute, .gap, .mark ':', .second, .fraction, .gap] s

end RecordSearch.Timestamp
