import RecordSearch.Calendar.DateTime
import RecordSearch.Number.Integer
import RecordSearch.Text.Blank

/-!
# Reading dates by a layout

A layout is a list of items that are read off a text from left to right. Reading is lenient: blanks
may stand before every number, numbers may be shorter than their width, and a gap in the layout
stands for any blanks, or none.
-/

namespace RecordSearch

inductive LayoutItem where
  | year | month | day | hour | minute | second
  /-- An optional point with at least one digit; what goes beyond nanoseconds is dropped. -/
  | fraction
  | mark (c : Char)
  | gap
  deriving DecidableEq, Repr

abbrev Layout := List LayoutItem

/-- The numbers read so far. -/
structure CalendarFields where
  year : Int := 0
  month : Nat := 0
  day : Nat := 0
  hour : Nat := 0
  minute : Nat := 0
  second : Nat := 0
  nanosecond : Nat := 0

namespace CalendarFields

def date? (f : CalendarFields) : Option Date :=
  Date.of? f.year f.month f.day

def dateTime? (f : CalendarFields) : Option DateTime := do
  let date ← f.date?
  let time ← TimeOfDay.ofClock? f.hour f.minute f.second f.nanosecond
  return ⟨date, time⟩

end CalendarFields

namespace Layout

/-- At least one and at most `width` digits, and what follows them. -/
def readDigits? (width : Nat) (s : Text) : Option (Nat × Text) :=
  let digits := (s.take width).takeWhile Char.isDigit
  if digits.isEmpty then none else some (digitsValue digits, s.drop digits.length)

/-- A number of at most two digits after blanks. -/
def readSmall? (s : Text) : Option (Nat × Text) :=
  readDigits? 2 (Text.trimStart s)

/-- A year of up to four digits, or of any length behind a sign. -/
def readYear? (s : Text) : Option (Int × Text) :=
  match Text.trimStart s with
  | '-' :: rest => (readDigits? rest.length rest).map fun (n, rest) ↦ (-(n : Int), rest)
  | '+' :: rest => (readDigits? rest.length rest).map fun (n, rest) ↦ ((n : Int), rest)
  | rest => (readDigits? 4 rest).map fun (n, rest) ↦ ((n : Int), rest)

/-- The digits of a fraction in nanoseconds. -/
def readNanoseconds? (s : Text) : Option (Nat × Text) :=
  let digits := (s.take 9).takeWhile Char.isDigit
  if digits.isEmpty then none
  else some (digitsValue digits * Nat.pow 10 (9 - digits.length),
    (s.drop digits.length).dropWhile Char.isDigit)

def readItem? (item : LayoutItem) (f : CalendarFields) (s : Text) :
    Option (CalendarFields × Text) :=
  match item with
  | .year => (readYear? s).map fun (n, rest) ↦ ({ f with year := n }, rest)
  | .month => (readSmall? s).map fun (n, rest) ↦ ({ f with month := n }, rest)
  | .day => (readSmall? s).map fun (n, rest) ↦ ({ f with day := n }, rest)
  | .hour => (readSmall? s).map fun (n, rest) ↦ ({ f with hour := n }, rest)
  | .minute => (readSmall? s).map fun (n, rest) ↦ ({ f with minute := n }, rest)
  | .second => (readSmall? s).map fun (n, rest) ↦ ({ f with second := n }, rest)
  | .fraction => match s with
    | '.' :: rest =>
      (readNanoseconds? rest).map fun (n, rest) ↦ ({ f with nanosecond := n }, rest)
    | _ => some (f, s)
  | .mark c => match s with
    | d :: rest => if d = c then some (f, rest) else none
    | [] => none
  | .gap => some (f, Text.trimStart s)

/-- The fields of a text that the items read to its end. -/
def readFrom? : Layout → CalendarFields → Text → Option CalendarFields
  | [], f, s => if s.isEmpty then some f else none
  | item :: items, f, s =>
    match readItem? item f s with
    | some (f, rest) => readFrom? items f rest
    | none => none

def read? (layout : Layout) (s : Text) : Option CalendarFields :=
  readFrom? layout {} s

def readDate? (layout : Layout) (s : Text) : Option Date :=
  (layout.read? s).bind CalendarFields.date?

def readDateTime? (layout : Layout) (s : Text) : Option DateTime :=
  (layout.read? s).bind CalendarFields.dateTime?

/-- Day, month and year between points. -/
def dayFirst : Layout := [.day, .mark '.', .month, .mark '.', .year]

/-- Year, month and day between hyphens. -/
def yearFirst : Layout := [.year, .mark '-', .month, .mark '-', .day]

def toMinute : Layout := [.hour, .mark ':', .minute]

def toSecond : Layout := toMinute ++ [.mark ':', .second]

end Layout

end RecordSearch
