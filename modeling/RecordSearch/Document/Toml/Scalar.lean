import RecordSearch.Document.Json.Reader
import RecordSearch.Calendar.Timestamp
import RecordSearch.Number.Decimal

/-!
# Keys and scalar values in TOML

Keys, the four kinds of strings, numbers and date/times.
-/

namespace RecordSearch.Toml

/-- The quote of strings without escapes. -/
def literalQuote : Char := Char.ofNat 39

def isSpace (c : Char) : Bool :=
  c = ' ' || c = '\t'

def skipSpace (s : Text) : Text :=
  s.dropWhile isSpace

/-- Control characters other than the tab stand in no comment and no string. -/
def isPrintable (c : Char) : Bool :=
  c = '\t' || (32 ≤ c.toNat && c.toNat ≠ 127)

/-- What follows a line break. -/
def afterBreak? : Text → Option Text
  | '\n' :: s => some s
  | '\r' :: '\n' :: s => some s
  | _ => none

/-- What follows a comment, if there is one. -/
def skipComment (s : Text) : Text :=
  match s with
  | '#' :: rest => rest.dropWhile isPrintable
  | _ => s

/-- Blanks, comments and line breaks. -/
def skipLines : (fuel : Nat) → Text → Text
  | 0, s => s
  | fuel + 1, s =>
    let rest := skipComment (skipSpace s)
    match afterBreak? rest with
    | some rest => skipLines fuel rest
    | none => rest

def readScalarValue? (width : Nat) (s : Text) : Option (Char × Text) :=
  if s.length < width then none
  else match Json.hexNumber? (s.take width) with
    | some n => if h : n.isValidChar then some (Char.ofNatAux n h, s.drop width) else none
    | none => none

def readEscape? : Text → Option (Char × Text)
  | [] => none
  | c :: s =>
    if c = 'b' then some (Char.ofNat 8, s)
    else if c = 't' then some ('\t', s)
    else if c = 'n' then some ('\n', s)
    else if c = 'f' then some (Char.ofNat 12, s)
    else if c = 'r' then some ('\r', s)
    else if c = '"' || c = '\\' then some (c, s)
    else if c = 'u' then readScalarValue? 4 s
    else if c = 'U' then readScalarValue? 8 s
    else none

/-- The rest of a string of one line. Only between double quotes are there escapes. -/
def readLineFrom? (quote : Char) : (fuel : Nat) → (before : Text) → Text → Option (Text × Text)
  | 0, _, _ | _, _, [] => none
  | fuel + 1, before, c :: s =>
    if c = quote then some (before.reverse, s)
    else if c = '\\' && quote = '"' then
      match readEscape? s with
      | some (d, s) => readLineFrom? quote fuel (d :: before) s
      | none => none
    else if isPrintable c then readLineFrom? quote fuel (c :: before) s
    else none

/-- What a backslash at the end of a line joins: the next text after blanks and line breaks. -/
def joinLines? (s : Text) : Option Text :=
  (afterBreak? (skipSpace s)).map fun rest ↦
    rest.dropWhile fun c ↦ isSpace c || c = '\n' || c = '\r'

/-- The rest of a string of several lines. Up to two quotes may stand before the closing three. -/
def readLinesFrom? (quote : Char) : (fuel : Nat) → (before : Text) → Text → Option (Text × Text)
  | 0, _, _ | _, _, [] => none
  | fuel + 1, before, c :: s =>
    if c = quote then
      let run := (c :: s).takeWhile (· = quote)
      if run.length < 3 then readLinesFrom? quote fuel (c :: before) s
      else
        let inside := min (run.length - 3) 2
        some ((List.replicate inside quote ++ before).reverse, (c :: s).drop (inside + 3))
    else if c = '\\' && quote = '"' then
      match joinLines? s with
      | some s => readLinesFrom? quote fuel before s
      | none =>
        match readEscape? s with
        | some (d, s) => readLinesFrom? quote fuel (d :: before) s
        | none => none
    else
      match afterBreak? (c :: s) with
      | some s => readLinesFrom? quote fuel ('\n' :: before) s
      | none => if isPrintable c then readLinesFrom? quote fuel (c :: before) s else none

/-- A string at its opening quotes. -/
def readString? (lines : Bool) (s : Text) : Option (Text × Text) :=
  match s with
  | a :: rest =>
    if a ≠ '"' && a ≠ literalQuote then none
    else match Text.dropFront? [a, a, a] s with
      | some inside =>
        if lines then readLinesFrom? a (s.length + 1) [] ((afterBreak? inside).getD inside)
        else none
      | none => readLineFrom? a (s.length + 1) [] rest
  | [] => none

def isBareKey (c : Char) : Bool :=
  c.isAlphanum || c = '_' || c = '-'

def readSimpleKey? (s : Text) : Option (Text × Text) :=
  let bare := s.takeWhile isBareKey
  if bare.isEmpty then readString? false s else some (bare, s.drop bare.length)

/-- The parts of a dotted key. -/
def readKey? : (fuel : Nat) → Text → Option (List Text × Text)
  | 0, _ => none
  | fuel + 1, s =>
    match readSimpleKey? (skipSpace s) with
    | none => none
    | some (key, rest) =>
      match skipSpace rest with
      | '.' :: rest => (readKey? fuel rest).map fun (keys, rest) ↦ (key :: keys, rest)
      | rest => some ([key], rest)

/-- Digits with single underscores between them, without the underscores. -/
def joinDigits? (isDigit : Char → Bool) (s : Text) : Option Text :=
  let groups := Text.splitOn ['_'] s
  if groups.all fun group ↦ !group.isEmpty && group.all isDigit then some groups.flatten else none

def digitValue (c : Char) : Nat :=
  (Json.hexValue? c).getD 16

/-- A natural number in a base other than ten. -/
def readBased? (base : Nat) (s : Text) : Option Nat :=
  (joinDigits? (fun c ↦ digitValue c < base) s).map fun digits ↦
    digits.foldl (fun n c ↦ base * n + digitValue c) 0

/-- The digits of a natural number that has no needless zero in front. -/
def readWhole? (s : Text) : Option Text :=
  match joinDigits? Char.isDigit s with
  | some digits => if digits.length ≠ 1 && digits.head? = some '0' then none else some digits
  | none => none

def integer? (n : Int) : Option Document :=
  if fitsSigned 64 n then some (.integer n) else none

def readFloat? (negative : Bool) (s : Text) : Option Document :=
  let whole := s.takeWhile fun (c : Char) ↦ c.isDigit || c = '_'
  let rest := s.drop whole.length
  let (fraction, rest) := match rest with
    | '.' :: rest =>
      let digits := rest.takeWhile fun (c : Char) ↦ c.isDigit || c = '_'
      (some digits, rest.drop digits.length)
    | rest => (none, rest)
  let exponent : Option (Option Int) := match rest with
    | [] => if fraction.isSome then some none else none
    | c :: rest =>
      if c = 'e' || c = 'E' then
        let (down, digits) := match rest with
          | '-' :: digits => (true, digits)
          | '+' :: digits => (false, digits)
          | digits => (false, digits)
        (joinDigits? Char.isDigit digits).map fun digits ↦
          some (if down then -(digitsValue digits : Int) else digitsValue digits)
      else none
  do
    let whole ← readWhole? whole
    let fraction ← match fraction with
      | some digits => joinDigits? Char.isDigit digits
      | none => some []
    let exponent ← exponent
    return .float (Decimal.toBinary negative
      ⟨digitsValue (whole ++ fraction), exponent.getD 0 - fraction.length⟩)

def readNumber? (s : Text) : Option Document :=
  let (signed, negative, digits) := match s with
    | '-' :: digits => (true, true, digits)
    | '+' :: digits => (true, false, digits)
    | digits => (false, false, digits)
  if digits = "inf".toList then some (.float (.infinite negative))
  else if digits = "nan".toList then some (.float .nan)
  else match signed, digits with
    | false, '0' :: 'x' :: digits => (readBased? 16 digits).bind fun n ↦ integer? n
    | false, '0' :: 'o' :: digits => (readBased? 8 digits).bind fun n ↦ integer? n
    | false, '0' :: 'b' :: digits => (readBased? 2 digits).bind fun n ↦ integer? n
    | _, digits =>
      match readWhole? digits with
      | some whole =>
        let n : Int := digitsValue whole
        integer? (if negative then -n else n)
      | none => readFloat? negative digits

def readClock? (s : Text) : Option Text := do
  let (hour, s) ← Timestamp.readExactly? 2 s
  let s ← Timestamp.skip? ':' s
  let (minute, s) ← Timestamp.readExactly? 2 s
  let s ← Timestamp.skip? ':' s
  let (second, s) ← Timestamp.readExactly? 2 s
  let s ← match s with
    | '.' :: rest => (Layout.readNanoseconds? rest).map Prod.snd
    | _ => some s
  if (TimeOfDay.ofClock? hour minute second 0).isSome then some s else none

/-- A date, a time or both, with an offset only behind both. -/
def isDateTime (s : Text) : Bool :=
  let date : Option Text := do
    let (year, s) ← Timestamp.readExactly? 4 s
    let s ← Timestamp.skip? '-' s
    let (month, s) ← Timestamp.readExactly? 2 s
    let s ← Timestamp.skip? '-' s
    let (day, s) ← Timestamp.readExactly? 2 s
    if (Date.of? year month day).isSome then some s else none
  match date with
  | some [] => true
  | some (c :: rest) =>
    (c = 'T' || c = 't' || c = ' ') && match readClock? rest with
      | some [] => true
      | some offset => (Timestamp.readOffset? offset).isSome
      | none => false
  | none => readClock? s == some []

/-- A date/time as the table that stands for it: it is neither a text nor a number. -/
def dateTimeDocument (s : Text) : Document :=
  .record [("date-time", .text s)]

/-- The characters of a value that is not quoted. A blank belongs to it only between a date and a
time. -/
def bareValue (s : Text) : Text :=
  let isBare (c : Char) := c.isAlphanum || "+-_.:".toList.contains c
  let first := s.takeWhile isBare
  match s.drop first.length with
  | ' ' :: rest =>
    let second := rest.takeWhile isBare
    if first.length = 10 && (second.drop 2).head? = some ':' then first ++ ' ' :: second else first
  | _ => first

def readBare? (s : Text) : Option (Document × Text) :=
  let bare := bareValue s
  let d :=
    if bare = "true".toList then some (.boolean true)
    else if bare = "false".toList then some (.boolean false)
    else if isDateTime bare then some (dateTimeDocument bare)
    else readNumber? bare
  d.map fun d ↦ (d, s.drop bare.length)

end RecordSearch.Toml
