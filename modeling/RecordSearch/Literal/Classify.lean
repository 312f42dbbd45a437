import RecordSearch.Literal.Basic
import RecordSearch.Text.Grammar

/-!
# Classifying filter values

A value is read by the type of its attribute: text as an exact text or a pattern, numbers and dates
as a value, an inequality or a range, truth values by their words, and enumerations by their declared
constants. What fits none of the forms of its type is unrecognized; classifying never fails.
-/

namespace RecordSearch

namespace Grammar

/-- The range operator between two values: its symbol, or its word between blanks. -/
def rangeSeparator (op : Operator) : Grammar :=
  let symbol := sequence [blanks, piece op.symbol, blanks]
  if op.word.isEmpty then symbol
  else orElse symbol (sequence [someBlanks, piece op.word, someBlanks])

def sign : Grammar :=
  optional (satisfying fun c ↦ c = '+' || c = '-')

def integer : Grammar :=
  followedBy sign digits

/-- A decimal without an exponent. -/
def decimal (separators : List Text) : Grammar :=
  if separators.isEmpty then integer
  else followedBy integer
    (optional (followedBy (oneOf (separators.map piece)) digits))

def twoDigits : Grammar := exactly 2 Text.isDigit

/-- One digit or two, two preferred. -/
def oneOrTwoDigits : Grammar := orElse twoDigits (exactly 1 Text.isDigit)

def fourDigits : Grammar := exactly 4 Text.isDigit

def mark (c : Char) : Grammar := piece [c]

def day : Grammar :=
  orElse (sequence [oneOrTwoDigits, mark '.', oneOrTwoDigits, mark '.', fourDigits])
    (sequence [fourDigits, mark '-', oneOrTwoDigits, mark '-', oneOrTwoDigits])

def timeOfDay : Grammar :=
  sequence [satisfying fun c ↦ c = ' ' || c = 'T', oneOrTwoDigits, mark ':', twoDigits,
    optional (followedBy (mark ':') twoDigits)]

/-- A day with or without a time of day, a month, or a year. -/
def date : Grammar :=
  oneOf [followedBy day (optional timeOfDay),
    sequence [oneOrTwoDigits, mark '.', fourDigits], fourDigits]

end Grammar

namespace Literal

def readNumber? (settings : Settings) (type : NumericType) (s : Text) : Option Number :=
  Number.read? settings.decimalSeparators type s

def ofPattern? [Pattern.Engine] (settings : Settings) (s : Text) : Literal :=
  match Pattern.ofFilter? settings.wildcards s with
  | some pattern => .like pattern
  | none => .unrecognized

def classifyText [Pattern.Engine] (settings : Settings) (s : Text) : Literal :=
  if Text.isQuoted s then .exact (Text.unquote s) else ofPattern? settings s

/-- The number after an operator at the start of a text. -/
def numberAfter? (settings : Settings) (type : NumericType) (op : Operator) (s : Text) :
    Option Number :=
  (op.operand? s).bind (readNumber? settings type)

/-- The text after the operator for textual search, if it is a number. -/
def likeOperand? (settings : Settings) (type : NumericType) (s : Text) : Option Text :=
  (settings.operators.like.operand? s).filter fun rest ↦ (readNumber? settings type rest).isSome

def numberGrammar (settings : Settings) : NumericType → Grammar
  | .float | .double => Grammar.decimal settings.decimalSeparators
  | .short | .integer | .long => Grammar.integer

def numberRange? (settings : Settings) (type : NumericType) (s : Text) : Option Literal := do
  let (low, high) ← Grammar.splitPair? (numberGrammar settings type)
    (Grammar.rangeSeparator settings.operators.range) s
  let low ← readNumber? settings type low
  let high ← readNumber? settings type high
  return .numberRange low high

def classifyNumber [Pattern.Engine] (settings : Settings) (type : NumericType) (s : Text) :
    Literal :=
  let ops := settings.operators
  match readNumber? settings type s with
  | some n => .number n
  | none =>
    match likeOperand? settings type s with
    | some rest => ofPattern? settings rest
    | none =>
      match numberAfter? settings type ops.less s with
      | some n => .lessThan (.number n)
      | none =>
        match numberAfter? settings type ops.greater s with
        | some n => .greaterThan (.number n)
        | none => (numberRange? settings type s).getD .unrecognized

/-- The period of a date that has one of the written forms. -/
def datePeriod? (s : Text) : Option Period :=
  if Grammar.date.accepts s then Period.read? s else none

def dateRange? (settings : Settings) (s : Text) : Option Literal := do
  let (low, high) ← Grammar.splitPair? Grammar.date
    (Grammar.rangeSeparator settings.operators.range) s
  let first ← Period.read? low
  let last ← Period.read? high
  return .period ⟨first.start, last.stop⟩

def classifyDate (settings : Settings) (s : Text) : Literal :=
  let ops := settings.operators
  match datePeriod? s with
  | some p => .period p
  | none =>
    match (ops.less.operand? s).bind datePeriod? with
    | some p => .lessThan (.dateTime p.start)
    | none =>
      match (ops.greater.operand? s).bind datePeriod? with
      | some p => .greaterThan (.dateTime p.stop)
      | none => (dateRange? settings s).getD .unrecognized

def classifyBoolean (settings : Settings) (s : Text) : Literal :=
  if Text.equalsIgnoringAsciiCase s settings.truthWords.yes then .boolean true
  else if Text.equalsIgnoringAsciiCase s settings.truthWords.no then .boolean false
  else .unrecognized

/-- A quoted constant must be declared; any other text selects the constants that contain it,
whatever the case. -/
def classifyConstant (values : List Text) (s : Text) : Literal :=
  if Text.isQuoted s then
    if values.contains (Text.unquote s) then .constant (Text.unquote s) else .unrecognized
  else .constants (values.filter fun value ↦ Text.contains (Text.upper s) (Text.upper value))

/-- Classifies a value by a type. The literal for a missing value comes before every other form. -/
def classifyAs [Pattern.Engine] (settings : Settings) (type : SemanticType) (raw : Text) :
    Literal :=
  let s := Text.trim raw
  if s.isEmpty then .unrecognized
  else if settings.isNullToken s then .null
  else
    match type with
    | .text => classifyText settings s
    | .numeric type => classifyNumber settings type s
    | .date | .dateTime => classifyDate settings s
    | .boolean => classifyBoolean settings s
    | .enumeration values => classifyConstant values s

def classify [Pattern.Engine] (settings : Settings) (a : Attribute) (raw : Text) : Literal :=
  classifyAs settings a.effectiveType raw

/-- The literals of a list of alternatives; those that do not fit the type are skipped. -/
def membershipItems (settings : Settings) (type : SemanticType) (parts : List Text) :
    List Literal :=
  match type with
  | .text => parts.map fun part ↦ .exact (Text.unquote part)
  | .numeric type =>
    (parts.filterMap fun part ↦ readNumber? settings type (Text.unquote part)).map .number
  | .enumeration values =>
    ((parts.map Text.unquote).filter fun part ↦ values.contains part).map .constant
  | .boolean | .date | .dateTime => []

/-- Classifies a list of alternatives as a membership. -/
def classifyMembership (settings : Settings) (a : Attribute) (raw : Text) : Literal :=
  let items := membershipItems settings a.effectiveType (settings.operators.or.split raw)
  if items.isEmpty then .unrecognized else .membership items

end Literal

end RecordSearch
