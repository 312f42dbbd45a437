import RecordSearch.Number.Binary
import RecordSearch.Number.Integer
import RecordSearch.Text.Case

/-!
# Decimal numbers

A decimal is a natural number of units of a power of ten. Reading a binary number from decimal text
rounds the decimal once; the words for infinity and for no number at all are read in any case.
-/

namespace RecordSearch

structure Decimal where
  digits : Nat
  exponent : Int
  deriving DecidableEq, Repr

namespace Decimal

/-- The position of the decimal point counted from the first digit. -/
def point (d : Decimal) : Int :=
  (Text.ofNat d.digits).length + d.exponent

/-- A decimal whose point lies further from its first digit than this is beyond every format. -/
def pointLimit : Int := 400

def toBinary {format : Format} (negative : Bool) (d : Decimal) : Binary format :=
  if d.digits = 0 then .zero negative
  else if pointLimit < d.point then .infinite negative
  else if d.point < -pointLimit then .zero negative
  else
    let ratio := scaleRatio 10 d.digits 1 (-d.exponent)
    .ofRatio negative ratio.1 ratio.2

/-- The exponent after the digits, if there is one. -/
def readExponent? : Text → Option Int
  | [] => some 0
  | c :: s => if c = 'e' || c = 'E' then Text.toInt? s else none

/-- An unsigned decimal: digits with an optional point among them, and an optional exponent. -/
def read? (s : Text) : Option Decimal :=
  let whole := s.takeWhile Char.isDigit
  let (fraction, rest) := match s.dropWhile Char.isDigit with
    | '.' :: rest => (rest.takeWhile Char.isDigit, rest.dropWhile Char.isDigit)
    | rest => ([], rest)
  if whole.isEmpty && fraction.isEmpty then none
  else (readExponent? rest).map fun exponent ↦
    ⟨digitsValue (whole ++ fraction), exponent - fraction.length⟩

end Decimal

namespace Binary

variable {format : Format}

def readUnsigned? (negative : Bool) (s : Text) : Option (Binary format) :=
  match Decimal.read? s with
  | some d => some (d.toBinary negative)
  | none =>
    let word := s.map Char.toLower
    if word = "inf".toList || word = "infinity".toList then some (.infinite negative)
    else if word = "nan".toList then some .nan
    else none

def read? : Text → Option (Binary format)
  | '-' :: s => readUnsigned? true s
  | '+' :: s => readUnsigned? false s
  | s => readUnsigned? false s

end Binary

end RecordSearch
