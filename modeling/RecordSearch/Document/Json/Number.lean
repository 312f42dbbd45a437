import RecordSearch.Document.Basic
import RecordSearch.Number.Decimal

/-!
# Numbers in JSON

A number without fraction and exponent that fits 64 bits is an integer. Any other is a float: its
digits are gathered as long as they fit an unsigned word of 64 bits, later ones are dropped, and the
gathered significand is scaled once by a power of ten. The result may therefore differ from the
nearest float in the last place.
-/

namespace RecordSearch.Json

def significandLimit : Nat := wordLimit 64

/-- Gathers digits onto a significand while it fits: the significand and how many it took. -/
def gather (significand : Nat) : Text → Nat × Nat
  | [] => (significand, 0)
  | c :: digits =>
    let next := 10 * significand + (c.toNat - '0'.toNat)
    if next < significandLimit then
      let (gathered, taken) := gather next digits
      (gathered, taken + 1)
    else (significand, 0)

/-- The greatest power of ten that a float holds. -/
def powerLimit : Nat := 308

def powerOfTen (n : Nat) : Double :=
  Decimal.toBinary false ⟨1, n⟩

/-- Scales a float by a power of ten, in steps while the power is too small to be a float. A float
that overflows is refused. -/
def scaleFloat? : (steps : Nat) → Double → Int → Option Double
  | 0, x, _ => some x
  | steps + 1, x, exponent =>
    if exponent.natAbs ≤ powerLimit then
      if 0 ≤ exponent then
        let scaled := x.multiply (powerOfTen exponent.toNat)
        if scaled.isFinite then some scaled else none
      else some (x.divide (powerOfTen (-exponent).toNat))
    else if x = .zero false then some x
    else if 0 ≤ exponent then none
    else scaleFloat? steps (x.divide (powerOfTen powerLimit)) (exponent + powerLimit)

/-- A significand of 64 bits is zero after this many steps. -/
def scaleSteps : Nat := 4

def toFloat? (negative : Bool) (significand : Nat) (exponent : Int) : Option Document :=
  (scaleFloat? scaleSteps (.ofInt significand) exponent).map fun x ↦
    .float (if negative then x.negate else x)

/-- The exponent of a number and what follows it; no exponent counts as nothing. -/
def readExponent? (s : Text) : Option (Option Int × Text) :=
  match s with
  | c :: rest =>
    if c = 'e' || c = 'E' then
      let (negative, rest) := match rest with
        | '-' :: rest => (true, rest)
        | '+' :: rest => (false, rest)
        | rest => (false, rest)
      let digits := rest.takeWhile Char.isDigit
      if digits.isEmpty then none
      else
        let n : Int := digitsValue digits
        some (some (if negative then -n else n), rest.drop digits.length)
    else some (none, s)
  | [] => some (none, s)

/-- An integer, or the float that stands for it where it does not fit. -/
def ofDigits? (negative : Bool) (significand dropped : Nat) : Option Document :=
  if dropped = 0 then
    if !negative then some (.integer significand)
    else if 0 < significand && significand ≤ wordLimit 63 then some (.integer (-(significand : Int)))
    else toFloat? true significand 0
  else toFloat? negative significand dropped

def readUnsignedNumber? (negative : Bool) (s : Text) : Option (Document × Text) := do
  let whole := s.takeWhile Char.isDigit
  let rest := s.drop whole.length
  if whole.isEmpty || (whole.length ≠ 1 && whole.head? = some '0') then none
  let (significand, taken) := gather 0 whole
  let dropped := whole.length - taken
  let (fraction, rest) ← match rest with
    | '.' :: rest =>
      let digits := rest.takeWhile Char.isDigit
      if digits.isEmpty then none else some (some digits, rest.drop digits.length)
    | rest => some (none, rest)
  let (exponent, rest) ← readExponent? rest
  match fraction, exponent with
  | none, none => return (← ofDigits? negative significand dropped, rest)
  | _, _ =>
    let (significand, places) := gather significand (fraction.getD [])
    let d ← toFloat? negative significand (dropped - places + exponent.getD 0)
    return (d, rest)

def readNumber? : Text → Option (Document × Text)
  | '-' :: s => readUnsignedNumber? true s
  | s => readUnsignedNumber? false s

end RecordSearch.Json
