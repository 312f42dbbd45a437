import RecordSearch.Number.Decimal

/-!
# Decimal text of binary numbers

The shortest text of a number has the fewest digits that read back as that number, and of those the
nearest to it. The grids of multiples of powers of ten are searched from the coarsest on: if any
point of a grid reads back, one of the two around the number does. Fixed places are rounded from the
exact value.
-/

namespace RecordSearch

/-- Where a number half-way between two decimals goes. -/
inductive TieRule where
  | upward
  | toEven
  deriving DecidableEq, Repr

/-- How a decimal is laid out. -/
structure DecimalStyle where
  tie : TieRule
  /-- Whether `.0` follows a number without a fraction. -/
  markWhole : Bool
  /-- The positions of the point, counted from the first digit, that are written without an
  exponent; all of them if there is no bound. -/
  positional : Option (Int × Int)
  /-- Whether a plus sign stands before an exponent without a minus sign. -/
  markExponent : Bool

/-- Digits and a point only. -/
def DecimalStyle.plain : DecimalStyle := ⟨.upward, false, none, false⟩

/-- The numbers that are told apart by their text, with a fraction or an exponent like those of
documents. -/
def DecimalStyle.distinct : DecimalStyle := ⟨.upward, true, some (-3, 16), false⟩

/-- The numbers of documents: a fraction or an exponent tells them from integers. -/
def DecimalStyle.document : DecimalStyle := ⟨.toEven, true, some (-4, 16), true⟩

/-- The same for numbers of single precision, whose exponents are written in other places. -/
def DecimalStyle.singleDocument : DecimalStyle := ⟨.toEven, true, some (-5, 13), true⟩

namespace Decimal

/-- The decimal with the zeros at its end moved into the exponent. -/
def strip (d : Decimal) : Decimal :=
  let kept := Text.dropEnd (· = '0') (Text.ofNat d.digits)
  if kept.isEmpty then ⟨0, 0⟩
  else ⟨digitsValue kept, d.exponent + ((Text.ofNat d.digits).length - kept.length : Nat)⟩

def renderPositional (markWhole : Bool) (d : Decimal) : Text :=
  let digits := Text.ofNat d.digits
  if 0 ≤ d.exponent then
    digits ++ List.replicate d.exponent.toNat '0' ++ (if markWhole then ".0".toList else [])
  else if 0 < d.point then
    digits.take d.point.toNat ++ '.' :: digits.drop d.point.toNat
  else "0.".toList ++ List.replicate (-d.point).toNat '0' ++ digits

/-- One digit before the point, and an exponent. -/
def renderExponent (markExponent : Bool) (d : Decimal) : Text :=
  let mantissa := match Text.ofNat d.digits with
    | first :: second :: rest => first :: '.' :: second :: rest
    | digits => digits
  let exponent := d.point - 1
  mantissa ++ 'e' :: (if markExponent && 0 ≤ exponent then ['+'] else []) ++ Text.ofInt exponent

/-- The text of a decimal without zeros at its end. -/
def render (style : DecimalStyle) (d : Decimal) : Text :=
  let positional := match style.positional with
    | none => true
    | some (low, high) => d.digits == 0 || (low ≤ d.point && d.point ≤ high)
  if positional then renderPositional style.markWhole d
  else renderExponent style.markExponent d

end Decimal

namespace Binary

variable {format : Format}

/-- The multiple of a power of ten next to a positive number that reads back as it; of two such
multiples the nearer. -/
def gridPoint? (format : Format) (tie : TieRule) (significand : Nat) (exponent grid : Int) :
    Option Decimal :=
  let ratio := magnitude significand exponent
  let scaled := scaleRatio 10 ratio.1 ratio.2 grid
  let low := scaled.1 / scaled.2
  let twice := 2 * (scaled.1 % scaled.2)
  let highFirst :=
    scaled.2 < twice || (twice == scaled.2 && (tie = .upward || low % 2 = 1))
  let order := if highFirst then [low + 1, low] else [low, low + 1]
  (order.map fun n ↦ Decimal.mk n grid).find? fun d ↦
    d.toBinary false == (Binary.finite false significand exponent : Binary format)

/-- The first grid with a point that reads back, from a coarse one on. -/
def searchGrids (format : Format) (tie : TieRule) (significand : Nat) (exponent : Int) :
    (grids : Nat) → (grid : Int) → Decimal
  | 0, _ => ⟨0, 0⟩
  | grids + 1, grid =>
    match gridPoint? format tie significand exponent grid with
    | some d => d
    | none => searchGrids format tie significand exponent grids (grid - 1)

/-- No number has a longer shortest text than this many digits, and the first grid is at most two
places too coarse. -/
def gridCount (format : Format) : Nat := format.precision / 3 + 4

/-- The shortest decimal of a finite magnitude. -/
def shortest (format : Format) (tie : TieRule) (significand : Nat) (exponent : Int) : Decimal :=
  if significand = 0 then ⟨0, 0⟩
  else
    let bits : Int := significand.log2 + exponent + 1
    let coarse := bits * 30103 / 100000 + 1
    (searchGrids format tie significand exponent (gridCount format) coarse).strip

def sign (negative : Bool) : Text :=
  if negative then ['-'] else []

/-- The shortest text of a number in a style. -/
def render (style : DecimalStyle) : Binary format → Text
  | .nan => "NaN".toList
  | .infinite negative => sign negative ++ "inf".toList
  | .finite negative significand exponent =>
    sign negative ++ (shortest format style.tie significand exponent).render style

/-- A number rounded to a fixed count of decimal places. -/
def renderFixed (places : Nat) : Binary format → Text
  | .nan => "NaN".toList
  | .infinite negative => sign negative ++ "inf".toList
  | .finite negative significand exponent =>
    let ratio := magnitude significand exponent
    let units := roundRatio (ratio.1 * Nat.pow 10 places) ratio.2
    let fraction := if places = 0 then [] else
      '.' :: Text.ofNatPadded places (units % Nat.pow 10 places)
    sign negative ++ Text.ofNat (units / Nat.pow 10 places) ++ fraction

end Binary

end RecordSearch
