/-!
# Binary floating-point numbers

A finite number is a significand times a power of two, held in the one form its format gives it:
a full-length significand, or the least exponent. Results of arithmetic are the exact rational
result rounded to the nearest number of the format, a tie going to the even significand.
-/

namespace RecordSearch

/-- The length of a significand in bits, and the least and the greatest exponent of its unit. -/
structure Format where
  precision : Nat
  minExponent : Int
  maxExponent : Int

def Format.single : Format := ⟨24, -149, 104⟩

def Format.double : Format := ⟨53, -1074, 971⟩

inductive Binary (format : Format) where
  | nan
  | infinite (negative : Bool)
  | finite (negative : Bool) (significand : Nat) (exponent : Int)
  deriving DecidableEq, Repr

abbrev Single := Binary Format.single

abbrev Double := Binary Format.double

/-- The quotient of two natural numbers rounded to the nearest integer, a tie to the even one. -/
def roundRatio (num den : Nat) : Nat :=
  let quotient := num / den
  let twice := 2 * (num % den)
  if twice < den then quotient
  else if den < twice then quotient + 1
  else quotient + quotient % 2

/-- A positive ratio divided by a power of a base. -/
def scaleRatio (base : Nat) (num den : Nat) (exponent : Int) : Nat × Nat :=
  if 0 ≤ exponent then (num, den * Nat.pow base exponent.toNat)
  else (num * Nat.pow base (-exponent).toNat, den)

namespace Binary

variable {format : Format}

def zero (negative : Bool) : Binary format :=
  .finite negative 0 format.minExponent

/-- The exponent of the unit in which a positive ratio is rounded. -/
def unitExponent (format : Format) (num den : Nat) : Int :=
  let least : Int := num.log2 - den.log2 - format.precision
  let scaled := scaleRatio 2 num den least
  let fitting := if scaled.1 / scaled.2 < Nat.pow 2 format.precision then least else least + 1
  max fitting format.minExponent

/-- The number of the format nearest to a ratio of natural numbers with the given sign. -/
def ofRatio (negative : Bool) (num den : Nat) : Binary format :=
  if num = 0 then zero negative
  else
    let exponent := unitExponent format num den
    let scaled := scaleRatio 2 num den exponent
    let rounded := roundRatio scaled.1 scaled.2
    let carried := rounded == Nat.pow 2 format.precision
    let significand := if carried then rounded / 2 else rounded
    let exponent := if carried then exponent + 1 else exponent
    if format.maxExponent < exponent then .infinite negative
    else if significand = 0 then zero negative
    else .finite negative significand exponent

/-- The nearest number to a rational one; `negative` is the sign of a zero. -/
def ofRat (negative : Bool) (x : Rat) : Binary format :=
  if x = 0 then zero negative else ofRatio (x < 0) x.num.natAbs x.den

def ofInt (n : Int) : Binary format :=
  ofRatio (n < 0) n.natAbs 1

/-- The ratio of natural numbers that a finite magnitude is. -/
def magnitude (significand : Nat) (exponent : Int) : Nat × Nat :=
  scaleRatio 2 significand 1 (-exponent)

def finiteValue (negative : Bool) (significand : Nat) (exponent : Int) : Rat :=
  let ratio := magnitude significand exponent
  mkRat (if negative then -(ratio.1 : Int) else ratio.1) ratio.2

def isFinite : Binary format → Bool
  | .finite .. => true
  | _ => false

def convert {source target : Format} : Binary source → Binary target
  | .nan => .nan
  | .infinite negative => .infinite negative
  | .finite negative significand exponent =>
    let ratio := magnitude significand exponent
    ofRatio negative ratio.1 ratio.2

/-- Numeric order. Nothing compares with a NaN, and zeros of both signs are equal. -/
def order? : Binary format → Binary format → Option Ordering
  | .nan, _ | _, .nan => none
  | .infinite a, .infinite b => some (compare b.toNat a.toNat)
  | .infinite negative, .finite .. => some (if negative then .lt else .gt)
  | .finite .., .infinite negative => some (if negative then .gt else .lt)
  | .finite n₁ s₁ e₁, .finite n₂ s₂ e₂ =>
    let x := finiteValue n₁ s₁ e₁
    let y := finiteValue n₂ s₂ e₂
    some (if x < y then .lt else if x = y then .eq else .gt)

def equals (x y : Binary format) : Bool :=
  order? x y == some .eq

def add : Binary format → Binary format → Binary format
  | .nan, _ | _, .nan => .nan
  | .infinite a, .infinite b => if a = b then .infinite a else .nan
  | .infinite a, .finite .. => .infinite a
  | .finite .., .infinite b => .infinite b
  | .finite n₁ s₁ e₁, .finite n₂ s₂ e₂ =>
    ofRat (n₁ && n₂) (finiteValue n₁ s₁ e₁ + finiteValue n₂ s₂ e₂)

def divide : Binary format → Binary format → Binary format
  | .nan, _ | _, .nan | .infinite _, .infinite _ => .nan
  | .infinite a, .finite b _ _ => .infinite (a != b)
  | .finite a _ _, .infinite b => zero (a != b)
  | .finite n₁ s₁ e₁, .finite n₂ s₂ e₂ =>
    if s₂ = 0 then (if s₁ = 0 then .nan else .infinite (n₁ != n₂))
    else
      let x := magnitude s₁ e₁
      let y := magnitude s₂ e₂
      ofRatio (n₁ != n₂) (x.1 * y.2) (x.2 * y.1)

def multiply : Binary format → Binary format → Binary format
  | .nan, _ | _, .nan => .nan
  | .infinite a, .infinite b => .infinite (a != b)
  | .infinite a, .finite b s _ | .finite b s _, .infinite a =>
    if s = 0 then .nan else .infinite (a != b)
  | .finite n₁ s₁ e₁, .finite n₂ s₂ e₂ =>
    let x := magnitude s₁ e₁
    let y := magnitude s₂ e₂
    ofRatio (n₁ != n₂) (x.1 * y.1) (x.2 * y.2)

def negate : Binary format → Binary format
  | .nan => .nan
  | .infinite negative => .infinite !negative
  | .finite negative significand exponent => .finite (!negative) significand exponent

/-- The smaller of two numbers. A NaN gives way to a number. -/
def minimum (x y : Binary format) : Binary format :=
  match order? x y with
  | some .gt => y
  | some _ => x
  | none => if x = .nan then y else x

def maximum (x y : Binary format) : Binary format :=
  match order? x y with
  | some .lt => y
  | some _ => x
  | none => if x = .nan then y else x

end Binary

end RecordSearch
