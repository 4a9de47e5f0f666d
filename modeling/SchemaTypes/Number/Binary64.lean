/-
This file holds the finite binary64 numbers and rounds ratios of naturals to them.
-/
import SchemaTypes.Number.Power

namespace SchemaTypes

/-- A finite double is `significand * 2 ^ exponent` with a sign, the significand below `2 ^ 53`. -/
structure Binary64 where
  negative : Bool
  significand : Nat
  exponent : Int
deriving DecidableEq, Inhabited, Repr

namespace Binary64

/-- Subnormal numbers are the multiples of two to this power. -/
def leastExponent : Int := -1074

def greatestExponent : Int := 971

def precision : Nat := 53

def zero (negative : Bool) : Binary64 := ⟨negative, 0, leastExponent⟩

def isZero (number : Binary64) : Bool := number.significand = 0

def withSign (negative : Bool) (number : Binary64) : Binary64 :=
  { number with negative }

/-- The ratio `numerator / denominator` in units of `2 ^ exponent`. -/
def inUnits (numerator denominator : Nat) (exponent : Int) : Nat × Nat :=
  (numerator * powerOfTwo (-exponent).toNat, denominator * powerOfTwo exponent.toNat)

/-- A quotient goes to its nearest natural, and halfway to the even one. -/
def roundHalfEven (numerator denominator : Nat) : Nat :=
  let quotient := numerator / denominator
  let twice := 2 * (numerator % denominator)
  if twice < denominator ∨ (twice = denominator ∧ quotient % 2 = 0) then quotient
  else quotient + 1

/-- The exponent at which a positive ratio has a significand of full precision, or the least one. -/
def exponentFor (numerator denominator : Nat) : Int :=
  let guess : Int := (numerator.log2 : Int) - denominator.log2 - precision
  let units := inUnits numerator denominator guess
  max leastExponent (if units.1 < units.2 * powerOfTwo precision then guess else guess + 1)

/-- The double nearest to a ratio; there is none where the ratio rounds beyond the largest one. -/
def ofRatio (numerator denominator : Nat) : Option Binary64 :=
  if numerator = 0 then some (zero false)
  else
    let exponent := exponentFor numerator denominator
    let units := inUnits numerator denominator exponent
    let significand := roundHalfEven units.1 units.2
    let carried := significand = powerOfTwo precision
    let result : Binary64 :=
      if carried then ⟨false, powerOfTwo (precision - 1), exponent + 1⟩
      else ⟨false, significand, exponent⟩
    if result.exponent ≤ greatestExponent then some result else none

/-- The magnitude as a ratio. -/
def ratio (number : Binary64) : Nat × Nat :=
  (number.significand * powerOfTwo number.exponent.toNat, powerOfTwo (-number.exponent).toNat)

/-- The rounded product of two magnitudes. -/
def times? (left right : Binary64) : Option Binary64 :=
  ofRatio (left.ratio.1 * right.ratio.1) (left.ratio.2 * right.ratio.2)

/-- The rounded quotient of two magnitudes. -/
def over? (left right : Binary64) : Option Binary64 :=
  ofRatio (left.ratio.1 * right.ratio.2) (left.ratio.2 * right.ratio.1)

end Binary64
end SchemaTypes
