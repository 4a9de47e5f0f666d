/-
This file finds the fewest decimal digits that read back as a given double.
-/
import SchemaTypes.Number.Binary64

namespace SchemaTypes

/-- A positive decimal `digits * 10 ^ exponent`. -/
structure Decimal where
  digits : Nat
  exponent : Int
deriving DecidableEq, Repr

namespace Decimal

def digitText (number : Decimal) : String := Nat.repr number.digits

/-- The power of ten of the first digit. -/
def leadingExponent (number : Decimal) : Int :=
  number.exponent + number.digitText.length - 1

/-- Zeros at the end move into the exponent; the fuel is the number of digits. -/
def stripZeros : Nat → Decimal → Decimal
  | 0, number => number
  | fuel + 1, number =>
    if number.digits ≠ 0 ∧ number.digits % 10 = 0 then
      stripZeros fuel ⟨number.digits / 10, number.exponent + 1⟩
    else number

end Decimal

namespace Binary64

/-- The reals that round to one double: both ends and the double itself over one denominator. -/
structure Neighborhood where
  low : Nat
  value : Nat
  high : Nat
  denominator : Nat
  closed : Bool
deriving Repr

/-- The gap below a power of two is half of the gap above it. -/
def neighborhood (number : Binary64) : Neighborhood :=
  let narrow :=
    number.significand = powerOfTwo (precision - 1) ∧ number.exponent ≠ leastExponent
  let scale := powerOfTwo number.exponent.toNat
  { low := (4 * number.significand - if narrow then 1 else 2) * scale
    value := 4 * number.significand * scale
    high := (4 * number.significand + 2) * scale
    denominator := 4 * powerOfTwo (-number.exponent).toNat
    closed := number.significand % 2 = 0 }

/-- The neighbourhood in units of `10 ^ exponent`. -/
def Neighborhood.inTens (around : Neighborhood) (exponent : Int) : Neighborhood :=
  let up := powerOfTen (-exponent).toNat
  { low := around.low * up
    value := around.value * up
    high := around.high * up
    denominator := around.denominator * powerOfTen exponent.toNat
    closed := around.closed }

/-- Whether an integer lies in the neighbourhood. -/
def Neighborhood.holds (around : Neighborhood) (candidate : Nat) : Bool :=
  let point := candidate * around.denominator
  if around.closed then around.low ≤ point ∧ point ≤ around.high
  else around.low < point ∧ point < around.high

/-- The nearer one of the two integers around the value that lie in the neighbourhood, and halfway
the even one. -/
def Neighborhood.nearest? (around : Neighborhood) : Option Nat :=
  let below := around.value / around.denominator
  let twice := 2 * (around.value % around.denominator)
  let preferBelow :=
    twice < around.denominator ∨ (twice = around.denominator ∧ below % 2 = 0)
  match around.holds below, around.holds (below + 1) with
  | true, true => some (if preferBelow then below else below + 1)
  | true, false => some below
  | false, true => some (below + 1)
  | false, false => none

/-- The power of ten of the first digit of a positive ratio; the guess is at most two below it. -/
def decimalExponent (numerator denominator : Nat) : Int :=
  let bits : Int := (numerator.log2 : Int) - denominator.log2 - 1
  let guess : Int := bits * 30103 / 100000 - 1
  let reaches (exponent : Int) : Bool :=
    denominator * powerOfTen exponent.toNat ≤ numerator * powerOfTen (-exponent).toNat
  if reaches (guess + 3) then guess + 3
  else if reaches (guess + 2) then guess + 2
  else if reaches (guess + 1) then guess + 1
  else guess

/-- Tries the remaining digit counts in turn, the fewest digits first. -/
def searchDigits (around : Neighborhood) (leading : Int) : List Nat → Option Decimal
  | [] => none
  | count :: counts =>
    let exponent := leading - count + 1
    match (around.inTens exponent).nearest? with
    | some digits => some (Decimal.stripZeros 20 ⟨digits, exponent⟩)
    | none => searchDigits around leading counts

/-- How many digits a double may need, the fewest first. -/
def digitCounts : List Nat := [1, 2, 3, 4, 5, 6, 7, 8, 9, 10, 11, 12, 13, 14, 15, 16, 17]

/-- Seventeen digits always tell a double apart, so the search ends before the default. -/
def shortest (number : Binary64) : Decimal :=
  if number.isZero then ⟨0, 0⟩
  else
    let around := number.neighborhood
    let leading := decimalExponent around.value around.denominator
    (searchDigits around leading digitCounts).getD ⟨0, 0⟩

end Binary64
end SchemaTypes
