/-
This file reads the number literals of JSON.
-/
import SchemaTypes.Json.Cursor
import SchemaTypes.Json.Value

namespace SchemaTypes.Json

/-- The digits of a literal around its point and its power of ten. -/
structure NumberLiteral where
  negative : Bool
  whole : List Nat
  fraction : Option (List Nat)
  /-- The sign of the exponent is true where it is negative. -/
  power : Option (Bool × List Nat)
deriving Repr

namespace NumberLiteral

def significandLimit : Nat := 0xFFFFFFFFFFFFFFFF

def powerLimit : Nat := 0x7FFFFFFF

/-- Appends digits to a significand of 64 bits and counts those from the first that does not fit. -/
def absorb : Nat → List Nat → Nat × Nat
  | significand, [] => (significand, 0)
  | significand, digit :: digits =>
    if significand * 10 + digit ≤ significandLimit then absorb (significand * 10 + digit) digits
    else (significand, digits.length + 1)

/-- The value of exponent digits, or the number of digits up to the first that is too much. -/
def powerValue : Nat → Nat → List Nat → Except Nat Nat
  | _, value, [] => .ok value
  | count, value, digit :: digits =>
    if value * 10 + digit ≤ powerLimit then powerValue (count + 1) (value * 10 + digit) digits
    else .error (count + 1)

def roundedPower (exponent : Nat) : Option Binary64 := Binary64.ofRatio (powerOfTen exponent) 1

def greatestPower : Nat := 308

/-- A double times a negative power of ten, in at most three steps that each fit a double. -/
def shrink (magnitude : Binary64) (exponent : Nat) : Option Binary64 :=
  let divide (dividend : Binary64) (power : Nat) : Option Binary64 :=
    (roundedPower power).bind dividend.over?
  if exponent ≤ greatestPower then divide magnitude exponent
  else if exponent ≤ 2 * greatestPower then
    (divide magnitude greatestPower).bind fun smaller => divide smaller (exponent - greatestPower)
  else some (Binary64.zero false)

/-- A double times a power of ten; only a product that is too large has no value. -/
def scale (magnitude : Binary64) (exponent : Int) : Option Binary64 :=
  if exponent < 0 then shrink magnitude exponent.natAbs
  else if magnitude.isZero then some magnitude
  else if exponent.natAbs ≤ greatestPower then
    (roundedPower exponent.natAbs).bind magnitude.times?
  else none

/-- The significand with its power of ten before the written exponent. -/
def significand (literal : NumberLiteral) : Nat × Int :=
  let whole := absorb 0 literal.whole
  let digits := literal.fraction.getD []
  let all := absorb whole.1 digits
  (all.1, (whole.2 : Int) - (digits.length - all.2 : Nat))

/-- The double that a literal denotes; a failure tells how many exponent digits were looked at. -/
def float (literal : NumberLiteral) : Except (Option Nat) Binary64 :=
  let parts := literal.significand
  let scaled (exponent : Int) : Except (Option Nat) Binary64 :=
    match (Binary64.ofRatio parts.1 1).bind fun magnitude => scale magnitude exponent with
    | some magnitude => .ok (magnitude.withSign literal.negative)
    | none => .error none
  match literal.power with
  | none => scaled parts.2
  | some (negative, digits) =>
    match powerValue 0 0 digits with
    | .ok value => scaled (parts.2 + if negative then -(value : Int) else value)
    | .error count =>
      if parts.1 ≠ 0 ∧ !negative then .error (some count)
      else .ok (Binary64.zero literal.negative)

/-- Integers from `-2 ^ 63` to `2 ^ 64 - 1` are exact, except for a zero with a sign. -/
def value (literal : NumberLiteral) : Except (Option Nat) Number :=
  let whole := absorb 0 literal.whole
  let exact := literal.fraction.isNone ∧ literal.power.isNone ∧ whole.2 = 0 ∧
    (!literal.negative ∨ (whole.1 ≠ 0 ∧ whole.1 ≤ 0x8000000000000000))
  if exact then .ok (.integer (if literal.negative then -(whole.1 : Int) else whole.1))
  else literal.float.map .float

end NumberLiteral

namespace Reader

def digitValue (character : Char) : Nat := character.toNat - '0'.toNat

def takeDigits : Reader (List Nat) := do
  return (← takeWhile Char.isDigit).map digitValue

/-- A zero stands alone; other whole parts begin with another digit. -/
def wholePart : Reader (List Nat) := do
  match ← peek with
  | some '0' =>
    skipChar
    if (← peek).any Char.isDigit then failNext .invalidNumber else return [0]
  | some character =>
    if character.isDigit then takeDigits else failNext .invalidNumber
  | none => failHere .endInValue

def fractionPart : Reader (Option (List Nat)) := do
  if (← peek) = some '.' then
    skipChar
    let digits ← takeDigits
    if !digits.isEmpty then return some digits
    else if (← peek).isNone then failNext .endInValue
    else failNext .invalidNumber
  else return none

/-- The letter, an optional sign and the digits; the cursor stays before the digits. -/
def powerSign : Reader (Option Bool) := do
  match ← peek with
  | some 'e' | some 'E' =>
    skipChar
    match ← peek with
    | some '-' => skipChar; return some true
    | some '+' => skipChar; return some false
    | _ => return some false
  | _ => return none

def number : Reader Json := do
  let negative := (← peek) = some '-'
  if negative then skipChar
  let whole ← wholePart
  let fraction ← fractionPart
  let sign ← powerSign
  let beforeDigits ← get
  let digits ← if sign.isSome then takeDigits else pure []
  if sign.isSome && digits.isEmpty then
    if (← peek).isNone then failHere .endInValue else failNext .invalidNumber
  match (NumberLiteral.mk negative whole fraction (sign.map (·, digits))).value with
  | .ok value => return .number value
  | .error none => failHere .numberOutOfRange
  | .error (some count) =>
    set (Cursor.mk [] (beforeDigits.position.skip count beforeDigits.rest))
    failHere .numberOutOfRange

end Reader
end SchemaTypes.Json
