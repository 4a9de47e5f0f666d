/-
This file reads the numbers and dates of TOML from their spelling.
-/
import SchemaTypes.Number.Binary64
import SchemaTypes.Toml.Value

namespace SchemaTypes.Toml

def isHexDigit (character : Char) : Bool :=
  character.isDigit || ('a' ≤ character && character ≤ 'f') ||
    ('A' ≤ character && character ≤ 'F')

def isOctalDigit (character : Char) : Bool := '0' ≤ character && character ≤ '7'

def isBinaryDigit (character : Char) : Bool := character = '0' || character = '1'

/-- Digits with at most one underscore between two of them. -/
def isDigitRun (isDigit : Char → Bool) : List Char → Bool
  | [] => false
  | [last] => isDigit last
  | first :: '_' :: rest => isDigit first && isDigitRun isDigit rest
  | first :: rest => isDigit first && isDigitRun isDigit rest

def digitValue (character : Char) : Nat :=
  if character.isDigit then character.toNat - '0'.toNat
  else if 'a' ≤ character then character.toNat - 'a'.toNat + 10
  else character.toNat - 'A'.toNat + 10

/-- The value of digits; underscores do not count. -/
def valueIn (base : Nat) (digits : List Char) : Nat :=
  (digits.filter (· ≠ '_')).foldl (fun sum digit => sum * base + digitValue digit) 0

def unsigned : List Char → List Char
  | '+' :: rest => rest
  | '-' :: rest => rest
  | characters => characters

/-- A decimal integer does not begin with a zero unless it is one. -/
def isDecimal (characters : List Char) : Bool :=
  match unsigned characters with
  | ['0'] => true
  | '0' :: _ => false
  | digits => isDigitRun Char.isDigit digits

/-- Integers fit into 64 bits. -/
def fits (value : Int) : Option Toml :=
  if -0x8000000000000000 ≤ value ∧ value < 0x8000000000000000 then some (.integer value)
  else none

def basedInteger? (isDigit : Char → Bool) (base : Nat) (digits : List Char) : Option Toml :=
  if isDigitRun isDigit digits then fits (valueIn base digits) else none

def integer? : List Char → Option Toml
  | '0' :: 'x' :: digits => basedInteger? isHexDigit 16 digits
  | '0' :: 'o' :: digits => basedInteger? isOctalDigit 8 digits
  | '0' :: 'b' :: digits => basedInteger? isBinaryDigit 2 digits
  | characters =>
    if isDecimal characters then
      let value : Int := valueIn 10 (unsigned characters)
      fits (if characters.head? = some '-' then -value else value)
    else none

/-- The characters before the first of a class, and those behind it if there is one. -/
def splitAt? (belongs : Char → Bool) (characters : List Char) : List Char × Option (List Char) :=
  match characters.dropWhile (!belongs ·) with
  | [] => (characters, none)
  | _ :: behind => (characters.takeWhile (!belongs ·), some behind)

def isPoint (character : Char) : Bool := character = '.'

def isPowerMark (character : Char) : Bool := character = 'e' || character = 'E'

/-- No double is as large as ten to this power. -/
def powerBeyondDoubles : Int := 310

/-- Whether a decimal is too large for a double. -/
def isBeyondDoubles (digits : Nat) (power : Int) : Bool :=
  let leading : Int := power + (Nat.repr digits).length
  if digits = 0 ∨ leading < 300 then false
  else if powerBeyondDoubles ≤ leading then true
  else
    (Binary64.ofRatio (digits * powerOfTen power.toNat) (powerOfTen (-power).toNat)).isNone

/-- A fraction or an exponent makes a float; only a positive one must not be too large. -/
def float? (characters : List Char) : Option Toml :=
  let (mantissa, power) := splitAt? isPowerMark characters
  let (whole, fraction) := splitAt? isPoint mantissa
  let isNumber :=
    isDecimal whole && fraction.all (isDigitRun Char.isDigit) &&
      power.all (fun power => isDigitRun Char.isDigit (unsigned power)) &&
      (fraction.isSome || power.isSome)
  let powerDigits := power.getD ['0']
  let magnitude : Int := valueIn 10 (unsigned powerDigits)
  let exponent : Int := if powerDigits.head? = some '-' then -magnitude else magnitude
  let fractionDigits := (fraction.getD []).filter (· ≠ '_')
  let digits := valueIn 10 (unsigned whole ++ fractionDigits)
  let tooLarge :=
    characters.head? ≠ some '-' && isBeyondDoubles digits (exponent - fractionDigits.length)
  if isNumber && !tooLarge then some (.float (String.ofList characters)) else none

def specialFloat? (characters : List Char) : Option Toml :=
  let name := unsigned characters
  if name = "inf".toList ∨ name = "nan".toList then some (.float (String.ofList characters))
  else none

/-- A number with a fixed count of digits that lies between two bounds. -/
def field? (count low high : Nat) (characters : List Char) : Option (Nat × List Char) :=
  let digits := characters.take count
  let value := valueIn 10 digits
  if digits.length = count ∧ digits.all Char.isDigit ∧ low ≤ value ∧ value ≤ high then
    some (value, characters.drop count)
  else none

def mark? (mark : Char) : List Char → Option (List Char)
  | character :: rest => if character = mark then some rest else none
  | [] => none

def daysIn (year month : Nat) : Nat :=
  let isLeap := year % 4 = 0 ∧ (year % 100 ≠ 0 ∨ year % 400 = 0)
  if month = 2 then (if isLeap then 29 else 28)
  else if month = 4 ∨ month = 6 ∨ month = 9 ∨ month = 11 then 30
  else 31

/-- A date leaves what stands behind it. -/
def date? (characters : List Char) : Option (List Char) := do
  let (year, rest) ← field? 4 0 9999 characters
  let (month, rest) ← field? 2 1 12 (← mark? '-' rest)
  let (day, rest) ← field? 2 1 31 (← mark? '-' rest)
  if day ≤ daysIn year month then some rest else none

/-- A fraction of a second has digits. -/
def secondFraction? : List Char → Option (List Char)
  | '.' :: rest =>
    if rest.head?.any Char.isDigit then some (rest.dropWhile Char.isDigit) else none
  | rest => some rest

/-- A time leaves what stands behind it; there may be a leap second. -/
def time? (characters : List Char) : Option (List Char) := do
  let (_, rest) ← field? 2 0 23 characters
  let (_, rest) ← field? 2 0 59 (← mark? ':' rest)
  let (_, rest) ← field? 2 0 60 (← mark? ':' rest)
  secondFraction? rest

def isOffset : List Char → Bool
  | ['Z'] => true
  | ['z'] => true
  | sign :: rest =>
    (sign = '+' || sign = '-') &&
      ((do
        let (_, rest) ← field? 2 0 23 rest
        let (_, rest) ← field? 2 0 59 (← mark? ':' rest)
        return rest.isEmpty) == some true)
  | [] => false

/-- A time, behind a date also with an offset. -/
def isTime (offset : Bool) (characters : List Char) : Bool :=
  match time? characters with
  | none => false
  | some rest => rest.isEmpty || (offset && isOffset rest)

def isDate (characters : List Char) : Bool := date? characters = some []

def datetime? (characters : List Char) : Option Toml :=
  let spelled := some (.datetime (String.ofList characters))
  match date? characters with
  | some [] => spelled
  | some (mark :: rest) =>
    if (mark = 'T' || mark = 't' || mark = ' ') && isTime true rest then spelled else none
  | none => if isTime false characters then spelled else none

/-- A scalar that begins with a digit or a sign. -/
def scalar? (characters : List Char) : Option Toml :=
  (datetime? characters).or ((float? characters).or
    ((integer? characters).or (specialFloat? characters)))

end SchemaTypes.Toml
