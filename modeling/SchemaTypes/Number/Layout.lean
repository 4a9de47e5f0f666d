/-
This file writes doubles as decimal text.
-/
import SchemaTypes.Number.Shortest

namespace SchemaTypes

/-- What a format decides about the text of a double beyond its digits. -/
structure NumberLayout where
  /-- The least power of ten of a first digit that is written without an exponent. -/
  least : Int
  /-- The greatest such power. -/
  greatest : Int
deriving DecidableEq, Repr

namespace NumberLayout

def zeros (count : Nat) : String := String.ofList (List.replicate count '0')

/-- Digits before and after the point, at least one on each side. -/
def positionalText (number : Decimal) : String :=
  let digits := number.digitText
  if 0 ≤ number.exponent then digits ++ zeros number.exponent.toNat ++ ".0"
  else
    let places := (-number.exponent).toNat
    if places < digits.length then
      let whole := digits.length - places
      String.ofList (digits.toList.take whole) ++ "." ++ String.ofList (digits.toList.drop whole)
    else "0." ++ zeros (places - digits.length) ++ digits

/-- One digit, the point and the others if there are any, and a signed power of ten. -/
def scientificText (number : Decimal) : String :=
  let digits := number.digitText.toList
  let fraction := digits.drop 1
  let mantissa := digits.take 1 ++ if fraction.isEmpty then [] else '.' :: fraction
  let power := number.leadingExponent
  let sign := if 0 ≤ power then "e+" else "e-"
  String.ofList mantissa ++ sign ++ Nat.repr power.natAbs

def isPositional (layout : NumberLayout) (number : Decimal) : Bool :=
  layout.least ≤ number.leadingExponent ∧ number.leadingExponent ≤ layout.greatest

def text (layout : NumberLayout) (number : Binary64) : String :=
  let decimal := number.shortest
  let magnitude :=
    if layout.isPositional decimal then positionalText decimal else scientificText decimal
  if number.negative then "-" ++ magnitude else magnitude

end NumberLayout
end SchemaTypes
