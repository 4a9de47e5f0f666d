/-
This file decides the classes of characters and changes their case.
-/
import SchemaTypes.Unicode.Alphabetic
import SchemaTypes.Unicode.CaseIgnorable
import SchemaTypes.Unicode.CaseMap
import SchemaTypes.Unicode.Cased
import SchemaTypes.Unicode.GraphemeExtend
import SchemaTypes.Unicode.Lowercase
import SchemaTypes.Unicode.Numeric
import SchemaTypes.Unicode.Unprintable
import SchemaTypes.Unicode.Uppercase

namespace SchemaTypes.Unicode

def inRanges (ranges : List (Nat × Nat)) (code : Nat) : Bool :=
  ranges.any fun range => range.1 ≤ code && code ≤ range.2

def inRuns (runs : List (Nat × Nat × Nat)) (code : Nat) : Bool :=
  runs.any fun (first, last, step) => first ≤ code && code ≤ last && (code - first) % step == 0

/-- The way of a code point along the run that it belongs to. -/
def offset? (runs : List (Nat × Nat × Nat × Int)) (code : Nat) : Option Int :=
  runs.findSome? fun (first, last, step, offset) =>
    if first ≤ code && code ≤ last && (code - first) % step == 0 then some offset else none

def isAscii (character : Char) : Bool := character.toNat < 128

/-- ASCII needs no table. -/
def isAlphabetic (character : Char) : Bool :=
  if isAscii character then character.isAlpha else inRanges alphabeticRanges character.toNat

def isNumeric (character : Char) : Bool :=
  if isAscii character then character.isDigit else inRanges numericRanges character.toNat

def isAlphanumeric (character : Char) : Bool :=
  isAlphabetic character || isNumeric character

def isLowercase (character : Char) : Bool :=
  if isAscii character then character.isLower else inRuns lowercaseRuns character.toNat

def isUppercase (character : Char) : Bool :=
  if isAscii character then character.isUpper else inRuns uppercaseRuns character.toNat

def isCased (character : Char) : Bool := inRanges casedRanges character.toNat

def isCaseIgnorable (character : Char) : Bool := inRanges caseIgnorableRanges character.toNat

/-- The case mapping of a character beyond ASCII, which may expand to several characters. -/
def mapped (expansions : List (Nat × List Nat)) (runs : List (Nat × Nat × Nat × Int))
    (character : Char) : List Char :=
  match expansions.lookup character.toNat with
  | some codes => codes.map Char.ofNat
  | none =>
    match offset? runs character.toNat with
    | some offset => [Char.ofNat (character.toNat + offset).toNat]
    | none => [character]

def lowerChar (character : Char) : List Char :=
  if isAscii character then [character.toLower] else mapped lowerExpansions lowerRuns character

def upperChar (character : Char) : List Char :=
  if isAscii character then [character.toUpper] else mapped upperExpansions upperRuns character

/-- Whether a cased character comes first once the case-ignorable ones are skipped. -/
def meetsCased (characters : List Char) : Bool :=
  (characters.dropWhile isCaseIgnorable).head?.any isCased

/-- A capital sigma ends a word if a cased character is before it and none is after it. -/
def lowerFrom (before : List Char) : List Char → List Char
  | [] => []
  | character :: rest =>
    let lowered :=
      if character = 'Σ' then [if meetsCased before && !meetsCased rest then 'ς' else 'σ']
      else lowerChar character
    lowered ++ lowerFrom (character :: before) rest

def lower (characters : List Char) : List Char := lowerFrom [] characters

/-- Characters that join the one before them have no form of their own. -/
def isPrintable (character : Char) : Bool :=
  if isAscii character then 32 ≤ character.toNat && character.toNat < 127
  else !inRanges unprintableRanges character.toNat && !inRanges graphemeExtendRanges character.toNat

end SchemaTypes.Unicode
