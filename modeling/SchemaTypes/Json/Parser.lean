/-
This file reads JSON documents.
-/
import SchemaTypes.Json.Literal
import SchemaTypes.Table

namespace SchemaTypes.Json
namespace Reader

def hexValue? (character : Char) : Option Nat :=
  if character.isDigit then some (character.toNat - '0'.toNat)
  else if 'a' ≤ character ∧ character ≤ 'f' then some (character.toNat - 'a'.toNat + 10)
  else if 'A' ≤ character ∧ character ≤ 'F' then some (character.toNat - 'A'.toNat + 10)
  else none

/-- The text is too short if fewer than four bytes are left, whatever they are. -/
def hexUnit : Reader Nat := fun cursor =>
  let bytes := (cursor.rest.take 4).foldl (fun sum character => sum + character.utf8Size) 0
  if bytes < 4 then .error ⟨.endInString, cursor.position.skip bytes cursor.rest⟩
  else
    match cursor.rest with
    | a :: b :: c :: d :: rest =>
      match hexValue? a, hexValue? b, hexValue? c, hexValue? d with
      | some a, some b, some c, some d =>
        .ok (((a * 16 + b) * 16 + c) * 16 + d, ⟨rest, cursor.position.skip 4 cursor.rest⟩)
      | _, _, _, _ => .error ⟨.invalidEscape, cursor.position.skip 4 cursor.rest⟩
    | _ => .error ⟨.invalidEscape, cursor.position.skip 4 cursor.rest⟩

def isHighSurrogate (unit : Nat) : Bool := 0xD800 ≤ unit && unit ≤ 0xDBFF

def isLowSurrogate (unit : Nat) : Bool := 0xDC00 ≤ unit && unit ≤ 0xDFFF

/-- A character beyond sixteen bits is a high surrogate followed by a low one. -/
def unicodeEscape : Reader Char := do
  let unit ← hexUnit
  if isLowSurrogate unit then failHere .loneSurrogate
  else if isHighSurrogate unit then
    expectChar '\\' .endInString .unpairedSurrogate
    expectChar 'u' .endInString .unpairedSurrogate
    let low ← hexUnit
    if isLowSurrogate low then
      return Char.ofNat (0x10000 + (unit - 0xD800) * 0x400 + (low - 0xDC00))
    else failHere .loneSurrogate
  else return Char.ofNat unit

def letterEscape? : Char → Option Char
  | '"' => some '"'
  | '\\' => some '\\'
  | '/' => some '/'
  | 'b' => some '\x08'
  | 'f' => some '\x0c'
  | 'n' => some '\n'
  | 'r' => some '\r'
  | 't' => some '\t'
  | _ => none

def escape : Reader Char := do
  match ← peek with
  | none => failHere .endInString
  | some 'u' =>
    skipChar
    unicodeEscape
  | some letter =>
    match letterEscape? letter with
    | some character =>
      skipChar
      return character
    | none => failNext .invalidEscape

/-- The characters up to the closing quote; every step consumes one of the text's characters. -/
def stringRest : Nat → Reader (List Char)
  | 0 => failHere .endInString
  | fuel + 1 => do
    match ← peek with
    | none => failHere .endInString
    | some '"' =>
      skipChar
      return []
    | some '\\' =>
      skipChar
      let character ← escape
      return character :: (← stringRest fuel)
    | some character =>
      if character.toNat < 32 then failNext .controlCharacter
      else
        skipChar
        return character :: (← stringRest fuel)

def stringBody (fuel : Nat) : Reader String := do
  skipChar
  return String.ofList (← stringRest fuel)

/-- The bracket of this depth is refused. -/
def depthLimit : Nat := 128

/-- Whether another element follows, after the comma that has to stand before it. -/
def moreItems (first : Bool) : Reader Bool := do
  match ← peekSolid with
  | none => failNext .endInList
  | some ']' => return false
  | some ',' =>
    if first then return true
    skipChar
    match ← peekSolid with
    | none => failNext .endInValue
    | some ']' => failNext .trailingComma
    | some _ => return true
  | some _ => if first then return true else failNext .expectedListCommaOrEnd

/-- Whether another field follows; its key begins at the cursor. -/
def moreFields (first : Bool) : Reader Bool := do
  match ← peekSolid with
  | none => failNext .endInObject
  | some '\x7d' => return false
  | some ',' =>
    if first then failNext .keyNotText
    skipChar
    match ← peekSolid with
    | none => failNext .endInValue
    | some '"' => return true
    | some '\x7d' => failNext .trailingComma
    | some _ => failNext .keyNotText
  | some character =>
    if !first then failNext .expectedObjectCommaOrEnd
    else if character = '"' then return true
    else failNext .keyNotText

def colon : Reader Unit := do
  match ← peekSolid with
  | none => failNext .endInObject
  | some ':' => skipChar
  | some _ => failNext .expectedColon

mutual

/-- Of two calls in a row one consumes a character, so twice the length of a text is enough fuel. -/
def value (depth : Nat) : Nat → Reader Json
  | 0 => failNext .endInValue
  | fuel + 1 => do
    match ← peekSolid with
    | none => failNext .endInValue
    | some 'n' =>
      skipChar
      expectWord .endInValue .expectedIdent ['u', 'l', 'l']
      return .null
    | some 't' =>
      skipChar
      expectWord .endInValue .expectedIdent ['r', 'u', 'e']
      return .bool true
    | some 'f' =>
      skipChar
      expectWord .endInValue .expectedIdent ['a', 'l', 's', 'e']
      return .bool false
    | some '"' => return .string (← stringBody fuel)
    | some '[' =>
      if depthLimit ≤ depth + 1 then failNext .recursionLimit
      skipChar
      return .array (← items (depth + 1) true fuel)
    | some '\x7b' =>
      if depthLimit ≤ depth + 1 then failNext .recursionLimit
      skipChar
      return .object (← fields (depth + 1) true [] fuel)
    | some character =>
      if character = '-' || character.isDigit then number else failNext .expectedValue

def items (depth : Nat) (first : Bool) : Nat → Reader (List Json)
  | 0 => failNext .endInList
  | fuel + 1 => do
    if ← moreItems first then
      let item ← value depth fuel
      return item :: (← items depth false fuel)
    else
      skipChar
      return []

def fields (depth : Nat) (first : Bool) (before : List (String × Json)) :
    Nat → Reader (List (String × Json))
  | 0 => failNext .endInObject
  | fuel + 1 => do
    if ← moreFields first then
      let key ← stringBody fuel
      colon
      let field ← value depth fuel
      fields depth false (Table.put key field before) fuel
    else
      skipChar
      return before

end

def document (fuel : Nat) : Reader Json := do
  let result ← value 0 fuel
  match ← peekSolid with
  | none => return result
  | some _ => failNext .trailingCharacters

end Reader

def parse (text : String) : Except SyntaxError Json :=
  let characters := text.toList
  (Reader.document (2 * characters.length + 2) ⟨characters, .start⟩).map Prod.fst

end SchemaTypes.Json
