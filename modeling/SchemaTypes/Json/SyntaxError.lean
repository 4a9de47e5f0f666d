/-
This file says where and why a text is no JSON document.
-/

namespace SchemaTypes.Json

/-- Lines count from one; columns are the bytes of the line before a place. -/
structure Position where
  line : Nat
  column : Nat
deriving DecidableEq, Repr

namespace Position

def start : Position := ⟨1, 0⟩

def afterBytes (count : Nat) (position : Position) (character : Char) : Position :=
  if character = '\n' then ⟨position.line + 1, 0⟩
  else ⟨position.line, position.column + min count character.utf8Size⟩

def afterChar (position : Position) (character : Char) : Position :=
  position.afterBytes character.utf8Size character

/-- The place behind a number of bytes, which may end inside a character. -/
def skip : Nat → Position → List Char → Position
  | _, position, [] => position
  | 0, position, _ => position
  | count + 1, position, character :: rest =>
    skip (count + 1 - character.utf8Size) (position.afterBytes (count + 1) character) rest

end Position

inductive Fault where
  | endInValue
  | endInList
  | endInObject
  | endInString
  | expectedValue
  | expectedIdent
  | expectedColon
  | expectedListCommaOrEnd
  | expectedObjectCommaOrEnd
  | trailingComma
  | trailingCharacters
  | keyNotText
  | recursionLimit
  | invalidNumber
  | numberOutOfRange
  | invalidEscape
  | controlCharacter
  | loneSurrogate
  | unpairedSurrogate
deriving DecidableEq, Repr

def Fault.text : Fault → String
  | .endInValue => "EOF while parsing a value"
  | .endInList => "EOF while parsing a list"
  | .endInObject => "EOF while parsing an object"
  | .endInString => "EOF while parsing a string"
  | .expectedValue => "expected value"
  | .expectedIdent => "expected ident"
  | .expectedColon => "expected `:`"
  | .expectedListCommaOrEnd => "expected `,` or `]`"
  | .expectedObjectCommaOrEnd => "expected `,` or `\x7d`"
  | .trailingComma => "trailing comma"
  | .trailingCharacters => "trailing characters"
  | .keyNotText => "key must be a string"
  | .recursionLimit => "recursion limit exceeded"
  | .invalidNumber => "invalid number"
  | .numberOutOfRange => "number out of range"
  | .invalidEscape => "invalid escape"
  | .controlCharacter => "control character (\\u0000-\\u001F) found while parsing a string"
  | .loneSurrogate => "lone leading surrogate in hex escape"
  | .unpairedSurrogate => "unexpected end of hex escape"

structure SyntaxError where
  fault : Fault
  position : Position
deriving DecidableEq, Repr

def SyntaxError.message (error : SyntaxError) : String :=
  error.fault.text ++ " at line " ++ Nat.repr error.position.line ++
    " column " ++ Nat.repr error.position.column

end SchemaTypes.Json
