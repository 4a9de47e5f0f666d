/-
This file reads characters one by one and keeps their place.
-/
import SchemaTypes.Json.SyntaxError

namespace SchemaTypes.Json

/-- The unread part of a text and its place. -/
structure Cursor where
  rest : List Char
  position : Position
deriving Repr

/-- A reader consumes characters or refuses the text. -/
abbrev Reader (α : Type) := StateT Cursor (Except SyntaxError) α

namespace Reader

/-- The fault lies behind the characters read so far. -/
def failHere {α : Type} (fault : Fault) : Reader α := fun cursor =>
  .error ⟨fault, cursor.position⟩

/-- The fault lies behind the first byte of the next character, if there is one. -/
def failNext {α : Type} (fault : Fault) : Reader α := fun cursor =>
  .error ⟨fault, cursor.position.skip 1 cursor.rest⟩

def peek : Reader (Option Char) := fun cursor => .ok (cursor.rest.head?, cursor)

def skipChar : Reader Unit := fun cursor =>
  match cursor.rest with
  | [] => .ok ((), cursor)
  | character :: rest => .ok ((), ⟨rest, cursor.position.afterChar character⟩)

/-- A place behind one byte of the character that is refused. -/
def expectChar (expected : Char) (atEnd otherwise : Fault) : Reader Unit := do
  match ← peek with
  | none => failHere atEnd
  | some character => if character = expected then skipChar else failNext otherwise

def expectWord (atEnd otherwise : Fault) : List Char → Reader Unit
  | [] => pure ()
  | character :: rest => do
    expectChar character atEnd otherwise
    expectWord atEnd otherwise rest

/-- The characters of a class up to the first other one. -/
def takeWhile (belongs : Char → Bool) : Reader (List Char) := fun cursor =>
  let taken := cursor.rest.takeWhile belongs
  .ok (taken, ⟨cursor.rest.dropWhile belongs, taken.foldl Position.afterChar cursor.position⟩)

def isBlank (character : Char) : Bool :=
  character = ' ' || character = '\t' || character = '\n' || character = '\r'

/-- The next character that is not blank. -/
def peekSolid : Reader (Option Char) := do
  let _ ← takeWhile isBlank
  peek

end Reader
end SchemaTypes.Json
