/-
This file reads the characters of TOML documents.
-/

namespace SchemaTypes.Toml

/-- A reader consumes characters or refuses the text. -/
abbrev Reader (α : Type) := StateT (List Char) Option α

namespace Reader

def peek : Reader (Option Char) := fun rest => some (rest.head?, rest)

def drop (count : Nat) : Reader Unit := fun rest => some ((), rest.drop count)

/-- Consumes a text if it comes next. -/
def tryText (text : String) : Reader Bool := fun rest =>
  if text.toList.isPrefixOf rest then some (true, rest.drop text.length) else some (false, rest)

def expect (text : String) : Reader Unit := do
  if !(← tryText text) then failure

def takeWhile (belongs : Char → Bool) : Reader (List Char) := fun rest =>
  some (rest.takeWhile belongs, rest.dropWhile belongs)

def isBlank (character : Char) : Bool := character = ' ' || character = '\t'

def blanks : Reader Unit := do
  let _ ← takeWhile isBlank

def tryNewline : Reader Bool := do
  if ← tryText "\n" then return true else tryText "\r\n"

/-- Of the control characters only the tab may stand in texts. -/
def isVisible (character : Char) : Bool :=
  character = '\t' || (32 ≤ character.toNat && character.toNat ≠ 127)

def tryComment : Reader Unit := do
  if ← tryText "#" then
    let _ ← takeWhile isVisible

/-- The rest of a line holds nothing but blanks and a comment. -/
def lineEnd : Reader Unit := do
  blanks
  tryComment
  if (← peek).isSome && !(← tryNewline) then failure

/-- Blanks, comments and line ends; every round consumes a character. -/
def gap : Nat → Reader Unit
  | 0 => return ()
  | fuel + 1 => do
    match ← peek with
    | some '#' =>
      lineEnd
      gap fuel
    | some ' ' | some '\t' =>
      blanks
      gap fuel
    | some '\n' | some '\r' => if ← tryNewline then gap fuel else failure
    | _ => return ()

end Reader
end SchemaTypes.Toml
