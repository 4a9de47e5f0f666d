/-
This file turns the names of schemas into the names of types.
-/
import SchemaTypes.Unicode.Character

namespace SchemaTypes.Identifier

open Unicode

/-- A collected run of characters is a word unless it is empty; it is collected in reverse. -/
def word? (reversed : List Char) : List (List Char) :=
  if reversed.isEmpty then [] else [reversed.reverse]

/-- A word begins at a capital after a small letter, at a letter after an ASCII digit, and at the
last capital of a run of capitals before a small letter. -/
def startsWord (previous current : Char) (next : Option Char) : Bool :=
  (isLowercase previous && isUppercase current) ||
    ((isAscii previous && previous.isDigit) && isAlphabetic current) ||
    (isUppercase previous && isUppercase current && next.any isLowercase)

/-- Characters that are neither letters nor digits separate words. -/
def wordsFrom (reversed : List Char) : List Char → List (List Char)
  | [] => word? reversed
  | current :: rest =>
    if !isAlphanumeric current then word? reversed ++ wordsFrom [] rest
    else if reversed.head?.any (startsWord · current rest.head?) then
      word? reversed ++ wordsFrom [current] rest
    else wordsFrom (current :: reversed) rest

def words (name : List Char) : List (List Char) := wordsFrom [] name

def isSingleLetter : List Char → Bool
  | [letter] => isAlphabetic letter
  | _ => false

def letters? (letters : List Char) : List (List Char) :=
  if letters.isEmpty then [] else [letters]

/-- A run of words of one letter reads as one word. -/
def mergeFrom (letters : List Char) : List (List Char) → List (List Char)
  | [] => letters? letters
  | word :: rest =>
    if isSingleLetter word then mergeFrom (letters ++ word) rest
    else letters? letters ++ word :: mergeFrom [] rest

def mergeLetters (words : List (List Char)) : List (List Char) := mergeFrom [] words

def capitalize (word : List Char) : List Char :=
  match lower word with
  | [] => []
  | first :: rest => upperChar first ++ rest

/-- The words of a name, capitalized and joined. -/
def ofName (name : String) : String :=
  String.ofList ((mergeLetters (words name.toList)).flatMap capitalize)

end SchemaTypes.Identifier
