/-
This file reads the texts and keys of TOML documents.
-/
import SchemaTypes.Toml.Reader
import SchemaTypes.Toml.Scalar

namespace SchemaTypes.Toml.Reader

def scalarValue (code : Nat) : Reader Char :=
  if code.isValidChar then return Char.ofNat code else failure

def codePoint (count : Nat) : Reader Char := fun rest =>
  let digits := rest.take count
  if digits.length = count ∧ digits.all isHexDigit then
    scalarValue (valueIn 16 digits) (rest.drop count)
  else none

/-- The character behind a backslash. -/
def escape : Reader Char := do
  let letter ← peek
  drop 1
  match letter with
  | some 'b' => return '\x08'
  | some 't' => return '\t'
  | some 'n' => return '\n'
  | some 'f' => return '\x0c'
  | some 'r' => return '\r'
  | some '"' => return '"'
  | some '\\' => return '\\'
  | some 'u' => codePoint 4
  | some 'U' => codePoint 8
  | _ => failure

/-- What stands between the quotes of a text on one line, and the closing quote. -/
def basicRest : Nat → Reader (List Char)
  | 0 => failure
  | fuel + 1 => do
    match ← peek with
    | none => failure
    | some '"' =>
      drop 1
      return []
    | some '\\' =>
      drop 1
      let character ← escape
      return character :: (← basicRest fuel)
    | some character =>
      if !isVisible character then failure
      drop 1
      return character :: (← basicRest fuel)

def literalText : Reader (List Char) := do
  let text ← takeWhile fun character => isVisible character && character ≠ '\''
  expect "'"
  return text

/-- Up to two quotes before the closing ones belong to the text. -/
def closingQuotes (count : Nat) : Option Nat :=
  if 3 ≤ count ∧ count ≤ 5 then some (count - 3) else none

/-- The characters behind all blanks and line ends. -/
def behindBlankLines : Nat → List Char → List Char
  | fuel + 1, '\r' :: '\n' :: characters => behindBlankLines fuel characters
  | fuel + 1, character :: characters =>
    if isBlank character || character = '\n' then behindBlankLines fuel characters
    else character :: characters
  | _, characters => characters

/-- Behind a backslash at the end of a line all blanks and line ends are skipped. -/
def tryJoinedLine : Reader Bool := fun rest =>
  match ((do blanks; tryNewline) : Reader Bool).run (rest.drop 1) with
  | some (true, behind) => some (true, behindBlankLines behind.length behind)
  | _ => some (false, rest)

/-- What stands between tripled quotes, and the closing quotes. -/
def longRest (quote : Char) (escapes : Bool) : Nat → Reader (List Char)
  | 0 => failure
  | fuel + 1 => do
    match ← peek with
    | none => failure
    | some character =>
      if character = quote then
        let run ← takeWhile (· = quote)
        if run.length < 3 then return run ++ (← longRest quote escapes fuel)
        else
          match closingQuotes run.length with
          | some count => return List.replicate count quote
          | none => failure
      else if escapes && character = '\\' then
        if ← tryJoinedLine then longRest quote escapes fuel
        else
          drop 1
          let character ← escape
          return character :: (← longRest quote escapes fuel)
      else if ← tryNewline then return '\n' :: (← longRest quote escapes fuel)
      else if !isVisible character then failure
      else
        drop 1
        return character :: (← longRest quote escapes fuel)

def longText (quote : Char) (escapes : Bool) (fuel : Nat) : Reader (List Char) := do
  let _ ← tryNewline
  longRest quote escapes fuel

def isBareKeyChar (character : Char) : Bool :=
  character.isAlphanum || character = '-' || character = '_'

def simpleKey (fuel : Nat) : Reader String := do
  if ← tryText "\"" then return String.ofList (← basicRest fuel)
  else if ← tryText "'" then return String.ofList (← literalText)
  else
    let key ← takeWhile isBareKeyChar
    if key.isEmpty then failure else return String.ofList key

/-- The parts of a dotted key with the blanks around them. -/
def keyParts : Nat → Reader (List String)
  | 0 => failure
  | fuel + 1 => do
    blanks
    let part ← simpleKey fuel
    blanks
    if ← tryText "." then return part :: (← keyParts fuel) else return [part]

/-- Keys with as many parts are refused, and so are values nested as deeply. -/
def nestingLimit : Nat := 80

def key (fuel : Nat) : Reader (List String) := do
  let parts ← keyParts fuel
  if nestingLimit ≤ parts.length then failure else return parts

end SchemaTypes.Toml.Reader
