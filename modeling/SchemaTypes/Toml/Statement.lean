/-
This file reads the values and statements of TOML documents.
-/
import SchemaTypes.Toml.Assignment
import SchemaTypes.Toml.Text

namespace SchemaTypes.Toml

namespace Reader

def isScalarChar (character : Char) : Bool :=
  character.isAlphanum || character = '+' || character = '-' || character = '_' ||
    character = '.' || character = ':'

/-- A date may be followed by a blank and a time. -/
def scalar : Reader Toml := do
  let first ← takeWhile isScalarChar
  let behind ← get
  let later := (behind.drop 1).takeWhile isScalarChar
  if isDate first && behind.head? = some ' ' && isTime true later then
    drop (1 + later.length)
    (datetime? (first ++ ' ' :: later)).elim failure pure
  else (scalar? first).elim failure pure

def word (text : String) (value : Toml) : Reader Toml := do
  expect text
  return value

mutual

/-- Of two calls in a row one consumes a character, so twice the length of a text is enough fuel. -/
def value (depth : Nat) : Nat → Reader Toml
  | 0 => failure
  | fuel + 1 => do
    if ← tryText "\"\"\"" then return .string (String.ofList (← longText '"' true fuel))
    else if ← tryText "\"" then return .string (String.ofList (← basicRest fuel))
    else if ← tryText "'''" then return .string (String.ofList (← longText '\'' false fuel))
    else if ← tryText "'" then return .string (String.ofList (← literalText))
    else if ← tryText "[" then
      if nestingLimit ≤ depth + 1 then failure
      return .array (← items (depth + 1) fuel)
    else if ← tryText "\x7b" then
      if nestingLimit ≤ depth + 1 then failure
      blanks
      if ← tryText "\x7d" then return .table .inline []
      return .table .inline (← fields (depth + 1) [] fuel)
    else
      match ← peek with
      | some 't' => word "true" (.boolean true)
      | some 'f' => word "false" (.boolean false)
      | some _ => scalar
      | none => failure

def items (depth : Nat) : Nat → Reader (List Toml)
  | 0 => failure
  | fuel + 1 => do
    gap fuel
    if ← tryText "]" then return []
    let item ← value depth fuel
    gap fuel
    if ← tryText "," then return item :: (← items depth fuel)
    expect "]"
    return [item]

def fields (depth : Nat) (before : Table Toml) : Nat → Reader (Table Toml)
  | 0 => failure
  | fuel + 1 => do
    let parts ← key fuel
    expect "="
    blanks
    let field ← value depth fuel
    match assignKey parts field before with
    | none => failure
    | some after =>
      blanks
      if ← tryText "," then fields depth after fuel
      else
        expect "\x7d"
        return after

end

end Reader

inductive Statement where
  | assignment (key : List String) (value : Toml)
  | header (path : List String)
  | elementHeader (path : List String)

namespace Reader

/-- A line with a header or with a value under its key. -/
def statement (fuel : Nat) : Reader Statement := do
  if ← tryText "[[" then
    let path ← key fuel
    expect "]]"
    lineEnd
    return .elementHeader path
  else if ← tryText "[" then
    let path ← key fuel
    expect "]"
    lineEnd
    return .header path
  else
    let path ← key fuel
    expect "="
    blanks
    let assigned ← value 0 fuel
    lineEnd
    return .assignment path assigned

def statements : Nat → Reader (List Statement)
  | 0 => failure
  | fuel + 1 => do
    blanks
    match ← peek with
    | none => return []
    | some '#' | some '\n' | some '\r' =>
      lineEnd
      statements fuel
    | some _ =>
      let first ← statement fuel
      return first :: (← statements fuel)

/-- A mark of the byte order may stand at the beginning. -/
def document (fuel : Nat) : Reader (List Statement) := do
  let _ ← tryText "\uFEFF"
  statements fuel

end Reader
end SchemaTypes.Toml
