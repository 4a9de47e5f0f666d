/-
This file writes JSON values without blanks.
-/
import SchemaTypes.Json.Value

namespace SchemaTypes.Json

/-- A double is written in full while its first digit stands between `10 ^ -5` and `10 ^ 15`. -/
def numberLayout : NumberLayout := ⟨-5, 15⟩

def Number.text : Number → String
  | .integer value => toString value
  | .float value => numberLayout.text value

def hexDigit (value : Nat) : Char := Nat.digitChar value

/-- Quotes, backslashes and control characters are escaped, by a letter if they have one. -/
def escapeChar (character : Char) : List Char :=
  match character with
  | '"' => ['\\', '"']
  | '\\' => ['\\', '\\']
  | '\x08' => ['\\', 'b']
  | '\x0c' => ['\\', 'f']
  | '\n' => ['\\', 'n']
  | '\r' => ['\\', 'r']
  | '\t' => ['\\', 't']
  | _ =>
    if character.toNat < 32 then
      ['\\', 'u', '0', '0', hexDigit (character.toNat / 16), hexDigit (character.toNat % 16)]
    else [character]

def quote (text : String) : String :=
  String.ofList ('"' :: text.toList.flatMap escapeChar ++ ['"'])

mutual

def compact : Json → String
  | .null => "null"
  | .bool true => "true"
  | .bool false => "false"
  | .number value => value.text
  | .string text => quote text
  | .array items => "[" ++ String.intercalate "," (compactItems items) ++ "]"
  | .object fields => "\x7b" ++ String.intercalate "," (compactFields fields) ++ "\x7d"

def compactItems : List Json → List String
  | [] => []
  | item :: items => item.compact :: compactItems items

def compactFields : List (String × Json) → List String
  | [] => []
  | (key, value) :: fields => (quote key ++ ":" ++ value.compact) :: compactFields fields

end

end SchemaTypes.Json
