/-
This file quotes texts so that every character in them can be seen.
-/
import SchemaTypes.Unicode.Character

namespace SchemaTypes.Text

def codePointEscape (character : Char) : List Char :=
  "\\u\x7b".toList ++ Nat.toDigits 16 character.toNat ++ ['\x7d']

/-- A few characters have an escape of one letter, and unprintable ones show their code point. -/
def escapeChar (character : Char) : List Char :=
  match character with
  | '\x00' => ['\\', '0']
  | '\t' => ['\\', 't']
  | '\r' => ['\\', 'r']
  | '\n' => ['\\', 'n']
  | '"' => ['\\', '"']
  | '\\' => ['\\', '\\']
  | _ => if Unicode.isPrintable character then [character] else codePointEscape character

def escaped (text : String) : String :=
  String.ofList ('"' :: text.toList.flatMap escapeChar ++ ['"'])

end SchemaTypes.Text
