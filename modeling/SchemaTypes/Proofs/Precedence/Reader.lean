/-
This file reads types back from their text: brackets bind tighter than `&`, `&` binds tighter than
`|`, and parentheses group. Main statement: the tokens on one side of an operator do not depend on
the other side.
-/
import SchemaTypes.TypeScript.Type
import Mathlib.Data.List.ModifyLast

namespace SchemaTypes.TypeScript

inductive Token where
  | word (letters : String)
  | bar
  | ampersand
  | opening
  | closing
  | openingBracket
  | closingBracket
  | other (character : Char)
deriving DecidableEq, Repr

/-- A space is no token. -/
def Token.ofChar : Char → List Token
  | ' ' => []
  | '|' => [.bar]
  | '&' => [.ampersand]
  | '(' => [.opening]
  | ')' => [.closing]
  | '[' => [.openingBracket]
  | ']' => [.closingBracket]
  | character => [.other character]

/-- The word whose letters have been met, the last one first. -/
def Token.ofLetters : List Char → List Token
  | [] => []
  | letters => [.word (String.ofList letters.reverse)]

def tokensFrom : List Char → List Char → List Token
  | letters, [] => Token.ofLetters letters
  | letters, character :: rest =>
    if character.isAlpha then tokensFrom (character :: letters) rest
    else Token.ofLetters letters ++ Token.ofChar character ++ tokensFrom [] rest

def tokens (text : String) : List Token := tokensFrom [] text.toList

/-- The operators that a type is put together with. -/
inductive Connective where
  | union
  | intersection
deriving DecidableEq, Repr

namespace Connective

def type : Connective → List TypeExpr → TypeExpr
  | .union => .union
  | .intersection => .intersection

/-- A member that is alone stands for itself. -/
def of (connective : Connective) : List TypeExpr → TypeExpr
  | [member] => member
  | members => connective.type members

end Connective

/-- The alternatives of a text without outer parentheses, each with its factors. -/
abbrev Products : Type := List (List TypeExpr)

namespace Products

def type (products : Products) : TypeExpr :=
  Connective.union.of (products.map Connective.intersection.of)

/-- The first product of the second text goes on with the factors of the last one of the first. -/
def join : Products → Products → Products
  | [], later => later
  | [factors], [] => [factors]
  | [factors], next :: later => (factors ++ next) :: later
  | factors :: product :: products, later => factors :: join (product :: products) later

/-- The last factor becomes an array of what it was. -/
def bracketed (products : Products) : Products :=
  List.modifyLast (List.modifyLast .array) products

end Products

inductive Expecting where
  | operand
  | operator
  | closingBracket
deriving DecidableEq, Repr

/-- What has been read: the groups whose parentheses are open, the inmost first, and the present
one. -/
structure Reader where
  outer : List Products
  group : Products
  expecting : Expecting

def Keyword.all : List Keyword :=
  [.any, .primitive .string, .primitive .number, .primitive .boolean, .primitive .null,
    .primitive .object]

namespace Reader

def start : Reader := ⟨[], [[]], .operand⟩

def step (reader : Reader) (token : Token) : Option Reader :=
  match reader.expecting, token with
  | .operand, .word letters =>
    (Keyword.all.find? (·.text = letters)).map fun word =>
      ⟨reader.outer, reader.group.join [[.keyword word]], .operator⟩
  | .operand, .opening => some ⟨reader.group :: reader.outer, [[]], .operand⟩
  | .operator, .bar => some ⟨reader.outer, reader.group ++ [[]], .operand⟩
  | .operator, .ampersand => some ⟨reader.outer, reader.group, .operand⟩
  | .operator, .openingBracket => some ⟨reader.outer, reader.group, .closingBracket⟩
  | .closingBracket, .closingBracket => some ⟨reader.outer, reader.group.bracketed, .operator⟩
  | .operator, .closing =>
    match reader.outer with
    | [] => none
    | around :: outer => some ⟨outer, around.join [[reader.group.type]], .operator⟩
  | _, _ => none

def run (reader : Reader) (tokens : List Token) : Option Reader := tokens.foldlM step reader

/-- A text ends after an operand that no parenthesis is open around. -/
def result? : Reader → Option TypeExpr
  | ⟨[], group, .operator⟩ => some group.type
  | _ => none

end Reader

/-- The type that a text of keywords, operators, brackets and parentheses stands for. -/
def read? (text : String) : Option TypeExpr := (Reader.start.run (tokens text)).bind Reader.result?

/-- Where there is no letter, a text is cut into tokens side by side. -/
theorem tokensFrom_append {separator : Char} (noLetter : separator.isAlpha = false)
    (letters before after : List Char) :
    tokensFrom letters (before ++ separator :: after) =
      tokensFrom letters before ++ Token.ofChar separator ++ tokensFrom [] after := by
  induction before generalizing letters with
  | nil => simp [tokensFrom, noLetter]
  | cons character before inductionHypothesis =>
      simp only [List.cons_append, tokensFrom]
      split
      · exact inductionHypothesis _
      · rw [inductionHypothesis]
        simp only [List.append_assoc]

/-- The sides of a bar are cut into tokens on their own. -/
theorem tokens_or (before after : String) :
    tokens (before ++ " | " ++ after) = tokens before ++ .bar :: tokens after := by
  have split := tokensFrom_append (show (' ').isAlpha = false from rfl) [] before.toList
    ('|' :: ' ' :: after.toList)
  simpa [tokens, tokensFrom, Token.ofChar, Token.ofLetters] using split

/-- The sides of an ampersand are cut into tokens on their own. -/
theorem tokens_and (before after : String) :
    tokens (before ++ " & " ++ after) = tokens before ++ .ampersand :: tokens after := by
  have split := tokensFrom_append (show (' ').isAlpha = false from rfl) [] before.toList
    ('&' :: ' ' :: after.toList)
  simpa [tokens, tokensFrom, Token.ofChar, Token.ofLetters] using split

/-- Brackets are tokens of their own. -/
theorem tokens_brackets (text : String) :
    tokens (text ++ "[]") = tokens text ++ [.openingBracket, .closingBracket] := by
  have split := tokensFrom_append (show ('[').isAlpha = false from rfl) [] text.toList [']']
  simpa [tokens, tokensFrom, Token.ofChar, Token.ofLetters] using split

/-- Parentheses are tokens of their own. -/
theorem tokens_parentheses (text : String) :
    tokens ("(" ++ text ++ ")") = .opening :: tokens text ++ [.closing] := by
  have split := tokensFrom_append (show (')').isAlpha = false from rfl) [] text.toList []
  simpa [tokens, tokensFrom, Token.ofChar, Token.ofLetters] using split

end SchemaTypes.TypeScript
