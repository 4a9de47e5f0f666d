/-
This file cuts texts at a separator and moves the lines of a text to the right.
-/

namespace SchemaTypes.Text

/-- The pieces of a text between its separators, one more than there are separators. -/
def pieces (separator : Char) (text : String) : List String :=
  (text.toList.splitOn separator).map String.ofList

def lines (text : String) : List String := pieces '\n' text

/-- Nested text stands two columns further right than the text around it. -/
def indentation : String := "  "

def indentChar (character : Char) : List Char :=
  if character = '\n' then '\n' :: indentation.toList else [character]

/-- Every line but the first moves right by one indentation. -/
def indentRest (text : String) : String :=
  String.ofList (text.toList.flatMap indentChar)

/-- Whether a part occurs anywhere in a text. -/
def occurs (part : List Char) : List Char → Bool
  | [] => part.isEmpty
  | character :: rest => part.isPrefixOf (character :: rest) || occurs part rest

end SchemaTypes.Text
