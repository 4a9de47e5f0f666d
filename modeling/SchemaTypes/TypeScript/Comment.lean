/-
This file writes descriptions as comments.
-/
import SchemaTypes.Text.Lines

namespace SchemaTypes.TypeScript

def commentOpening : String := "/**"

def commentClosing : String := " */"

/-- A description stands line by line between the lines that open and close the comment. -/
def commentLines (description : String) : List String :=
  commentOpening :: (Text.lines description).map (" * " ++ ·) ++ [commentClosing]

end SchemaTypes.TypeScript
