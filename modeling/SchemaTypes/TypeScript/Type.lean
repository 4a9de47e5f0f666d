/-
This file holds the types that stand in declarations and writes them.
-/
import SchemaTypes.Json.Printer
import SchemaTypes.Model
import SchemaTypes.TypeScript.Comment

namespace SchemaTypes.TypeScript

inductive Keyword where
  | any
  | primitive (kind : Primitive)
deriving DecidableEq, Repr

def Keyword.text : Keyword → String
  | .any => "any"
  | .primitive .string => "string"
  | .primitive .number => "number"
  | .primitive .boolean => "boolean"
  | .primitive .null => "null"
  | .primitive .object => "Object"

/-- What is written of a property before its type. -/
structure Label where
  name : String
  required : Bool
  description : Option String
deriving DecidableEq, Repr

inductive TypeExpr where
  | keyword (word : Keyword)
  | name (text : String)
  | literal (value : Json)
  | array (element : TypeExpr)
  | union (members : List TypeExpr)
  | intersection (members : List TypeExpr)
  | object (properties : List (Label × TypeExpr))
deriving Inhabited, Repr

def Label.comment (label : Label) : String :=
  match label.description with
  | none => ""
  | some description =>
    String.intercalate ("\n" ++ Text.indentation) (commentLines description) ++
      "\n" ++ Text.indentation

def Label.text (label : Label) : String :=
  Text.indentation ++ label.comment ++ label.name ++ if label.required then ": " else "?: "

/-- A text with an operator in it is put into parentheses. -/
def arrayText (element : String) : String :=
  if '|' ∈ element.toList ∨ '&' ∈ element.toList then "(" ++ element ++ ")[]"
  else element ++ "[]"

def objectText (properties : List String) : String :=
  "\x7b\n" ++ String.intercalate "\n" properties ++ "\n\x7d"

def propertyEnd (semicolons : Bool) : String := if semicolons then ";" else ""

mutual

def TypeExpr.text (semicolons : Bool) : TypeExpr → String
  | .keyword word => word.text
  | .name text => text
  | .literal value => value.compact
  | .array element => arrayText (element.text semicolons)
  | .union members => String.intercalate " | " (memberTexts semicolons members)
  | .intersection members => String.intercalate " & " (memberTexts semicolons members)
  | .object properties => objectText (propertyTexts semicolons properties)

def memberTexts (semicolons : Bool) : List TypeExpr → List String
  | [] => []
  | member :: members => member.text semicolons :: memberTexts semicolons members

def propertyTexts (semicolons : Bool) : List (Label × TypeExpr) → List String
  | [] => []
  | (label, type) :: properties =>
    (label.text ++ Text.indentRest (type.text semicolons) ++ propertyEnd semicolons) ::
      propertyTexts semicolons properties

end

end SchemaTypes.TypeScript
