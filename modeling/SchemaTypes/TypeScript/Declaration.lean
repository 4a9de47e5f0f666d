/-
This file writes declarations.
-/
import SchemaTypes.Settings
import SchemaTypes.TypeScript.Type

namespace SchemaTypes.TypeScript

inductive Definition where
  | enum (members : List EnumMember)
  | interface (type : TypeExpr)
  | alias (type : TypeExpr)

structure Declaration where
  description : Option String
  name : String
  definition : Definition

/-- A member without a value, or with an empty text as its value, is only named. -/
def memberText (member : EnumMember) : String :=
  match member.value with
  | .null => member.identifier
  | .string "" => member.identifier
  | value => member.identifier ++ " = " ++ value.compact

def blockComment (description : Option String) : String :=
  match description with
  | none => ""
  | some description => String.intercalate "\n" (commentLines description) ++ "\n"

namespace Declaration

def enumKeyword (settings : Settings) : String :=
  if settings.useConstEnums then "const enum" else "enum"

def definitionText (settings : Settings) (name : String) : Definition → String
  | .enum members =>
    "export " ++ enumKeyword settings ++ " " ++ name ++ " \x7b\n" ++ Text.indentation ++
      String.intercalate (",\n" ++ Text.indentation) (members.map memberText) ++ "\n\x7d"
  | .interface type =>
    "export interface " ++ name ++ " " ++ type.text settings.endPropertyWithSemicolon
  | .alias type =>
    "export type " ++ name ++ " = " ++ type.text settings.endPropertyWithSemicolon ++
      if settings.endTypeWithSemicolon then ";" else ""

def text (settings : Settings) (declaration : Declaration) : String :=
  blockComment declaration.description ++
    definitionText settings declaration.name declaration.definition

end Declaration
end SchemaTypes.TypeScript
