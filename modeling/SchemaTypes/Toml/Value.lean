/-
This file holds the values of TOML documents.
-/
import SchemaTypes.Table

namespace SchemaTypes

/-- How a table came to be decides whether more may be added to it. -/
inductive Toml.Origin where
  /-- A header names the table. -/
  | header
  /-- A header names a table within it. -/
  | implied
  /-- A dotted key names a value within it. -/
  | dotted
  /-- Braces enclose the table. -/
  | inline
deriving DecidableEq, Repr

/-- Floats and dates keep their spelling. -/
inductive Toml where
  | string (text : String)
  | integer (value : Int)
  | float (spelling : String)
  | boolean (value : Bool)
  | datetime (spelling : String)
  | array (items : List Toml)
  | table (origin : Toml.Origin) (entries : List (String × Toml))
  /-- An array whose elements stand below headers of their own. -/
  | tables (elements : List (List (String × Toml)))
deriving Inhabited, Repr

end SchemaTypes
