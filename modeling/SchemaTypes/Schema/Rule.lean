/-
This file decides what a fragment of a schema stands for.
-/
import SchemaTypes.Json.Printer

namespace SchemaTypes

inductive Rule where
  | any
  | typedArray
  | namedEnum
  | enum
  | namedSchema
  | allOf
  | anyOf
  | reference
  | array
  | boolean
  | number
  | null
  | object
  | string
  | union
  | numberLiteral
  | literal
  | anonymousSchema
deriving DecidableEq, Repr

namespace Rule

/-- The `type` of a fragment; an array with one element stands for that element. -/
def schemaType? (fragment : Json) : Option Json :=
  match fragment.get? "type" with
  | some (.array [only]) => some only
  | other => other

/-- Null, false, zero and the empty text count as absent. -/
def isPresent : Option Json → Bool
  | none => false
  | some .null => false
  | some (.bool value) => value
  | some (.number value) => !value.isZero
  | some (.string text) => text ≠ ""
  | some (.array _) => true
  | some (.object _) => true

def has (fragment : Json) (key : String) : Bool := isPresent (fragment.get? key)

/-- The rule of a `type` that is a single keyword. -/
def ofTypeName? (name : String) : Option Rule :=
  match name with
  | "array" => some .array
  | "boolean" => some .boolean
  | "integer" => some .number
  | "number" => some .number
  | "null" => some .null
  | "object" => some .object
  | "string" => some .string
  | _ => none

def ofType? : Option Json → Option Rule
  | some (.string name) => ofTypeName? name
  | some (.array _) => some .union
  | _ => none

def isNumeral (text : String) : Bool :=
  text ≠ "" && text.toList.all fun character => character.isDigit || character = '.'

/-- The text of a number counts, so a sign or an exponent make a literal of it. -/
def ofValue : Json → Rule
  | .object _ => .anonymousSchema
  | .null => .any
  | .number value => if isNumeral value.text then .numberLiteral else .literal
  | .string text => if isNumeral text then .numberLiteral else .literal
  | _ => .literal

/-- The first rule that applies. -/
def classify (fragment : Json) : Rule :=
  let type := schemaType? fragment
  if type = some (.string "array") ∧ has fragment "items" then .typedArray
  else if has fragment "enum" ∧ has fragment "tsEnumNames" then .namedEnum
  else if has fragment "enum" then .enum
  else if has fragment "properties" ∨ has fragment "additionalProperties" then .namedSchema
  else if has fragment "allOf" then .allOf
  else if has fragment "anyOf" then .anyOf
  else if has fragment "$ref" then .reference
  else (ofType? type).getD (ofValue fragment)

end Rule
end SchemaTypes
