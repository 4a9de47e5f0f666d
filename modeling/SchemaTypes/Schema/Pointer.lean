/-
This file follows pointers into documents.
-/
import SchemaTypes.Json.Value

namespace SchemaTypes.Pointer

def segments (pointer : String) : List String :=
  (pointer.toList.splitOn '/').map String.ofList

def indexLimit : Nat := 0xFFFFFFFFFFFFFFFF

/-- An index in decimal; it may begin with a plus sign and with zeros. -/
def index? (segment : String) : Option Nat :=
  let digits : List Char :=
    match segment.toList with
    | '+' :: rest => rest
    | characters => characters
  let value := digits.foldl (fun sum digit => sum * 10 + (digit.toNat - '0'.toNat)) 0
  if digits ≠ [] ∧ digits.all Char.isDigit ∧ value ≤ indexLimit then some value else none

def step? (value : Json) (segment : String) : Option Json :=
  match value with
  | .object fields => fields.lookup segment
  | .array items => (index? segment).bind fun index => items[index]?
  | _ => none

/-- Walks from a document through its objects and arrays. -/
def lookup? (document : Json) (segments : List String) : Option Json :=
  segments.foldlM step? document

end SchemaTypes.Pointer
