/-
This file holds JSON values whose objects keep the order of their fields.
-/
import SchemaTypes.Number.Layout

namespace SchemaTypes

/-- An integer literal of 64 bits is exact, and every other number is a double. -/
inductive Json.Number where
  | integer (value : Int)
  | float (value : Binary64)
deriving DecidableEq, Inhabited, Repr

inductive Json where
  | null
  | bool (value : Bool)
  | number (value : Json.Number)
  | string (text : String)
  | array (items : List Json)
  | object (fields : List (String × Json))
deriving Inhabited, BEq, Repr

namespace Json

def Number.isZero : Number → Bool
  | .integer value => value = 0
  | .float value => value.isZero

/-- The value of a field; values that are no objects have no fields. -/
def get? (key : String) : Json → Option Json
  | .object fields => fields.lookup key
  | _ => none

def text? : Json → Option String
  | .string text => some text
  | _ => none

def items? : Json → Option (List Json)
  | .array items => some items
  | _ => none

def fields? : Json → Option (List (String × Json))
  | .object fields => some fields
  | _ => none

def textField? (key : String) (value : Json) : Option String :=
  (value.get? key).bind text?

def itemsField? (key : String) (value : Json) : Option (List Json) :=
  (value.get? key).bind items?

def fieldsField? (key : String) (value : Json) : Option (List (String × Json)) :=
  (value.get? key).bind fields?

mutual

/-- The number of values in a value, itself included. -/
def size : Json → Nat
  | .array items => 1 + sizeItems items
  | .object fields => 1 + sizeFields fields
  | _ => 1

def sizeItems : List Json → Nat
  | [] => 0
  | item :: items => item.size + sizeItems items

def sizeFields : List (String × Json) → Nat
  | [] => 0
  | (_, value) :: fields => value.size + sizeFields fields

end

mutual

def decideEq : (left right : Json) → Decidable (left = right)
  | .null, .null => isTrue rfl
  | .bool left, .bool right =>
    if same : left = right then isTrue (by rw [same]) else isFalse (by simpa using same)
  | .number left, .number right =>
    if same : left = right then isTrue (by rw [same]) else isFalse (by simpa using same)
  | .string left, .string right =>
    if same : left = right then isTrue (by rw [same]) else isFalse (by simpa using same)
  | .array left, .array right =>
    match decideEqItems left right with
    | isTrue same => isTrue (by rw [same])
    | isFalse different => isFalse (by simpa using different)
  | .object left, .object right =>
    match decideEqFields left right with
    | isTrue same => isTrue (by rw [same])
    | isFalse different => isFalse (by simpa using different)
  | .null, .bool _ | .null, .number _ | .null, .string _ | .null, .array _ | .null, .object _
  | .bool _, .null | .bool _, .number _ | .bool _, .string _ | .bool _, .array _
  | .bool _, .object _ | .number _, .null | .number _, .bool _ | .number _, .string _
  | .number _, .array _ | .number _, .object _ | .string _, .null | .string _, .bool _
  | .string _, .number _ | .string _, .array _ | .string _, .object _ | .array _, .null
  | .array _, .bool _ | .array _, .number _ | .array _, .string _ | .array _, .object _
  | .object _, .null | .object _, .bool _ | .object _, .number _ | .object _, .string _
  | .object _, .array _ => isFalse (by simp)

def decideEqItems : (left right : List Json) → Decidable (left = right)
  | [], [] => isTrue rfl
  | [], _ :: _ | _ :: _, [] => isFalse (by simp)
  | left :: lefts, right :: rights =>
    match decideEq left right, decideEqItems lefts rights with
    | isTrue same, isTrue rest => isTrue (by rw [same, rest])
    | isFalse different, _ => isFalse (by simp [different])
    | _, isFalse different => isFalse (by simp [different])

def decideEqFields : (left right : List (String × Json)) → Decidable (left = right)
  | [], [] => isTrue rfl
  | [], _ :: _ | _ :: _, [] => isFalse (by simp)
  | (leftKey, left) :: lefts, (rightKey, right) :: rights =>
    if key : leftKey = rightKey then
      match decideEq left right, decideEqFields lefts rights with
      | isTrue same, isTrue rest => isTrue (by rw [key, same, rest])
      | isFalse different, _ => isFalse (by simp [different])
      | _, isFalse different => isFalse (by simp [different])
    else isFalse (by simp [key])

end

instance : DecidableEq Json := decideEq

end Json
end SchemaTypes
