/-
This file holds the choices that steer a compilation and reads them from JSON.
-/
import SchemaTypes.Json.Printer
import SchemaTypes.Text.Escaped

namespace SchemaTypes

structure Settings where
  /-- Every target of a reference is declared, and not only those that are no simple types. -/
  declareReferenced : Bool := true
  endPropertyWithSemicolon : Bool := true
  endTypeWithSemicolon : Bool := true
  useConstEnums : Bool := true
  /-- A target is named after its whole pointer instead of the last segment. -/
  useFullReferencePathAsName : Bool := false
deriving DecidableEq, Inhabited, Repr

namespace Settings

inductive Field where
  | declareReferenced
  | endPropertyWithSemicolon
  | endTypeWithSemicolon
  | useConstEnums
  | useFullReferencePathAsName
deriving DecidableEq, Repr

def Field.all : List Field :=
  [.declareReferenced, .endPropertyWithSemicolon, .endTypeWithSemicolon, .useConstEnums,
    .useFullReferencePathAsName]

def Field.name : Field → String
  | .declareReferenced => "declare_referenced"
  | .endPropertyWithSemicolon => "end_property_with_semicolon"
  | .endTypeWithSemicolon => "end_type_with_semicolon"
  | .useConstEnums => "use_const_enums"
  | .useFullReferencePathAsName => "use_full_reference_path_as_name"

/-- The second spelling of a field. -/
def Field.camelName : Field → String
  | .declareReferenced => "declareReferenced"
  | .endPropertyWithSemicolon => "endPropertyWithSemicolon"
  | .endTypeWithSemicolon => "endTypeWithSemicolon"
  | .useConstEnums => "useConstEnums"
  | .useFullReferencePathAsName => "useFullReferencePathAsName"

def Field.ofName? (name : String) : Option Field :=
  Field.all.find? fun field => field.name = name ∨ field.camelName = name

def get (settings : Settings) : Field → Bool
  | .declareReferenced => settings.declareReferenced
  | .endPropertyWithSemicolon => settings.endPropertyWithSemicolon
  | .endTypeWithSemicolon => settings.endTypeWithSemicolon
  | .useConstEnums => settings.useConstEnums
  | .useFullReferencePathAsName => settings.useFullReferencePathAsName

def set (settings : Settings) (value : Bool) : Field → Settings
  | .declareReferenced => { settings with declareReferenced := value }
  | .endPropertyWithSemicolon => { settings with endPropertyWithSemicolon := value }
  | .endTypeWithSemicolon => { settings with endTypeWithSemicolon := value }
  | .useConstEnums => { settings with useConstEnums := value }
  | .useFullReferencePathAsName => { settings with useFullReferencePathAsName := value }

/-- Why a value cannot be read as settings; what was found instead is described in words. -/
inductive ReadError where
  | noBoolean (found : String)
  | noSettings (found : String)
  | duplicateField (field : Field)
  | tooManyElements (count : Nat)
deriving DecidableEq, Repr

def ReadError.message : ReadError → String
  | .noBoolean found => "invalid type: " ++ found ++ ", expected a boolean"
  | .noSettings found => "invalid type: " ++ found ++ ", expected struct Settings"
  | .duplicateField field => "duplicate field `" ++ field.name ++ "`"
  | .tooManyElements count =>
    "invalid length " ++ Nat.repr count ++ ", expected fewer elements in array"

section Reading

variable {α : Type} (readBoolean : α → Except ReadError Bool)

/-- Reads named values; a field that was seen before is refused before its value is looked at. -/
def readFields (settings : Settings) (seen : List Field) :
    List (String × α) → Except ReadError Settings
  | [] => .ok settings
  | (name, value) :: rest =>
    match Field.ofName? name with
    | none => readFields settings seen rest
    | some field =>
      if field ∈ seen then .error (.duplicateField field)
      else do
        let chosen ← readBoolean value
        readFields (settings.set chosen field) (field :: seen) rest

/-- Reads values in the order of the fields and gives back those that are left over. -/
def readElements (settings : Settings) :
    List Field → List α → Except ReadError (Settings × List α)
  | [], values => .ok (settings, values)
  | _, [] => .ok (settings, [])
  | field :: fields, value :: values => do
    let chosen ← readBoolean value
    readElements (settings.set chosen field) fields values

end Reading

/-- Numbers are shown as JSON has them. -/
def describe : Json → String
  | .null => "null"
  | .bool true => "boolean `true`"
  | .bool false => "boolean `false`"
  | .number (.integer value) => "integer `" ++ (Json.Number.integer value).text ++ "`"
  | .number (.float value) => "floating point `" ++ (Json.Number.float value).text ++ "`"
  | .string text => "string " ++ Text.escaped text
  | .array _ => "sequence"
  | .object _ => "map"

def readJsonBoolean : Json → Except ReadError Bool
  | .bool value => .ok value
  | other => .error (.noBoolean (describe other))

/-- An object names its fields, an array lists them in order, and the others have their defaults. -/
def ofJson : Json → Except ReadError Settings
  | .object fields => readFields readJsonBoolean {} [] fields
  | .array items => do
    let (settings, rest) ← readElements readJsonBoolean {} Field.all items
    if rest.isEmpty then .ok settings else .error (.tooManyElements items.length)
  | other => .error (.noSettings (describe other))

end Settings
end SchemaTypes
