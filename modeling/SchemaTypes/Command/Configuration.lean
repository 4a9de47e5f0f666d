/-
This file reads the settings from configuration files.
-/
import SchemaTypes.Settings
import SchemaTypes.Toml.Document

namespace SchemaTypes.Command

/-- The file that is read from the working directory if no other one is named. -/
def defaultConfigName : String := "jsonschema-ts.toml"

def describeToml : Toml → String
  | .string text => "string " ++ Text.escaped text
  | .integer value => "integer `" ++ toString value ++ "`"
  | .float spelling => "floating point `" ++ spelling ++ "`"
  | .boolean value => "boolean `" ++ toString value ++ "`"
  | .datetime _ => "map"
  | .array _ => "sequence"
  | .table _ _ => "map"
  | .tables _ => "sequence"

def readTomlBoolean : Toml → Except Settings.ReadError Bool
  | .boolean value => .ok value
  | other => .error (.noBoolean (describeToml other))

/-- Elements of an array beyond the last setting are not looked at, and a date has no settings. -/
def settingsOfToml : Toml → Except Settings.ReadError Settings
  | .table _ entries => Settings.readFields readTomlBoolean {} [] entries
  | .array items =>
    (Settings.readElements readTomlBoolean {} Settings.Field.all items).map Prod.fst
  | .tables elements =>
    (Settings.readElements readTomlBoolean {} Settings.Field.all
      (elements.map (Toml.table .header))).map Prod.fst
  | .datetime _ => .ok {}
  | other => .error (.noSettings (describeToml other))

/-- The settings of a configuration; faulty documents and wrong types have none. -/
def settingsOfConfig? (text : String) : Option Settings := do
  let document ← Toml.parse? text
  match document.get? "settings" with
  | none => some {}
  | some value => (settingsOfToml value).toOption

end SchemaTypes.Command
