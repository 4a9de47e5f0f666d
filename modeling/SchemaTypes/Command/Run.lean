/-
This file runs the command on a tree of files.
-/
import SchemaTypes.Command.Arguments
import SchemaTypes.Command.Configuration
import SchemaTypes.Compilation.Files
import SchemaTypes.FileSystem.Writing

namespace SchemaTypes.Command

/-- Why a run ends without a result. -/
inductive Failure where
  | readConfig (path : String) (source : ReadError)
  | invalidConfig (path : String)
  | compile (source : CompileError)
  | createDirectory (path : String) (source : ReadError)
  | write (path : String) (source : ReadError)
deriving DecidableEq

/-- An error followed by the one behind it. -/
def Failure.message : Failure → String
  | .readConfig path source => "failed to read config " ++ path ++ ": " ++ source.message
  | .invalidConfig path => "invalid config " ++ path
  | .compile source => String.intercalate ": " (source.message :: source.source?.toList)
  | .createDirectory path source => "failed to create " ++ path ++ ": " ++ source.message
  | .write path source => "failed to write " ++ path ++ ": " ++ source.message

/-- The path that could not be read. -/
def Failure.unread? : Failure → Option String
  | .readConfig path _ => some path
  | .compile (.readSchema path _) => some path
  | .compile (.missingReference path _) => some path.text
  | _ => none

def loadConfig (files : FileSystem) (path : String) : Except Failure Settings :=
  match files.readText path with
  | .error source => .error (.readConfig path source)
  | .ok text =>
    match settingsOfConfig? text with
    | some settings => .ok settings
    | none => .error (.invalidConfig path)

def defaultConfigLocation (files : FileSystem) : Location :=
  files.workingDirectory ++ [defaultConfigName]

def defaultConfigPath (files : FileSystem) : String := (defaultConfigLocation files).text

/-- A configuration that is named must exist, and the default one need not. -/
def loadSettings (files : FileSystem) (config : Option String) : Except Failure Settings :=
  match config with
  | some path => loadConfig files path
  | none =>
    if files.isFileText (defaultConfigPath files) then loadConfig files (defaultConfigPath files)
    else .ok {}

/-- The declarations of all inputs under the settings that are in force. -/
def produce (files : FileSystem) (options : Options) : Except Failure String :=
  (loadSettings files options.config).bind fun settings =>
    match Compilation.compileFiles files (options.apply settings) options.inputs with
    | .ok text => .ok text
    | .error source => .error (.compile source)

/-- Makes the directories that a file needs and writes it. Directories that were made stay even
where the file cannot be written. -/
def deliver (files : FileSystem) (path text : String) : FileSystem × Option Failure :=
  match files.prepareDirectory (Path.parentText path) (Path.ofString path).directory with
  | (prepared, some source) => (prepared, some (.createDirectory (Path.parentText path) source))
  | (prepared, none) =>
    match prepared.writeText path text with
    | .error source => (prepared, some (.write path source))
    | .ok after => (after, none)

/-- What a run leaves behind. -/
structure Outcome where
  code : UInt32
  output : String
  errors : String
  files : FileSystem

def versionText : String := "jsonschema-ts 0.1.0\n"

def ofLines (lines : List String) : String := String.join (lines.map (· ++ "\n"))

def helpText : String :=
  ofLines
    ["Compile JSON Schema files into TypeScript declarations",
      "",
      "Usage: jsonschema-ts [OPTIONS] <INPUTS>...",
      "",
      "Arguments:",
      "  <INPUTS>...  Schema files, compiled in order",
      "",
      "Options:",
      "  -o, --out <OUT>               Write declarations to this file instead of stdout",
      "      --config <CONFIG>         Config file (default: ./jsonschema-ts.toml if present)",
      "      --no-declare-referenced   Inline simple `$ref` targets instead of declaring each one",
      "      --no-property-semicolons  Don't end interface properties with `;`",
      "      --no-type-semicolons      Don't end type aliases with `;`",
      "      --no-const-enums          Emit `enum` instead of `const enum`",
      "      --full-reference-names    Name `$ref` declarations after their whole pointer path",
      "  -v, --verbose                 Log at debug level (RUST_LOG takes precedence)",
      "  -h, --help                    Print help",
      "  -V, --version                 Print version"]

def usageText : String :=
  ofLines
    ["error: the arguments cannot be used",
      "",
      "Usage: jsonschema-ts [OPTIONS] <INPUTS>...",
      "",
      "For more information, try '--help'."]

def fail (files : FileSystem) (failure : Failure) : Outcome :=
  ⟨1, "", "Error: " ++ failure.message ++ "\n", files⟩

/-- A run that fails prints nothing and writes no file. -/
def compile (files : FileSystem) (options : Options) : Outcome :=
  match produce files options with
  | .error failure => fail files failure
  | .ok text =>
    match options.out with
    | none => ⟨0, text ++ "\n", "", files⟩
    | some path =>
      match deliver files path (text ++ "\n") with
      | (after, some failure) => fail after failure
      | (after, none) => ⟨0, "", "", after⟩

def run (files : FileSystem) (arguments : List String) : Outcome :=
  match Invocation.ofArguments? arguments with
  | none => ⟨2, "", usageText, files⟩
  | some .help => ⟨0, helpText, "", files⟩
  | some .version => ⟨0, versionText, "", files⟩
  | some (.compile options) => compile files options

end SchemaTypes.Command
