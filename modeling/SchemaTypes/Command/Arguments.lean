/-
This file reads the arguments of the command.
-/
import SchemaTypes.Settings

namespace SchemaTypes.Command

/-- Flags that turn a setting away from its default, and the one for more messages. -/
inductive Flag where
  | noDeclareReferenced
  | noPropertySemicolons
  | noTypeSemicolons
  | noConstEnums
  | fullReferenceNames
  | verbose
deriving DecidableEq, Repr

structure Options where
  inputs : List String := []
  out : Option String := none
  config : Option String := none
  flags : List Flag := []
deriving DecidableEq, Repr

inductive Invocation where
  | help
  | version
  | compile (options : Options)
deriving DecidableEq, Repr

/-- The setting that a flag turns. -/
def Flag.field? : Flag → Option Settings.Field
  | .noDeclareReferenced => some .declareReferenced
  | .noPropertySemicolons => some .endPropertyWithSemicolon
  | .noTypeSemicolons => some .endTypeWithSemicolon
  | .noConstEnums => some .useConstEnums
  | .fullReferenceNames => some .useFullReferencePathAsName
  | .verbose => none

def Flag.apply (settings : Settings) (flag : Flag) : Settings :=
  match flag.field? with
  | some field => settings.set (!({} : Settings).get field) field
  | none => settings

def Options.apply (options : Options) (settings : Settings) : Settings :=
  options.flags.foldl Flag.apply settings

/-- What an option asks for. -/
inductive Switch where
  | help
  | version
  | flag (flag : Flag)
  | out
  | config
deriving DecidableEq, Repr

def Switch.takesValue : Switch → Bool
  | .out => true
  | .config => true
  | _ => false

def Switch.ofLong? (name : String) : Option Switch :=
  match name with
  | "help" => some .help
  | "version" => some .version
  | "out" => some .out
  | "config" => some .config
  | "no-declare-referenced" => some (.flag .noDeclareReferenced)
  | "no-property-semicolons" => some (.flag .noPropertySemicolons)
  | "no-type-semicolons" => some (.flag .noTypeSemicolons)
  | "no-const-enums" => some (.flag .noConstEnums)
  | "full-reference-names" => some (.flag .fullReferenceNames)
  | "verbose" => some (.flag .verbose)
  | _ => none

def Switch.ofShort? (letter : Char) : Option Switch :=
  match letter with
  | 'h' => some .help
  | 'V' => some .version
  | 'o' => some .out
  | 'v' => some (.flag .verbose)
  | _ => none

/-- The state behind some arguments: finished early, or with an option that waits for its value. -/
inductive Reading where
  | finished (invocation : Invocation)
  | ongoing (options : Options) (waiting : Option Switch)
deriving DecidableEq, Repr

/-- Values are texts that are not empty, and an option has one value at most. -/
def Options.setValue? (options : Options) (switch : Switch) (value : String) : Option Options :=
  if value = "" then none
  else
    match switch with
    | .out => if options.out.isSome then none else some { options with out := some value }
    | .config => if options.config.isSome then none else some { options with config := some value }
    | _ => none

def Options.setFlag? (options : Options) (flag : Flag) : Option Options :=
  if flag ∈ options.flags then none else some { options with flags := options.flags ++ [flag] }

def Options.addInput? (options : Options) (path : String) : Option Options :=
  if path = "" then none else some { options with inputs := options.inputs ++ [path] }

/-- A switch without a value of its own. -/
def Options.turn? (options : Options) (switch : Switch) : Option Reading :=
  match switch with
  | .help => some (.finished .help)
  | .version => some (.finished .version)
  | .flag flag => (options.setFlag? flag).map (.ongoing · none)
  | .out => some (.ongoing options (some .out))
  | .config => some (.ongoing options (some .config))

/-- A value is joined to a long option by an equals sign. -/
def Options.readLong? (options : Options) (argument : List Char) : Option Reading :=
  let name := String.ofList (argument.takeWhile (· ≠ '='))
  match Switch.ofLong? name, argument.dropWhile (· ≠ '=') with
  | none, _ => none
  | some switch, [] => options.turn? switch
  | some switch, _ :: value =>
    if switch.takesValue then
      (options.setValue? switch (String.ofList value)).map (.ongoing · none)
    else none

def withoutEquals : List Char → List Char
  | '=' :: value => value
  | value => value

/-- Short options stand together up to the first that takes a value; the rest is that value. -/
def Options.readShort? (options : Options) : List Char → Option Reading
  | [] => some (.ongoing options none)
  | letter :: rest =>
    match Switch.ofShort? letter with
    | none => none
    | some switch =>
      if switch.takesValue then
        if rest.isEmpty then options.turn? switch
        else (options.setValue? switch (String.ofList (withoutEquals rest))).map (.ongoing · none)
      else
        match options.turn? switch with
        | some (.ongoing options _) => options.readShort? rest
        | outcome => outcome

def Options.readInputs? (options : Options) : List String → Option Options
  | [] => some options
  | path :: paths => (options.addInput? path).bind (·.readInputs? paths)

/-- An argument with a hyphen in front of other characters is no value of an option. -/
def isOption (argument : String) : Bool :=
  match argument.toList with
  | '-' :: _ :: _ => true
  | _ => false

/-- Reads arguments from left to right; behind two hyphens there are only inputs. -/
def readArguments (options : Options) (waiting : Option Switch) :
    List String → Option Reading
  | [] => if waiting.isSome then none else some (.ongoing options none)
  | argument :: arguments =>
    match waiting with
    | some switch =>
      if isOption argument then none
      else (options.setValue? switch argument).bind fun options =>
        readArguments options none arguments
    | none =>
      let outcome : Option Reading :=
        match argument.toList with
        | '-' :: '-' :: [] => none
        | '-' :: '-' :: long => options.readLong? long
        | '-' :: first :: rest => options.readShort? (first :: rest)
        | _ => (options.addInput? argument).map (.ongoing · none)
      if argument = "--" then (options.readInputs? arguments).map (.ongoing · none)
      else
        match outcome with
        | some (.ongoing options waiting) => readArguments options waiting arguments
        | other => other

/-- What the command is asked to do; wrong arguments ask for nothing. -/
def Invocation.ofArguments? (arguments : List String) : Option Invocation :=
  match readArguments {} none arguments with
  | none => none
  | some (.finished invocation) => some invocation
  | some (.ongoing options _) => if options.inputs.isEmpty then none else some (.compile options)

end SchemaTypes.Command
