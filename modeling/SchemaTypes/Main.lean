/-
This file runs the command on the files of the machine.
-/
import SchemaTypes.Command.Run

namespace SchemaTypes.Command

/-- The number of the error that reading a directory gives. -/
def directoryErrorCode : UInt32 := 21

/-- Adds what stands at a location. -/
def observe (files : FileSystem) (location : Location) : IO FileSystem := do
  try
    let bytes ← IO.FS.readBinFile location.text
    match String.fromUTF8? bytes with
    | some text => return files.addFile location (.text text)
    | none => return files.addFile location .binary
  catch error =>
    match error with
    | .inappropriateType _ code _ =>
      return if code = directoryErrorCode then files.addDirectory location else files
    | _ => return files

def observePath (files : FileSystem) (path : String) : IO FileSystem :=
  (files.waypoints (Path.ofString path)).foldlM observe files

/-- Looks at every file that the run asks for. -/
partial def observeInputs (options : Options) (seen : List String) (files : FileSystem) :
    IO FileSystem := do
  match produce files options with
  | .ok _ => return files
  | .error failure =>
    match failure.unread? with
    | none => return files
    | some path =>
      if path ∈ seen then return files
      else observeInputs options (path :: seen) (← observePath files path)

/-- Makes the directories and writes the files that a run leaves behind. -/
def realize (before after : FileSystem) : IO Unit := do
  for location in after.directories do
    if !before.directories.contains location then IO.FS.createDirAll location.text
  for (location, text) in before.changes after do
    IO.FS.writeFile location.text text

def observeAll (files : FileSystem) (arguments : List String) : IO FileSystem := do
  match Invocation.ofArguments? arguments with
  | some (.compile options) =>
    let files ← observe files (defaultConfigLocation files)
    let files ← observeInputs options [] files
    match options.out with
    | some path => observePath files path
    | none => return files
  | _ => return files

def runOnMachine (arguments : List String) : IO UInt32 := do
  let directory := (Path.ofString (← IO.currentDir).toString).steps.map Path.Step.text
  let before ← observeAll (.create directory) arguments
  let outcome := run before arguments
  realize before outcome.files
  IO.print outcome.output
  IO.eprint outcome.errors
  return outcome.code

end SchemaTypes.Command

def main (arguments : List String) : IO UInt32 :=
  SchemaTypes.Command.runOnMachine arguments
