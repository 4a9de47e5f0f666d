/-
This file says what can be read in a tree of files.
-/
import SchemaTypes.FileSystem.Tree
import SchemaTypes.Loader

namespace SchemaTypes.FileSystem

/-- The bytes that a name may have. -/
def nameLimit : Nat := 255

/-- The bytes that the spelling of a path may have. -/
def pathLimit : Nat := 4095

/-- Takes one step from a directory; the root directory is its own parent. -/
def enter (files : FileSystem) (location : Location) (step : Path.Step) :
    Except ReadError Location :=
  if !files.isDirectory location then .error .notDirectory
  else
    match step with
    | .current => .ok location
    | .parent => .ok location.dropLast
    | .child name =>
      if nameLimit < name.utf8ByteSize then .error .nameTooLong
      else if files.isPresent (location ++ [name]) then .ok (location ++ [name])
      else .error .notFound

def start (files : FileSystem) (path : Path) : Location :=
  if path.rooted then [] else files.workingDirectory

/-- The locations along a path whatever stands there. -/
def waypoints (files : FileSystem) (path : Path) : List Location :=
  let follow (location : Location) (step : Path.Step) : Location :=
    match step with
    | .current => location
    | .parent => location.dropLast
    | .child name => location ++ [name]
  (List.range path.steps.length).map fun count =>
    (path.steps.take (count + 1)).foldl follow (files.start path)

/-- The spelling of a path is looked at before any directory is. -/
def checkSpelling (spelling : String) : Except ReadError Unit :=
  if '\x00' ∈ spelling.toList then .error .nulInName
  else if pathLimit < spelling.utf8ByteSize then .error .nameTooLong
  else .ok ()

/-- Walks along a path as it is written, so every directory on the way must exist. -/
def locate (files : FileSystem) (path : Path) : Except ReadError Location :=
  if path = .empty then .error .notFound
  else path.steps.foldlM files.enter (files.start path)

/-- The path of a text with a step for each of its pieces: a separator at the end asks for a
directory, as a dot does. -/
def spelledPath (text : String) : Path :=
  let pieces := text.toList.splitOn '/'
  if text = "" then .empty
  else ⟨pieces.head? = some [], pieces.map fun piece => (Path.laterStep? piece).getD .current⟩

/-- Where a path leads as it is spelled. -/
def locateText (files : FileSystem) (spelling : String) : Except ReadError Location := do
  checkSpelling spelling
  files.locate (spelledPath spelling)

def isFileText (files : FileSystem) (spelling : String) : Bool :=
  match files.locateText spelling with
  | .ok location => files.isFile location
  | .error _ => false

def readAt (files : FileSystem) (location : Location) : Except ReadError String :=
  match files.content? location with
  | some (.text text) => .ok text
  | some .binary => .error .notText
  | none => .error .isDirectory

/-- Reads the file of a path as it is spelled. -/
def readText (files : FileSystem) (spelling : String) : Except ReadError String :=
  files.locateText spelling >>= files.readAt

/-- Reads the file of a path that was put together; its text is how it is spelled. -/
def readPath (files : FileSystem) (path : Path) : Except ReadError String := do
  checkSpelling path.text
  let location ← files.locate path
  files.readAt location

end SchemaTypes.FileSystem
