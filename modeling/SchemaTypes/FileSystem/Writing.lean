/-
This file says what can be written in a tree of files.
-/
import SchemaTypes.FileSystem.Reading

namespace SchemaTypes.FileSystem

/-- Makes one directory in a directory that exists. -/
def makeDirectory (files : FileSystem) (path : Path) : Except ReadError FileSystem := do
  let parent ← path.steps.dropLast.foldlM files.enter (files.start path)
  if !files.isDirectory parent then throw .notDirectory
  match path.steps.getLast? with
  | some (.child name) =>
    if nameLimit < name.utf8ByteSize then throw .nameTooLong
    else if files.isPresent (parent ++ [name]) then throw .exists
    else return files.addDirectory (parent ++ [name])
  | _ => throw .exists

/-- A directory that is there already is no failure. -/
def makeDirectoryIfMissing (files : FileSystem) (path : Path) : Except ReadError FileSystem :=
  match files.makeDirectory path with
  | .ok after => .ok after
  | .error error =>
    match files.locate path with
    | .ok location => if files.isDirectory location then .ok files else .error error
    | .error _ => .error error

/-- Makes a directory and first all directories on the way that are missing; the steps come in
reverse. The directories that were made stay where one of them cannot be made. -/
def makeDirectories (files : FileSystem) (rooted : Bool) :
    List Path.Step → FileSystem × Option ReadError
  | [] => (files, none)
  | last :: before =>
    let path : Path := ⟨rooted, (last :: before).reverse⟩
    match files.makeDirectoryIfMissing path with
    | .ok after => (after, none)
    | .error .notFound =>
      match makeDirectories files rooted before with
      | (made, some error) => (made, some error)
      | (made, none) =>
        match made.makeDirectoryIfMissing path with
        | .ok after => (after, none)
        | .error error => (made, some error)
    | .error error => (files, some error)

/-- Makes a directory with all that are missing on the way. The spellings of those on the way are
parts of its own spelling, so that one alone is checked. -/
def prepareDirectory (files : FileSystem) (spelling : String) (path : Path) :
    FileSystem × Option ReadError :=
  match checkSpelling spelling with
  | .error error => (files, some error)
  | .ok _ => files.makeDirectories path.rooted path.steps.reverse

/-- Creates or replaces a file; a spelling that ends like that of a directory names no file. -/
def writeText (files : FileSystem) (spelling text : String) : Except ReadError FileSystem := do
  checkSpelling spelling
  let path := spelledPath spelling
  let pieces := (spelling.toList.splitOn '/').reverse
  let slashes := (pieces.takeWhile (· = [])).length
  let steps := path.steps.take (path.steps.length - slashes)
  let parent ← steps.dropLast.foldlM files.enter (files.start path)
  if !files.isDirectory parent then throw .notDirectory
  match steps.getLast? with
  | some (.child name) =>
    let location := parent ++ [name]
    if nameLimit < name.utf8ByteSize then throw .nameTooLong
    else if 0 < slashes || files.isDirectory location then throw .isDirectory
    else return files.putFile location (.text text)
  | some step =>
    let _ ← files.enter parent step
    throw .isDirectory
  | none => throw .isDirectory

/-- The text files of the second tree that are not the same in the first. -/
def changes (before after : FileSystem) : List (Location × String) :=
  after.files.filterMap fun (location, content) =>
    match content with
    | .text text => if before.content? location = some content then none else some (location, text)
    | .binary => none

end SchemaTypes.FileSystem
