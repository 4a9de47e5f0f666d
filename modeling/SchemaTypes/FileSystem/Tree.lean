/-
This file holds a tree of files and directories.
-/
import SchemaTypes.Path

namespace SchemaTypes

/-- Bytes that are no text are not looked into. -/
inductive Content where
  | text (text : String)
  | binary
deriving DecidableEq, Repr

def Content.text? : Content → Option String
  | .text written => some written
  | .binary => none

/-- The names on the way from the root directory. -/
abbrev Location : Type := List String

structure FileSystem where
  workingDirectory : Location
  directories : List Location
  files : List (Location × Content)
deriving DecidableEq, Repr

def Location.text (location : Location) : String := "/" ++ String.intercalate "/" location

namespace FileSystem

/-- The directories on the way to a location, which is one of them. -/
def ancestors (location : Location) : List Location :=
  (List.range (location.length + 1)).map location.take

def create (workingDirectory : Location) : FileSystem :=
  ⟨workingDirectory, ancestors workingDirectory, []⟩

def isDirectory (files : FileSystem) (location : Location) : Bool :=
  location = [] || files.directories.contains location

def content? (files : FileSystem) (location : Location) : Option Content :=
  files.files.lookup location

def isFile (files : FileSystem) (location : Location) : Bool := (files.content? location).isSome

/-- What all text files hold. -/
def texts (files : FileSystem) : List String := files.files.filterMap fun file => file.2.text?

def isPresent (files : FileSystem) (location : Location) : Bool :=
  files.isDirectory location || files.isFile location

def addDirectory (files : FileSystem) (location : Location) : FileSystem :=
  { files with
    directories := files.directories ++
      (ancestors location).filter fun directory => !files.directories.contains directory }

/-- A file that is written again keeps its place. -/
def putContent (location : Location) (content : Content) :
    List (Location × Content) → List (Location × Content)
  | [] => [(location, content)]
  | (other, old) :: rest =>
    if other = location then (location, content) :: rest
    else (other, old) :: putContent location content rest

def putFile (files : FileSystem) (location : Location) (content : Content) : FileSystem :=
  { files with files := putContent location content files.files }

/-- Adds a file with the directories that it needs. -/
def addFile (files : FileSystem) (location : Location) (content : Content) : FileSystem :=
  (files.addDirectory location.dropLast).putFile location content

end FileSystem
end SchemaTypes
