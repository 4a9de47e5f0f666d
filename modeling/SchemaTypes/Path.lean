/-
This file reads file paths and brings them into their shortest form.
-/
import SchemaTypes.Text.Lines

namespace SchemaTypes

/-- A step of a path; only the first step of an unrooted path may stay where it is. -/
inductive Path.Step where
  | current
  | parent
  | child (name : String)
deriving DecidableEq, Repr

structure Path where
  rooted : Bool
  steps : List Path.Step
deriving DecidableEq, Inhabited, Repr

namespace Path

def empty : Path := ⟨false, []⟩

/-- Empty pieces between separators are no steps, nor are single dots behind the first piece. -/
def laterStep? (piece : List Char) : Option Step :=
  if piece = [] ∨ piece = ['.'] then none
  else if piece = ['.', '.'] then some .parent
  else some (.child (String.ofList piece))

def firstStep? (piece : List Char) : Option Step :=
  if piece = ['.'] then some .current else laterStep? piece

def ofString (text : String) : Path :=
  let pieces := text.toList.splitOn '/'
  match pieces with
  | [] :: _ :: _ => ⟨true, pieces.filterMap laterStep?⟩
  | piece :: rest => ⟨false, (firstStep? piece).toList ++ rest.filterMap laterStep?⟩
  | [] => empty

def Step.text : Step → String
  | .current => "."
  | .parent => ".."
  | .child name => name

def text (path : Path) : String :=
  (if path.rooted then "/" else "") ++ String.intercalate "/" (path.steps.map Step.text)

/-- A rooted path stands for itself wherever it is read. -/
def join (base path : Path) : Path :=
  if path.rooted then path else ⟨base.rooted, base.steps ++ path.steps⟩

/-- The path without its last step; there is none without steps. -/
def parent? (path : Path) : Option Path :=
  if path.steps.isEmpty then none else some ⟨path.rooted, path.steps.dropLast⟩

/-- The directory that holds what a path names. -/
def directory (path : Path) : Path := path.parent?.getD empty

/-- The spelling of a path before its last step; the separators within it stay as written. -/
def parentText (text : String) : String :=
  let pieces := text.toList.splitOn '/'
  let first := pieces.take 1
  let isStep (piece : List Char) : Bool := (laterStep? piece).isSome
  let kept := ((pieces.drop 1).reverse.dropWhile (!isStep ·)).drop 1 |>.dropWhile (!isStep ·)
  let written := first ++ kept.reverse
  if first = [[]] ∧ kept = [] then (if pieces.length ≤ 1 then "" else "/")
  else if (pieces.drop 1).any isStep then String.ofList (['/'].intercalate written)
  else ""

def fileName? (path : Path) : Option String :=
  match path.steps.getLast? with
  | some (.child name) => some name
  | _ => none

/-- A file name up to its last dot, unless that is its first character. -/
def stemOf (name : List Char) : List Char :=
  let reversed := name.reverse
  match reversed.dropWhile (· ≠ '.') with
  | [] => name
  | _ :: before => if before.isEmpty then name else before.reverse

def stem? (path : Path) : Option String :=
  path.fileName?.map fun name => String.ofList (stemOf name.toList)

/-- A step up takes back the last name; at the root it stays there. -/
def climb (rooted : Bool) (reversed : List Step) : List Step :=
  match reversed with
  | .child _ :: before => before
  | _ => if rooted then reversed else .parent :: reversed

def pushStep (rooted : Bool) (reversed : List Step) : Step → List Step
  | .current => reversed
  | .parent => climb rooted reversed
  | .child name => .child name :: reversed

/-- Resolves the dots of a path without looking at any file. -/
def normalize (path : Path) : Path :=
  ⟨path.rooted, (path.steps.foldl (pushStep path.rooted) []).reverse⟩

/-- A reference with a scheme names a location that is no file. -/
def isRemote (reference : String) : Bool :=
  let characters := reference.toList
  Text.occurs "://".toList characters ||
    "http:".toList.isPrefixOf characters || "https:".toList.isPrefixOf characters

end Path
end SchemaTypes
