/-
This file holds what is known in the course of a compilation, and its elementary changes.
-/
import SchemaTypes.CompileError
import SchemaTypes.Declarations
import SchemaTypes.Identifier

namespace SchemaTypes

/-- A document whose fragments are being resolved. -/
structure Frame where
  document : Json
  /-- References to files start here. -/
  directory : Path
  /-- The key of the document's own declaration; a document without a path has none. -/
  key : Option String
  name : String
deriving DecidableEq, Repr

/-- Stands for the key of a root document without a path. -/
def Frame.rootKey : String := "#"

def Frame.ownKey (frame : Frame) : String := frame.key.getD rootKey

/-- Pointers of different documents have different keys unless a document has no path. -/
def Frame.pointerKey (frame : Frame) (pointer : String) : String :=
  match frame.key with
  | some file => file ++ "#/" ++ pointer
  | none => pointer

/-- What a key was registered for: a title or an id, the target of a pointer, or a file. -/
inductive Origin where
  | name
  | pointer (frame : Frame) (pointer : String)
  | file (path : Path)
deriving DecidableEq, Repr

/-- What happened in the course of a compilation; a result is missing where it failed. -/
inductive Event where
  | visited (frame : Frame) (fragment : Json) (node : Option NodeId)
  /-- From here on the target of a pointer is being resolved. -/
  | entered (frame : Frame) (pointer : String)
  /-- The target that was entered last is no longer being resolved. -/
  | left
  | followed (frame : Frame) (pointer : String) (node : Option NodeId)
  | located (path : Path) (node : Option NodeId)
  | read (path : Path)
  | declared (origin : Origin) (key : String) (node : NodeId)
  | enumStored (name : String) (generated : Bool) (node : NodeId)
deriving DecidableEq, Repr

/-- The innermost frame comes first, and so do the latest entries of all lists. -/
structure Progress where
  model : Model
  declarations : Declarations
  frame : Frame
  outer : List Frame
  /-- Keys of pointers that are being resolved. -/
  pending : List String
  /-- Keys that were met again while they were being resolved. -/
  forced : List String
  /-- The references that were handed out for keys that were being resolved. -/
  forward : List (String × NodeId)
  /-- The nodes that stand for the files read so far. -/
  files : List (Path × NodeId)
  journal : List Event
deriving DecidableEq, Repr

namespace Progress

def start (frame : Frame) : Progress :=
  { model := .empty, declarations := .empty, frame, outer := [], pending := [], forced := [],
    forward := [], files := [], journal := [] }

def node (progress : Progress) (id : NodeId) : Node := progress.model.node id

def note (progress : Progress) (event : Event) : Progress :=
  { progress with journal := event :: progress.journal }

/-- The new node has the number `progress.model.size`. -/
def add (progress : Progress) (shape : Shape) : Progress :=
  { progress with model := progress.model.add shape }

def setId (progress : Progress) (node : NodeId) (id : Option String) : Progress :=
  { progress with model := progress.model.setId node id }

def setDescription (progress : Progress) (node : NodeId) (description : Option String) :
    Progress :=
  { progress with model := progress.model.setDescription node description }

/-- Declares a node under a key and gives it a name. -/
def declare (progress : Progress) (origin : Origin) (key : String) (node : NodeId)
    (name : String) : Progress :=
  { progress with
    model := progress.model.setId node (some name)
    declarations := progress.declarations.declare key node
    journal := .declared origin key node :: progress.journal }

def putEnum (progress : Progress) (name : String) (generated : Bool) (node : NodeId) : Progress :=
  { progress with
    model := progress.model.setId node (some name)
    declarations := progress.declarations.putEnum name node
    journal := .enumStored name generated node :: progress.journal }

/-- Adds a reference to the declaration that a key will have, under the name it has for now. -/
def refer (progress : Progress) (key name : String) : Progress :=
  { progress with
    model := progress.model.add (.reference (Identifier.ofName name))
    forward := (key, progress.model.size) :: progress.forward
    forced := progress.forced.insert key }

/-- Forgets that a key was met again. -/
def release (progress : Progress) (key : String) : Progress :=
  { progress with forced := progress.forced.erase key }

def remember (progress : Progress) (path : Path) (node : NodeId) : Progress :=
  { progress with files := (path, node) :: progress.files }

def push (progress : Progress) (frame : Frame) : Progress :=
  { progress with frame, outer := progress.frame :: progress.outer }

/-- The root document's frame stays. -/
def pop (progress : Progress) : Progress :=
  match progress.outer with
  | [] => progress
  | frame :: outer => { progress with frame, outer }

def enter (progress : Progress) (frame : Frame) (pointer : String) : Progress :=
  { progress with
    pending := frame.pointerKey pointer :: progress.pending
    journal := .entered frame pointer :: progress.journal }

def leave (progress : Progress) (key : String) : Progress :=
  { progress with
    pending := progress.pending.erase key
    journal := .left :: progress.journal }

end Progress

/-- A step keeps what it has done even where it fails. -/
abbrev Build (α : Type) : Type := EStateM CompileError Progress α

namespace Build

/-- Notes the result of a step, and its failure as well. -/
def noting (event : Option NodeId → Event) (act : Build NodeId) : Build NodeId := fun progress =>
  match act progress with
  | .ok node after => .ok node (after.note (event (some node)))
  | .error error after => .error error (after.note (event none))

def allocate (shape : Shape) : Build NodeId := fun progress =>
  .ok progress.model.size (progress.add shape)

def forwardReference (key name : String) : Build NodeId := fun progress =>
  .ok progress.model.size (progress.refer key name)

/-- Changes the progress before a step and changes it again behind it, even where the step fails. -/
def between {α : Type} (enter leave : Progress → Progress) (act : Build α) : Build α :=
  fun progress =>
    match act (enter progress) with
    | .ok value after => .ok value (leave after)
    | .error error after => .error error (leave after)

def inFrame {α : Type} (frame : Frame) (act : Build α) : Build α :=
  between (·.push frame) (·.pop) act

def whilePending {α : Type} (frame : Frame) (pointer : String) (act : Build α) : Build α :=
  between (·.enter frame pointer) (·.leave (frame.pointerKey pointer)) act

/-- Takes a step for every member of a list, from left to right. -/
def each {α β : Type} (act : α → Build β) : List α → Build (List β)
  | [] => return []
  | member :: members => do
    let result ← act member
    let results ← each act members
    return result :: results

end Build
end SchemaTypes
