/-
This file resolves references to fragments of documents and to files.
-/
import SchemaTypes.Compilation.Progress
import SchemaTypes.Json.Parser
import SchemaTypes.Schema.Pointer
import SchemaTypes.Settings

namespace SchemaTypes

/-- The property that a fragment describes, and whether it is a whole document, which its caller
declares. -/
structure Site where
  property : Option String
  isDocument : Bool
deriving DecidableEq, Repr

/-- A fragment that describes no property. -/
def Site.inner : Site := ⟨none, false⟩

/-- Resolves a fragment to its node. -/
abbrev Resolver : Type := Json → Site → Build NodeId

/-- What stays the same during a compilation. -/
structure Context where
  settings : Settings
  loader : Loader

/-- The name that a document gives to its own type. -/
def Json.declaredName? (document : Json) : Option String :=
  (document.textField? "title").or (document.textField? "id")

namespace Progress

/-- Targets of references have declarations of their own unless they are simple and the settings
allow to leave them out; a target that refers to itself always has one. -/
def needsDeclaration (progress : Progress) (settings : Settings) (key : String) (node : NodeId) :
    Bool :=
  progress.forced.contains key || settings.declareReferenced || !(progress.node node).isSimple

end Progress

namespace Build

def pointerName (settings : Settings) (pointer : String) : String :=
  if settings.useFullReferencePathAsName then pointer
  else (Pointer.segments pointer).getLast?.getD ""

def finishPointer (settings : Settings) (frame : Frame) (pointer : String) (node : NodeId)
    (progress : Progress) : Progress :=
  let key := frame.pointerKey pointer
  if progress.needsDeclaration settings key node then
    (progress.release key).declare (.pointer frame pointer) key node (pointerName settings pointer)
  else progress.release key

/-- A target that leads nowhere is a type without constraints. -/
def resolvePointer (settings : Settings) (resolve : Resolver) (pointer : String) :
    Build NodeId := do
  let progress ← get
  let frame := progress.frame
  let key := frame.pointerKey pointer
  match progress.declarations.get? key with
  | some node => return node
  | none =>
    if key ∈ progress.pending then forwardReference key (pointerName settings pointer)
    else
      match Pointer.lookup? frame.document (Pointer.segments pointer) with
      | none => allocate .any
      | some target =>
        let node ← whilePending frame pointer (resolve target .inner)
        modify (finishPointer settings frame pointer node)
        return node

def followPointer (settings : Settings) (resolve : Resolver) (pointer : String) : Build NodeId := do
  let progress ← get
  noting (.followed progress.frame pointer) (resolvePointer settings resolve pointer)

def readDocument (loader : Loader) (path : Path) : Build Json := do
  modify (·.note (.read path))
  match loader.read path with
  | .error source => throw (.missingReference path source)
  | .ok text =>
    match Json.parse text with
    | .error source => throw (.malformedReference path source)
    | .ok document => return document

def fileStem (path : Path) : String := path.stem?.getD ""

def fileFrame (path : Path) (document : Json) : Frame :=
  { document
    directory := path.directory
    key := some path.text
    name := document.declaredName?.getD (fileStem path) }

def fileName (path : Path) (node : Node) : String :=
  Identifier.ofName (node.id.getD (fileStem path))

/-- A declared file is referred to by name. -/
def declareFile (path : Path) (node : NodeId) (progress : Progress) : Progress :=
  let name := fileName path (progress.node node)
  ((progress.declare (.file path) path.text node name).add (.reference name)).remember path
    progress.model.size

/-- A file that is not declared stands where it is used, without the title of its document. -/
def inlineFile (path : Path) (node : NodeId) (progress : Progress) : Progress :=
  (if progress.declarations.isDeclared node then progress
    else progress.setId node none).remember path node

def finishFile (settings : Settings) (path : Path) (node : NodeId) : Build NodeId :=
  fun progress =>
    let released := progress.release path.text
    if progress.needsDeclaration settings path.text node then
      .ok progress.model.size (declareFile path node released)
    else .ok node (inlineFile path node released)

/-- A file that is still being resolved is referred to by the name it will have. -/
def resolvePath (context : Context) (resolve : Resolver) (path : Path)
    (property : Option String) : Build NodeId := do
  let progress ← get
  match progress.files.lookup path with
  | some node => return node
  | none =>
    match (progress.frame :: progress.outer).reverse.find? (·.key = some path.text) with
    | some frame => forwardReference path.text frame.name
    | none =>
      let document ← readDocument context.loader path
      let node ← inFrame (fileFrame path document) (resolve document ⟨property, true⟩)
      finishFile context.settings path node

def followFile (context : Context) (resolve : Resolver) (reference : String)
    (property : Option String) : Build NodeId := do
  if Path.isRemote reference then throw (.remoteReference reference)
  let progress ← get
  let path := (progress.frame.directory.join (Path.ofString reference)).normalize
  noting (.located path) (resolvePath context resolve path property)

/-- The declaration of the document that the reference stands in. -/
def followDocument : Build NodeId := do
  let frame := (← get).frame
  forwardReference frame.ownKey frame.name

/-- A number sign introduces a pointer, whose first slash may be missing. -/
inductive Target where
  | document
  | pointer (text : String)
  | file (text : String)
deriving DecidableEq, Repr

def Target.ofReference (reference : String) : Target :=
  match reference.toList with
  | ['#'] => .document
  | ['#', '/'] => .document
  | '#' :: '/' :: rest => .pointer (String.ofList rest)
  | '#' :: rest => .pointer (String.ofList rest)
  | _ => .file reference

def follow (context : Context) (resolve : Resolver) (reference : String)
    (property : Option String) : Build NodeId :=
  match Target.ofReference reference with
  | .document => followDocument
  | .pointer pointer => followPointer context.settings resolve pointer
  | .file file => followFile context resolve file property

end Build
end SchemaTypes
