/-
This file compiles whole documents.
-/
import SchemaTypes.Compilation.Fragment
import SchemaTypes.TypeScript.Unfolding

namespace SchemaTypes

/-- A finished compilation; its root is declared under the top-level id. -/
structure Compilation where
  progress : Progress
  settings : Settings
  root : NodeId
  id : String
deriving DecidableEq, Repr

namespace Compilation

/-- The id of a document without a name and without a path. -/
def fallbackId : String := "Interface1"

def topLevelId (document : Json) (sourcePath : Option Path) : String :=
  (document.declaredName?.or (sourcePath.bind Path.stem?)).getD fallbackId

def rootFrame (document : Json) (sourcePath : Option Path) : Frame :=
  { document
    directory := (sourcePath.map Path.directory).getD .empty
    key := sourcePath.map fun path => path.normalize.text
    name := topLevelId document sourcePath }

/-- The documents of the files that a loader serves. -/
def documents (loader : Loader) : List Json :=
  loader.texts.filterMap fun text => (Json.parse text).toOption

/-- Bounds the number of all values in the documents that can take part in a compilation, where each
of the files counts once under every path. -/
def extent (loader : Loader) (document : Json) : Nat :=
  document.size + loader.pathCount * Json.sizeItems (documents loader)

/-- Between two descents into a document a key is met for the first time, and there are no more keys
than references and paths. -/
def budget (loader : Loader) (document : Json) : Nat :=
  (extent loader document + loader.pathCount + 1) * (extent loader document + 1)

/-- The declared name of the target of a forward reference. -/
def boundName? (progress : Progress) (rootKey : String) (root : NodeId) (key : String) :
    Option String :=
  let target := if key = rootKey then some root else progress.declarations.get? key
  target.bind fun node => (progress.node node).id

/-- Gives a forward reference the name that its target has in the end. -/
def bindReference (progress : Progress) (rootKey : String) (root : NodeId) (model : Model)
    (reference : String × NodeId) : Model :=
  match boundName? progress rootKey root reference.1 with
  | some name => model.setShape reference.2 (.reference (Identifier.ofName name))
  | none => model

def bindReferences (rootKey : String) (root : NodeId) (progress : Progress) : Progress :=
  { progress with
    model := progress.forward.foldl (bindReference progress rootKey root) progress.model }

/-- Resolves the document and declares its node under the top-level id. -/
def run (context : Context) (document : Json) (sourcePath : Option Path) :
    EStateM.Result CompileError Progress NodeId :=
  let frame := rootFrame document sourcePath
  let resolve := Build.resolveFragment context (budget context.loader document)
  let act : Build NodeId := do
    let root ← resolve document ⟨none, true⟩
    modify (·.declare .name frame.name root frame.name)
    return root
  act (Progress.start frame)

def build (context : Context) (document : Json) (sourcePath : Option Path) :
    Except CompileError Compilation :=
  match run context document sourcePath with
  | .error error _ => .error error
  | .ok root progress =>
    let frame := rootFrame document sourcePath
    .ok
      { progress := bindReferences frame.ownKey root progress
        settings := context.settings
        root
        id := frame.name }

def model (compilation : Compilation) : Model := compilation.progress.model

def declarations (compilation : Compilation) : Declarations := compilation.progress.declarations

def emissionOrder (compilation : Compilation) : List NodeId :=
  compilation.declarations.emissionOrder compilation.model

def text (compilation : Compilation) : String :=
  compilation.declarations.text compilation.model compilation.settings

/-- The declarations of a document as text. -/
def compile (context : Context) (document : Json) (sourcePath : Option Path) :
    Except CompileError String :=
  (build context document sourcePath).map text

end Compilation
end SchemaTypes
