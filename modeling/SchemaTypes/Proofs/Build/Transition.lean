/-
This file lists the changes that a compilation makes to its progress, each with what is known when
it is made. A property of a whole run follows from what each of them keeps.
-/
import Mathlib.Logic.Relation
import SchemaTypes.Compilation.Fragment

namespace SchemaTypes

open Build

/-- The frames of all documents that are being resolved, the innermost one first. -/
def Progress.frames (progress : Progress) : List Frame := progress.frame :: progress.outer

/-- Closing a document takes the frame from the documents around it and changes nothing else. -/
theorem Progress.pop_of_outer {progress : Progress} {enclosing : Frame} {outer : List Frame}
    (nested : progress.outer = enclosing :: outer) :
    progress.pop = { progress with frame := enclosing, outer } := by
  simp [Progress.pop, nested]

/-- The pointers that are being resolved after the events of a journal, the innermost one first. -/
def openPointers : List Event → List (Frame × String)
  | [] => []
  | .entered frame pointer :: before => (frame, pointer) :: openPointers before
  | .left :: before => (openPointers before).tail
  | _ :: before => openPointers before

/-- One change of the progress; it is made only under the conditions that it lists. -/
inductive Transition (context : Context) : Progress → Progress → Prop where
  | allocated (progress : Progress) (shape : Shape) (noEnum : shape.isNamedEnum = false)
      (noReference : ∀ name, shape ≠ .reference name)
      (children : ∀ child ∈ shape.children, child < progress.model.size) :
      Transition context progress (progress.add shape)
  | enumStored (progress : Progress) (members : List EnumMember) (chosen : Option String) :
      Transition context progress
        ((progress.add (.namedEnum members)).putEnum
          (chosen.getD (generatedEnumName progress.declarations.enumCount)) chosen.isNone
          progress.model.size)
  | named (progress : Progress) (node : NodeId) (name : String)
      (known : node < progress.model.size) (unnamed : (progress.node node).id = none) :
      Transition context progress (progress.declare .name name node name)
  /-- The title of a document goes to its node at once only if the node is declared already. -/
  | titled (progress : Progress) (node : NodeId) (name : String)
      (declared : progress.declarations.isDeclared node = true) :
      Transition context progress (progress.setId node (some name))
  | described (progress : Progress) (node : NodeId) (description : Option String)
      (known : node < progress.model.size)
      (undescribed : (progress.node node).description = none) :
      Transition context progress (progress.setDescription node description)
  | visited (progress : Progress) (fragment : Json) (node : NodeId)
      (known : node < progress.model.size) :
      Transition context progress (progress.note (.visited progress.frame fragment (some node)))
  | documentReferred (progress : Progress) :
      Transition context progress (progress.refer progress.frame.ownKey progress.frame.name)
  | pointerStored (progress : Progress) (pointer : String) (node : NodeId)
      (stored : progress.declarations.get? (progress.frame.pointerKey pointer) = some node) :
      Transition context progress (progress.note (.followed progress.frame pointer (some node)))
  | pointerReferred (progress : Progress) (pointer : String)
      (missing : progress.declarations.get? (progress.frame.pointerKey pointer) = none)
      (awaited : progress.frame.pointerKey pointer ∈ progress.pending) :
      Transition context progress
        ((progress.refer (progress.frame.pointerKey pointer)
            (pointerName context.settings pointer)).note
          (.followed progress.frame pointer (some progress.model.size)))
  | pointerLost (progress : Progress) (pointer : String)
      (nowhere : Pointer.lookup? progress.frame.document (Pointer.segments pointer) = none) :
      Transition context progress
        ((progress.add .any).note (.followed progress.frame pointer (some progress.model.size)))
  | pointerEntered (progress : Progress) (pointer : String)
      (missing : progress.declarations.get? (progress.frame.pointerKey pointer) = none)
      (fresh : progress.frame.pointerKey pointer ∉ progress.pending) :
      Transition context progress (progress.enter progress.frame pointer)
  | pointerFinished (progress : Progress) (pointer : String) (target : Json) (node : NodeId)
      (rest : List String)
      (awaited : progress.pending = progress.frame.pointerKey pointer :: rest)
      (found : Pointer.lookup? progress.frame.document (Pointer.segments pointer) = some target)
      (known : node < progress.model.size)
      (made : progress.journal.head? = some (.visited progress.frame target (some node)))
      (entered : (openPointers progress.journal).head? = some (progress.frame, pointer)) :
      Transition context progress
        ((finishPointer context.settings progress.frame pointer node
            (progress.leave (progress.frame.pointerKey pointer))).note
          (.followed progress.frame pointer (some node)))
  | fileStored (progress : Progress) (path : Path) (node : NodeId)
      (stored : progress.files.lookup path = some node) :
      Transition context progress (progress.note (.located path (some node)))
  | fileReferred (progress : Progress) (path : Path) (frame : Frame)
      (opened : frame ∈ progress.frames) (key : frame.key = some path.text) :
      Transition context progress
        ((progress.refer path.text frame.name).note (.located path (some progress.model.size)))
  | fileOpened (progress : Progress) (path : Path) (text : String) (document : Json)
      (missing : progress.files.lookup path = none)
      (fresh : ∀ frame ∈ progress.frames, frame.key ≠ some path.text)
      (served : context.loader.read path = .ok text) (parsed : Json.parse text = .ok document) :
      Transition context progress
        ((progress.note (.read path)).push (fileFrame path document))
  | fileDeclared (progress : Progress) (path : Path) (node : NodeId) (name : String)
      (enclosing : Frame) (outer : List Frame) (own : progress.frame.key = some path.text)
      (nested : progress.outer = enclosing :: outer) (known : node < progress.model.size) :
      Transition context progress
        (((((progress.pop.release path.text).declare (.file path) path.text node
            (Identifier.ofName name)).add (.reference (Identifier.ofName name))).remember path
            progress.model.size).note (.located path (some progress.model.size)))
  | fileInlined (progress : Progress) (path : Path) (node : NodeId)
      (enclosing : Frame) (outer : List Frame) (own : progress.frame.key = some path.text)
      (nested : progress.outer = enclosing :: outer) (known : node < progress.model.size)
      (unforced : path.text ∉ progress.forced)
      (simple : (progress.node node).isSimple = true) :
      Transition context progress
        ((inlineFile path node (progress.pop.release path.text)).note
          (.located path (some node)))

/-- Any number of changes, one after the other. -/
abbrev Run (context : Context) : Progress → Progress → Prop :=
  Relation.ReflTransGen (Transition context)

/-- What every change keeps holds after a run if it holds before. -/
theorem Run.keeps {context : Context} {property : Progress → Prop}
    (step : ∀ before after, Transition context before after → property before → property after)
    {before after : Progress} (run : Run context before after) (holds : property before) :
    property after := by
  induction run with
  | refl => exact holds
  | tail _ change inductionHypothesis => exact step _ _ change inductionHypothesis

/-- A run that comes back to the document and to the pending pointers that it began with. -/
structure Passage (context : Context) (before after : Progress) : Prop where
  run : Run context before after
  frame : after.frame = before.frame
  outer : after.outer = before.outer
  pending : after.pending = before.pending
  opened : openPointers after.journal = openPointers before.journal

namespace Passage

variable {context : Context} {before middle after : Progress}

/-- A run of no changes comes back. -/
theorem refl (progress : Progress) : Passage context progress progress :=
  ⟨.refl, rfl, rfl, rfl, rfl⟩

/-- Two runs that come back one after the other are one that does. -/
theorem trans (first : Passage context before middle) (second : Passage context middle after) :
    Passage context before after :=
  ⟨first.run.trans second.run, second.frame.trans first.frame, second.outer.trans first.outer,
    second.pending.trans first.pending, second.opened.trans first.opened⟩

/-- A run still comes back when a change follows that touches neither documents nor pending
pointers. -/
theorem step (first : Passage context before middle) (change : Transition context middle after)
    (frame : after.frame = middle.frame) (outer : after.outer = middle.outer)
    (pending : after.pending = middle.pending)
    (opened : openPointers after.journal = openPointers middle.journal) :
    Passage context before after :=
  first.trans ⟨.single change, frame, outer, pending, opened⟩

end Passage

end SchemaTypes
