/-
This file shows that every elementary change of a compilation keeps its nodes in order: all numbers
that are kept are nodes, and all children of a node come before it.
-/
import SchemaTypes.Proofs.Build.Finish
import SchemaTypes.Proofs.Model.Grounded

namespace SchemaTypes

open Build

/-- Closing a document leaves the model alone. -/
theorem Progress.model_pop (progress : Progress) : progress.pop.model = progress.model := by
  cases nested : progress.outer <;> simp [Progress.pop, nested]

/-- The tables hold nodes of the model, and every node comes after its children. -/
structure Progress.Sound (progress : Progress) : Prop extends progress.Scoped where
  grounded : progress.model.Grounded

namespace Progress.Sound

variable {progress : Progress}

/-- A compilation begins with an empty model and empty tables. -/
theorem start (frame : Frame) : (Progress.start frame).Sound :=
  ⟨.start frame, .empty⟩

/-- Changes of anything but the model and the tables make no difference. -/
theorem keep {after : Progress} (sound : progress.Sound) (model : after.model = progress.model)
    (declarations : after.declarations = progress.declarations)
    (forward : after.forward = progress.forward) (files : after.files = progress.files) :
    after.Sound :=
  ⟨sound.toScoped.grow (Nat.le_of_eq (congrArg Model.size model.symm)) declarations forward files,
    model ▸ sound.grounded⟩

/-- A node whose children are in the model comes after them. -/
theorem add (sound : progress.Sound) {shape : Shape}
    (children : ∀ child ∈ shape.children, child < progress.model.size) :
    (progress.add shape).Sound :=
  ⟨sound.toScoped.add shape, sound.grounded.add children⟩

/-- A name does not touch the children of a node. -/
theorem setId (sound : progress.Sound) (node : NodeId) (id : Option String) :
    (progress.setId node id).Sound :=
  ⟨sound.toScoped.setId node id, sound.grounded.setId node id⟩

theorem setDescription (sound : progress.Sound) (node : NodeId) (description : Option String) :
    (progress.setDescription node description).Sound :=
  ⟨sound.toScoped.grow (by simp [Progress.setDescription]) rfl rfl rfl,
    sound.grounded.setDescription node description⟩

/-- A declaration names a node and puts it into the table. -/
theorem declare (sound : progress.Sound) (origin : Origin) (key name : String) {node : NodeId}
    (known : node < progress.model.size) : (progress.declare origin key node name).Sound :=
  ⟨sound.toScoped.declare origin key name known, sound.grounded.setId node (some name)⟩

theorem putEnum (sound : progress.Sound) (name : String) (generated : Bool) {node : NodeId}
    (known : node < progress.model.size) : (progress.putEnum name generated node).Sound :=
  ⟨sound.toScoped.putEnum name generated known, sound.grounded.setId node (some name)⟩

theorem refer (sound : progress.Sound) (key name : String) : (progress.refer key name).Sound :=
  ⟨sound.toScoped.refer key name,
    @Model.Grounded.add _ sound.grounded (.reference (Identifier.ofName name))
      (by simp [Shape.children])⟩

theorem remember (sound : progress.Sound) (path : Path) {node : NodeId}
    (known : node < progress.model.size) : (progress.remember path node).Sound :=
  ⟨sound.toScoped.remember path known, sound.grounded⟩

theorem pop (sound : progress.Sound) : progress.pop.Sound := by
  cases nested : progress.outer with
  | nil => simpa [Progress.pop, nested] using sound
  | cons enclosing outer =>
      rw [Progress.pop_of_outer nested]
      exact sound.keep rfl rfl rfl rfl

/-- Every change keeps children before their nodes. -/
theorem step {context : Context} (before after : Progress)
    (change : Transition context before after) (sound : before.Sound) : after.Sound := by
  refine ⟨.step before after change sound.toScoped, ?_⟩
  have reference (name : String) : (before.model.add (.reference name)).Grounded :=
    @Model.Grounded.add _ sound.grounded (.reference name) (by simp [Shape.children])
  cases change with
  | allocated shape noEnum noReference children => exact sound.grounded.add children
  | enumStored members chosen =>
      exact (@Model.Grounded.add _ sound.grounded (.namedEnum members)
        (by simp [Shape.children])).setId _ _
  | named node name => exact sound.grounded.setId node (some name)
  | titled node name => exact sound.grounded.setId node (some name)
  | described node description => exact sound.grounded.setDescription node description
  | documentReferred => exact reference _
  | pointerReferred => exact reference _
  | fileReferred => exact reference _
  | pointerLost => exact @Model.Grounded.add _ sound.grounded .any (by simp [Shape.children])
  | pointerFinished pointer target made rest awaited found madeKnown visited =>
      simp only [Progress.note, finishPointer]
      split
      · exact sound.grounded.setId _ _
      · exact sound.grounded
  | fileDeclared path made name enclosing outer own nested madeKnown =>
      rw [Progress.pop_of_outer nested]
      exact @Model.Grounded.add _ (sound.grounded.setId made _) (.reference _)
        (by simp [Shape.children])
  | fileInlined path made enclosing outer own nested madeKnown unforced =>
      rw [Progress.pop_of_outer nested]
      simp only [Progress.note, inlineFile]
      split
      · exact sound.grounded
      · exact sound.grounded.setId made none
  | _ => exact sound.grounded

end Progress.Sound

/-- References may get other names, one after the other. -/
theorem Compilation.foldl_bindReference_sound {progress : Progress} (sound : progress.Sound)
    (rootKey : String) (root : NodeId) (entries : List (String × NodeId)) :
    Progress.Sound
      { progress with
        model := entries.foldl (bindReference progress rootKey root) progress.model } := by
  have fold (model : Model) (grounded : model.Grounded) :
      (entries.foldl (bindReference progress rootKey root) model).Grounded := by
    induction entries generalizing model with
    | nil => exact grounded
    | cons entry rest inductionHypothesis =>
        refine inductionHypothesis _ ?_
        unfold bindReference
        split
        · exact grounded.setReference _ _
        · exact grounded
  exact ⟨sound.toScoped.grow (Nat.le_of_eq (foldl_bindReference_size ..).symm) rfl rfl rfl,
    fold progress.model sound.grounded⟩

/-- The references that are bound in the end have no children. -/
theorem Compilation.bindReferences_sound {progress : Progress} (sound : progress.Sound)
    (rootKey : String) (root : NodeId) : (bindReferences rootKey root progress).Sound :=
  foldl_bindReference_sound sound rootKey root progress.forward

end SchemaTypes
