/-
This file shows that a compilation only ever keeps nodes that are in its model.
-/
import SchemaTypes.Proofs.Build.Transition

namespace SchemaTypes

open Build

/-- The nodes that the tables of a compilation hold are in its model. -/
structure Progress.Scoped (progress : Progress) : Prop where
  named : ∀ node ∈ progress.declarations.named.values, node < progress.model.size
  enums : ∀ node ∈ progress.declarations.enums.values, node < progress.model.size
  forward : ∀ entry ∈ progress.forward, entry.2 < progress.model.size
  files : ∀ entry ∈ progress.files, entry.2 < progress.model.size

/-- A change never takes a node away. -/
theorem Transition.size_le {context : Context} {before after : Progress}
    (change : Transition context before after) : before.model.size ≤ after.model.size := by
  cases change with
  | pointerFinished pointer target node rest awaited found known made =>
      simp only [Progress.note, finishPointer]
      split <;> simp [Progress.release, Progress.leave, Progress.declare]
  | fileDeclared path node name enclosing outer own nested known =>
      simp [Progress.note, Progress.remember, Progress.add, Progress.declare, Progress.release,
        Progress.pop, nested]
  | fileInlined path node enclosing outer own nested known unforced =>
      simp only [Progress.note, inlineFile]
      split <;> simp [Progress.remember, Progress.release, Progress.setId, Progress.pop, nested]
  | _ =>
      simp [Progress.add, Progress.putEnum, Progress.declare, Progress.setId,
        Progress.setDescription, Progress.note, Progress.refer, Progress.enter, Progress.push]

/-- No node is ever taken out of the model. -/
theorem Run.size_le {context : Context} {before after : Progress}
    (run : Run context before after) : before.model.size ≤ after.model.size := by
  induction run with
  | refl => exact Nat.le_refl _
  | tail _ change inductionHypothesis => exact Nat.le_trans inductionHypothesis change.size_le

namespace Progress.Scoped

variable {progress : Progress}

/-- A compilation begins with empty tables. -/
theorem start (frame : Frame) : (Progress.start frame).Scoped :=
  ⟨by simp [Progress.start, Declarations.empty, Table.values],
    by simp [Progress.start, Declarations.empty, Table.values],
    by simp [Progress.start], by simp [Progress.start]⟩

/-- Nothing is lost when the model grows. -/
theorem grow {after : Progress} (within : progress.Scoped)
    (size : progress.model.size ≤ after.model.size)
    (declarations : after.declarations = progress.declarations)
    (forward : after.forward = progress.forward) (files : after.files = progress.files) :
    after.Scoped := by
  refine ⟨?_, ?_, ?_, ?_⟩
  · intro node member
    rw [declarations] at member
    exact Nat.lt_of_lt_of_le (within.named node member) size
  · intro node member
    rw [declarations] at member
    exact Nat.lt_of_lt_of_le (within.enums node member) size
  · intro entry member
    rw [forward] at member
    exact Nat.lt_of_lt_of_le (within.forward entry member) size
  · intro entry member
    rw [files] at member
    exact Nat.lt_of_lt_of_le (within.files entry member) size

theorem add (within : progress.Scoped) (shape : Shape) : (progress.add shape).Scoped :=
  within.grow (by simp [Progress.add]) rfl rfl rfl

theorem setId (within : progress.Scoped) (node : NodeId) (id : Option String) :
    (progress.setId node id).Scoped :=
  within.grow (by simp [Progress.setId]) rfl rfl rfl

theorem release (within : progress.Scoped) (key : String) : (progress.release key).Scoped :=
  within.grow (Nat.le_refl _) rfl rfl rfl

theorem note (within : progress.Scoped) (event : Event) : (progress.note event).Scoped :=
  within.grow (Nat.le_refl _) rfl rfl rfl

/-- A declaration of a node of the model keeps the tables inside the model. -/
theorem declare (within : progress.Scoped) (origin : Origin) (key name : String) {node : NodeId}
    (known : node < progress.model.size) : (progress.declare origin key node name).Scoped := by
  refine ⟨?_, ?_, ?_, ?_⟩
  · intro other member
    simp only [Progress.declare, Model.size_setId]
    rcases Table.mem_values_put member with rfl | old
    · exact known
    · exact within.named other old
  · simpa [Progress.declare, Declarations.declare] using within.enums
  · simpa [Progress.declare] using within.forward
  · simpa [Progress.declare] using within.files

/-- An enum that is stored by its name is a node of the model. -/
theorem putEnum (within : progress.Scoped) (name : String) (generated : Bool) {node : NodeId}
    (known : node < progress.model.size) : (progress.putEnum name generated node).Scoped := by
  refine ⟨?_, ?_, ?_, ?_⟩
  · simpa [Progress.putEnum, Declarations.putEnum] using within.named
  · intro other member
    simp only [Progress.putEnum, Model.size_setId]
    rcases Table.mem_values_put member with rfl | old
    · exact known
    · exact within.enums other old
  · simpa [Progress.putEnum] using within.forward
  · simpa [Progress.putEnum] using within.files

/-- A forward reference is put into its table together with its node. -/
theorem refer (within : progress.Scoped) (key name : String) :
    (progress.refer key name).Scoped := by
  have grown := within.add (.reference (Identifier.ofName name))
  refine ⟨grown.named, grown.enums, ?_, grown.files⟩
  intro entry member
  rcases List.mem_cons.mp member with rfl | old
  · simp [Progress.refer]
  · exact grown.forward entry old

/-- The node of a file is remembered while it is in the model. -/
theorem remember (within : progress.Scoped) (path : Path) {node : NodeId}
    (known : node < progress.model.size) : (progress.remember path node).Scoped := by
  refine ⟨within.named, within.enums, within.forward, ?_⟩
  intro entry member
  rcases List.mem_cons.mp member with rfl | old
  · exact known
  · exact within.files entry old

/-- Every change keeps the tables inside the model. -/
theorem step {context : Context} (before after : Progress)
    (change : Transition context before after) (within : before.Scoped) : after.Scoped := by
  cases change with
  | enumStored members chosen =>
      exact (within.add (.namedEnum members)).putEnum _ _ (by simp [Progress.add])
  | named node name known unnamed => exact within.declare .name name name known
  | documentReferred => exact within.refer _ _
  | pointerReferred pointer missing awaited => exact (within.refer _ _).note _
  | pointerFinished pointer target node rest awaited found known made =>
      have left : (before.leave (before.frame.pointerKey pointer)).Scoped :=
        within.grow (Nat.le_refl _) rfl rfl rfl
      have released := left.release (before.frame.pointerKey pointer)
      apply note
      simp only [finishPointer]
      split
      · exact released.declare _ _ _ known
      · exact released
  | fileReferred path frame opened key => exact (within.refer _ _).note _
  | fileDeclared path node name enclosing outer own nested known =>
      rw [Progress.pop_of_outer nested]
      have popped : Progress.Scoped { before with frame := enclosing, outer } :=
        within.grow (Nat.le_refl _) rfl rfl rfl
      have declared := (popped.release path.text).declare (.file path) path.text
        (Identifier.ofName name) known
      have added := declared.add (.reference (Identifier.ofName name))
      refine Progress.Scoped.note (added.remember path ?_) _
      simp [Progress.add, Progress.declare, Progress.release]
  | fileInlined path node enclosing outer own nested known unforced =>
      rw [Progress.pop_of_outer nested]
      have popped : Progress.Scoped { before with frame := enclosing, outer } :=
        within.grow (Nat.le_refl _) rfl rfl rfl
      have released := popped.release path.text
      apply note
      unfold inlineFile
      split
      · exact released.remember path known
      · exact (released.setId node none).remember path
          (by simpa [Progress.setId, Progress.release] using known)
  | _ =>
      exact within.grow (by simp [Progress.add, Progress.setId, Progress.setDescription,
        Progress.note, Progress.enter, Progress.push]) rfl rfl rfl

end Progress.Scoped

/-- A run that comes back ends with tables inside its model. -/
theorem Passage.within {context : Context} {before after : Progress}
    (passage : Passage context before after) (within : before.Scoped) : after.Scoped :=
  passage.run.keeps Progress.Scoped.step within

end SchemaTypes
