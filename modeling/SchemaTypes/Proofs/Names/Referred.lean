/-
This file shows that a reference is always written with the name of a type, from the point where it
is handed out to the end.
-/
import SchemaTypes.Proofs.Build.Finish

namespace SchemaTypes

open Build

/-- References have the names of types. -/
def Progress.RefersByName (progress : Progress) : Prop :=
  ∀ node name, (progress.node node).shape = .reference name →
    ∃ text, name = Identifier.ofName text

namespace Progress.RefersByName

variable {before after : Progress}

/-- At the beginning there are no references. -/
theorem start (frame : Frame) : (Progress.start frame).RefersByName := by
  intro node name shape
  simp [Progress.start, Progress.node, Model.empty, Model.node] at shape

/-- What leaves shapes alone leaves the names of references alone. -/
theorem keep (refers : before.RefersByName)
    (shapes : ∀ node, (after.node node).shape = (before.node node).shape) :
    after.RefersByName := fun node name shape =>
  refers node name ((shapes node).symm.trans shape)

/-- A reference may be added under the name of a type. -/
theorem add (refers : before.RefersByName) {shape : Shape}
    (named : ∀ name, shape = .reference name → ∃ text, name = Identifier.ofName text) :
    (before.add shape).RefersByName := by
  intro node name found
  rw [Progress.node, Progress.add, Model.node_add] at found
  split at found
  · exact named name found
  · exact refers node name found

/-- A forward reference gets the name of a type when it is handed out. -/
theorem refer (refers : before.RefersByName) (key name : String) :
    (before.refer key name).RefersByName := by
  have added : (before.add (.reference (Identifier.ofName name))).RefersByName :=
    refers.add fun _ same => ⟨name, (Shape.reference.inj same).symm⟩
  exact added.keep fun _ => rfl

theorem setId (refers : before.RefersByName) (node : NodeId) (name : Option String) :
    (before.setId node name).RefersByName :=
  refers.keep fun _ => Model.shape_setId ..

/-- Every change names references as types are named. -/
theorem step {context : Context} (before after : Progress)
    (change : Transition context before after) (refers : before.RefersByName) :
    after.RefersByName := by
  cases change with
  | allocated shape noEnum noReference =>
      exact refers.add fun name same => absurd same (noReference name)
  | enumStored members chosen =>
      have added : (before.add (.namedEnum members)).RefersByName :=
        refers.add fun name same => by cases same
      exact added.setId _ _
  | named node name => exact refers.setId node _
  | titled node name => exact refers.setId node _
  | described node description => exact refers.keep fun _ => Model.shape_setDescription ..
  | documentReferred => exact refers.refer _ _
  | pointerReferred pointer => exact refers.refer (before.frame.pointerKey pointer) _
  | pointerLost => exact refers.add fun name same => by cases same
  | fileReferred path frame => exact refers.refer path.text frame.name
  | pointerFinished pointer target node =>
      simp only [finishPointer]
      split
      · exact refers.setId node _
      · exact refers
  | fileDeclared path node name enclosing outer own nested =>
      rw [Progress.pop_of_outer nested]
      exact (refers.setId node (some (Identifier.ofName name))).add fun _ same =>
        ⟨name, (Shape.reference.inj same).symm⟩
  | fileInlined path node enclosing outer own nested =>
      rw [Progress.pop_of_outer nested]
      simp only [inlineFile]
      split
      · exact refers
      · exact refers.setId node none
  | _ => exact refers

end Progress.RefersByName

namespace Compilation

variable {context : Context} {document : Json} {sourcePath : Option Path}
  {compilation : Compilation}

/-- The final names of references are names of types as well. -/
theorem refersByName (built : build context document sourcePath = .ok compilation) :
    compilation.progress.RefersByName := by
  obtain ⟨last, passage, -, same⟩ := exists_run built
  have refers : (compilation.declared last).RefersByName :=
    (passage.run.keeps Progress.RefersByName.step (.start _)).setId _ _
  intro node name shape
  rw [same] at shape
  have known : node < (compilation.declared last).model.size := by
    rw [← @bindReferences_size _ (rootFrame document sourcePath).ownKey compilation.root]
    exact Model.lt_size_of_shape fun plain => by rw [Progress.node, plain] at shape; cases shape
  rcases bindReferences_shape known with ⟨key, text, -, -, bound⟩ | ⟨-, kept⟩
  · exact ⟨text, (Shape.reference.inj (bound.symm.trans shape)).symm⟩
  · exact refers node name (kept.symm.trans shape)

end Compilation
end SchemaTypes
