/-
This file shows that a compilation keeps the shapes of its nodes and the entries of its tables.
-/
import SchemaTypes.Proofs.Build.Scope

namespace SchemaTypes

open Build

variable {context : Context} {before after : Progress}

/-- A node has its shape from the beginning. -/
theorem Transition.shape_eq (change : Transition context before after) {node : NodeId}
    (known : node < before.model.size) : (after.node node).shape = (before.node node).shape := by
  cases change with
  | pointerFinished pointer target made rest awaited found madeKnown visited =>
      simp only [Progress.note, finishPointer]
      split <;> simp [Progress.release, Progress.leave, Progress.declare, Progress.node]
  | fileDeclared path made name enclosing outer own nested madeKnown =>
      rw [Progress.pop_of_outer nested]
      simp [Progress.note, Progress.remember, Progress.add, Progress.declare, Progress.release,
        Progress.node, Model.node_add_of_lt, known]
  | fileInlined path made enclosing outer own nested madeKnown unforced =>
      rw [Progress.pop_of_outer nested]
      simp only [Progress.note, inlineFile]
      split <;> simp [Progress.remember, Progress.release, Progress.setId, Progress.node]
  | _ =>
      simp [Progress.add, Progress.putEnum, Progress.declare, Progress.setId, Progress.node,
        Progress.setDescription, Progress.note, Progress.refer, Progress.enter, Progress.push,
        Model.node_add_of_lt, known]

/-- The journal only grows. -/
theorem Transition.journal_suffix (change : Transition context before after) :
    before.journal <:+ after.journal := by
  cases change with
  | pointerFinished pointer target made rest awaited found madeKnown visited =>
      simp only [Progress.note, finishPointer]
      split
      · exact ⟨[_, _, _], rfl⟩
      · exact ⟨[_, _], rfl⟩
  | fileDeclared path made name enclosing outer own nested madeKnown =>
      rw [Progress.pop_of_outer nested]
      exact ⟨[_, _], rfl⟩
  | fileInlined path made enclosing outer own nested madeKnown unforced =>
      rw [Progress.pop_of_outer nested]
      simp only [Progress.note, inlineFile]
      split <;> exact ⟨[_], rfl⟩
  | allocated => exact List.suffix_rfl
  | titled => exact List.suffix_rfl
  | described => exact List.suffix_rfl
  | documentReferred => exact List.suffix_rfl
  | _ => exact ⟨[_], rfl⟩

/-- The references that were handed out are kept. -/
theorem Transition.forward_suffix (change : Transition context before after) :
    before.forward <:+ after.forward := by
  cases change with
  | pointerFinished pointer target made rest awaited found madeKnown visited =>
      simp only [Progress.note, finishPointer]
      split <;> exact List.suffix_rfl
  | fileDeclared path made name enclosing outer own nested madeKnown =>
      rw [Progress.pop_of_outer nested]
      exact List.suffix_rfl
  | fileInlined path made enclosing outer own nested madeKnown unforced =>
      rw [Progress.pop_of_outer nested]
      simp only [Progress.note, inlineFile]
      split <;> exact List.suffix_rfl
  | documentReferred => exact ⟨[_], rfl⟩
  | pointerReferred => exact ⟨[_], rfl⟩
  | fileReferred => exact ⟨[_], rfl⟩
  | _ => exact List.suffix_rfl

/-- No file that was read is forgotten. -/
theorem Transition.files_suffix (change : Transition context before after) :
    before.files <:+ after.files := by
  cases change with
  | pointerFinished pointer target made rest awaited found madeKnown visited =>
      simp only [Progress.note, finishPointer]
      split <;> exact List.suffix_rfl
  | fileDeclared path made name enclosing outer own nested madeKnown =>
      rw [Progress.pop_of_outer nested]
      exact ⟨[_], rfl⟩
  | fileInlined path made enclosing outer own nested madeKnown unforced =>
      rw [Progress.pop_of_outer nested]
      simp only [Progress.note, inlineFile]
      split <;> exact ⟨[_], rfl⟩
  | _ => exact List.suffix_rfl

end SchemaTypes
