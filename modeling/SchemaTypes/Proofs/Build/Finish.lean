/-
This file takes a successful compilation apart into a run and the changes that come after it: the
root is declared, and the references that were handed out get the final names of their targets.
-/
import SchemaTypes.Compilation.Result
import SchemaTypes.Proofs.Build.Growth
import SchemaTypes.Proofs.Build.Resolution

namespace SchemaTypes

open Build

/-- What a run has come to when the root of a compilation is resolved. -/
def Compilation.declared (compilation : Compilation) (last : Progress) : Progress :=
  last.declare .name compilation.id compilation.root compilation.id

/-- The root may have its title already, and its declaration gives it the same name again. -/
theorem Compilation.exists_run {context : Context} {document : Json} {sourcePath : Option Path}
    {compilation : Compilation} (built : build context document sourcePath = .ok compilation) :
    ∃ last, Passage context (Progress.start (rootFrame document sourcePath)) last ∧
      compilation.root < last.model.size ∧
      compilation.progress = bindReferences (rootFrame document sourcePath).ownKey
        compilation.root (compilation.declared last) := by
  simp only [build] at built
  cases outcome : run context document sourcePath with
  | error error progress => simp [outcome] at built
  | ok root progress =>
      simp only [outcome, Except.ok.injEq] at built
      simp only [run, bind_eq_ok, modify_bind, pure_apply, EStateM.Result.ok.injEq] at outcome
      obtain ⟨made, middle, resolved, rfl, rfl⟩ := outcome
      obtain ⟨last, passage, known, titled⟩ := resolveFragment_run (.start _) resolved
      subst built
      refine ⟨last, passage, known, ?_⟩
      rcases titled with rfl | ⟨name, rfl⟩
      · simp only [declared]
      · simp only [declared, Progress.declare, Progress.setId, Model.setId_setId]

namespace Compilation

variable {progress : Progress} {rootKey : String} {root : NodeId}

/-- A bound reference changes its shape and not the names of nodes. -/
theorem bindReference_id (model : Model) (entry : String × NodeId) (node : NodeId) :
    ((bindReference progress rootKey root model entry).node node).id = (model.node node).id := by
  unfold bindReference
  split
  · exact Model.id_setShape ..
  · rfl

/-- A reference is bound in place, so no node is added. -/
theorem bindReference_size (model : Model) (entry : String × NodeId) :
    (bindReference progress rootKey root model entry).size = model.size := by
  unfold bindReference
  split
  · exact Model.size_setShape ..
  · rfl

/-- The names of nodes are final before the references get them. -/
theorem bindReferences_id (node : NodeId) :
    ((bindReferences rootKey root progress).node node).id = (progress.node node).id := by
  have fold (entries : List (String × NodeId)) (model : Model) :
      ((entries.foldl (bindReference progress rootKey root) model).node node).id =
        (model.node node).id := by
    induction entries generalizing model with
    | nil => rfl
    | cons entry rest inductionHypothesis =>
        rw [List.foldl_cons, inductionHypothesis, bindReference_id]
  exact fold progress.forward progress.model

theorem foldl_bindReference_size (entries : List (String × NodeId)) (model : Model) :
    (entries.foldl (bindReference progress rootKey root) model).size = model.size := by
  induction entries generalizing model with
  | nil => rfl
  | cons entry rest inductionHypothesis =>
      rw [List.foldl_cons, inductionHypothesis, bindReference_size]

/-- Binding all references adds no node. -/
theorem bindReferences_size :
    (bindReferences rootKey root progress).model.size = progress.model.size :=
  foldl_bindReference_size progress.forward progress.model

/-- A reference gets the name that is bound to one of its keys, and nothing else changes. -/
theorem bindReferences_shape {node : NodeId} (known : node < progress.model.size) :
    (∃ key name, (key, node) ∈ progress.forward ∧
      boundName? progress rootKey root key = some name ∧
        ((bindReferences rootKey root progress).node node).shape =
          .reference (Identifier.ofName name)) ∨
      (∀ key, (key, node) ∈ progress.forward → boundName? progress rootKey root key = none) ∧
        ((bindReferences rootKey root progress).node node).shape = (progress.node node).shape := by
  have fold (entries : List (String × NodeId)) (model : Model) (inside : node < model.size) :
      (∃ key name, (key, node) ∈ entries ∧ boundName? progress rootKey root key = some name ∧
        ((entries.foldl (bindReference progress rootKey root) model).node node).shape =
          .reference (Identifier.ofName name)) ∨
        (∀ key, (key, node) ∈ entries → boundName? progress rootKey root key = none) ∧
          ((entries.foldl (bindReference progress rootKey root) model).node node).shape =
            (model.node node).shape := by
    induction entries generalizing model with
    | nil => exact .inr ⟨by simp, rfl⟩
    | cons entry rest inductionHypothesis =>
        obtain ⟨key, handedOut⟩ := entry
        rcases inductionHypothesis (bindReference progress rootKey root model (key, handedOut))
            (by rw [bindReference_size]; exact inside) with
          ⟨later, name, member, bound, shape⟩ | ⟨unbound, shape⟩
        · exact .inl ⟨later, name, List.mem_cons_of_mem _ member, bound, shape⟩
        · rw [List.foldl_cons, shape]
          cases bound : boundName? progress rootKey root key with
          | none =>
              refine .inr ⟨?_, by simp [bindReference, bound]⟩
              intro other member
              rcases List.mem_cons.mp member with same | later
              · rw [(Prod.mk.inj same).1, bound]
              · exact unbound other later
          | some name =>
              by_cases same : node = handedOut
              · subst same
                exact .inl ⟨key, name, List.mem_cons_self, bound,
                  by simp [bindReference, bound, Model.shape_setShape, inside]⟩
              · refine .inr ⟨?_, by simp [bindReference, bound, Model.shape_setShape, same]⟩
                intro other member
                rcases List.mem_cons.mp member with equal | later
                · exact absurd (Prod.mk.inj equal).2 same
                · exact unbound other later
  exact fold progress.forward progress.model known

/-- A closed compilation is evaluated to its end. -/
theorem exists_ok {outcome : Except CompileError Compilation} {property : Compilation → Bool}
    (holds : outcome.toOption.any property = true) :
    ∃ compilation, outcome = .ok compilation ∧ property compilation = true := by
  cases outcome with
  | error error => cases holds
  | ok compilation => exact ⟨compilation, rfl, holds⟩

end Compilation
end SchemaTypes
