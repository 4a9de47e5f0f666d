/-
This file shows that every reference that was handed out in advance gets the final name of its
target. No such reference belongs to two keys, so they can be bound in any order.
-/
import Mathlib.Data.List.Nodup
import Mathlib.Data.List.Perm.Basic
import SchemaTypes.Proofs.Names.Printed

namespace SchemaTypes

open Build

/-- Every reference is a node of its own. -/
def Progress.Distinct (progress : Progress) : Prop := (progress.forward.map Prod.snd).Nodup

namespace Progress.Distinct

variable {before after : Progress}

/-- A new reference is a new node. -/
theorem refer (within : before.Scoped) (distinct : before.Distinct) (key name : String) :
    (before.refer key name).Distinct := by
  refine List.nodup_cons.mpr ⟨?_, distinct⟩
  intro member
  obtain ⟨entry, inside, same⟩ := List.mem_map.mp member
  have known := within.forward entry inside
  rw [same] at known
  exact Nat.lt_irrefl _ known

/-- Every reference that is handed out is a node of its own. -/
theorem step {context : Context} (before after : Progress)
    (change : Transition context before after) (within : before.Scoped)
    (distinct : before.Distinct) : after.Distinct := by
  cases change with
  | documentReferred => exact distinct.refer within _ before.frame.name
  | pointerReferred pointer => exact distinct.refer within _ (pointerName context.settings pointer)
  | fileReferred path frame => exact distinct.refer within _ frame.name
  | pointerFinished pointer target made rest awaited found madeKnown visited =>
      simp only [Progress.note, finishPointer]
      split <;> exact distinct
  | fileDeclared path made name enclosing outer own nested madeKnown =>
      rw [Progress.pop_of_outer nested]
      exact distinct
  | fileInlined path made enclosing outer own nested madeKnown unforced =>
      rw [Progress.pop_of_outer nested]
      simp only [Progress.note, inlineFile]
      split <;> exact distinct
  | _ => exact distinct

end Progress.Distinct

namespace Compilation

variable {context : Context} {document : Json} {sourcePath : Option Path}
  {compilation : Compilation}

/-- No reference of a compilation waits for two keys. -/
theorem forward_distinct (built : build context document sourcePath = .ok compilation) :
    compilation.progress.Distinct := by
  obtain ⟨last, passage, -, same⟩ := exists_run built
  have kept := @Run.keeps context (fun progress => progress.Scoped ∧ progress.Distinct)
    (fun before after change holds =>
      ⟨.step before after change holds.1, .step before after change holds.1 holds.2⟩)
    _ _ passage.run ⟨.start _, List.nodup_nil⟩
  rw [same]
  exact kept.2

/-- A compilation is a run whose references were bound in the end. -/
theorem build_eq_ok (built : build context document sourcePath = .ok compilation) :
    ∃ progress, run context document sourcePath = .ok compilation.root progress ∧
      compilation.progress =
        bindReferences (rootFrame document sourcePath).ownKey compilation.root progress := by
  simp only [build] at built
  cases outcome : run context document sourcePath with
  | error error progress => simp [outcome] at built
  | ok root progress =>
      simp only [outcome, Except.ok.injEq] at built
      subst built
      exact ⟨progress, rfl, rfl⟩

/-- References that are bound one after the other can change places. -/
theorem bindReference_comm {progress : Progress} {rootKey : String} {root : NodeId}
    (model : Model) {first second : String × NodeId} (apart : first.2 ≠ second.2) :
    bindReference progress rootKey root (bindReference progress rootKey root model first) second =
      bindReference progress rootKey root (bindReference progress rootKey root model second)
        first := by
  unfold bindReference
  cases boundName? progress rootKey root first.1 with
  | none => rfl
  | some name =>
      cases boundName? progress rootKey root second.1 with
      | none => rfl
      | some other => exact model.setShape_comm apart _ _

/-- References that are nodes of their own may be bound in any order. -/
theorem foldl_bindReference_perm {progress : Progress} (rootKey : String) (root : NodeId)
    (distinct : progress.Distinct) {order : List (String × NodeId)}
    (permuted : order.Perm progress.forward) :
    order.foldl (bindReference progress rootKey root) progress.model =
      (bindReferences rootKey root progress).model := by
  refine permuted.foldl_eq' ?_ progress.model
  intro first firstMember second secondMember model
  by_cases same : first = second
  · rw [same]
  · refine bindReference_comm model fun equal => same ?_
    exact List.inj_on_of_nodup_map distinct (permuted.subset firstMember)
      (permuted.subset secondMember) equal

/-- A reference that was handed out for a key has the name of the node that the key stands for. -/
theorem forward_leads (built : build context document sourcePath = .ok compilation)
    {key : String} {reference : NodeId}
    (handedOut : (key, reference) ∈ compilation.progress.forward) :
    ∃ target name,
      (if key = (rootFrame document sourcePath).ownKey then some compilation.root
        else compilation.declarations.get? key) = some target ∧
      (compilation.model.node target).id = some name ∧
      (compilation.model.node reference).shape = .reference (Identifier.ofName name) := by
  have distinct := forward_distinct built
  obtain ⟨progress, closed⟩ := exists_closed built
  have bound := closed.bound
  have member : (key, reference) ∈ progress.forward := by
    rw [bound] at handedOut
    exact handedOut
  have known : reference < progress.model.size := by
    obtain ⟨name, shape⟩ := closed.recorded.forward _ member
    exact Model.lt_size_of_shape (by rw [← Progress.node, shape]; simp)
  obtain ⟨name, isBound⟩ := closed.forward _ member
  obtain ⟨target, leads, named⟩ := Option.bind_eq_some_iff.mp isBound
  refine ⟨target, name, ?_, ?_, ?_⟩
  · rw [declarations, bound]
    exact leads
  · rw [model, bound]
    exact (bindReferences_id target).trans named
  · rcases bindReferences_shape known with ⟨other, text, inside, given, shape⟩ | ⟨unbound, -⟩
    · have sameKey : (other, reference) = (key, reference) := by
        rw [bound] at distinct
        exact List.inj_on_of_nodup_map distinct inside member rfl
      obtain ⟨rfl, -⟩ := Prod.mk.inj sameKey
      obtain rfl : text = name := Option.some.inj (given.symm.trans isBound)
      rw [model, bound]
      exact shape
    · rw [unbound key member] at isBound
      cases isBound

/-- Every reference that was handed out for a key has the final name of the root, if it is the
root's key, and otherwise of the node that the key holds in the end, and this node exists and has a
name. The references may be bound in any order. -/
theorem forward_bound (built : build context document sourcePath = .ok compilation) :
    (∀ key reference, (key, reference) ∈ compilation.progress.forward →
      ∃ target name,
        (if key = (rootFrame document sourcePath).ownKey then some compilation.root
          else compilation.declarations.get? key) = some target ∧
        (compilation.model.node target).id = some name ∧
        (compilation.model.node reference).shape = .reference (Identifier.ofName name)) ∧
    ∃ progress, run context document sourcePath = .ok compilation.root progress ∧
      ∀ order : List (String × NodeId), order.Perm progress.forward →
        order.foldl (bindReference progress (rootFrame document sourcePath).ownKey
          compilation.root) progress.model = compilation.model := by
  constructor
  · exact fun key reference handedOut => forward_leads built handedOut
  · obtain ⟨progress, outcome, same⟩ := build_eq_ok built
    refine ⟨progress, outcome, fun order permuted => ?_⟩
    have distinct := forward_distinct built
    rw [same] at distinct
    rw [model, same]
    exact @foldl_bindReference_perm progress _ _ distinct _ permuted

/-- A document that is nothing but its own recursive definition. -/
def recursiveRoot : Json :=
  .object [("$ref", .string "#/definitions/node"),
    ("definitions", .object [("node", .object [("properties", .object [
      ("next", .object [("$ref", .string "#/definitions/node")])])])])]

/-- The reference is handed out as `Node`, and the root takes its definition's name away. -/
theorem forward_bound_recursiveRoot :
    ∃ compilation, build ⟨{}, .ofFiles []⟩ recursiveRoot none = .ok compilation ∧
      compilation.progress.forward = [("definitions/node", 0)] ∧
      compilation.id = "Interface1" ∧
      ∃ target name, compilation.declarations.get? "definitions/node" = some target ∧
        (compilation.model.node target).id = some name ∧
        (compilation.model.node 0).shape = .reference (Identifier.ofName name) := by
  obtain ⟨compilation, built, checked⟩ := exists_ok
    (show (build ⟨{}, .ofFiles []⟩ recursiveRoot none).toOption.any (fun compilation => decide
      (compilation.progress.forward = [("definitions/node", 0)] ∧
        compilation.id = "Interface1")) = true by decide +kernel)
  obtain ⟨forward, id⟩ := of_decide_eq_true checked
  refine ⟨compilation, built, forward, id, ?_⟩
  exact (forward_bound built).1 "definitions/node" 0 (by rw [forward]; exact List.mem_cons_self)

end Compilation
end SchemaTypes
