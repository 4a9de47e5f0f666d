/-
This file says which nodes are written. Main statement: a registered node is written at most once,
and it is written if and only if it stands in a slot of its kind.
-/
import SchemaTypes.Proofs.Declarations.Recorded

namespace SchemaTypes.Compilation

open Build

variable {context : Context} {document : Json} {sourcePath : Option Path}
  {compilation : Compilation}

/-- All registrations of a compilation. -/
def journal (compilation : Compilation) : List Event := compilation.progress.journal

/-- Everything that was recorded on the way holds when the root is declared. -/
theorem exists_recorded (built : build context document sourcePath = .ok compilation) :
    ∃ progress, progress.Recorded ∧
      compilation.progress =
        bindReferences (rootFrame document sourcePath).ownKey compilation.root progress := by
  obtain ⟨last, passage, known, same⟩ := exists_run built
  have recorded := passage.run.keeps Progress.Recorded.step
    (Progress.Recorded.start (rootFrame document sourcePath))
  exact ⟨compilation.declared last, recorded.declare .name _ _ _, same⟩

/-- What is declared in the end can be read off the journal. -/
theorem declarations_eq_ofJournal (built : build context document sourcePath = .ok compilation) :
    compilation.declarations = Declarations.ofJournal compilation.journal := by
  obtain ⟨progress, recorded, same⟩ := exists_recorded built
  rw [declarations, journal, same]
  exact recorded.declarations

/-- A reference that gets its final name is no named enum, before and after. -/
theorem bindReferences_isNamedEnum {progress : Progress} (recorded : progress.Recorded)
    (rootKey : String) (root node : NodeId) :
    ((bindReferences rootKey root progress).node node).shape.isNamedEnum =
      (progress.node node).shape.isNamedEnum := by
  by_cases known : node < progress.model.size
  · rcases @bindReferences_shape progress rootKey root node known with
      ⟨key, name, member, bound, shape⟩ | ⟨-, shape⟩
    · obtain ⟨old, reference⟩ := recorded.forward (key, node) member
      rw [shape, reference]
      rfl
    · rw [shape]
  · have beyond := Nat.le_of_not_lt known
    have after : ((bindReferences rootKey root progress).node node).shape = .any :=
      Model.shape_of_size_le (by rw [bindReferences_size]; exact beyond)
    have before : (progress.node node).shape = .any := Model.shape_of_size_le beyond
    rw [after, before]

/-- Every named enum was registered as one. -/
theorem registered_of_isNamedEnum (built : build context document sourcePath = .ok compilation)
    {node : NodeId} (isEnum : (compilation.model.node node).shape.isNamedEnum = true) :
    ∃ name, (.enum name, node) ∈ registrations compilation.journal := by
  obtain ⟨progress, recorded, same⟩ := exists_recorded built
  have wasEnum : (progress.node node).shape.isNamedEnum = true := by
    rw [← bindReferences_isNamedEnum recorded (rootFrame document sourcePath).ownKey
      compilation.root, ← same]
    exact isEnum
  have known : node < progress.model.size := Model.lt_size_of_shape fun plain => by
    rw [Progress.node, plain] at wasEnum
    cases wasEnum
  rw [journal, same]
  cases shape : (progress.node node).shape with
  | namedEnum members =>
      have accounts := recorded.accounts node known
      rw [shape] at accounts
      cases accounts with
      | plain noEnum noReference => cases noEnum
      | enum name registered => exact ⟨name, registered⟩
  | _ => rw [shape] at wasEnum; cases wasEnum

/-- What was registered as a named enum is one in the end. -/
theorem isNamedEnum_of_registered (built : build context document sourcePath = .ok compilation)
    {name : String} {node : NodeId}
    (registered : (.enum name, node) ∈ registrations compilation.journal) :
    (compilation.model.node node).shape.isNamedEnum = true := by
  obtain ⟨progress, recorded, same⟩ := exists_recorded built
  rw [journal, same] at registered
  have kept := bindReferences_isNamedEnum recorded (rootFrame document sourcePath).ownKey
    compilation.root node
  rw [← same] at kept
  exact kept.trans (recorded.enums name node registered)

/-- A node is written if it stands in a slot of its kind. -/
theorem mem_emissionOrder_iff (built : build context document sourcePath = .ok compilation)
    (node : NodeId) :
    node ∈ compilation.emissionOrder ↔
      ∃ slot : Slot, slot.isEnum = (compilation.model.node node).shape.isNamedEnum ∧
        Stands compilation.journal slot node := by
  rw [emissionOrder, Declarations.emissionOrder, Declarations.mem_firsts, List.mem_append,
    List.mem_filter, declarations_eq_ofJournal built, Declarations.mem_named_ofJournal,
    Declarations.mem_enums_ofJournal]
  constructor
  · rintro (⟨name, stands⟩ | ⟨⟨key, stands⟩, noEnum⟩)
    · have isEnum := isNamedEnum_of_registered built stands.registered
      exact ⟨.enum name, isEnum.symm, stands⟩
    · exact ⟨.key key, by simpa [Slot.isEnum] using noEnum.symm, stands⟩
  · rintro ⟨slot, kind, stands⟩
    cases slot with
    | key key => exact .inr ⟨⟨key, stands⟩, by simpa [Slot.isEnum] using kind.symm⟩
    | enum name => exact .inl ⟨name, stands⟩

/-- A registered node is written once or not at all. It is written if it still stands in a slot of
its kind, and only then, so a node whose slots no other node took is never lost. -/
theorem emissionOrder_count_registered
    (built : build context document sourcePath = .ok compilation) {slot : Slot} {node : NodeId}
    (registered : (slot, node) ∈ registrations compilation.journal) :
    compilation.emissionOrder.count node ≤ 1 ∧
      (compilation.emissionOrder.count node = 1 ↔
        ∃ slot : Slot, slot.isEnum = (compilation.model.node node).shape.isNamedEnum ∧
          Stands compilation.journal slot node) ∧
      ((∀ slot, (slot, node) ∈ registrations compilation.journal →
          Stands compilation.journal slot node) →
        compilation.emissionOrder.count node = 1) := by
  have distinct : compilation.emissionOrder.Nodup := Declarations.nodup_firsts _
  have once : compilation.emissionOrder.count node = 1 ↔ node ∈ compilation.emissionOrder := by
    rw [distinct.count]
    split <;> simp_all
  refine ⟨List.nodup_iff_count.mp distinct node,
    once.trans (mem_emissionOrder_iff built node), ?_⟩
  intro undisturbed
  rw [once, mem_emissionOrder_iff built]
  cases kind : (compilation.model.node node).shape.isNamedEnum with
  | true =>
      obtain ⟨name, stored⟩ := registered_of_isNamedEnum built kind
      exact ⟨.enum name, rfl, undisturbed _ stored⟩
  | false =>
      refine ⟨slot, ?_, undisturbed slot registered⟩
      cases slot with
      | key key => rfl
      | enum name =>
          rw [isNamedEnum_of_registered built registered] at kind
          cases kind

/-- Two properties with one title. -/
def sharedTitle : Json :=
  .object [("properties", .object [
    ("first", .object [("title", .string "Shared"), ("type", .string "string")]),
    ("second", .object [("title", .string "Shared"), ("type", .string "number")])])]

/-- The second property takes the slot of the first one and is written once. -/
theorem emissionOrder_count_sharedTitle :
    ∃ compilation, build ⟨{}, .ofFiles []⟩ sharedTitle none = .ok compilation ∧
      (Slot.key "Shared", 1) ∈ registrations compilation.journal ∧
        (compilation.emissionOrder.count 1 = 1 ↔
          ∃ slot : Slot, slot.isEnum = (compilation.model.node 1).shape.isNamedEnum ∧
            Stands compilation.journal slot 1) := by
  obtain ⟨compilation, built, registered⟩ := exists_ok
    (show (build ⟨{}, .ofFiles []⟩ sharedTitle none).toOption.any (fun compilation =>
      decide ((Slot.key "Shared", 1) ∈ registrations compilation.journal)) = true by
        decide +kernel)
  have registered := of_decide_eq_true registered
  exact ⟨compilation, built, registered, (emissionOrder_count_registered built registered).2.1⟩

/-- The second node of a title takes the place of the first, which is not written. -/
theorem sharedTitle_displaces :
    ∃ compilation, build ⟨{}, .ofFiles []⟩ sharedTitle none = .ok compilation ∧
      (Slot.key "Shared", 0) ∈ registrations compilation.journal ∧
        compilation.emissionOrder.count 0 = 0 := by
  obtain ⟨compilation, built, checked⟩ := exists_ok
    (show (build ⟨{}, .ofFiles []⟩ sharedTitle none).toOption.any (fun compilation =>
      decide ((Slot.key "Shared", 0) ∈ registrations compilation.journal ∧
        compilation.emissionOrder.count 0 = 0)) = true by decide +kernel)
  exact ⟨compilation, built, of_decide_eq_true checked⟩

end SchemaTypes.Compilation
