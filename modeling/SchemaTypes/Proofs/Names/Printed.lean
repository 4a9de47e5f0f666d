/-
This file says what the names in the declarations of a compilation stand for. Main statement: a name
that is printed is declared exactly if its node still stands in a slot of its kind, or if another
node of the output bears the name. A reference to a file must also find the name that its node had
when the file was loaded.
-/
import SchemaTypes.Proofs.Declarations.Emission
import SchemaTypes.Proofs.Names.Awaited
import SchemaTypes.Proofs.Names.Identified
import SchemaTypes.Proofs.Names.Mentions

namespace SchemaTypes

open Build

namespace Compilation

/-- The declaration of a node has a name in its header. -/
def Bears (compilation : Compilation) (node : NodeId) (name : String) : Prop :=
  (compilation.model.node node).id.map Identifier.ofName = some name

def Declares (compilation : Compilation) (name : String) : Prop :=
  ∃ node ∈ compilation.emissionOrder, compilation.Bears node name

instance (compilation : Compilation) (node : NodeId) (name : String) :
    Decidable (compilation.Bears node name) := inferInstanceAs (Decidable (_ = _))

instance (compilation : Compilation) (name : String) : Decidable (compilation.Declares name) :=
  inferInstanceAs (Decidable (∃ node ∈ compilation.emissionOrder, compilation.Bears node name))

/-- The node that a printed name stands for. A reference that was handed out in advance stands for
what its key holds in the end, and a reference to a file for the node that was made of the file. -/
inductive Leads (compilation : Compilation) (rootKey : String) : Mention → NodeId → Prop where
  | name (node : NodeId) : Leads compilation rootKey (.name node) node
  | root {reference : NodeId} (handedOut : (rootKey, reference) ∈ compilation.progress.forward) :
      Leads compilation rootKey (.reference reference) compilation.root
  | key {key : String} {reference target : NodeId} (other : key ≠ rootKey)
      (handedOut : (key, reference) ∈ compilation.progress.forward)
      (stored : compilation.declarations.get? key = some target) :
      Leads compilation rootKey (.reference reference) target
  | file {path : Path} {reference target : NodeId}
      (remembered : (path, reference) ∈ compilation.progress.files)
      (declared : .declared (.file path) path.text target ∈ compilation.journal) :
      Leads compilation rootKey (.reference reference) target

variable {context : Context} {document : Json} {sourcePath : Option Path}
  {compilation : Compilation}

/-- What is known of names when the root is declared and the references get their final names. -/
structure Closed (compilation : Compilation) (rootKey : String) (progress : Progress) : Prop where
  bound : compilation.progress = bindReferences rootKey compilation.root progress
  recorded : progress.Recorded
  identified : progress.Identified
  forward : ∀ entry ∈ progress.forward,
    ∃ name, boundName? progress rootKey compilation.root entry.1 = some name

/-- Before the references are bound, a compilation has recorded all its registrations and names. -/
theorem exists_closed (built : build context document sourcePath = .ok compilation) :
    ∃ progress, compilation.Closed (rootFrame document sourcePath).ownKey progress := by
  obtain ⟨last, passage, known, same⟩ := exists_run built
  have kept := passage.run.keeps_recorded Progress.Identified.step (.start _) (.start _)
  have identified : (compilation.declared last).Identified := kept.2.declare .name _ _ known
  have named {node : NodeId}
      (declared : (compilation.declared last).declarations.isDeclared node = true) :
      ∃ name, ((compilation.declared last).node node).id = some name :=
    Option.ne_none_iff_exists'.mp (identified.named node declared)
  refine ⟨compilation.declared last, same, kept.1.declare .name _ _ _, identified, ?_⟩
  intro entry member
  simp only [boundName?]
  by_cases isRoot : entry.1 = (rootFrame document sourcePath).ownKey
  · rw [if_pos isRoot]
    refine named (Declarations.isDeclared_iff.mpr (.inl ?_))
    exact Table.mem_values_of_get? ((Table.get?_put _ _ _ _).trans (if_pos rfl))
  · have stored : entry.1 ∈ (compilation.declared last).declarations.named.keys :=
      Declarations.keys_subset_declare _ _ _
        ((awaited_of_run passage entry member).resolve_left isRoot)
    obtain ⟨target, found⟩ := Option.isSome_iff_exists.mp ((Table.isSome_get? _ _).mpr stored)
    rw [if_neg isRoot]
    change ∃ name,
      (((compilation.declared last).declarations.named.get? entry.1).bind _) = some name
    rw [found]
    exact named (Declarations.isDeclared_iff.mpr (.inl (Table.mem_values_of_get? found)))

/-- What is written is declared, so it has a name. -/
theorem exists_id (built : build context document sourcePath = .ok compilation) {node : NodeId}
    (emitted : node ∈ compilation.emissionOrder) :
    ∃ id, (compilation.model.node node).id = some id := by
  obtain ⟨progress, closed⟩ := exists_closed built
  have declared : progress.declarations.isDeclared node = true := by
    rw [Declarations.isDeclared_iff]
    have same : compilation.declarations = progress.declarations := by
      rw [declarations, closed.bound]
      rfl
    rw [emissionOrder, same] at emitted
    rcases List.mem_append.mp (Declarations.mem_firsts.mp emitted) with inEnums | inNamed
    · exact .inr inEnums
    · exact .inl (List.mem_filter.mp inNamed).1
  rw [model, closed.bound]
  change ∃ id, ((bindReferences _ _ progress).node node).id = some id
  rw [bindReferences_id]
  exact Option.ne_none_iff_exists'.mp (closed.identified.named node declared)

/-- A mention of a file keeps the name that was given when the file was loaded. -/
def IsFrozen (compilation : Compilation) (mention : Mention) : Prop :=
  ∃ path reference, mention = .reference reference ∧
    (path, reference) ∈ compilation.progress.files

/-- A name is declared if its node stands and bears it, or if another node of the output does. -/
theorem declares_iff (built : build context document sourcePath = .ok compilation)
    {mention : Mention} {target : NodeId} {name : String}
    (named : compilation.Bears target name ∨ compilation.IsFrozen mention) :
    compilation.Declares name ↔
      ((∃ slot : Slot, slot.isEnum = (compilation.model.node target).shape.isNamedEnum ∧
          Stands compilation.journal slot target) ∧
        (compilation.IsFrozen mention → compilation.Bears target name)) ∨
      ∃ other ∈ compilation.emissionOrder, other ≠ target ∧ compilation.Bears other name := by
  rw [← mem_emissionOrder_iff built]
  constructor
  · rintro ⟨node, emitted, bears⟩
    by_cases same : node = target
    · subst same
      exact .inl ⟨emitted, fun _ => bears⟩
    · exact .inr ⟨node, emitted, same, bears⟩
  · rintro (⟨emitted, unchanged⟩ | ⟨other, emitted, -, bears⟩)
    · have bears : compilation.Bears target name := named.elim (fun bears => bears) unchanged
      exact ⟨target, emitted, bears⟩
    · exact ⟨other, emitted, bears⟩

/-- A reference stands for a registered node and has its name, unless it refers to a file. -/
theorem Closed.reference {rootKey : String} {progress : Progress}
    (closed : compilation.Closed rootKey progress) {node : NodeId} {name : String}
    (shape : (compilation.model.node node).shape = .reference name) :
    ∃ target, compilation.Leads rootKey (.reference node) target ∧
      (∃ slot, (slot, target) ∈ registrations compilation.journal) ∧
      (compilation.Bears target name ∨ compilation.IsFrozen (.reference node)) := by
  have ids (other : NodeId) :
      (compilation.model.node other).id = (progress.node other).id := by
    rw [model, closed.bound]
    exact bindReferences_id other
  have forwardEq : compilation.progress.forward = progress.forward := by rw [closed.bound]; rfl
  have journalEq : compilation.journal = progress.journal := by rw [journal, closed.bound]; rfl
  have filesEq : compilation.progress.files = progress.files := by rw [closed.bound]; rfl
  have known : node < progress.model.size := by
    rw [← bindReferences_size, ← closed.bound]
    exact Model.lt_size_of_shape (by rw [← model, shape]; simp)
  have bears {target : NodeId} {bound : String} (id : (progress.node target).id = some bound) :
      compilation.Bears target (Identifier.ofName bound) := by
    rw [Bears, ids, id]
    rfl
  have registered {target : NodeId} {bound : String} (id : (progress.node target).id = some bound) :
      ∃ slot, (slot, target) ∈ registrations compilation.journal := by
    rw [journalEq]
    exact closed.identified.registered target (by simp [id])
  have final := @bindReferences_shape progress rootKey compilation.root node known
  rw [← closed.bound] at final
  change _ ∨ _ ∧ (compilation.model.node node).shape = _ at final
  rcases final with ⟨key, bound, handedOut, isBound, given⟩ | ⟨unbound, kept⟩
  · change (compilation.model.node node).shape = _ at given
    rw [shape, Shape.reference.injEq] at given
    subst given
    rw [← forwardEq] at handedOut
    simp only [boundName?] at isBound
    split at isBound
    · next isRoot =>
      exact ⟨compilation.root, .root (isRoot ▸ handedOut), registered isBound, .inl (bears isBound)⟩
    · next other =>
      obtain ⟨target, stored, id⟩ := Option.bind_eq_some_iff.mp isBound
      refine ⟨target, .key other handedOut ?_, registered id, .inl (bears id)⟩
      rw [declarations, closed.bound]
      exact stored
  · have accounts := closed.recorded.accounts node known
    rw [← kept, shape] at accounts
    cases accounts with
    | plain noEnum noReference => exact absurd rfl (noReference name)
    | forward key handedOut =>
        obtain ⟨bound, isBound⟩ := closed.forward (key, node) handedOut
        rw [unbound key handedOut] at isBound
        cases isBound
    | file path target remembered declared =>
        rw [← filesEq] at remembered
        rw [← journalEq] at declared
        have registered : (.key path.text, target) ∈ registrations compilation.journal :=
          List.mem_filterMap.mpr ⟨_, declared, rfl⟩
        exact ⟨target, .file remembered declared, ⟨_, registered⟩,
          .inr ⟨path, node, rfl, remembered⟩⟩

/-- A printed name stands for a registered node. It is declared exactly if no other node took the
slots of that node and, for a mention of a file, the node still bears the name that the mention
keeps, or if another node of the output bears the name. -/
theorem printed_declares_iff (built : build context document sourcePath = .ok compilation)
    {node : NodeId} {mention : Mention} {name : String}
    (printed : compilation.model.Prints node mention name) :
    ∃ target, compilation.Leads (rootFrame document sourcePath).ownKey mention target ∧
      (∃ slot, (slot, target) ∈ registrations compilation.journal) ∧
      (compilation.Declares name ↔
        ((∃ slot : Slot, slot.isEnum = (compilation.model.node target).shape.isNamedEnum ∧
            Stands compilation.journal slot target) ∧
          (compilation.IsFrozen mention → compilation.Bears target name)) ∨
        ∃ other ∈ compilation.emissionOrder, other ≠ target ∧ compilation.Bears other name) := by
  obtain ⟨progress, closed⟩ := exists_closed built
  induction printed with
  | reference shape =>
      obtain ⟨target, leads, registered, named⟩ := closed.reference shape
      exact ⟨target, leads, registered, declares_iff built named⟩
  | @name node child id part named =>
      have identifier : (progress.node child).id = some id := by
        rw [← named, model, closed.bound]
        exact (bindReferences_id child).symm
      have registered : ∃ slot, (slot, child) ∈ registrations compilation.journal := by
        rw [journal, closed.bound]
        exact closed.identified.registered child (by simp [identifier])
      have bears : compilation.Bears child (Identifier.ofName id) := by
        rw [Bears, named]
        rfl
      exact ⟨child, .name child, registered, declares_iff built (.inl bears)⟩
  | inside part unnamed printed inductionHypothesis => exact inductionHypothesis

/-- A file that refers to another file, and a definition that refers to that file as well. -/
def sharedFile : Json :=
  .object [("properties", .object [
      ("first", .object [("$ref", .string "link.json")]),
      ("second", .object [("$ref", .string "#/definitions/name")])]),
    ("definitions", .object [("name", .object [("$ref", .string "text.json")])])]

def sharedFileLoader : Loader :=
  .ofFiles [(Path.ofString "text.json", (Json.object [("type", .string "string")]).compact),
    (Path.ofString "link.json", (Json.object [("$ref", .string "text.json")]).compact)]

/-- In the output of the shared file, one name is declared by the node that it stands for. -/
theorem printed_declares_iff_sharedFile :
    ∃ compilation, build ⟨{}, sharedFileLoader⟩ sharedFile none = .ok compilation ∧
      compilation.model.Prints 4 (.name 1) "Name" ∧
      ∃ target, compilation.Leads (rootFrame sharedFile none).ownKey (.name 1) target ∧
        (compilation.Declares "Name" ↔
          ((∃ slot : Slot, slot.isEnum = (compilation.model.node target).shape.isNamedEnum ∧
              Stands compilation.journal slot target) ∧
            (compilation.IsFrozen (.name 1) → compilation.Bears target "Name")) ∨
          ∃ other ∈ compilation.emissionOrder, other ≠ target ∧
            compilation.Bears other "Name") := by
  obtain ⟨compilation, built, checked⟩ := exists_ok
    (show (build ⟨{}, sharedFileLoader⟩ sharedFile none).toOption.any (fun compilation => decide
      (1 ∈ (compilation.model.node 4).shape.children ∧
        (compilation.model.node 1).id = some "name")) = true by decide +kernel)
  obtain ⟨part, named⟩ := of_decide_eq_true checked
  have printed : compilation.model.Prints 4 (.name 1) "Name" := by
    have written := Model.Prints.name part named
    rwa [show Identifier.ofName "name" = "Name" by decide +kernel] at written
  obtain ⟨target, leads, -, declares⟩ := printed_declares_iff built printed
  exact ⟨compilation, built, printed, target, leads, declares⟩

/-- The reference to the file keeps the name that the definition takes away from its node. -/
theorem sharedFile_dangles :
    ∃ compilation, build ⟨{}, sharedFileLoader⟩ sharedFile none = .ok compilation ∧
      4 ∈ compilation.emissionOrder ∧ compilation.model.Prints 4 (.reference 2) "Link" ∧
      ¬compilation.Declares "Link" := by
  obtain ⟨compilation, built, checked⟩ := exists_ok
    (show (build ⟨{}, sharedFileLoader⟩ sharedFile none).toOption.any (fun compilation => decide
      (4 ∈ compilation.emissionOrder ∧ 2 ∈ (compilation.model.node 4).shape.children ∧
        (compilation.model.node 2).id = none ∧
        (compilation.model.node 2).shape = .reference "Link" ∧
        ¬compilation.Declares "Link")) = true by decide +kernel)
  obtain ⟨emitted, part, unnamed, shape, undeclared⟩ := of_decide_eq_true checked
  exact ⟨compilation, built, emitted, .inside part unnamed (.reference shape), undeclared⟩

end Compilation
end SchemaTypes
