/-
This file shows what the resolution of a fragment leaves alone. Main statement: nodes keep their
shapes and their descriptions, files keep their nodes and tables keep their keys, and every node
that is declared has a name.
-/
import SchemaTypes.Proofs.Names.Identified
import SchemaTypes.Proofs.States.Stacks

namespace SchemaTypes

open Build

/-- What was known before is known afterwards. Nodes keep their shapes and the descriptions that
they have, and the keys of tables keep their order. -/
structure Progress.Grows (before after : Progress) : Prop where
  size : before.model.size ≤ after.model.size
  shape : ∀ node < before.model.size, (after.node node).shape = (before.node node).shape
  description : ∀ node, (before.node node).description ≠ none →
    (after.node node).description = (before.node node).description
  files : before.files <:+ after.files
  named : before.declarations.named.keys <+: after.declarations.named.keys
  enums : before.declarations.enums.keys <+: after.declarations.enums.keys

namespace Progress.Grows

variable {before middle after : Progress}

theorem refl (progress : Progress) : progress.Grows progress :=
  ⟨Nat.le_refl _, fun _ _ => rfl, fun _ _ => rfl, List.suffix_rfl, List.prefix_rfl,
    List.prefix_rfl⟩

/-- What is known stays known over several changes. -/
theorem trans (first : before.Grows middle) (second : middle.Grows after) :
    before.Grows after where
  size := Nat.le_trans first.size second.size
  shape node known :=
    (second.shape node (Nat.lt_of_lt_of_le known first.size)).trans (first.shape node known)
  description node described := by
    have same := first.description node described
    exact (second.description node (same ▸ described)).trans same
  files := first.files.trans second.files
  named := first.named.trans second.named
  enums := first.enums.trans second.enums

theorem setId (progress : Progress) (node : NodeId) (name : Option String) :
    progress.Grows (progress.setId node name) where
  size := Nat.le_of_eq (Model.size_setId ..).symm
  shape _ _ := Model.shape_setId ..
  description _ _ := Model.description_setId ..
  files := List.suffix_rfl
  named := List.prefix_rfl
  enums := List.prefix_rfl

end Progress.Grows

section Changes

variable {context : Context} {before after : Progress}

/-- A description that a node has is never replaced. -/
theorem Transition.description_eq (change : Transition context before after) {node : NodeId}
    (described : (before.node node).description ≠ none) :
    (after.node node).description = (before.node node).description := by
  have known := Model.lt_size_of_description described
  cases change with
  | described other description otherKnown undescribed =>
      refine Model.description_setDescription_of_ne _ ?_ _
      rintro rfl
      exact described undescribed
  | pointerFinished pointer target made =>
      simp only [Progress.note, finishPointer]
      split <;> simp [Progress.release, Progress.leave, Progress.declare, Progress.node]
  | fileDeclared path made name enclosing outer own nested =>
      rw [Progress.pop_of_outer nested]
      simp [Progress.note, Progress.remember, Progress.add, Progress.declare, Progress.release,
        Progress.node, Model.node_add_of_lt, known]
  | fileInlined path made enclosing outer own nested =>
      rw [Progress.pop_of_outer nested]
      simp only [Progress.note, inlineFile]
      split <;> simp [Progress.remember, Progress.release, Progress.setId, Progress.node]
  | _ =>
      simp [Progress.add, Progress.putEnum, Progress.declare, Progress.setId, Progress.node,
        Progress.note, Progress.refer, Progress.enter, Progress.push, Model.node_add_of_lt, known]

/-- A key stays where it is when its node is replaced, and new keys come last. -/
theorem Transition.keys_prefix (change : Transition context before after) :
    before.declarations.named.keys <+: after.declarations.named.keys ∧
      before.declarations.enums.keys <+: after.declarations.enums.keys := by
  cases change with
  | enumStored => exact ⟨List.prefix_rfl, Table.keys_prefix_put ..⟩
  | named => exact ⟨Table.keys_prefix_put .., List.prefix_rfl⟩
  | pointerFinished =>
      simp only [Progress.note, finishPointer]
      split
      · exact ⟨Table.keys_prefix_put .., List.prefix_rfl⟩
      · exact ⟨List.prefix_rfl, List.prefix_rfl⟩
  | fileDeclared path made name enclosing outer own nested =>
      rw [Progress.pop_of_outer nested]
      exact ⟨Table.keys_prefix_put .., List.prefix_rfl⟩
  | fileInlined path made enclosing outer own nested =>
      rw [Progress.pop_of_outer nested]
      simp only [Progress.note, inlineFile]
      split <;> exact ⟨List.prefix_rfl, List.prefix_rfl⟩
  | _ => exact ⟨List.prefix_rfl, List.prefix_rfl⟩

/-- Every change leaves alone what is known. -/
theorem Transition.grows (change : Transition context before after) : before.Grows after where
  size := change.size_le
  shape _ known := change.shape_eq known
  description _ described := change.description_eq described
  files := change.files_suffix
  named := change.keys_prefix.1
  enums := change.keys_prefix.2

/-- Every run of changes leaves alone what is known. -/
theorem Run.grows (run : Run context before after) : before.Grows after := by
  induction run with
  | refl => exact .refl before
  | tail _ change inductionHypothesis => exact inductionHypothesis.trans change.grows

end Changes

namespace Build

variable {context : Context}

/-- Resolving a fragment leaves alone what is known. -/
theorem resolveFragment_grows {budget : Nat} {fragment : Json} {site : Site}
    {before after : Progress} {node : NodeId} (within : before.Scoped)
    (resolved : resolveFragment context budget fragment site before = .ok node after) :
    before.Grows after := by
  obtain ⟨last, passage, -, titled⟩ := resolveFragment_run within resolved
  rcases titled with rfl | ⟨title, rfl⟩
  · exact passage.run.grows
  · exact passage.run.grows.trans (.setId last node title)

/-- Files keep the nodes that they have, and those whose documents are open get none. -/
structure FilesKept (before after : Progress) : Prop where
  frames : after.frames = before.frames
  stored : ∀ path node, before.files.lookup path = some node →
    after.files.lookup path = some node
  opened : ∀ path, (∃ frame ∈ before.frames, frame.key = some path.text) →
    after.files.lookup path = before.files.lookup path

namespace FilesKept

variable {before middle after : Progress}

theorem of_eq (frames : after.frames = before.frames) (files : after.files = before.files) :
    FilesKept before after :=
  ⟨frames, fun _ _ stored => by rw [files, stored], fun _ _ => by rw [files]⟩

theorem trans (first : FilesKept before middle) (second : FilesKept middle after) :
    FilesKept before after where
  frames := second.frames.trans first.frames
  stored path node stored := second.stored path node (first.stored path node stored)
  opened path opened := by
    rw [second.opened path (by rwa [first.frames]), first.opened path opened]

theorem onward (kept : FilesKept before middle) (frames : after.frames = middle.frames)
    (files : after.files = middle.files) : FilesKept before after :=
  kept.trans (.of_eq frames files)

theorem retouched (kept : FilesKept before middle) (retouched : Retouched middle after) :
    FilesKept before after :=
  kept.onward retouched.sameStacks.frames retouched.files

theorem of_noted {event : Event} (kept : FilesKept (before.note event) after) :
    FilesKept before after :=
  ⟨kept.frames, kept.stored, kept.opened⟩

theorem of_entered {frame : Frame} {pointer : String}
    (kept : FilesKept (before.enter frame pointer) after) : FilesKept before after :=
  ⟨kept.frames, kept.stored, kept.opened⟩

/-- What a document loads stays loaded when it is closed. -/
theorem popped {frame : Frame} {last : Progress}
    (kept : FilesKept (before.push frame) last) : FilesKept before last.pop := by
  have nested : last.outer = before.frame :: before.outer := (List.cons.inj kept.frames).2
  rw [Progress.pop_of_outer nested]
  refine ⟨rfl, kept.stored, ?_⟩
  rintro path ⟨other, opened, own⟩
  exact kept.opened path ⟨other, List.mem_cons_of_mem _ opened, own⟩

/-- A file gets its node when its document is closed, and not before. -/
theorem loaded {settings : Settings} {path : Path} {node loaded : NodeId}
    (kept : FilesKept before middle) (missing : before.files.lookup path = none)
    (fresh : ∀ frame ∈ before.frames, frame.key ≠ some path.text)
    (finished : finishFile settings path node middle = .ok loaded after) :
    FilesKept before after := by
  have files := (finishFile_leaves finished).1
  have restored := Restores.finishFile settings path node middle (.ok loaded) after finished
  have other {next : Path} (apart : next ≠ path) :
      after.files.lookup next = middle.files.lookup next := by
    rw [files, List.lookup_cons, beq_false_of_ne apart]
  refine ⟨restored.frames.trans kept.frames, ?_, ?_⟩
  · intro next known stored
    rw [other, kept.stored next known stored]
    rintro rfl
    rw [missing] at stored
    cases stored
  · -- The file itself was not open before, so no file that was is closed here.
    rintro next ⟨frame, opened, own⟩
    rw [other, kept.opened next ⟨frame, opened, own⟩]
    rintro rfl
    exact fresh frame opened own

/-- The parts of a fragment keep the nodes of files. -/
theorem of_parts {fragment : Json}
    (parts : Parts (fun _ _ before _ after => FilesKept before after) fragment before after) :
    FilesKept before after := by
  induction parts with
  | start => exact .of_eq rfl rfl
  | leaf _ _ _ _ _ inductionHypothesis => exact inductionHypothesis.onward rfl rfl
  | part _ _ _ resolved inductionHypothesis => exact inductionHypothesis.trans resolved

/-- A fragment that is built keeps the nodes of files. -/
theorem of_built {fragment : Json} {property : Option String}
    {outcome : Except CompileError NodeId}
    (built : Built context (fun _ _ before _ after => FilesKept before after) fragment property
      before outcome after) : FilesKept before after := by
  cases built with
  | made _ parts => exact (of_parts parts).onward rfl rfl
  | partFailed parts _ _ failed => exact (of_parts parts).trans failed
  | @pointerFinished pointer target node last _ _ _ _ resolved =>
      have left : FilesKept before (last.leave (before.frame.pointerKey pointer)) :=
        resolved.of_entered.onward rfl rfl
      exact (left.retouched (finishPointer_retouched ..)).onward rfl rfl
  | pointerFailed _ _ _ _ failed => exact failed.of_entered.onward rfl rfl
  | fileFinished _ _ missing fresh _ resolved finished =>
      exact ((popped resolved).of_noted.loaded missing fresh finished).onward rfl rfl
  | fileFailed _ _ _ _ _ failed => exact (popped failed).of_noted.onward rfl rfl
  | _ => exact .of_eq rfl rfl

/-- A file that has a node keeps it, however a fragment is resolved. -/
theorem ends (context : Context) (budget : Nat) :
    Obeys (fun _ _ before _ after => FilesKept before after) (resolveFragment context budget) := by
  refine resolveFragment_obeys (fun _ _ _ => .of_eq rfl rfl) ?_ budget
  intro fragment site before outcome after resolved
  cases resolved with
  | completed built =>
      exact ((of_built built).retouched (adopted_retouched ..)).onward rfl rfl
  | failed built => exact (of_built built).onward rfl rfl

end FilesKept

end Build

namespace Progress.Named

variable {before after : Progress}

theorem pop (named : before.Named) : before.pop.Named := by
  unfold Progress.pop
  split
  · exact named
  · exact named.grow (fun _ => rfl) rfl

/-- Every change gives names to what it declares. -/
theorem step {context : Context} (change : Transition context before after)
    (named : before.Named) : after.Named := by
  have added (shape : Shape) : (before.add shape).Named :=
    named.grow (fun node => Model.id_add ..) rfl
  cases change with
  | allocated shape => exact added shape
  | enumStored members chosen =>
      exact (added (.namedEnum members)).putEnum _ _ (by simp [Progress.add])
  | named node name known => exact named.declare .name name name known
  | titled node name => exact named.setId node name
  | described node description => exact named.grow (fun _ => Model.id_setDescription ..) rfl
  | documentReferred => exact (added _).grow (fun _ => rfl) rfl
  | pointerReferred => exact (added _).grow (fun _ => rfl) rfl
  | pointerLost => exact (added _).grow (fun _ => rfl) rfl
  | fileReferred => exact (added _).grow (fun _ => rfl) rfl
  | pointerFinished pointer target node rest awaited found known =>
      have left : (before.leave (before.frame.pointerKey pointer)).Named :=
        named.grow (fun _ => rfl) rfl
      simp only [finishPointer]
      split
      · exact (left.declare (.pointer before.frame pointer) _ _ known).grow (fun _ => rfl) rfl
      · exact left.grow (fun _ => rfl) rfl
  | fileDeclared path node name enclosing outer own nested known =>
      rw [Progress.pop_of_outer nested]
      have declared := named.declare (.file path) path.text (Identifier.ofName name) known
      exact declared.grow (fun _ => Model.id_add ..) rfl
  | fileInlined path node enclosing outer own nested =>
      rw [Progress.pop_of_outer nested]
      simp only [inlineFile]
      split
      · exact named.grow (fun _ => rfl) rfl
      · next undeclared => exact (named.forget undeclared).grow (fun _ => rfl) rfl
  | _ => exact named.grow (fun _ => rfl) rfl

/-- Declared nodes have names wherever a compilation stands. -/
theorem invariant (context : Context) :
    Invariant context fun progress => progress.Scoped ∧ progress.Named := by
  have kept := Invariant.scoped context
  exact
    { within := And.left
      step := fun change holds => ⟨kept.step change holds.1, step change holds.2⟩
      titled := fun holds node name => ⟨kept.titled holds.1 node name, holds.2.setId node name⟩
      declared := fun holds known key =>
        ⟨kept.declared holds.1 known key, holds.2.declare .name key key known⟩
      noted := fun holds event => ⟨kept.noted holds.1 event, holds.2.grow (fun _ => rfl) rfl⟩
      left := fun holds key => ⟨kept.left holds.1 key, holds.2.grow (fun _ => rfl) rfl⟩
      popped := fun holds => ⟨kept.popped holds.1, holds.2.pop⟩
      renamed := fun holds node name =>
        ⟨kept.renamed holds.1 node name, holds.2.grow (fun _ => Model.id_setShape ..) rfl⟩ }

end Progress.Named

namespace Compilation

variable {context : Context} {document : Json} {sourcePath : Option Path}

/-- When a fragment is resolved, at whatever point a compilation stands, then no node loses its
shape or its description, no file is given another node, no key of a table goes away or changes
places, and all nodes that are declared have names. -/
theorem resolution_grows {before after : Progress}
    (reached : Reached context document sourcePath before) {budget : Nat} {fragment : Json}
    {site : Site} {node : NodeId}
    (resolved : resolveFragment context budget fragment site before = .ok node after) :
    before.Grows after ∧
    (∀ path file, before.files.lookup path = some file →
      after.files.lookup path = some file) ∧
    ∀ declared, after.declarations.isDeclared declared = true →
      (after.node declared).id ≠ none := by
  have invariant := Progress.Named.invariant context
  have holds := reached.holds invariant ⟨.start _, .start _⟩
  refine ⟨resolveFragment_grows holds.1 resolved, ?_, (invariant.of_resolved holds resolved).1.2⟩
  exact (FilesKept.ends context budget fragment site before (.ok node) after resolved).stored

/-- A described object with a property of a type in a file. -/
def measureSchema : Json :=
  .object [("description", .string "A measure."),
    ("properties", .object [("unit", .object [("$ref", .string "unit.json")])])]

def scaleSchema : Json :=
  .object [("title", .string "Scale"),
    ("properties", .object [("unit", .object [("$ref", .string "unit.json")])])]

/-- Another type that refers to the file is declared, and the first one keeps its description. -/
theorem resolution_grows_measure :
    let context : Context := ⟨{}, .ofFiles [(unitPath, unitFile.compact)]⟩
    ∃ (before after : Progress) (node : NodeId),
      Reached context measureSchema none before ∧
      resolveFragment context 9 scaleSchema .inner before = .ok node after ∧
      before.Grows after ∧ before.model.size < after.model.size ∧
      (after.node 3).description = some "A measure." ∧
      after.files.lookup unitPath = some 1 ∧
      after.declarations.named.keys = ["unit.json", "Scale"] ∧ (after.node node).id ≠ none := by
  intro context
  have evaluated : passes (fun _ before => passes (fun node after => decide (
      (before.node 3).description = some "A measure." ∧
      before.files.lookup unitPath = some 1 ∧ before.model.size < after.model.size ∧
      after.declarations.named.keys = ["unit.json", "Scale"] ∧
      after.declarations.isDeclared node = true))
        (resolveFragment context 9 scaleSchema .inner before))
      (resolveFragment context (budget context.loader measureSchema) measureSchema ⟨none, true⟩
        (Progress.start (rootFrame measureSchema none))) = true := by decide +kernel
  obtain ⟨root, before, rootResolved, evaluated⟩ := exists_of_passes evaluated
  obtain ⟨node, after, resolved, checked⟩ := exists_of_passes evaluated
  obtain ⟨description, stored, larger, keys, declared⟩ := of_decide_eq_true checked
  have reached : Reached context measureSchema none before :=
    .underway (meets_resolved rootResolved) .refl
  obtain ⟨grows, files, named⟩ := resolution_grows reached resolved
  refine ⟨before, after, node, reached, resolved, grows, larger, ?_, files _ _ stored, keys,
    named node declared⟩
  rw [grows.description 3 (by rw [description]; simp), description]

end Compilation
end SchemaTypes
