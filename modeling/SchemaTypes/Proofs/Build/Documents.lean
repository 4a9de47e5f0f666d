/-
This file shows that a referenced document is opened and closed again by a run of transitions, and
that its title makes no difference to its declaration.
-/
import SchemaTypes.Proofs.Build.Lawful

namespace SchemaTypes.Build

variable {context : Context} {resolve : Resolver}

/-- Name and description of a node are set independently of each other. -/
theorem adoptDescription_setId (fragment : Json) (node : NodeId) (name : Option String)
    (progress : Progress) :
    adoptDescription fragment node (progress.setId node name) =
      (adoptDescription fragment node progress).setId node name := by
  have same : ((progress.setId node name).node node).description =
      (progress.node node).description := Model.description_setId ..
  unfold adoptDescription
  rw [same]
  split
  · simp [Progress.setId, Progress.setDescription, Model.setDescription_setId]
  · rfl

/-- A document is described and noted, and then its node may get the title. -/
theorem completed_document_eq (document : Json) (property : Option String) (node : NodeId)
    (progress : Progress) :
    let described := (adoptDescription document node progress).note
      (.visited progress.frame document (some node))
    completed document ⟨property, true⟩ node progress = described ∨
      ∃ name, completed document ⟨property, true⟩ node progress =
        described.setId node (some name) := by
  unfold completed adoptName
  split
  · cases document.declaredName? with
    | none => exact .inl rfl
    | some name =>
        refine .inr ⟨name, ?_⟩
        simp only [↓reduceIte, adoptDescription_setId]
        rfl
  · exact .inl rfl

/-- The title of a document is all that its completion adds to a run. -/
theorem completed_document (context : Context) (document : Json) (property : Option String)
    (node : NodeId) (progress : Progress) (known : node < progress.model.size) :
    ∃ described, Passage context progress described ∧ node < described.model.size ∧
      (completed document ⟨property, true⟩ node progress = described ∨
        ∃ name, completed document ⟨property, true⟩ node progress =
          described.setId node (some name)) := by
  have described := adoptDescription_passage context document node progress known
  have knownDescribed := Nat.lt_of_lt_of_le known described.run.size_le
  have visited : Transition context (adoptDescription document node progress)
      ((adoptDescription document node progress).note
        (.visited progress.frame document (some node))) := by
    rw [← described.frame]
    exact .visited _ document node knownDescribed
  exact ⟨_, described.step visited rfl rfl rfl rfl, knownDescribed,
    completed_document_eq document property node progress⟩

/-- The title of a document is replaced by the name that the file is declared under. -/
theorem declareFile_setId (path : Path) (node : NodeId) (title : Option String)
    (progress : Progress) :
    declareFile path node (progress.setId node title) =
      (((progress.declare (.file path) path.text node
          (fileName path ((progress.setId node title).node node))).add
        (.reference (fileName path ((progress.setId node title).node node)))).remember path
          progress.model.size) := by
  simp [declareFile, Progress.declare, Progress.setId, Progress.add, Progress.remember,
    Model.setId_setId]

/-- A file that is not declared ends without a name, whatever its title was. -/
theorem inlineFile_setId (path : Path) (node : NodeId) (title : Option String)
    (progress : Progress) (undeclared : progress.declarations.isDeclared node = false) :
    inlineFile path node (progress.setId node title) = inlineFile path node progress := by
  simp [inlineFile, Progress.setId, undeclared, Model.setId_setId]

theorem pop_setId (progress : Progress) (node : NodeId) (id : Option String) :
    (progress.setId node id).pop = progress.pop.setId node id := by
  cases nested : progress.outer <;> simp [Progress.pop, Progress.setId, nested]

/-- Whether a type is simple does not depend on the name of its node. -/
theorem isSimple_setId (progress : Progress) (node : NodeId) (name : String) :
    ((progress.setId node (some name)).node node).isSimple = (progress.node node).isSimple := by
  have shape : ((progress.setId node (some name)).node node).shape = (progress.node node).shape :=
    Model.shape_setId ..
  unfold Node.isSimple
  rw [shape]

/-- Whether the node of a document has its title already makes no difference to its declaration. -/
theorem fileDeclared_change {path : Path} {node : NodeId} {built released : Progress}
    {enclosing : Frame} {outer : List Frame} (own : built.frame.key = some path.text)
    (nested : built.outer = enclosing :: outer) (known : node < built.model.size)
    (titled : released = built.pop.release path.text ∨
      ∃ name, released = (built.pop.release path.text).setId node (some name)) :
    Transition context built
      ((declareFile path node released).note (.located path (some built.model.size))) := by
  have size : (built.pop.release path.text).model.size = built.model.size := by
    rw [Progress.pop_of_outer nested]
    rfl
  have change (name : String) : Transition context built _ :=
    .fileDeclared built path node name enclosing outer own nested known
  rcases titled with rfl | ⟨name, rfl⟩
  · rw [declareFile, size]
    exact change _
  · rw [declareFile_setId, size]
    exact change _

/-- The title goes again where a document is inlined, unless its node was declared before. -/
theorem fileInlined_run {path : Path} {node : NodeId} {built released : Progress}
    {enclosing : Frame} {outer : List Frame} (own : built.frame.key = some path.text)
    (nested : built.outer = enclosing :: outer) (known : node < built.model.size)
    (unforced : path.text ∉ built.forced) (simple : (built.node node).isSimple = true)
    (titled : released = built.pop.release path.text ∨
      ∃ name, released = (built.pop.release path.text).setId node (some name)) :
    Run context built
      ((inlineFile path node released).note (.located path (some node))) := by
  rcases titled with rfl | ⟨name, rfl⟩
  · exact .single (.fileInlined built path node enclosing outer own nested known unforced simple)
  · cases declared : built.declarations.isDeclared node with
    | true =>
        refine .head (.titled built node name declared) ?_
        have change : Transition context (built.setId node (some name)) _ :=
          .fileInlined _ path node enclosing outer own nested
            (by simpa [Progress.setId] using known) unforced
            ((isSimple_setId built node name).trans simple)
        rw [pop_setId] at change
        exact .single change
    | false =>
        rw [inlineFile_setId path node (some name) _ (by
          rw [Progress.pop_of_outer nested]
          exact declared)]
        exact .single
          (.fileInlined built path node enclosing outer own nested known unforced simple)

/-- What remains of a document when its frame goes. -/
structure Popped (built closed : Progress) (node : NodeId) (enclosing : Frame)
    (outer : List Frame) : Prop where
  frame : closed.frame = enclosing
  outer : closed.outer = outer
  pending : closed.pending = built.pending
  forced : closed.forced = built.forced
  files : closed.files = built.files
  journal : closed.journal = built.journal
  size : closed.model.size = built.model.size
  simple : (closed.node node).isSimple = (built.node node).isSimple

/-- Whether its node has its title already makes no difference to what remains of a document. -/
theorem popped_of_titled {built inner : Progress} {node : NodeId} {enclosing : Frame}
    {outer : List Frame} (nested : built.outer = enclosing :: outer)
    (titled : inner = built ∨ ∃ name, inner = built.setId node (some name)) :
    Popped built inner.pop node enclosing outer := by
  rcases titled with rfl | ⟨name, rfl⟩
  · rw [Progress.pop_of_outer nested]
    exact ⟨rfl, rfl, rfl, rfl, rfl, rfl, rfl, rfl⟩
  · rw [pop_setId, Progress.pop_of_outer nested]
    exact ⟨rfl, rfl, rfl, rfl, rfl, rfl, Model.size_setId .., isSimple_setId built node name⟩

/-- A document that was resolved is closed: its frame goes, and its node is declared or inlined. -/
theorem finishFile_run {path : Path} {node loaded : NodeId} {built inner after : Progress}
    {enclosing : Frame} {outer : List Frame} (own : built.frame.key = some path.text)
    (nested : built.outer = enclosing :: outer) (known : node < built.model.size)
    (titled : inner = built ∨ ∃ name, inner = built.setId node (some name))
    (finished : finishFile context.settings path node inner.pop = .ok loaded after) :
    Run context built (after.note (.located path (some loaded))) ∧
      loaded < after.model.size ∧ after.frame = enclosing ∧ after.outer = outer ∧
        after.pending = built.pending ∧
          openPointers after.journal = openPointers built.journal := by
  have titledReleased : inner.pop.release path.text = built.pop.release path.text ∨
      ∃ name, inner.pop.release path.text =
        (built.pop.release path.text).setId node (some name) := by
    rcases titled with rfl | ⟨name, rfl⟩
    · exact .inl rfl
    · exact .inr ⟨name, by rw [pop_setId]; rfl⟩
  obtain ⟨frame, outerEq, pending, forced, -, journal, size, isSimple⟩ :=
    popped_of_titled nested titled
  simp only [finishFile] at finished
  split at finished
  · next needed =>
    simp only [EStateM.Result.ok.injEq] at finished
    obtain ⟨rfl, rfl⟩ := finished
    rw [size]
    refine ⟨.single (fileDeclared_change own nested known titledReleased), ?_, frame, outerEq,
      pending, ?_⟩
    · simp [declareFile, Progress.remember, Progress.add, Progress.declare, Progress.release, size]
    · change openPointers inner.pop.journal = _
      rw [journal]
  · next unneeded =>
    simp only [EStateM.Result.ok.injEq] at finished
    obtain ⟨rfl, rfl⟩ := finished
    have unforced : path.text ∉ built.forced := by
      rw [← forced]
      intro member
      simp [Progress.needsDeclaration, member] at unneeded
    have simple : (built.node node).isSimple = true := by
      rw [← isSimple]
      simp only [Progress.needsDeclaration, Bool.not_eq_true, Bool.or_eq_false_iff] at unneeded
      simpa using unneeded.2
    refine ⟨fileInlined_run own nested known unforced simple titledReleased, ?_⟩
    simp only [inlineFile]
    split <;> simp [Progress.remember, Progress.release, Progress.setId, size, known, frame,
      outerEq, pending, journal]

/-- What a file leaves behind: its node, or a reference to the node that it has declared. -/
theorem finishFile_leaves {settings : Settings} {path : Path} {node loaded : NodeId}
    {closed after : Progress} (finished : finishFile settings path node closed = .ok loaded after) :
    after.files = (path, loaded) :: closed.files ∧
      (loaded = node ∧ after.journal = closed.journal ∨
        after.journal = .declared (.file path) path.text node :: closed.journal ∧
          ∃ name, (after.node loaded).shape = .reference name) := by
  simp only [finishFile] at finished
  split at finished
  · simp only [EStateM.Result.ok.injEq] at finished
    obtain ⟨rfl, rfl⟩ := finished
    have last (name : String) : (((closed.model.setId node (some name)).add
        (.reference name)).node closed.model.size).shape = .reference name := by
      rw [← Model.size_setId closed.model node (some name), Model.node_add_size]
    exact ⟨rfl, .inr ⟨rfl, _, last _⟩⟩
  · simp only [EStateM.Result.ok.injEq] at finished
    obtain ⟨rfl, rfl⟩ := finished
    unfold inlineFile
    split <;> exact ⟨rfl, .inl ⟨rfl, rfl⟩⟩

/-- A document is read when its file is served and parses, and the reading is noted. -/
theorem readDocument_eq_ok {loader : Loader} {path : Path} {before after : Progress}
    {document : Json} :
    readDocument loader path before = .ok document after ↔
      ∃ text, loader.read path = .ok text ∧ Json.parse text = .ok document ∧
        before.note (.read path) = after := by
  simp only [readDocument, modify_bind]
  cases loader.read path with
  | error source => simp
  | ok text => cases parsed : Json.parse text <;> simp [parsed]

end SchemaTypes.Build
