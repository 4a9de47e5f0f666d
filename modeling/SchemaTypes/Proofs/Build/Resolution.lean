/-
This file shows that every successful resolution of a fragment is a run of transitions that comes
back to the document and to the pending pointers it began with.
-/
import SchemaTypes.Proofs.Build.Documents
import SchemaTypes.Proofs.Build.Fragments

namespace SchemaTypes.Build

variable {context : Context} {resolve : Resolver}

/-- Finishing a pointer opens and closes nothing and adds no node. -/
theorem finishPointer_keeps (settings : Settings) (frame : Frame) (pointer : String)
    (node : NodeId) (progress : Progress) :
    let finished := finishPointer settings frame pointer node progress
    finished.frame = progress.frame ∧ finished.outer = progress.outer ∧
      finished.pending = progress.pending ∧ finished.model.size = progress.model.size ∧
      openPointers finished.journal = openPointers progress.journal := by
  simp only [finishPointer]
  split <;> simp [Progress.declare, Progress.release, openPointers]

/-- A pointer is left and answered after its target was resolved like any fragment. -/
theorem finishPointer_passage {pointer : String} {target : Json} {before last : Progress}
    {made : NodeId} (missing : before.declarations.get? (before.frame.pointerKey pointer) = none)
    (fresh : before.frame.pointerKey pointer ∉ before.pending)
    (found : Pointer.lookup? before.frame.document (Pointer.segments pointer) = some target)
    (passage : Passage context (before.enter before.frame pointer) last)
    (known : made < last.model.size)
    (visited : last.journal.head? = some (.visited before.frame target (some made))) :
    let finished := (finishPointer context.settings before.frame pointer made
      (last.leave (before.frame.pointerKey pointer))).note
        (.followed before.frame pointer (some made))
    Transition context last finished ∧ Passage context before finished ∧
      made < finished.model.size := by
  have frame : last.frame = before.frame := passage.frame
  have pending : last.pending = last.frame.pointerKey pointer :: before.pending := by
    rw [frame]
    exact passage.pending
  have entering : Transition context before (before.enter before.frame pointer) :=
    .pointerEntered before pointer missing fresh
  have finishing : Transition context last _ :=
    .pointerFinished last pointer target made before.pending pending
      (by rw [frame]; exact found) known (by rw [frame]; exact visited)
      (by rw [frame, passage.opened]; rfl)
  rw [frame] at finishing pending
  obtain ⟨finalFrame, finalOuter, finalPending, finalSize, finalOpen⟩ := finishPointer_keeps
    context.settings before.frame pointer made (last.leave (before.frame.pointerKey pointer))
  have run := ((Relation.ReflTransGen.single entering).trans passage.run).tail finishing
  refine ⟨finishing, ⟨run, finalFrame.trans frame, finalOuter.trans passage.outer, ?_, ?_⟩, ?_⟩
  · refine finalPending.trans ?_
    simp [Progress.leave, pending]
  · refine finalOpen.trans ?_
    change (openPointers last.journal).tail = _
    rw [passage.opened]
    rfl
  · exact Nat.lt_of_lt_of_eq known finalSize.symm

/-- A document is closed after it was resolved and described. -/
theorem finishFile_passage {path : Path} {document : Json} {before described inner final : Progress}
    {node loaded : NodeId}
    (opening : Transition context before
      ((before.note (.read path)).push (fileFrame path document)))
    (inside : Passage context ((before.note (.read path)).push (fileFrame path document)) described)
    (known : node < described.model.size)
    (titled : inner = described ∨ ∃ name, inner = described.setId node (some name))
    (finished : finishFile context.settings path node inner.pop = .ok loaded final) :
    Run context described (final.note (.located path (some loaded))) ∧
      Passage context before (final.note (.located path (some loaded))) ∧
      loaded < final.model.size := by
  obtain ⟨closing, loadedKnown, frame, outer, pending, pointers⟩ :=
    finishFile_run (by rw [inside.frame]; rfl) inside.outer known titled finished
  exact ⟨closing, ⟨((Relation.ReflTransGen.single opening).trans inside.run).trans closing,
    frame, outer, pending.trans inside.pending, pointers.trans inside.opened⟩, loadedKnown⟩

section References

variable (lawful : Lawful context resolve)

include lawful

/-- A pointer that is followed into its document is pending no longer when it is finished. -/
theorem enterPointer_passage {pointer : String} {target : Json} {before last : Progress}
    {made : NodeId} (within : before.Scoped)
    (missing : before.declarations.get? (before.frame.pointerKey pointer) = none)
    (fresh : before.frame.pointerKey pointer ∉ before.pending)
    (found : Pointer.lookup? before.frame.document (Pointer.segments pointer) = some target)
    (resolved : resolve target .inner (before.enter before.frame pointer) = .ok made last) :
    let finished := finishPointer context.settings before.frame pointer made
      (last.leave (before.frame.pointerKey pointer))
    Passage context before (finished.note (.followed before.frame pointer (some made))) ∧
      made < finished.model.size := by
  have enteredWithin : (before.enter before.frame pointer).Scoped :=
    within.grow (Nat.le_refl _) rfl rfl rfl
  obtain ⟨passage, known, visited⟩ := lawful.inner enteredWithin resolved
  exact (finishPointer_passage missing fresh found passage known visited).2

/-- A pointer comes back however it is answered. -/
theorem followPointer_yields (pointer : String) :
    Yields context (followPointer context.settings resolve pointer) := by
  intro before node after within followed
  simp only [followPointer, get_bind, noting_eq_ok] at followed
  obtain ⟨finished, resolved, rfl⟩ := followed
  simp only [resolvePointer, get_bind] at resolved
  cases stored : before.declarations.get? (before.frame.pointerKey pointer) with
  | some existing =>
      simp only [stored, pure_apply, EStateM.Result.ok.injEq] at resolved
      obtain ⟨rfl, rfl⟩ := resolved
      exact ⟨(Passage.refl before).step (.pointerStored before pointer existing stored)
        rfl rfl rfl rfl, within.named existing (Table.mem_values_of_get? stored)⟩
  | none =>
      simp only [stored] at resolved
      split at resolved
      · next awaited =>
        simp only [forwardReference_apply, EStateM.Result.ok.injEq] at resolved
        obtain ⟨rfl, rfl⟩ := resolved
        exact ⟨(Passage.refl before).step (.pointerReferred before pointer stored awaited)
          rfl rfl rfl rfl, by simp [Progress.note, Progress.refer]⟩
      · next fresh =>
        cases found : Pointer.lookup? before.frame.document (Pointer.segments pointer) with
        | none =>
            simp only [found, allocate_apply, EStateM.Result.ok.injEq] at resolved
            obtain ⟨rfl, rfl⟩ := resolved
            exact ⟨(Passage.refl before).step (.pointerLost before pointer found) rfl rfl rfl rfl,
              by simp [Progress.note, Progress.add]⟩
        | some target =>
            simp only [found, bind_eq_ok, whilePending, between_eq_ok, modify_bind, pure_apply,
              EStateM.Result.ok.injEq] at resolved
            obtain ⟨made, middle, ⟨last, targetResolved, rfl⟩, rfl, rfl⟩ := resolved
            exact enterPointer_passage lawful within stored fresh found targetResolved

/-- A file that is opened is closed again when its document is resolved. -/
theorem openFile_passage {path : Path} {property : Option String} {before middle after : Progress}
    {document : Json} {node loaded : NodeId} (within : before.Scoped)
    (missing : before.files.lookup path = none)
    (fresh : ∀ frame ∈ before.frames, frame.key ≠ some path.text)
    (read : readDocument context.loader path before = .ok document middle)
    (resolved : inFrame (fileFrame path document) (resolve document ⟨property, true⟩) middle =
      .ok node after) {final : Progress}
    (finished : finishFile context.settings path node after = .ok loaded final) :
    Passage context before (final.note (.located path (some loaded))) ∧
      loaded < final.model.size := by
  obtain ⟨text, served, parsed, rfl⟩ := readDocument_eq_ok.mp read
  simp only [inFrame, between_eq_ok] at resolved
  obtain ⟨inner, documentResolved, rfl⟩ := resolved
  have opening : Transition context before
      ((before.note (.read path)).push (fileFrame path document)) :=
    .fileOpened before path text document missing fresh served parsed
  have opened := Progress.Scoped.step _ _ opening within
  obtain ⟨built, passage, known, rfl⟩ := lawful _ _ _ _ _ opened documentResolved
  obtain ⟨described, onward, describedKnown, titled⟩ :=
    completed_document context document property node built known
  exact (finishFile_passage opening (passage.trans onward) describedKnown titled finished).2

/-- A reference to a file comes back however the file is answered. -/
theorem followFile_yields (reference : String) (property : Option String) :
    Yields context (followFile context resolve reference property) := by
  intro before node after within followed
  unfold followFile at followed
  split at followed
  · simp [bind_eq_ok] at followed
  · simp only [get_bind, noting_eq_ok] at followed
    obtain ⟨last, resolved, rfl⟩ := followed
    generalize (before.frame.directory.join (Path.ofString reference)).normalize = path at *
    simp only [resolvePath, get_bind] at resolved
    cases stored : before.files.lookup path with
    | some existing =>
        simp only [stored, pure_apply, EStateM.Result.ok.injEq] at resolved
        obtain ⟨rfl, rfl⟩ := resolved
        obtain ⟨newer, older, located, _⟩ := List.lookup_eq_some_iff.mp stored
        exact ⟨(Passage.refl before).step (.fileStored before path existing stored) rfl rfl rfl rfl,
          within.files (path, existing) (by simp [located])⟩
    | none =>
        simp only [stored] at resolved
        cases found : (before.frame :: before.outer).reverse.find? (·.key = some path.text) with
        | some frame =>
            simp only [found, forwardReference_apply, EStateM.Result.ok.injEq] at resolved
            obtain ⟨rfl, rfl⟩ := resolved
            have opened : frame ∈ before.frames :=
              List.mem_reverse.mp (List.mem_of_find?_eq_some found)
            have key : frame.key = some path.text := by
              simpa using List.find?_some found
            exact ⟨(Passage.refl before).step (.fileReferred before path frame opened key)
              rfl rfl rfl rfl, by simp [Progress.note, Progress.refer]⟩
        | none =>
            simp only [found, bind_eq_ok] at resolved
            obtain ⟨document, middle, read, made, closed, documentResolved, finished⟩ := resolved
            have fresh : ∀ frame ∈ before.frames, frame.key ≠ some path.text := by
              intro frame opened
              simpa using List.find?_eq_none.mp found frame (List.mem_reverse.mpr opened)
            exact openFile_passage lawful within stored fresh read documentResolved finished

/-- A reference comes back whether it leads to the document, into it or to a file. -/
theorem buildReference_yields (fragment : Json) (property : Option String) :
    Yields context (buildReference context resolve fragment property) := by
  intro before node after within built
  cases field : fragment.textField? "$ref" with
  | none =>
      simp only [buildReference, field] at built
      exact allocate_yields context .any rfl (by simp) rfl _ _ _ within built
  | some reference =>
      simp only [buildReference, field, follow] at built
      cases target : Target.ofReference reference with
      | document =>
          simp only [target, followDocument, get_bind, forwardReference_apply,
            EStateM.Result.ok.injEq] at built
          obtain ⟨rfl, rfl⟩ := built
          exact ⟨(Passage.refl before).step (.documentReferred before) rfl rfl rfl rfl,
            by simp [Progress.refer]⟩
      | pointer pointer =>
          simp only [target] at built
          exact followPointer_yields lawful pointer _ _ _ within built
      | file file =>
          simp only [target] at built
          exact followFile_yields lawful file property _ _ _ within built

/-- A fragment comes back whatever its rule is. -/
theorem buildNode_yields (fragment : Json) (property : Option String) :
    Yields context (buildNode context resolve fragment property) := by
  have leaf (shape : Shape) (noEnum : shape.isNamedEnum = false)
      (noReference : ∀ name, shape ≠ .reference name) (empty : shape.children = []) :=
    allocate_yields context shape noEnum noReference empty
  unfold buildNode
  cases Rule.classify fragment with
  | typedArray => exact buildArray_yields lawful _
  | namedEnum => exact buildNamedEnum_yields context fragment property
  | enum => exact buildEnum_yields context fragment
  | namedSchema => exact buildInterface_yields lawful fragment
  | anonymousSchema => exact buildInterface_yields lawful fragment
  | allOf =>
      intro before node after within built
      obtain ⟨members, middle, resolved, allocated⟩ := bind_eq_ok.mp built
      obtain ⟨passage, known⟩ := resolveMembers_passage lawful within resolved
      exact allocate_passage passage allocated rfl (by simp) known
  | anyOf =>
      intro before node after within built
      obtain ⟨members, middle, resolved, allocated⟩ := bind_eq_ok.mp built
      obtain ⟨passage, known⟩ := resolveMembers_passage lawful within resolved
      exact allocate_passage passage allocated rfl (by simp) known
  | reference => exact buildReference_yields lawful fragment property
  | array => exact buildArray_yields lawful none
  | union => exact buildTypeUnion_yields lawful _
  | any => exact leaf .any rfl (by simp) rfl
  | literal => exact leaf (.literal fragment) rfl (by simp) rfl
  | _ => exact leaf (.primitive _) rfl (by simp) rfl

/-- A fragment is resolved lawfully when the fragments it leads to are. -/
theorem resolveBy_lawful : Lawful context (resolveBy context resolve) := by
  intro fragment site before node after within resolved
  simp only [resolveBy, get_bind, noting_eq_ok, bind_eq_ok, modify_bind, pure_apply,
    EStateM.Result.ok.injEq] at resolved
  obtain ⟨last, ⟨made, built, nodeBuilt, rfl, rfl⟩, rfl⟩ := resolved
  obtain ⟨passage, known⟩ := buildNode_yields lawful fragment site.property _ _ _ within nodeBuilt
  exact ⟨built, passage, known, by rw [completed, passage.frame]⟩

end References

/-- Resolution is lawful under every budget. -/
theorem resolveFragment_lawful (context : Context) (budget : Nat) :
    Lawful context (resolveFragment context budget) := by
  induction budget with
  | zero =>
      intro fragment site before node after within resolved
      simp [resolveFragment] at resolved
  | succ budget inductionHypothesis => exact resolveBy_lawful inductionHypothesis

/-- The title of a document is all that may come behind the run that resolves a fragment. -/
theorem resolveFragment_run {context : Context} {budget : Nat} {fragment : Json} {site : Site}
    {before after : Progress} {node : NodeId} (within : before.Scoped)
    (resolved : resolveFragment context budget fragment site before = .ok node after) :
    ∃ last, Passage context before last ∧ node < last.model.size ∧
      (after = last ∨ ∃ title, after = last.setId node (some title)) := by
  have lawful := resolveFragment_lawful context budget
  obtain ⟨property, isDocument⟩ := site
  cases isDocument with
  | false =>
      obtain ⟨passage, known, -⟩ := lawful.inner within resolved
      exact ⟨after, passage, known, .inl rfl⟩
  | true =>
      obtain ⟨built, passage, builtKnown, rfl⟩ := lawful _ _ _ _ _ within resolved
      obtain ⟨described, onward, known, titled⟩ :=
        completed_document context fragment property node built builtKnown
      exact ⟨described, passage.trans onward, known, titled⟩

end SchemaTypes.Build
