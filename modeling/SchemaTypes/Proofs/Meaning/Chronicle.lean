/-
This file says what the journal of a compilation tells about the fragments that it has resolved: the
node of a fragment has the outline of the fragment, or it was found where the fragment refers to.
-/
import Mathlib.Data.List.Forall2
import SchemaTypes.Proofs.Meaning.Reachable
import SchemaTypes.Proofs.References.Traced

namespace SchemaTypes

open Build

/-- References have no head of their own. -/
def Shape.head? : Shape → Option Head
  | .any => some .any
  | .primitive kind => some (.primitive kind)
  | .literal value => some (.literal value)
  | .array _ => some .array
  | .union _ => some .union
  | .intersection _ => some .intersection
  | .reference _ => none
  | .namedEnum members => some (.enum members)
  | .interface properties =>
    some (.interface (properties.map fun property => (property.name, property.required)))

/-- The node of a part is a leaf with its head, or it was made of its fragment. -/
def PartDrawn (progress : Progress) (journal : List Event) (frame : Frame) : Part → NodeId → Prop
  | .leaf head, child => child < progress.model.size ∧
    (progress.node child).shape.head? = some head ∧ (progress.node child).shape.children = []
  | .fragment value, child => .visited frame value (some child) ∈ journal

/-- A node has the head and the parts of an outline. -/
structure Drawn (progress : Progress) (journal : List Event) (frame : Frame) (outline : Outline)
    (node : NodeId) : Prop where
  head : (progress.node node).shape.head? = some outline.head
  parts : List.Forall₂ (PartDrawn progress journal frame) outline.parts
    (progress.node node).shape.children

/-- A node that a file has is made of its document, or it is a reference to such a node. -/
inductive FileMade (loader : Loader) (progress : Progress) (journal : List Event) (path : Path)
    (node : NodeId) : Prop where
  | inlined {document : Json} (served : loader.Serves path document)
      (visited : .visited (fileFrame path document) document (some node) ∈ journal) :
      FileMade loader progress journal path node
  | declared {document : Json} {target : NodeId} {name : String}
      (served : loader.Serves path document) (remembered : (path, node) ∈ progress.files)
      (shape : (progress.node node).shape = .reference name)
      (declared : .declared (.file path) path.text target ∈ journal)
      (visited : .visited (fileFrame path document) document (some target) ∈ journal) :
      FileMade loader progress journal path node

/-- Why a fragment has its node: for what the fragment says, or as the answer to its reference. A
reference that was handed out in advance has a key, whose pointer is being resolved. -/
inductive Explained (loader : Loader) (root : Frame) (progress : Progress) (journal : List Event)
    (frame : Frame) (fragment : Json) (node : NodeId) : Prop where
  | drawn {outline : Outline} (outlined : fragment.outline? = some outline)
      (drawn : Drawn progress journal frame outline node)
  | lost (lost : Lost frame fragment) (any : (progress.node node).shape = .any)
  | document (refers : fragment.target? = some .document)
      (handedOut : (frame.ownKey, node) ∈ progress.forward)
  | pointer {pointer : String} {target : Json} (refers : fragment.target? = some (.pointer pointer))
      (leads : Pointer.lookup? frame.document (Pointer.segments pointer) = some target)
      (answer : .visited frame target (some node) ∈ journal ∨
        (frame.pointerKey pointer, node) ∈ progress.forward ∧
          (frame, pointer) ∈ openPointers journal)
  | file {file : String} (refers : fragment.target? = some (.file file))
      (here : Path.isRemote file = false)
      (answer : ((frame.filePath file).text, node) ∈ progress.forward ∨
        root.key ≠ some (frame.filePath file).text ∧
          FileMade loader progress journal (frame.filePath file) node)

/-- What an event tells, given the events before it. -/
def Event.Told (loader : Loader) (root : Frame) (progress : Progress) (before : List Event) :
    Event → Prop
  | .visited frame fragment (some node) => Reachable loader root frame fragment ∧
    node < progress.model.size ∧ Explained loader root progress before frame fragment node
  | .entered frame pointer => Mentioned loader root (.pointer frame pointer) ∧
    ∃ target, Pointer.lookup? frame.document (Pointer.segments pointer) = some target
  | .left => ∃ frame pointer target node, (openPointers before).head? = some (frame, pointer) ∧
    Pointer.lookup? frame.document (Pointer.segments pointer) = some target ∧
      .visited frame target (some node) ∈ before
  | .declared .name key _ => ∃ frame fragment, Reachable loader root frame fragment ∧
    fragment.declaredName? = some key
  | .declared (.pointer frame pointer) _ _ => Mentioned loader root (.pointer frame pointer)
  | .declared (.file path) key node => Mentioned loader root (.file path) ∧ key = path.text ∧
    ∃ document, loader.Serves path document ∧
      .visited (fileFrame path document) document (some node) ∈ before
  | _ => True

/-- What all events of a journal tell. -/
def Told (loader : Loader) (root : Frame) (progress : Progress) : List Event → Prop
  | [] => True
  | event :: before => event.Told loader root progress before ∧ Told loader root progress before

/-- A later progress has all nodes with their shapes, and all references and files. -/
structure Progress.Kept (before after : Progress) : Prop where
  size : before.model.size ≤ after.model.size
  shape : ∀ node < before.model.size, (after.node node).shape = (before.node node).shape
  forward : before.forward ⊆ after.forward
  files : before.files ⊆ after.files

/-- A run keeps its nodes with their shapes, its references and its files. -/
theorem Run.kept {context : Context} {before after : Progress} (run : Run context before after) :
    before.Kept after := by
  induction run with
  | refl => exact ⟨Nat.le_refl _, fun _ _ => rfl, List.Subset.refl _, List.Subset.refl _⟩
  | tail _ change inductionHypothesis =>
      refine ⟨Nat.le_trans inductionHypothesis.size change.size_le, fun node known => ?_,
        List.Subset.trans inductionHypothesis.forward change.forward_suffix.subset,
        List.Subset.trans inductionHypothesis.files change.files_suffix.subset⟩
      rw [change.shape_eq (Nat.lt_of_lt_of_le known inductionHypothesis.size),
        inductionHypothesis.shape node known]

/-- The journal of a run begins with all that was noted before. -/
theorem Run.journal_suffix {context : Context} {before after : Progress}
    (run : Run context before after) : before.journal <:+ after.journal := by
  induction run with
  | refl => exact List.suffix_rfl
  | tail _ change inductionHypothesis => exact inductionHypothesis.trans change.journal_suffix

section Growth

variable {loader : Loader} {root frame : Frame} {before after : Progress}
  {journal wider : List Event} {fragment : Json} {node : NodeId}

/-- A part that was drawn stays drawn. -/
theorem PartDrawn.mono (kept : before.Kept after) (grown : journal ⊆ wider) {part : Part}
    (drawn : PartDrawn before journal frame part node) : PartDrawn after wider frame part node := by
  cases part with
  | leaf head =>
      obtain ⟨known, shape, children⟩ := drawn
      refine ⟨Nat.lt_of_lt_of_le known kept.size, ?_, ?_⟩
      · rw [kept.shape node known, shape]
      · rw [kept.shape node known, children]
  | fragment value => exact grown drawn

/-- An outline that a node has stays with it. -/
theorem Drawn.mono (kept : before.Kept after) (grown : journal ⊆ wider)
    (known : node < before.model.size) {outline : Outline}
    (drawn : Drawn before journal frame outline node) : Drawn after wider frame outline node := by
  refine ⟨?_, ?_⟩
  · rw [kept.shape node known, drawn.head]
  · rw [kept.shape node known]
    exact drawn.parts.imp fun _ _ part => part.mono kept grown

/-- A file that was made stays made. -/
theorem FileMade.mono (kept : before.Kept after) (grown : journal ⊆ wider) {path : Path}
    (known : node < before.model.size) (made : FileMade loader before journal path node) :
    FileMade loader after wider path node := by
  cases made with
  | inlined served visited => exact .inlined served (grown visited)
  | declared served remembered shape declared visited =>
      exact .declared served (kept.files remembered) ((kept.shape node known).trans shape)
        (grown declared) (grown visited)

/-- An explanation holds as long as the same pointers are being resolved. -/
theorem Explained.mono (kept : before.Kept after) (grown : journal ⊆ wider)
    (opened : openPointers wider = openPointers journal) (known : node < before.model.size)
    (explained : Explained loader root before journal frame fragment node) :
    Explained loader root after wider frame fragment node := by
  cases explained with
  | drawn outlined drawn => exact .drawn outlined (drawn.mono kept grown known)
  | lost lost any => exact .lost lost ((kept.shape node known).trans any)
  | document refers handedOut => exact .document refers (kept.forward handedOut)
  | pointer refers leads answer =>
      refine .pointer refers leads (answer.imp (grown ·) fun ⟨handedOut, isOpen⟩ => ?_)
      exact ⟨kept.forward handedOut, opened ▸ isOpen⟩
  | file refers here answer =>
      refine .file refers here (answer.imp (kept.forward ·) fun ⟨other, made⟩ => ?_)
      exact ⟨other, made.mono kept grown known⟩

/-- What an event tells is still true later. -/
theorem Event.Told.mono (kept : before.Kept after) {event : Event}
    (told : event.Told loader root before journal) : event.Told loader root after journal := by
  cases event with
  | visited frame fragment made =>
      cases made with
      | none => trivial
      | some node =>
          obtain ⟨reachable, known, explained⟩ := told
          exact ⟨reachable, Nat.lt_of_lt_of_le known kept.size,
            explained.mono kept (List.Subset.refl _) rfl known⟩
  | declared origin key node => cases origin <;> exact told
  | _ => exact told

/-- What a journal tells is still true later. -/
theorem Told.mono (kept : before.Kept after) (told : Told loader root before journal) :
    Told loader root after journal := by
  induction journal with
  | nil => trivial
  | cons event older inductionHypothesis => exact ⟨told.1.mono kept, inductionHypothesis told.2⟩

/-- A journal tells what its earlier part told. -/
theorem Told.of_append (later : List Event) (told : Told loader root before (later ++ journal)) :
    Told loader root before journal := by
  induction later with
  | nil => exact told
  | cons _ _ inductionHypothesis => exact inductionHypothesis told.2

/-- What an event of a journal tells is told from the events before it. -/
theorem Told.event {event : Event} (told : Told loader root before journal)
    (member : event ∈ journal) :
    ∃ older, event :: older <:+ journal ∧ event.Told loader root before older := by
  obtain ⟨later, older, rfl⟩ := List.append_of_mem member
  exact ⟨older, List.suffix_append .., (told.of_append later).1⟩

end Growth

/-- What is related on the right has a partner on the left. -/
theorem exists_of_mem_right {α β : Type} {relation : α → β → Prop} {lefts : List α}
    {rights : List β} (related : List.Forall₂ relation lefts rights) {right : β}
    (member : right ∈ rights) : ∃ left ∈ lefts, relation left right := by
  induction related with
  | nil => cases member
  | cons first _ inductionHypothesis =>
      rcases List.mem_cons.mp member with rfl | later
      · exact ⟨_, List.mem_cons_self, first⟩
      · obtain ⟨left, inside, holds⟩ := inductionHypothesis later
        exact ⟨left, List.mem_cons_of_mem _ inside, holds⟩

/-- A file was read already, or it is being read. -/
def Progress.Covers (progress : Progress) (path : Path) : Prop :=
  (∃ node, (path, node) ∈ progress.files) ∨ ∃ frame ∈ progress.frames, frame.key = some path.text

/-- A file that was read or is being read stays so while its document is open. -/
theorem Progress.Covers.mono {before after : Progress} {path : Path} (covers : before.Covers path)
    (files : before.files ⊆ after.files) (frames : before.frames ⊆ after.frames) :
    after.Covers path :=
  covers.imp (fun ⟨node, member⟩ => ⟨node, files member⟩)
    fun ⟨frame, opened, key⟩ => ⟨frame, frames opened, key⟩

/-- A state that a run has come to, with what its journal tells. The root is being resolved, and the
files that fragments refer to are there or are being read. -/
structure Progress.Surveyed (context : Context) (root : Frame) (progress : Progress) : Prop where
  run : Run context (Progress.start root) progress
  told : Told context.loader root progress progress.journal
  rootOpen : root ∈ progress.frames
  files : ∀ path node, (path, node) ∈ progress.files → node < progress.model.size ∧
    Mentioned context.loader root (.file path) ∧
      FileMade context.loader progress progress.journal path node
  covered : ∀ frame fragment node file, .visited frame fragment (some node) ∈ progress.journal →
    fragment.target? = some (.file file) → progress.Covers (frame.filePath file)

namespace Progress.Surveyed

variable {context : Context} {root : Frame} {before after : Progress}

/-- At the beginning the root is being resolved and nothing was noted. -/
theorem start (context : Context) (root : Frame) :
    (Progress.start root).Surveyed context root where
  run := .refl
  told := trivial
  rootOpen := List.mem_cons_self
  files path node member := by simp [Progress.start] at member
  covered frame fragment node file member := by simp [Progress.start] at member

/-- A surveyed state has all its registrations in the journal. -/
theorem recorded (surveyed : before.Surveyed context root) : before.Recorded :=
  surveyed.run.keeps Progress.Recorded.step (.start root)

/-- A surveyed state has all its keys from references. -/
theorem traced (surveyed : before.Surveyed context root) : before.Traced :=
  (surveyed.run.keeps_recorded Progress.Traced.step (.start root) (.start root)).2

/-- The nodes of parts are nodes of the model. -/
theorem known_of_parts (surveyed : before.Surveyed context root) {frame : Frame}
    {parts : List Part} {children : List NodeId}
    (drawn : List.Forall₂ (PartDrawn before before.journal frame) parts children) :
    ∀ child ∈ children, child < before.model.size := by
  intro child inside
  obtain ⟨part, -, here⟩ := exists_of_mem_right drawn inside
  cases part with
  | leaf head => exact here.1
  | fragment value => exact surveyed.traced.visited _ _ _ here

/-- A run that opens no document and closes none leads on if all its events are told. -/
theorem extend (surveyed : before.Surveyed context root) (run : Run context before after)
    (told : Told context.loader root after after.journal) (frames : after.frames = before.frames)
    (files : after.files = before.files)
    (covered : ∀ frame fragment node file, .visited frame fragment (some node) ∈ after.journal →
      fragment.target? = some (.file file) →
      .visited frame fragment (some node) ∈ before.journal ∨
        before.Covers (frame.filePath file)) :
    after.Surveyed context root where
  run := surveyed.run.trans run
  told := told
  rootOpen := by rw [frames]; exact surveyed.rootOpen
  files path node member := by
    rw [files] at member
    obtain ⟨known, mentioned, made⟩ := surveyed.files path node member
    exact ⟨Nat.lt_of_lt_of_le known run.kept.size, mentioned,
      made.mono run.kept run.journal_suffix.subset known⟩
  covered frame fragment node file member refers := by
    unfold Covers
    rw [files, frames]
    exact (covered frame fragment node file member refers).elim
      (fun earlier => surveyed.covered frame fragment node file earlier refers) fun covers => covers

/-- A run that notes nothing keeps the survey. -/
theorem grow (surveyed : before.Surveyed context root) (run : Run context before after)
    (journal : after.journal = before.journal) (frames : after.frames = before.frames)
    (files : after.files = before.files) : after.Surveyed context root := by
  refine surveyed.extend run ?_ frames files fun frame fragment node file member _ => ?_
  · rw [journal]
    exact surveyed.told.mono run.kept
  · rw [journal] at member
    exact .inl member

/-- A single event that is told leads on. -/
theorem note (surveyed : before.Surveyed context root) (run : Run context before after)
    {event : Event} (journal : after.journal = event :: before.journal)
    (told : event.Told context.loader root after before.journal)
    (frames : after.frames = before.frames) (files : after.files = before.files)
    (unvisited : ∀ frame fragment node, event ≠ .visited frame fragment (some node)) :
    after.Surveyed context root := by
  refine surveyed.extend run ?_ frames files fun frame fragment node file member _ => ?_
  · rw [journal]
    exact ⟨told, surveyed.told.mono run.kept⟩
  · rw [journal] at member
    rcases List.mem_cons.mp member with same | earlier
    · exact absurd same.symm (unvisited frame fragment node)
    · exact .inl earlier

end Progress.Surveyed
end SchemaTypes
