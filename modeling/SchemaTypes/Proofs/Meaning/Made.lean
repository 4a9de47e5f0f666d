/-
This file says what a finished compilation has made of the fragments that it has resolved: a node
with the outline of the fragment, or a name for the node of another fragment.
-/
import SchemaTypes.Proofs.Meaning.Answers
import SchemaTypes.Proofs.Names.Bound

namespace SchemaTypes

open Build

namespace Compilation

/-- How a node stands for a fragment in the end. A reference has a node of its own, which names the
node of its target, or it shares that node. -/
inductive Made (compilation : Compilation) (loader : Loader) (root : Frame) :
    Frame → Json → NodeId → Prop where
  | drawn {frame : Frame} {fragment : Json} {outline : Outline} {node : NodeId}
      (outlined : fragment.outline? = some outline)
      (drawn : Drawn compilation.progress compilation.journal frame outline node) :
      Made compilation loader root frame fragment node
  | lost {frame : Frame} {fragment : Json} {node : NodeId} (lost : Lost frame fragment)
      (any : (compilation.model.node node).shape = .any) :
      Made compilation loader root frame fragment node
  | follow {frame next : Frame} {fragment target : Json} {node : NodeId}
      (follows : Follows loader root frame fragment next target)
      (made : Made compilation loader root next target node) :
      Made compilation loader root frame fragment node
  | reference {frame next : Frame} {fragment target : Json} {node named : NodeId} {name : String}
      (follows : Follows loader root frame fragment next target)
      (shape : (compilation.model.node node).shape = .reference name)
      (leads : compilation.Leads root.ownKey (.reference node) named)
      (visited : .visited next target (some named) ∈ compilation.journal) :
      Made compilation loader root frame fragment node

namespace Made

variable {compilation : Compilation} {loader : Loader} {root frame next : Frame}
  {fragment target : Json} {node : NodeId}

/-- A fragment that says something of its own is no reference, so its node has its outline. -/
theorem drawn_of_outline (made : compilation.Made loader root frame fragment node)
    {outline : Outline} (outlined : fragment.outline? = some outline) :
    Drawn compilation.progress compilation.journal frame outline node := by
  have noReference (reference : Rule.classify fragment = .reference) : False := by
    rw [Json.outline?_eq_none reference] at outlined
    cases outlined
  cases made with
  | drawn outlinedToo drawn =>
      obtain rfl := Option.some.inj (outlined.symm.trans outlinedToo)
      exact drawn
  | lost lost => exact (noReference lost.reference).elim
  | follow follows => exact (noReference follows.reference).elim
  | reference follows => exact (noReference follows.reference).elim

/-- A reference that leads nowhere is of any type in the end. -/
theorem any_of_lost (made : compilation.Made loader root frame fragment node)
    (lost : Lost frame fragment) : (compilation.model.node node).shape = .any := by
  cases made with
  | drawn outlined =>
      rw [Json.outline?_eq_none lost.reference] at outlined
      cases outlined
  | lost _ any => exact any
  | follow follows => exact absurd lost follows.not_lost
  | reference follows => exact absurd lost follows.not_lost

/-- A reference shares the node of its target or names it. -/
theorem of_follows (made : compilation.Made loader root frame fragment node)
    (follows : Follows loader root frame fragment next target) :
    compilation.Made loader root next target node ∨
      ∃ name named, (compilation.model.node node).shape = .reference name ∧
        compilation.Leads root.ownKey (.reference node) named ∧
        .visited next target (some named) ∈ compilation.journal := by
  cases made with
  | drawn outlined =>
      rw [Json.outline?_eq_none follows.reference] at outlined
      cases outlined
  | lost lost => exact absurd lost follows.not_lost
  | follow followsToo made =>
      obtain ⟨rfl, rfl⟩ := follows.unique followsToo
      exact .inl made
  | reference followsToo shape leads visited =>
      obtain ⟨rfl, rfl⟩ := follows.unique followsToo
      exact .inr ⟨_, _, shape, leads, visited⟩

end Made

/-- A compilation that has come from a surveyed state to its end. -/
structure Concluded (compilation : Compilation) (context : Context) (root : Frame)
    (last : Progress) : Prop where
  surveyed : last.Surveyed context root
  progress : compilation.progress =
    bindReferences root.ownKey compilation.root (compilation.declared last)
  id : compilation.id = root.name
  visited : .visited root root.document (some compilation.root) ∈ last.journal
  leads : ∀ key reference, (key, reference) ∈ last.forward → ∃ target name,
    (if key = root.ownKey then some compilation.root
      else compilation.declarations.get? key) = some target ∧
    (compilation.model.node reference).shape = .reference name

variable {context : Context} {document : Json} {sourcePath : Option Path}
  {compilation : Compilation}

/-- A compilation with unambiguous keys has come from a surveyed state to its end. -/
theorem exists_concluded (built : build context document sourcePath = .ok compilation)
    (unambiguous : Unambiguous context.loader (rootFrame document sourcePath)) :
    ∃ last, compilation.Concluded context (rootFrame document sourcePath) last := by
  have named (key : String) (reference : NodeId) := @forward_leads _ _ _ _ built key reference
  simp only [build] at built
  cases outcome : run context document sourcePath with
  | error error progress => simp [outcome] at built
  | ok root progress =>
      simp only [outcome, Except.ok.injEq] at built
      simp only [run, bind_eq_ok, modify_bind, pure_apply, EStateM.Result.ok.injEq] at outcome
      obtain ⟨made, middle, resolved, rfl, rfl⟩ := outcome
      have reachable : Reachable context.loader (rootFrame document sourcePath)
          (Progress.start (rootFrame document sourcePath)).frame document := .root
      obtain ⟨inner, answered, rfl⟩ := resolveFragment_surveys unambiguous _ _ _ _ _ _
        (.start context (rootFrame document sourcePath)) reachable resolved
      have describing := adoptDescription_passage context document made inner answered.known
      obtain ⟨-, surveyed⟩ := answered.visit reachable
        (adoptDescription_surveyed answered.surveyed document answered.known) describing
        (adoptDescription_files ..)
      have progress : compilation.progress =
          bindReferences (rootFrame document sourcePath).ownKey compilation.root
            (compilation.declared ((adoptDescription document made inner).note
              (.visited (rootFrame document sourcePath) document (some made)))) := by
        have titled := completed_document_eq document none made inner
        rw [answered.passage.frame] at titled
        subst built
        rcases titled with same | ⟨name, same⟩
        · rw [same]
          rfl
        · rw [same]
          simp only [declared, Progress.declare, Progress.setId, Model.setId_setId]
          rfl
      subst built
      refine ⟨_, surveyed, progress, rfl, List.mem_cons_self, fun key reference handedOut => ?_⟩
      obtain ⟨target, name, stands, -, shape⟩ := named key reference (progress ▸ handedOut)
      exact ⟨target, _, stands, shape⟩

namespace Concluded

variable {root frame : Frame} {last : Progress} {fragment : Json} {node : NodeId}
  (concluded : compilation.Concluded context root last)

include concluded

/-- No node is added in the end. -/
theorem size_eq : compilation.model.size = last.model.size := by
  rw [model, concluded.progress, bindReferences_size]
  exact Model.size_setId ..

/-- The last registration is that of the root. -/
theorem journal_eq :
    compilation.journal = .declared .name compilation.id compilation.root :: last.journal := by
  rw [journal, concluded.progress]
  rfl

theorem journal_subset : last.journal ⊆ compilation.journal := by
  rw [concluded.journal_eq]
  exact List.subset_cons_self _ _

/-- Only references are changed in the end, and they are references still. -/
theorem shape_final (known : node < last.model.size) :
    (∃ name other, (last.node node).shape = .reference name ∧
      (compilation.model.node node).shape = .reference other) ∨
    (compilation.model.node node).shape = (last.node node).shape := by
  have inside : node < (compilation.declared last).model.size :=
    Nat.lt_of_lt_of_eq known (Model.size_setId ..).symm
  have declared : ((compilation.declared last).node node).shape = (last.node node).shape :=
    Model.shape_setId ..
  have final := @bindReferences_shape _ root.ownKey compilation.root _ inside
  rw [← concluded.progress, declared] at final
  rcases final with ⟨key, name, handedOut, -, shape⟩ | ⟨-, shape⟩
  · obtain ⟨other, before⟩ := concluded.surveyed.recorded.forward _ handedOut
    exact .inl ⟨other, _, before, shape⟩
  · exact .inr shape

/-- Only references are bound in the end. -/
theorem shape_eq (known : node < last.model.size)
    (plain : ∀ name, (last.node node).shape ≠ .reference name) :
    (compilation.model.node node).shape = (last.node node).shape :=
  (concluded.shape_final known).resolve_left fun ⟨name, _, shape, _⟩ => plain name shape

/-- A reference that is bound is still a reference. -/
theorem shape_of_reference (known : node < last.model.size) {name : String}
    (shape : (last.node node).shape = .reference name) :
    ∃ other, (compilation.model.node node).shape = .reference other := by
  rcases concluded.shape_final known with ⟨-, other, -, final⟩ | same
  · exact ⟨other, final⟩
  · exact ⟨name, same.trans shape⟩

theorem shape_of_head? (known : node < last.model.size) {head : Head}
    (top : (last.node node).shape.head? = some head) :
    (compilation.model.node node).shape = (last.node node).shape := by
  refine concluded.shape_eq known fun name reference => ?_
  rw [reference] at top
  cases top

/-- A part that was drawn on the way is drawn in the end. -/
theorem part_final {before : List Event} (earlier : before ⊆ last.journal) {part : Part}
    (drawn : PartDrawn last before frame part node) :
    PartDrawn compilation.progress compilation.journal frame part node := by
  cases part with
  | leaf head =>
      obtain ⟨known, top, children⟩ := drawn
      have shape := concluded.shape_of_head? known top
      exact ⟨Nat.lt_of_lt_of_eq known concluded.size_eq.symm,
        (congrArg Shape.head? shape).trans top, (congrArg Shape.children shape).trans children⟩
  | fragment value => exact concluded.journal_subset (earlier drawn)

/-- An outline that a node had on the way it has in the end. -/
theorem drawn_final {before : List Event} (earlier : before ⊆ last.journal)
    (known : node < last.model.size) {outline : Outline}
    (drawn : Drawn last before frame outline node) :
    Drawn compilation.progress compilation.journal frame outline node := by
  have shape : (compilation.progress.node node).shape = (last.node node).shape :=
    concluded.shape_of_head? known drawn.head
  constructor
  · rw [shape]
    exact drawn.head
  · rw [shape]
    exact drawn.parts.imp fun part child here => concluded.part_final earlier here

/-- The name of the root is declared last, and under no other key. -/
theorem stored_eq {key : String} (other : key ≠ root.name) :
    compilation.declarations.get? key = registered? last.journal key := by
  rw [← Build.stored_eq concluded.surveyed key, declarations, concluded.progress]
  refine (Table.get?_put _ _ _ _).trans (if_neg fun same => other ?_)
  rw [← same, concluded.id]

/-- The references that were handed out are those of the last state. -/
theorem forward_eq : compilation.progress.forward = last.forward := by
  rw [concluded.progress]
  rfl

/-- The files that were read are those of the last state. -/
theorem files_eq : compilation.progress.files = last.files := by
  rw [concluded.progress]
  rfl

/-- A reference to the root names its node. -/
theorem made_root (follows : Follows context.loader root frame fragment root root.document)
    (handedOut : (root.ownKey, node) ∈ last.forward) :
    compilation.Made context.loader root frame fragment node := by
  obtain ⟨_, _, -, shape⟩ := concluded.leads _ _ handedOut
  refine .reference follows shape (.root ?_) (concluded.journal_subset concluded.visited)
  rw [concluded.forward_eq]
  exact handedOut

/-- A reference that was handed out for a key other than the root's names the node that was
registered last under the key. -/
theorem registered_of_handedOut {key : String} (apart : key ≠ root.ownKey)
    (other : key ≠ root.name) (handedOut : (key, node) ∈ last.forward) :
    ∃ name named, (compilation.model.node node).shape = .reference name ∧
      compilation.Leads root.ownKey (.reference node) named ∧
      registered? last.journal key = some named := by
  obtain ⟨named, name, stands, shape⟩ := concluded.leads _ _ handedOut
  rw [if_neg apart] at stands
  refine ⟨name, named, shape, .key apart ?_ stands, ?_⟩
  · rw [concluded.forward_eq]
    exact handedOut
  · rw [← concluded.stored_eq other]
    exact stands

variable (unambiguous : Unambiguous context.loader root)

include unambiguous

/-- A reference that was handed out for a file names the node of the document in the file. -/
theorem made_file {path : Path} (mentioned : Mentioned context.loader root (.file path))
    (handedOut : (path.text, node) ∈ last.forward)
    (follows : ∀ document, context.loader.Serves path document →
      Follows context.loader root frame fragment (fileFrame path document) document) :
    compilation.Made context.loader root frame fragment node := by
  obtain ⟨name, named, shape, leads, registered⟩ := concluded.registered_of_handedOut
    (unambiguous.apart _ mentioned) (unambiguous.id _ mentioned) handedOut
  obtain ⟨document, served, visited⟩ := concluded.surveyed.told.file_of_registered unambiguous
    concluded.surveyed.traced.coherent mentioned registered
  exact .reference (follows document served) shape leads (concluded.journal_subset visited)

/-- A reference that was handed out for a pointer leads to the node of its target. -/
theorem made_pointer {pointer : String} {target : Json}
    (mentioned : Mentioned context.loader root (.pointer frame pointer))
    (refers : fragment.target? = some (.pointer pointer))
    (leads : Pointer.lookup? frame.document (Pointer.segments pointer) = some target)
    (handedOut : (frame.pointerKey pointer, node) ∈ last.forward) :
    compilation.Made context.loader root frame fragment node := by
  obtain ⟨name, named, shape, stands, registered⟩ := concluded.registered_of_handedOut
    (unambiguous.apart _ mentioned) (unambiguous.id _ mentioned) handedOut
  obtain ⟨content, leadsToo, visited⟩ := concluded.surveyed.told.pointer_of_registered unambiguous
    concluded.surveyed.traced.coherent mentioned registered
  obtain rfl := Option.some.inj (leads.symm.trans leadsToo)
  exact .reference (.pointer refers leads) shape stands (concluded.journal_subset visited)

/-- What the journal explains stands in the end. -/
theorem made_of_explained {before : List Event} (earlier : before ⊆ last.journal)
    (inner : ∀ next target, .visited next target (some node) ∈ before →
      compilation.Made context.loader root next target node)
    (reachable : Reachable context.loader root frame fragment) (known : node < last.model.size)
    (explained : Explained context.loader root last before frame fragment node) :
    compilation.Made context.loader root frame fragment node := by
  cases explained with
  | drawn outlined drawn => exact .drawn outlined (concluded.drawn_final earlier known drawn)
  | lost lost any =>
      refine .lost lost ((concluded.shape_eq known fun name reference => ?_).trans any)
      cases any.symm.trans reference
  | document refers handedOut =>
      rcases reachable.frame with rfl | ⟨path, content, rfl, mentioned, served⟩
      · exact concluded.made_root (.document refers) handedOut
      · refine concluded.made_file unambiguous mentioned handedOut fun document servedToo => ?_
        obtain rfl := served.unique servedToo
        exact .document refers
  | pointer refers leads answer =>
      rcases answer with visited | ⟨handedOut, -⟩
      · exact .follow (.pointer refers leads) (inner _ _ visited)
      · exact concluded.made_pointer unambiguous (.pointer reachable refers) refers leads handedOut
  | @file file refers here answer =>
      rcases answer with handedOut | ⟨other, made⟩
      · by_cases own : root.key = some (frame.filePath file).text
        · refine concluded.made_root (.root refers own) ?_
          rw [show root.ownKey = (frame.filePath file).text by simp [Frame.ownKey, own]]
          exact handedOut
        · exact concluded.made_file unambiguous (.file reachable refers own) handedOut
            fun document served => .file refers own served
      · cases made with
        | inlined served visited => exact .follow (.file refers other served) (inner _ _ visited)
        | declared served remembered shape declared visited =>
            obtain ⟨name, final⟩ := concluded.shape_of_reference known shape
            rw [← concluded.files_eq] at remembered
            have leads : compilation.Leads root.ownKey (.reference node) _ :=
              .file remembered (concluded.journal_subset (earlier declared))
            exact .reference (.file refers other served) final leads
              (concluded.journal_subset (earlier visited))

/-- Whatever a part of the journal visits stands in the end. -/
theorem made_of_suffix {journal : List Event} (part : journal <:+ last.journal) :
    ∀ {frame : Frame} {fragment : Json} {node : NodeId},
      .visited frame fragment (some node) ∈ journal →
      compilation.Made context.loader root frame fragment node := by
  induction journal with
  | nil => exact fun member => absurd member List.not_mem_nil
  | cons event before inductionHypothesis =>
      intro frame fragment node member
      have earlier : before <:+ last.journal := (List.suffix_cons event before).trans part
      rcases List.mem_cons.mp member with rfl | old
      · obtain ⟨later, same⟩ := part
        have told := concluded.surveyed.told
        rw [← same] at told
        obtain ⟨reachable, known, explained⟩ := (told.of_append later).1
        exact concluded.made_of_explained unambiguous earlier.subset
          (fun _ _ visited => inductionHypothesis earlier visited) reachable known explained
      · exact inductionHypothesis earlier old

/-- Every fragment that was resolved is accounted for. -/
theorem made_of_visited (visited : .visited frame fragment (some node) ∈ compilation.journal) :
    compilation.Made context.loader root frame fragment node := by
  rw [concluded.journal_eq] at visited
  exact concluded.made_of_suffix unambiguous List.suffix_rfl (by simpa using visited)

end Concluded
end Compilation
end SchemaTypes
