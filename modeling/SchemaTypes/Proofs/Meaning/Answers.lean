/-
This file shows that every reference is answered for its own target if the keys of a compilation are
unambiguous. Main statement: the journal of a compilation tells why every fragment has its node.
-/
import SchemaTypes.Proofs.Meaning.Survey
import SchemaTypes.Proofs.References.Denotation

namespace SchemaTypes

open Build

section Keys

variable {loader : Loader} {root : Frame} {progress : Progress} {journal : List Event}
  {forward : List (String × NodeId)} {frame : Frame} {pointer : String} {node : NodeId}

/-- What is registered under the key of a pointer was made of its target. -/
theorem Told.pointer_of_registered (told : Told loader root progress journal)
    (unambiguous : Unambiguous loader root) (coherent : Coherent forward journal)
    (mentioned : Mentioned loader root (.pointer frame pointer))
    (registered : registered? journal (frame.pointerKey pointer) = some node) :
    ∃ target, Pointer.lookup? frame.document (Pointer.segments pointer) = some target ∧
      .visited frame target (some node) ∈ journal := by
  obtain ⟨origin, later, before, rfl, -⟩ := exists_lastDeclared registered
  have here := (told.of_append later).1
  cases origin with
  | name =>
      obtain ⟨other, fragment, reachable, named⟩ := here
      exact absurd named (unambiguous.names _ mentioned other fragment reachable)
  | pointer other text =>
      obtain ⟨key, target, older, leads, rfl, -⟩ := coherent.follows later
      obtain ⟨rfl, rfl⟩ := Thing.pointer.inj
        (unambiguous.things _ _ mentioned here key)
      exact ⟨target, leads, by simp⟩
  | file path =>
      obtain ⟨other, key, -⟩ := here
      cases unambiguous.things _ _ mentioned other key

/-- What is registered under the path of a file was made of its document. -/
theorem Told.file_of_registered (told : Told loader root progress journal)
    (unambiguous : Unambiguous loader root) (coherent : Coherent forward journal) {path : Path}
    (mentioned : Mentioned loader root (.file path))
    (registered : registered? journal path.text = some node) :
    ∃ document, loader.Serves path document ∧
      .visited (fileFrame path document) document (some node) ∈ journal := by
  obtain ⟨origin, later, before, rfl, -⟩ := exists_lastDeclared registered
  have here := (told.of_append later).1
  cases origin with
  | name =>
      obtain ⟨other, fragment, reachable, named⟩ := here
      exact absurd named (unambiguous.names _ mentioned other fragment reachable)
  | pointer other text =>
      obtain ⟨key, -⟩ := coherent.follows later
      cases unambiguous.things _ _ mentioned here key
  | file other =>
      obtain ⟨otherMentioned, key, document, served, visited⟩ := here
      obtain rfl := Thing.file.inj (unambiguous.things _ _ mentioned otherMentioned key)
      exact ⟨document, served, by simp [visited]⟩

/-- Only the pointer itself is being resolved under its key. -/
theorem Told.open_of_awaited (told : Told loader root progress journal)
    (unambiguous : Unambiguous loader root)
    (mentioned : Mentioned loader root (.pointer frame pointer))
    (awaited : frame.pointerKey pointer ∈ openKeys journal) :
    (frame, pointer) ∈ openPointers journal ∧
      ∃ target, Pointer.lookup? frame.document (Pointer.segments pointer) = some target := by
  obtain ⟨entry, isOpen, key⟩ := List.mem_map.mp awaited
  have entered : .entered entry.1 entry.2 ∈ journal := by
    rw [← List.append_nil journal] at isOpen
    exact entered_mem_of_open journal isOpen (by simp [openPointers])
  obtain ⟨older, -, other, leads⟩ := told.event entered
  obtain ⟨rfl, rfl⟩ := Thing.pointer.inj (unambiguous.things _ _ mentioned other key.symm)
  exact ⟨isOpen, leads⟩

end Keys

namespace Build

variable {context : Context} {root : Frame} {resolve : Resolver} {fragment : Json}
  {before built : Progress} {node : NodeId}

/-- What is declared under a key is what the journal has registered there last. -/
theorem stored_eq (surveyed : before.Surveyed context root) (key : String) :
    before.declarations.get? key = registered? before.journal key := by
  rw [surveyed.recorded.declarations, Declarations.get?_ofJournal]
  rfl

theorem uncovered {target : Target} (refers : fragment.target? = some target)
    (noFile : ∀ file, target ≠ .file file) (file : String)
    (other : fragment.target? = some (.file file)) {goal : Prop} : goal :=
  absurd (Option.some.inj (refers.symm.trans other)) (noFile file)

/-- What a pointer leaves behind: its node may be declared under its key. -/
theorem finishPointer_leaves (settings : Settings) (frame : Frame) (pointer : String)
    (node : NodeId) (progress : Progress) :
    let finished := finishPointer settings frame pointer node progress
    finished.frames = progress.frames ∧ finished.files = progress.files ∧
      (finished.journal = progress.journal ∨
        finished.journal = .declared (.pointer frame pointer) (frame.pointerKey pointer) node ::
          progress.journal) := by
  simp only [finishPointer]
  split
  · exact ⟨rfl, rfl, .inr rfl⟩
  · exact ⟨rfl, rfl, .inl rfl⟩

/-- A pointer whose target was resolved is finished, and what its key is registered for is told. -/
theorem finishPointer_surveyed {frame : Frame} {pointer : String} {target : Json} {made : NodeId}
    {last : Progress} (surveyed : last.Surveyed context root)
    (mentioned : Mentioned context.loader root (.pointer frame pointer))
    (opened : (openPointers last.journal).head? = some (frame, pointer))
    (leads : Pointer.lookup? frame.document (Pointer.segments pointer) = some target)
    (visited : .visited frame target (some made) ∈ last.journal)
    (run : Run context last ((finishPointer context.settings frame pointer made
      (last.leave (frame.pointerKey pointer))).note (.followed frame pointer (some made)))) :
    Progress.Surveyed context root ((finishPointer context.settings frame pointer made
      (last.leave (frame.pointerKey pointer))).note (.followed frame pointer (some made))) := by
  obtain ⟨frames, files, journal⟩ := finishPointer_leaves context.settings frame pointer made
    (last.leave (frame.pointerKey pointer))
  have told := surveyed.told.mono run.kept
  have left (progress : Progress) : Event.left.Told context.loader root progress last.journal :=
    ⟨frame, pointer, target, made, opened, leads, visited⟩
  refine surveyed.extend run ⟨trivial, ?_⟩ frames files fun _ _ _ _ member _ => .inl ?_
  · rcases journal with same | same
    · rw [same]
      exact ⟨left _, told⟩
    · rw [same]
      exact ⟨mentioned, left _, told⟩
  · have earlier := (List.mem_cons.mp member).resolve_left (by simp)
    rcases journal with same | same
    · rw [same] at earlier
      simpa [Progress.leave] using earlier
    · rw [same] at earlier
      simpa [Progress.leave] using earlier

/-- How a document is closed: its file is remembered with its node, or with a reference to the node
that it has declared. -/
structure FileClosed (described final : Progress) (path : Path) (made loaded : NodeId) : Prop where
  frames : final.frames = described.outer
  files : final.files = (path, loaded) :: described.files
  left : loaded = made ∧ final.journal = .located path (some loaded) :: described.journal ∨
    final.journal = .located path (some loaded) ::
        .declared (.file path) path.text made :: described.journal ∧
      ∃ name, (final.node loaded).shape = .reference name

section Closed

variable {described final : Progress} {path : Path} {document : Json} {made loaded : NodeId}
  (closed : FileClosed described final path made loaded)

include closed

/-- The node of a closed file was made of the document that the file holds. -/
theorem FileClosed.fileMade (served : context.loader.Serves path document)
    (visited : .visited (fileFrame path document) document (some made) ∈ described.journal) :
    FileMade context.loader final final.journal path loaded := by
  rcases closed.left with ⟨rfl, journal⟩ | ⟨journal, name, shape⟩
  · exact .inlined served (by simp [journal, visited])
  · have declaredNow : .declared (.file path) path.text made ∈ final.journal := by simp [journal]
    exact .declared served (by simp [closed.files]) shape declaredNow (by simp [journal, visited])

/-- Closing a document is no visit. -/
theorem FileClosed.visited_iff {frame : Frame} {fragment : Json} {node : NodeId} :
    .visited frame fragment (some node) ∈ final.journal ↔
      .visited frame fragment (some node) ∈ described.journal := by
  rcases closed.left with ⟨-, journal⟩ | ⟨journal, -⟩
  · simp [journal]
  · simp [journal]

variable (surveyed : described.Surveyed context root)
  (own : described.frame = fileFrame path document)
  (mentioned : Mentioned context.loader root (.file path))

include surveyed own mentioned

/-- The root is still being resolved when a file is closed. -/
theorem FileClosed.rootOpen : root ∈ final.frames := by
  have opened := surveyed.rootOpen
  rw [Progress.frames, own] at opened
  rw [closed.frames]
  refine (List.mem_cons.mp opened).resolve_left fun same => mentioned.other ?_
  rw [same]
  rfl

/-- What was covered by the document is covered by its file. -/
theorem FileClosed.covers (unambiguous : Unambiguous context.loader root) {frame : Frame}
    {fragment : Json} {node : NodeId} {file : String}
    (visited : .visited frame fragment (some node) ∈ described.journal)
    (asks : fragment.target? = some (.file file)) : final.Covers (frame.filePath file) := by
  by_cases isRoot : root.key = some (frame.filePath file).text
  · exact .inr ⟨root, closed.rootOpen surveyed own mentioned, isRoot⟩
  obtain ⟨-, -, reachable, -⟩ := surveyed.told.event visited
  rcases surveyed.covered frame fragment node file visited asks with
    ⟨stored, inFiles⟩ | ⟨opened, isOpen, key⟩
  · exact .inl ⟨stored, by simp [closed.files, inFiles]⟩
  · rw [Progress.frames, own] at isOpen
    rcases List.mem_cons.mp isOpen with rfl | remaining
    · have same := unambiguous.things _ _ mentioned (.file reachable asks isRoot)
        (Option.some.inj key)
      rw [← Thing.file.inj same]
      exact .inl ⟨loaded, by simp [closed.files]⟩
    · exact .inr ⟨opened, closed.frames ▸ remaining, key⟩

/-- When a document is closed, its file is read, and all other files are covered as before. -/
theorem FileClosed.surveyed_final (unambiguous : Unambiguous context.loader root)
    (run : Run context described final) (served : context.loader.Serves path document)
    (visited : .visited (fileFrame path document) document (some made) ∈ described.journal)
    (known : loaded < final.model.size) : final.Surveyed context root := by
  have told : Told context.loader root final described.journal := surveyed.told.mono run.kept
  refine ⟨surveyed.run.trans run, ?_, closed.rootOpen surveyed own mentioned, ?_, ?_⟩
  · rcases closed.left with ⟨-, journal⟩ | ⟨journal, -⟩
    · rw [journal]
      exact ⟨trivial, told⟩
    · rw [journal]
      exact ⟨trivial, ⟨mentioned, rfl, document, served, visited⟩, told⟩
  · intro other node member
    rw [closed.files] at member
    rcases List.mem_cons.mp member with same | earlier
    · obtain ⟨rfl, rfl⟩ := Prod.mk.inj same
      exact ⟨known, mentioned, closed.fileMade served visited⟩
    · obtain ⟨otherKnown, otherMentioned, otherMade⟩ := surveyed.files other node earlier
      exact ⟨Nat.lt_of_lt_of_le otherKnown run.kept.size, otherMentioned,
        otherMade.mono run.kept run.journal_suffix.subset otherKnown⟩
  · intro frame fragment node file member asks
    exact closed.covers surveyed own mentioned unambiguous (closed.visited_iff.mp member) asks

end Closed

/-- A fragment refers to one file only. -/
theorem covers_of_file {progress : Progress} {frame : Frame} {file : String}
    (refers : fragment.target? = some (.file file)) (covers : progress.Covers (frame.filePath file))
    (asked : String) (same : fragment.target? = some (.file asked)) :
    progress.Covers (frame.filePath asked) := by
  obtain rfl := Target.file.inj (Option.some.inj (refers.symm.trans same))
  exact covers

section References

variable (surveys : Surveys context root resolve) (unambiguous : Unambiguous context.loader root)
  (surveyed : before.Surveyed context root)
  (reachable : Reachable context.loader root before.frame fragment)

include surveyed

/-- A reference to the document is answered by a forward reference to its own key. -/
theorem followDocument_answered (refers : fragment.target? = some .document)
    (done : followDocument before = .ok node built) :
    Answered context root before built fragment node := by
  simp only [followDocument, get_bind, forwardReference_apply, EStateM.Result.ok.injEq] at done
  obtain ⟨rfl, rfl⟩ := done
  have change : Transition context before _ := .documentReferred before
  exact ⟨(Passage.refl before).step change rfl rfl rfl rfl, by simp [Progress.refer],
    surveyed.grow (.single change) rfl rfl rfl, .document refers List.mem_cons_self,
    fun file other => uncovered refers (by simp) file other⟩

include reachable unambiguous

/-- A pointer whose key is declared is answered by the node that its target has. -/
theorem pointerStored_answered {pointer : String}
    (refers : fragment.target? = some (.pointer pointer))
    (stored : before.declarations.get? (before.frame.pointerKey pointer) = some node) :
    Answered context root before (before.note (.followed before.frame pointer (some node)))
      fragment node := by
  have change : Transition context before _ := .pointerStored before pointer node stored
  rw [stored_eq surveyed] at stored
  obtain ⟨target, leads, visited⟩ := surveyed.told.pointer_of_registered unambiguous
    surveyed.traced.coherent (.pointer reachable refers) stored
  exact ⟨(Passage.refl before).step change rfl rfl rfl rfl,
    surveyed.traced.visited _ _ _ visited,
    surveyed.note (.single change) rfl trivial rfl rfl (by simp),
    .pointer refers leads (.inl (List.mem_cons_of_mem _ visited)),
    fun file other => uncovered refers (by simp) file other⟩

/-- A pointer whose key is pending is answered by a forward reference to it. -/
theorem pointerReferred_answered {pointer : String}
    (refers : fragment.target? = some (.pointer pointer))
    (missing : before.declarations.get? (before.frame.pointerKey pointer) = none)
    (awaited : before.frame.pointerKey pointer ∈ before.pending) :
    Answered context root before
      ((before.refer (before.frame.pointerKey pointer) (pointerName context.settings pointer)).note
        (.followed before.frame pointer (some before.model.size))) fragment before.model.size := by
  have change : Transition context before _ := .pointerReferred before pointer missing awaited
  rw [surveyed.traced.pending] at awaited
  obtain ⟨isOpen, target, leads⟩ := surveyed.told.open_of_awaited unambiguous
    (.pointer reachable refers) awaited
  exact ⟨(Passage.refl before).step change rfl rfl rfl rfl,
    by simp [Progress.note, Progress.refer],
    surveyed.note (.single change) rfl trivial rfl rfl (by simp),
    .pointer refers leads (.inr ⟨List.mem_cons_self, isOpen⟩),
    fun file other => uncovered refers (by simp) file other⟩

omit unambiguous reachable in
/-- A pointer that leads nowhere is answered by any type. -/
theorem pointerLost_answered {pointer : String}
    (refers : fragment.target? = some (.pointer pointer))
    (nowhere : Pointer.lookup? before.frame.document (Pointer.segments pointer) = none) :
    Answered context root before
      ((before.add .any).note (.followed before.frame pointer (some before.model.size))) fragment
      before.model.size := by
  have change : Transition context before _ := .pointerLost before pointer nowhere
  exact ⟨(Passage.refl before).step change rfl rfl rfl rfl, by simp [Progress.note, Progress.add],
    surveyed.note (.single change) rfl trivial rfl rfl (by simp),
    .lost (.pointer refers nowhere) (by simp [Progress.node, Progress.note, Progress.add]),
    fun file other => uncovered refers (by simp) file other⟩

omit unambiguous in
/-- While a pointer is followed, the journal tells that its key is pending. -/
theorem pointerEntered_surveyed {pointer : String} {target : Json}
    (refers : fragment.target? = some (.pointer pointer))
    (missing : before.declarations.get? (before.frame.pointerKey pointer) = none)
    (fresh : before.frame.pointerKey pointer ∉ before.pending)
    (leads : Pointer.lookup? before.frame.document (Pointer.segments pointer) = some target) :
    (before.enter before.frame pointer).Surveyed context root := by
  have entering : Transition context before (before.enter before.frame pointer) :=
    .pointerEntered before pointer missing fresh
  exact surveyed.note (.single entering) rfl ⟨.pointer reachable refers, target, leads⟩ rfl rfl
    (by simp)

include surveys

omit unambiguous in
/-- A pointer that is followed is answered by the node of its target. -/
theorem pointerEntered_answered {pointer : String} {target : Json} {made : NodeId} {last : Progress}
    (refers : fragment.target? = some (.pointer pointer))
    (missing : before.declarations.get? (before.frame.pointerKey pointer) = none)
    (fresh : before.frame.pointerKey pointer ∉ before.pending)
    (leads : Pointer.lookup? before.frame.document (Pointer.segments pointer) = some target)
    (resolved : resolve target .inner (before.enter before.frame pointer) = .ok made last) :
    Answered context root before
      ((finishPointer context.settings before.frame pointer made
          (last.leave (before.frame.pointerKey pointer))).note
        (.followed before.frame pointer (some made))) fragment made := by
  have entered := pointerEntered_surveyed surveyed reachable refers missing fresh leads
  obtain ⟨passage, onward, known, head⟩ := surveys.inner entered
    (reachable.follow (.pointer refers leads)) resolved
  obtain ⟨finishing, whole, finalKnown⟩ :=
    finishPointer_passage missing fresh leads passage known head
  have visited : .visited before.frame target (some made) ∈ last.journal :=
    List.mem_of_mem_head? (Option.mem_def.mpr head)
  have opened : (openPointers last.journal).head? = some (before.frame, pointer) := by
    rw [passage.opened]
    rfl
  have mentioned : Mentioned context.loader root (.pointer before.frame pointer) :=
    .pointer reachable refers
  exact ⟨whole, finalKnown,
    finishPointer_surveyed onward mentioned opened leads visited (.single finishing),
    .pointer refers leads (.inl ((Run.journal_suffix (.single finishing)).subset visited)),
    fun file other => uncovered refers (by simp) file other⟩

/-- A pointer is answered for its own target, whichever way it is answered. -/
theorem followPointer_answered {pointer : String}
    (refers : fragment.target? = some (.pointer pointer))
    (done : followPointer context.settings resolve pointer before = .ok node built) :
    Answered context root before built fragment node := by
  simp only [followPointer, get_bind, noting_eq_ok] at done
  obtain ⟨finished, resolved, rfl⟩ := done
  simp only [resolvePointer, get_bind] at resolved
  cases stored : before.declarations.get? (before.frame.pointerKey pointer) with
  | some existing =>
      simp only [stored, pure_apply, EStateM.Result.ok.injEq] at resolved
      obtain ⟨rfl, rfl⟩ := resolved
      exact pointerStored_answered unambiguous surveyed reachable refers stored
  | none =>
      simp only [stored] at resolved
      split at resolved
      · next awaited =>
        simp only [forwardReference_apply, EStateM.Result.ok.injEq] at resolved
        obtain ⟨rfl, rfl⟩ := resolved
        exact pointerReferred_answered unambiguous surveyed reachable refers stored awaited
      · next fresh =>
        cases found : Pointer.lookup? before.frame.document (Pointer.segments pointer) with
        | none =>
            simp only [found, allocate_apply, EStateM.Result.ok.injEq] at resolved
            obtain ⟨rfl, rfl⟩ := resolved
            exact pointerLost_answered surveyed refers found
        | some target =>
            simp only [found, bind_eq_ok, whilePending, between_eq_ok, modify_bind, pure_apply,
              EStateM.Result.ok.injEq] at resolved
            obtain ⟨made, middle, ⟨last, targetResolved, rfl⟩, rfl, rfl⟩ := resolved
            exact pointerEntered_answered surveys surveyed reachable refers stored fresh found
              targetResolved

omit unambiguous surveys reachable in
/-- A document that is opened can be surveyed. -/
theorem fileOpened_surveyed {path : Path} {text : String} {document : Json}
    (missing : before.files.lookup path = none)
    (fresh : ∀ frame ∈ before.frames, frame.key ≠ some path.text)
    (served : context.loader.read path = .ok text) (parsed : Json.parse text = .ok document) :
    Progress.Surveyed context root
      ((before.note (.read path)).push (fileFrame path document)) := by
  have opening : Transition context before _ :=
    .fileOpened before path text document missing fresh served parsed
  have kept := Run.kept (.single opening)
  have grown := (Run.journal_suffix (.single opening)).subset
  refine ⟨surveyed.run.tail opening, ⟨trivial, surveyed.told.mono kept⟩,
    List.mem_cons_of_mem _ surveyed.rootOpen, ?_, ?_⟩
  · intro other made member
    obtain ⟨known, mentioned, fileMade⟩ := surveyed.files other made member
    exact ⟨known, mentioned, fileMade.mono kept grown known⟩
  · intro frame part made reference member asks
    have earlier : .visited frame part (some made) ∈ before.journal := by
      simpa [Progress.push, Progress.note] using member
    exact (surveyed.covered frame part made reference earlier asks).mono
      (List.Subset.refl _) (List.subset_cons_self _ _)

/-- A file that is opened is answered by the node of its document, or by a reference to it. -/
theorem fileOpened_answered {file : String} {property : Option String} {document : Json}
    {middle after final : Progress} {made loaded : NodeId}
    (refers : fragment.target? = some (.file file)) (here : Path.isRemote file = false)
    (missing : before.files.lookup (before.frame.filePath file) = none)
    (fresh : ∀ frame ∈ before.frames, frame.key ≠ some (before.frame.filePath file).text)
    (read : readDocument context.loader (before.frame.filePath file) before = .ok document middle)
    (resolved : inFrame (fileFrame (before.frame.filePath file) document)
      (resolve document ⟨property, true⟩) middle = .ok made after)
    (finished : finishFile context.settings (before.frame.filePath file) made after =
      .ok loaded final) :
    Answered context root before
      (final.note (.located (before.frame.filePath file) (some loaded))) fragment loaded := by
  obtain ⟨text, served, parsed, rfl⟩ := readDocument_eq_ok.mp read
  simp only [inFrame, between_eq_ok] at resolved
  obtain ⟨inner, documentResolved, rfl⟩ := resolved
  have opening : Transition context before _ :=
    .fileOpened before (before.frame.filePath file) text document missing fresh served parsed
  have other := fresh root surveyed.rootOpen
  have serves : context.loader.Serves (before.frame.filePath file) document :=
    ⟨text, served, parsed⟩
  have reachableDocument := reachable.follow (.file refers other serves)
  obtain ⟨described, answered, rfl⟩ := surveys _ _ _ _ _
    (fileOpened_surveyed surveyed missing fresh served parsed) reachableDocument documentResolved
  have describing := adoptDescription_passage context document made described answered.known
  obtain ⟨inside, surveyedInside⟩ := answered.visit reachableDocument
    (adoptDescription_surveyed answered.surveyed document answered.known) describing
    (adoptDescription_files ..)
  have insideKnown := Nat.lt_of_lt_of_le answered.known describing.run.size_le
  have titled := completed_document_eq document property made described
  rw [answered.passage.frame] at titled
  obtain ⟨closing, whole, loadedKnown⟩ :=
    finishFile_passage opening inside insideKnown titled finished
  have popped := popped_of_titled inside.outer titled
  obtain ⟨files, left⟩ := finishFile_leaves finished
  rw [popped.files] at files
  rw [popped.journal] at left
  have closed : FileClosed
      ((adoptDescription document made described).note
        (.visited (fileFrame (before.frame.filePath file) document) document (some made)))
      (final.note (.located (before.frame.filePath file) (some loaded)))
      (before.frame.filePath file) made loaded := by
    refine ⟨?_, files, left.imp (And.imp id (congrArg _)) (And.imp (congrArg _) id)⟩
    rw [Progress.frames, whole.frame, whole.outer]
    exact inside.outer.symm
  exact ⟨whole, loadedKnown,
    closed.surveyed_final surveyedInside inside.frame (.file reachable refers other) unambiguous
      closing serves List.mem_cons_self loadedKnown,
    .file refers here (.inr ⟨other, closed.fileMade serves List.mem_cons_self⟩),
    covers_of_file refers (.inl ⟨loaded, by simp [closed.files]⟩)⟩

omit surveys unambiguous reachable in
/-- A file that was read before is answered by the node it is remembered with. -/
theorem fileStored_answered {file : String} (refers : fragment.target? = some (.file file))
    (here : Path.isRemote file = false)
    (stored : before.files.lookup (before.frame.filePath file) = some node) :
    Answered context root before
      (before.note (.located (before.frame.filePath file) (some node))) fragment node := by
  have member : (before.frame.filePath file, node) ∈ before.files := by
    obtain ⟨newer, older, located, -⟩ := List.lookup_eq_some_iff.mp stored
    simp [located]
  have change : Transition context before _ := .fileStored before _ node stored
  obtain ⟨known, mentioned, made⟩ := surveyed.files _ _ member
  exact ⟨(Passage.refl before).step change rfl rfl rfl rfl, known,
    surveyed.note (.single change) rfl trivial rfl rfl (by simp),
    .file refers here (.inr ⟨mentioned.other,
      made.mono (Run.kept (.single change)) (List.subset_cons_self _ _) known⟩),
    covers_of_file refers (.inl ⟨node, member⟩)⟩

omit surveys unambiguous reachable in
/-- A file that is being read is answered by a forward reference to it. -/
theorem fileReferred_answered {file : String} {frame : Frame}
    (refers : fragment.target? = some (.file file)) (here : Path.isRemote file = false)
    (opened : frame ∈ before.frames)
    (key : frame.key = some (before.frame.filePath file).text) :
    Answered context root before
      ((before.refer (before.frame.filePath file).text frame.name).note
        (.located (before.frame.filePath file) (some before.model.size))) fragment
      before.model.size := by
  have change : Transition context before _ := .fileReferred before _ frame opened key
  exact ⟨(Passage.refl before).step change rfl rfl rfl rfl,
    by simp [Progress.note, Progress.refer],
    surveyed.note (.single change) rfl trivial rfl rfl (by simp),
    .file refers here (.inl List.mem_cons_self), covers_of_file refers (.inr ⟨frame, opened, key⟩)⟩

/-- A file is answered for its own document, whichever way it is answered. -/
theorem followFile_answered {file : String} {property : Option String}
    (refers : fragment.target? = some (.file file))
    (done : followFile context resolve file property before = .ok node built) :
    Answered context root before built fragment node := by
  unfold followFile at done
  split at done
  · simp [bind_eq_ok] at done
  · next remote =>
    have here : Path.isRemote file = false := by simpa using remote
    simp only [get_bind, noting_eq_ok] at done
    obtain ⟨last, resolved, rfl⟩ := done
    change resolvePath context resolve (before.frame.filePath file) property before = _ at resolved
    change Answered context root before
      (last.note (.located (before.frame.filePath file) (some node))) fragment node
    simp only [resolvePath, get_bind] at resolved
    cases stored : before.files.lookup (before.frame.filePath file) with
    | some existing =>
        simp only [stored, pure_apply, EStateM.Result.ok.injEq] at resolved
        obtain ⟨rfl, rfl⟩ := resolved
        exact fileStored_answered surveyed refers here stored
    | none =>
        simp only [stored] at resolved
        cases found : (before.frame :: before.outer).reverse.find?
            (·.key = some (before.frame.filePath file).text) with
        | some frame =>
            simp only [found, forwardReference_apply, EStateM.Result.ok.injEq] at resolved
            obtain ⟨rfl, rfl⟩ := resolved
            exact fileReferred_answered surveyed refers here
              (List.mem_reverse.mp (List.mem_of_find?_eq_some found))
              (by simpa using List.find?_some found)
        | none =>
            simp only [found, bind_eq_ok] at resolved
            obtain ⟨document, middle, read, made, closed, documentResolved, finished⟩ := resolved
            have fresh : ∀ frame ∈ before.frames,
                frame.key ≠ some (before.frame.filePath file).text := by
              intro frame opened
              simpa using List.find?_eq_none.mp found frame (List.mem_reverse.mpr opened)
            exact fileOpened_answered surveys unambiguous surveyed reachable refers here stored
              fresh read documentResolved finished

/-- A reference is answered for its own target, whatever that is. -/
theorem buildReference_answered {property : Option String}
    (reference : Rule.classify fragment = .reference)
    (done : buildReference context resolve fragment property before = .ok node built) :
    Answered context root before built fragment node := by
  have asks : fragment.target? = (fragment.textField? "$ref").map Target.ofReference :=
    if_pos reference
  unfold buildReference at done
  cases field : fragment.textField? "$ref" with
  | none =>
      rw [field] at done asks
      simp only [allocate_apply, EStateM.Result.ok.injEq] at done
      obtain ⟨rfl, rfl⟩ := done
      have change : Transition context before (before.add .any) :=
        .allocated before .any rfl (by simp) (by simp [Shape.children])
      refine ⟨(Passage.refl before).step change rfl rfl rfl rfl, by simp [Progress.add],
        surveyed.grow (.single change) rfl rfl rfl, .lost (.noText reference asks) ?_, ?_⟩
      · simp [Progress.node, Progress.add]
      · intro file other
        cases asks.symm.trans other
  | some text =>
      rw [field] at done asks
      simp only [follow] at done
      cases target : Target.ofReference text with
      | document =>
          simp only [target] at done
          exact followDocument_answered surveyed (asks.trans (congrArg some target)) done
      | pointer pointer =>
          simp only [target] at done
          exact followPointer_answered surveys unambiguous surveyed reachable
            (asks.trans (congrArg some target)) done
      | file file =>
          simp only [target] at done
          exact followFile_answered surveys unambiguous surveyed reachable
            (asks.trans (congrArg some target)) done

/-- The journal tells why the node that a fragment is built as is the one it should have. -/
theorem buildNode_answered {property : Option String}
    (done : buildNode context resolve fragment property before = .ok node built) :
    Answered context root before built fragment node := by
  have leaf {shape : Shape} {head : Head} (outlined : fragment.outline? = some (.leaf head))
      (noEnum : shape.isNamedEnum = false) (top : shape.head? = some head)
      (children : shape.children = []) (allocated : allocate shape before = .ok node built) :
      Answered context root before built fragment node :=
    leaf_answered surveyed outlined noEnum top children allocated
  unfold buildNode at done
  cases rule : Rule.classify fragment with
  | typedArray =>
      simp only [rule] at done
      exact buildArray_answered surveys surveyed reachable (by simp [Json.outline?, rule]) done
  | namedEnum =>
      simp only [rule] at done
      exact buildNamedEnum_answered surveyed (by simp [Json.outline?, rule]) done
  | enum =>
      simp only [rule] at done
      exact buildEnum_answered surveyed (by simp [Json.outline?, rule]) done
  | namedSchema =>
      simp only [rule] at done
      exact buildInterface_answered surveys surveyed reachable (by simp [Json.outline?, rule]) done
  | anonymousSchema =>
      simp only [rule] at done
      exact buildInterface_answered surveys surveyed reachable (by simp [Json.outline?, rule]) done
  | allOf =>
      simp only [rule] at done
      exact members_answered surveys surveyed reachable
        (by simp [Json.outline?, rule, Json.memberParts]) (fun _ => rfl) (fun _ => rfl)
        (fun _ => rfl) done
  | anyOf =>
      simp only [rule] at done
      exact members_answered surveys surveyed reachable
        (by simp [Json.outline?, rule, Json.memberParts]) (fun _ => rfl) (fun _ => rfl)
        (fun _ => rfl) done
  | reference =>
      simp only [rule] at done
      exact buildReference_answered surveys unambiguous surveyed reachable rule done
  | array =>
      simp only [rule] at done
      exact buildArray_answered surveys surveyed reachable (by simp [Json.outline?, rule]) done
  | union =>
      simp only [rule, buildTypeUnion] at done
      rw [← each_map (resolve · .inner) fun type => .object [("type", type)]] at done
      exact members_answered surveys surveyed reachable (by simp [Json.outline?, rule])
        (fun _ => rfl) (fun _ => rfl) (fun _ => rfl) done
  | any =>
      simp only [rule] at done
      exact leaf (by simp [Json.outline?, rule]) rfl rfl rfl done
  | literal =>
      simp only [rule] at done
      exact leaf (by simp [Json.outline?, rule]) rfl rfl rfl done
  | _ =>
      simp only [rule] at done
      exact leaf (by simp [Json.outline?, rule]) rfl rfl rfl done

end References

/-- A resolver that tells why below a fragment tells why at the fragment. -/
theorem resolveBy_surveys (unambiguous : Unambiguous context.loader root)
    (surveys : Surveys context root resolve) :
    Surveys context root (resolveBy context resolve) := by
  intro fragment site before node after surveyed reachable resolved
  simp only [resolveBy, get_bind, noting_eq_ok, bind_eq_ok, modify_bind, pure_apply,
    EStateM.Result.ok.injEq] at resolved
  obtain ⟨last, ⟨made, built, nodeBuilt, rfl, rfl⟩, rfl⟩ := resolved
  have answered := buildNode_answered surveys unambiguous surveyed reachable nodeBuilt
  exact ⟨built, answered, by rw [completed, answered.passage.frame]⟩

/-- The journal of a compilation with unambiguous keys tells why every fragment has its node. -/
theorem resolveFragment_surveys (unambiguous : Unambiguous context.loader root) (budget : Nat) :
    Surveys context root (resolveFragment context budget) := by
  induction budget with
  | zero =>
      intro fragment site before node after surveyed reachable resolved
      simp [resolveFragment] at resolved
  | succ budget inductionHypothesis => exact resolveBy_surveys unambiguous inductionHypothesis

end Build
end SchemaTypes
