/-
This file shows that every file is loaded at most once, whether the compilation succeeds or fails.
Main statement: no path is read twice, all references to a file that was loaded have the same node,
and those that come earlier are handed out in advance.
-/
import Mathlib.Data.List.Nodup
import SchemaTypes.Proofs.References.Residence

namespace SchemaTypes

open Build

def Event.readPath? : Event → Option Path
  | .read path => some path
  | _ => none

/-- The paths that the loader was asked for, the latest one first. -/
def readPaths (journal : List Event) : List Path := journal.filterMap Event.readPath?

/-- The files whose documents are being resolved after the events of a journal, the innermost one
first. A document is done when it is visited as a whole. -/
def openFiles : List Event → List Path
  | [] => []
  | .read path :: before => path :: openFiles before
  | .visited frame fragment _ :: before =>
    if fragment = frame.document then (openFiles before).tail else openFiles before
  | _ :: before => openFiles before

/-- A file was read, and its document is done. -/
def Loaded (journal : List Event) (path : Path) : Prop :=
  path ∈ readPaths journal ∧ path ∉ openFiles journal

instance (journal : List Event) (path : Path) : Decidable (Loaded journal path) :=
  inferInstanceAs (Decidable (_ ∧ _))

/-- What the references to a file are answered with: the node that the file has for good, or a
reference to the declaration that it will have. -/
inductive FileAnswer (files : List (Path × NodeId)) (forward : List (String × NodeId))
    (journal : List Event) (path : Path) (node : NodeId) : Prop where
  | final (loaded : Loaded journal path) (stored : (path, node) ∈ files)
  | advance (unloaded : ¬Loaded journal path) (handedOut : (path.text, node) ∈ forward)

/-- A fragment that refers to a file was answered. -/
def Event.FileAnswered (files : List (Path × NodeId)) (forward : List (String × NodeId))
    (before : List Event) : Event → Prop
  | .visited frame fragment (some node) => ∀ file, fragment.target? = some (.file file) →
    FileAnswer files forward before (frame.filePath file) node
  | _ => True

/-- No file was read twice, and files have one node each. -/
structure LoadsOnce (root : Frame) (progress : Progress) : Prop where
  distinct : (readPaths progress.journal).Nodup
  normal : ∀ path ∈ readPaths progress.journal,
    path.normalize = path ∧ root.key ≠ some path.text
  single : (progress.files.map Prod.fst).Nodup
  reference : ∀ entry ∈ progress.forward, ∃ name, (progress.node entry.2).shape = .reference name
  answered : Throughout (Event.FileAnswered progress.files progress.forward) progress.journal

/-- Every file that was read is among the open ones, which the frames are there for, or it has its
node. -/
structure Loading (root : Frame) (opened : List Path) (progress : Progress) : Prop
    extends LoadsOnce root progress where
  frames : progress.frames.map Frame.key = opened.map (fun path => some path.text) ++ [root.key]
  among : opened.Sublist (readPaths progress.journal)
  files : ∀ entry ∈ progress.files,
    entry.1 ∈ readPaths progress.journal ∧ entry.1 ∉ opened
  covered : ∀ path ∈ readPaths progress.journal,
    path ∈ opened ∨ ∃ node, (path, node) ∈ progress.files

/-- A fragment is resolved with the same files open as before, and a document closes its own file
when it is done. -/
def loadsOnce (root : Frame) : Effect := fun fragment site before outcome after =>
  ∀ opened, Loading root opened before → openFiles before.journal = opened →
    (if site.isDocument then fragment = before.frame.document
      else fragment.size < before.frame.document.size) →
    match outcome with
    | .ok _ => Loading root opened after ∧ after.frame = before.frame ∧
      after.outer = before.outer ∧
        openFiles after.journal = if site.isDocument then opened.tail else opened
    | .error _ => LoadsOnce root after

section Changes

variable {root : Frame} {before after : Progress} {opened : List Path}

/-- An answer remains one when more files and references are known. -/
theorem FileAnswer.mono {files wider : List (Path × NodeId)} {forward more : List (String × NodeId)}
    {journal : List Event} {path : Path} {node : NodeId} (stored : files ⊆ wider)
    (handedOut : forward ⊆ more) (answer : FileAnswer files forward journal path node) :
    FileAnswer wider more journal path node := by
  cases answer with
  | final loaded inFiles => exact .final loaded (stored inFiles)
  | advance unloaded inForward => exact .advance unloaded (handedOut inForward)

/-- A journal that tells something tells what is weaker. -/
theorem Throughout.imp {first second : List Event → Event → Prop} {journal : List Event}
    (weaker : ∀ before event, first before event → second before event)
    (throughout : Throughout first journal) : Throughout second journal := by
  induction journal with
  | nil => trivial
  | cons event older inductionHypothesis =>
      exact ⟨weaker _ _ throughout.1, inductionHypothesis throughout.2⟩

/-- Files are answered for when more files and references are known. -/
theorem LoadsOnce.answered_mono (loads : LoadsOnce root before)
    {files : List (Path × NodeId)} {forward : List (String × NodeId)}
    (stored : before.files ⊆ files) (handedOut : before.forward ⊆ forward) :
    Throughout (Event.FileAnswered files forward) before.journal := by
  refine loads.answered.imp fun older event answered => ?_
  cases event with
  | visited frame fragment made =>
      cases made with
      | none => trivial
      | some node => exact fun file refers => (answered file refers).mono stored handedOut
  | _ => trivial

/-- An event that reads nothing and visits nothing. -/
def Event.IsQuiet : Event → Prop
  | .read _ => False
  | .visited _ _ _ => False
  | _ => True

/-- Quiet events read no file. -/
theorem readPaths_quiet {events : List Event} (quiet : ∀ event ∈ events, event.IsQuiet)
    (journal : List Event) : readPaths (events ++ journal) = readPaths journal := by
  induction events with
  | nil => rfl
  | cons event rest inductionHypothesis =>
      rw [← inductionHypothesis fun other later => quiet other (List.mem_cons_of_mem _ later)]
      have here := quiet event List.mem_cons_self
      cases event with
      | read path => cases here
      | _ => rfl

/-- Quiet events neither open nor close a file. -/
theorem openFiles_quiet {events : List Event} (quiet : ∀ event ∈ events, event.IsQuiet)
    (journal : List Event) : openFiles (events ++ journal) = openFiles journal := by
  induction events with
  | nil => rfl
  | cons event rest inductionHypothesis =>
      rw [← inductionHypothesis fun other later => quiet other (List.mem_cons_of_mem _ later)]
      have here := quiet event List.mem_cons_self
      cases event with
      | read path => cases here
      | visited frame fragment node => cases here
      | _ => rfl

/-- Quiet events have nothing to answer for. -/
theorem answered_quiet {events : List Event} (quiet : ∀ event ∈ events, event.IsQuiet)
    {files : List (Path × NodeId)} {forward : List (String × NodeId)} {journal : List Event}
    (answered : Throughout (Event.FileAnswered files forward) journal) :
    Throughout (Event.FileAnswered files forward) (events ++ journal) := by
  induction events with
  | nil => exact answered
  | cons event rest inductionHypothesis =>
      refine ⟨?_, inductionHypothesis fun other later => quiet other (List.mem_cons_of_mem _ later)⟩
      have here := quiet event List.mem_cons_self
      cases event with
      | visited frame fragment node => cases here
      | _ => trivial

/-- A change that reads no file, visits no fragment and hands out no reference. -/
structure Quiet (before after : Progress) : Prop where
  files : after.files = before.files
  forward : after.forward = before.forward
  reference : ∀ node name, (before.node node).shape = .reference name →
    (after.node node).shape = .reference name
  journal : ∃ events : List Event, (∀ event ∈ events, event.IsQuiet) ∧
    after.journal = events ++ before.journal

namespace Quiet

/-- Quiet changes can follow one another. -/
theorem trans {middle : Progress} (first : Quiet before middle) (second : Quiet middle after) :
    Quiet before after where
  files := second.files.trans first.files
  forward := second.forward.trans first.forward
  reference node name reference := second.reference node name (first.reference node name reference)
  journal := by
    obtain ⟨events, quiet, same⟩ := first.journal
    obtain ⟨later, quietLater, sameLater⟩ := second.journal
    refine ⟨later ++ events, ?_, by rw [sameLater, same, List.append_assoc]⟩
    intro event member
    exact (List.mem_append.mp member).elim (quietLater event) (quiet event)

/-- An event alone makes no difference to the model. -/
theorem event {event : Event} (isQuiet : event.IsQuiet) (model : after.model = before.model)
    (files : after.files = before.files) (forward : after.forward = before.forward)
    (journal : after.journal = event :: before.journal) : Quiet before after where
  files := files
  forward := forward
  reference node name reference := by
    rw [Progress.node, model]
    exact reference
  journal := ⟨[event], by simpa using isQuiet, journal⟩

/-- Noting a quiet event is a quiet change. -/
theorem note (progress : Progress) {event : Event} (isQuiet : event.IsQuiet) :
    Quiet progress (progress.note event) :=
  Quiet.event isQuiet rfl rfl rfl rfl

theorem followed (progress : Progress) (frame : Frame) (pointer : String) (node : Option NodeId) :
    Quiet progress (progress.note (.followed frame pointer node)) :=
  .note progress trivial

theorem located (progress : Progress) (path : Path) (node : Option NodeId) :
    Quiet progress (progress.note (.located path node)) :=
  .note progress trivial

/-- Entering a pointer is a quiet change. -/
theorem enter (progress : Progress) (frame : Frame) (pointer : String) :
    Quiet progress (progress.enter frame pointer) := by
  have isQuiet : (Event.entered frame pointer).IsQuiet := trivial
  exact .event isQuiet rfl rfl rfl rfl

/-- Leaving a pointer is a quiet change. -/
theorem leave (progress : Progress) (key : String) : Quiet progress (progress.leave key) := by
  have isQuiet : Event.left.IsQuiet := trivial
  exact .event isQuiet rfl rfl rfl rfl

/-- Storing an enum is a quiet change. -/
theorem putEnum (progress : Progress) (name : String) (generated : Bool) (node : NodeId) :
    Quiet progress (progress.putEnum name generated node) where
  files := rfl
  forward := rfl
  reference _ _ reference := (Model.shape_setId ..).trans reference
  journal := ⟨[.enumStored name generated node], by simp [Event.IsQuiet], rfl⟩

/-- Adding a node is a quiet change. -/
theorem add (progress : Progress) (shape : Shape) : Quiet progress (progress.add shape) where
  files := rfl
  forward := rfl
  reference node _ reference := by
    have known : node < progress.model.size := Model.lt_size_of_shape fun plain => by
      rw [Progress.node, plain] at reference
      cases reference
    exact (congrArg Node.shape (Model.node_add_of_lt known shape)).trans reference
  journal := ⟨[], by simp, rfl⟩

/-- A description or a name for a node is a quiet change. -/
theorem retouched (retouched : Retouched before after) : Quiet before after where
  files := retouched.files
  forward := retouched.forward
  reference node _ reference := (retouched.shape node).trans reference
  journal := by
    rcases retouched.journal with same | ⟨origin, key, node, same⟩
    · exact ⟨[], by simp, same⟩
    · exact ⟨[.declared origin key node], by simp [Event.IsQuiet], same⟩

/-- Leaving a document is a quiet change. -/
theorem pop (progress : Progress) : Quiet progress progress.pop := by
  cases nested : progress.outer with
  | nil =>
      have same : progress.pop = progress := by simp [Progress.pop, nested]
      rw [same]
      exact ⟨rfl, rfl, fun _ _ => id, [], by simp, rfl⟩
  | cons frame outer =>
      rw [Progress.pop_of_outer nested]
      exact ⟨rfl, rfl, fun _ _ => id, [], by simp, rfl⟩

theorem readPaths_eq (quiet : Quiet before after) :
    readPaths after.journal = readPaths before.journal := by
  obtain ⟨events, isQuiet, same⟩ := quiet.journal
  rw [same, readPaths_quiet isQuiet]

theorem openFiles_eq (quiet : Quiet before after) :
    openFiles after.journal = openFiles before.journal := by
  obtain ⟨events, isQuiet, same⟩ := quiet.journal
  rw [same, openFiles_quiet isQuiet]

theorem loaded_iff (quiet : Quiet before after) {path : Path} :
    Loaded after.journal path ↔ Loaded before.journal path := by
  rw [Loaded, Loaded, quiet.readPaths_eq, quiet.openFiles_eq]

end Quiet

/-- After a quiet change, files have still been loaded once. -/
theorem LoadsOnce.quiet (loads : LoadsOnce root before) (quiet : Quiet before after) :
    LoadsOnce root after where
  distinct := quiet.readPaths_eq ▸ loads.distinct
  normal := quiet.readPaths_eq ▸ loads.normal
  single := quiet.files ▸ loads.single
  reference := by
    intro entry member
    rw [quiet.forward] at member
    obtain ⟨name, reference⟩ := loads.reference entry member
    exact ⟨name, quiet.reference _ _ reference⟩
  answered := by
    rw [quiet.files, quiet.forward]
    obtain ⟨events, isQuiet, same⟩ := quiet.journal
    rw [same]
    exact answered_quiet isQuiet loads.answered

/-- After a quiet change, the same files are open. -/
theorem Loading.quiet (loading : Loading root opened before) (quiet : Quiet before after)
    (frames : after.frames = before.frames) : Loading root opened after where
  toLoadsOnce := loading.toLoadsOnce.quiet quiet
  frames := by rw [frames, loading.frames]
  among := quiet.readPaths_eq ▸ loading.among
  files := by
    rw [quiet.files, quiet.readPaths_eq]
    exact loading.files
  covered := by
    rw [quiet.files, quiet.readPaths_eq]
    exact loading.covered

/-- A reference is handed out. -/
theorem LoadsOnce.refer (loads : LoadsOnce root before) (key name : String) :
    LoadsOnce root (before.refer key name) where
  distinct := loads.distinct
  normal := loads.normal
  single := loads.single
  reference := by
    intro entry member
    rcases List.mem_cons.mp member with rfl | earlier
    · exact ⟨_, congrArg Node.shape (Model.node_add_size ..)⟩
    · obtain ⟨old, reference⟩ := loads.reference entry earlier
      exact ⟨old, (Quiet.add before _).reference _ _ reference⟩
  answered := loads.answered_mono (List.Subset.refl _) (List.subset_cons_self _ _)

/-- A reference that is handed out opens no file. -/
theorem Loading.refer (loading : Loading root opened before) (key name : String) :
    Loading root opened (before.refer key name) :=
  ⟨loading.toLoadsOnce.refer key name, loading.frames, loading.among, loading.files,
    loading.covered⟩

/-- A file without a node is read only if no frame is there for it, so it was not read before. -/
theorem Loading.unread (loading : Loading root opened before) {path : Path}
    (missing : before.files.lookup path = none)
    (fresh : ∀ frame ∈ before.frames, frame.key ≠ some path.text) :
    path ∉ readPaths before.journal := by
  intro read
  rcases loading.covered path read with isOpen | ⟨node, stored⟩
  · have key : some path.text ∈ before.frames.map Frame.key := by
      rw [loading.frames]
      exact List.mem_append_left _ (List.mem_map_of_mem isOpen)
    obtain ⟨frame, inside, same⟩ := List.mem_map.mp key
    exact fresh frame inside same
  · have absent := List.lookup_eq_none_iff.mp missing (path, node) stored
    simp at absent

/-- A file that has no node and is not open can be read. -/
theorem Loading.read (loading : Loading root opened before) {path : Path}
    (normal : path.normalize = path) (missing : before.files.lookup path = none)
    (fresh : ∀ frame ∈ before.frames, frame.key ≠ some path.text) :
    LoadsOnce root (before.note (.read path)) where
  distinct := List.nodup_cons.mpr ⟨loading.unread missing fresh, loading.distinct⟩
  normal := by
    intro other member
    rcases List.mem_cons.mp member with rfl | earlier
    · refine ⟨normal, fun own => ?_⟩
      have key : root.key ∈ before.frames.map Frame.key := by
        rw [loading.frames]
        exact List.mem_append_right _ List.mem_cons_self
      obtain ⟨frame, inside, same⟩ := List.mem_map.mp key
      exact fresh frame inside (same.trans own)
    · exact loading.normal other earlier
  single := loading.single
  reference := loading.reference
  answered := ⟨trivial, loading.answered⟩

/-- A file that was read is the innermost open one. -/
theorem Loading.push (loading : Loading root opened before) {path : Path} {document : Json}
    (normal : path.normalize = path) (missing : before.files.lookup path = none)
    (fresh : ∀ frame ∈ before.frames, frame.key ≠ some path.text) :
    Loading root (path :: opened)
      ((before.note (.read path)).push (fileFrame path document)) where
  toLoadsOnce := (loading.read normal missing fresh).quiet
    ⟨rfl, rfl, fun _ _ => id, [], by simp, rfl⟩
  frames := congrArg (some path.text :: ·) loading.frames
  among := loading.among.cons_cons path
  files := by
    intro entry member
    obtain ⟨read, closed⟩ := loading.files entry member
    refine ⟨List.mem_cons_of_mem _ read, ?_⟩
    rintro (same | ⟨_, isOpen⟩)
    · exact loading.unread missing fresh read
    · exact closed ‹_›
  covered := by
    intro other member
    rcases List.mem_cons.mp member with rfl | earlier
    · exact .inl List.mem_cons_self
    · exact (loading.covered other earlier).imp_left (List.mem_cons_of_mem _)

/-- A file that is done is remembered with its node. -/
theorem LoadsOnce.remember (loads : LoadsOnce root before) {path : Path} (node : NodeId)
    (missing : path ∉ before.files.map Prod.fst) : LoadsOnce root (before.remember path node) where
  distinct := loads.distinct
  normal := loads.normal
  single := List.nodup_cons.mpr ⟨missing, loads.single⟩
  reference := loads.reference
  answered := loads.answered_mono (List.subset_cons_self _ _) (List.Subset.refl _)

/-- A file whose document is done gets its node and is open no more. -/
theorem Loading.remember {path : Path} (loading : Loading root (path :: opened) before)
    {enclosing : Frame} {outer : List Frame} (nested : before.outer = enclosing :: outer)
    (quiet : Quiet before after) (frame : after.frame = enclosing) (outside : after.outer = outer)
    (node : NodeId) : Loading root opened (after.remember path node) := by
  have missing : path ∉ before.files.map Prod.fst := by
    intro member
    obtain ⟨entry, stored, rfl⟩ := List.mem_map.mp member
    exact (loading.files entry stored).2 List.mem_cons_self
  have distinct : (path :: opened).Nodup := loading.among.nodup loading.distinct
  have reads : readPaths (after.remember path node).journal = readPaths before.journal :=
    quiet.readPaths_eq
  have files : (after.remember path node).files = (path, node) :: before.files :=
    congrArg _ quiet.files
  refine ⟨(loading.toLoadsOnce.quiet quiet).remember node (quiet.files ▸ missing), ?_, ?_, ?_, ?_⟩
  · have whole := loading.frames
    rw [Progress.frames, nested] at whole
    rw [Progress.frames]
    change (after.frame :: after.outer).map Frame.key = _
    rw [frame, outside]
    exact (List.cons.inj whole).2
  · rw [reads]
    exact (List.sublist_cons_self path opened).trans loading.among
  · rw [files, reads]
    intro entry member
    rcases List.mem_cons.mp member with rfl | earlier
    · exact ⟨loading.among.subset List.mem_cons_self, (List.nodup_cons.mp distinct).1⟩
    · obtain ⟨read, closed⟩ := loading.files entry earlier
      exact ⟨read, fun isOpen => closed (List.mem_cons_of_mem _ isOpen)⟩
  · rw [files, reads]
    intro other read
    rcases loading.covered other read with isOpen | ⟨made, stored⟩
    · rcases List.mem_cons.mp isOpen with rfl | outside
      · exact .inr ⟨node, List.mem_cons_self⟩
      · exact .inl outside
    · exact .inr ⟨made, List.mem_cons_of_mem _ stored⟩

end Changes

/-- A point where the same documents are being resolved as before. -/
structure StillLoading (root : Frame) (opened : List Path) (before after : Progress) : Prop where
  loading : Loading root opened after
  frame : after.frame = before.frame
  outer : after.outer = before.outer
  files : openFiles after.journal = opened

namespace StillLoading

variable {root : Frame} {before middle after : Progress} {opened : List Path}

/-- Files stay open from one point to the next. -/
theorem trans (first : StillLoading root opened before middle)
    (second : StillLoading root opened middle after) : StillLoading root opened before after :=
  ⟨second.loading, second.frame.trans first.frame, second.outer.trans first.outer, second.files⟩

theorem quiet (still : StillLoading root opened before middle) (quiet : Quiet middle after)
    (frame : after.frame = middle.frame) (outer : after.outer = middle.outer) :
    StillLoading root opened before after where
  loading := still.loading.quiet quiet (by rw [Progress.frames, frame, outer]; rfl)
  frame := frame.trans still.frame
  outer := outer.trans still.outer
  files := quiet.openFiles_eq.trans still.files

/-- A description or a name leaves the files open. -/
theorem retouch (still : StillLoading root opened before middle)
    (retouched : Retouched middle after) : StillLoading root opened before after :=
  still.quiet (.retouched retouched) retouched.frame retouched.outer

/-- A reference that is handed out leaves the files open. -/
theorem refer (still : StillLoading root opened before middle) (key name : String) :
    StillLoading root opened before (middle.refer key name) :=
  ⟨still.loading.refer key name, still.frame, still.outer, still.files⟩

end StillLoading

/-- The target of a pointer is smaller than its document, so it is never a whole document. -/
theorem Pointer.lookup?_below {document target : Json} {pointer : String}
    (found : Pointer.lookup? document (Pointer.segments pointer) = some target) :
    target.Below document := by
  have some : Pointer.segments pointer ≠ [] := by
    simp [Pointer.segments, List.splitOn_ne_nil]
  cases segments : Pointer.segments pointer with
  | nil => exact absurd segments some
  | cons segment rest =>
      rw [segments] at found
      simp only [Pointer.lookup?, List.foldlM_cons, Option.bind_eq_bind] at found
      obtain ⟨part, here, onward⟩ := Option.bind_eq_some_iff.mp found
      have below := Pointer.step?_below here
      have within := Pointer.lookup?_within onward
      exact ⟨Nat.lt_of_le_of_lt within.size below.size,
        List.Subset.trans within.texts below.texts⟩

namespace Build

variable {context : Context} {root : Frame} {fragment : Json} {property : Option String}
  {before after : Progress} {opened : List Path}

/-- The parts of a fragment leave the files open. -/
theorem parts_loading {middle : Progress}
    (parts : Parts (loadsOnce root) fragment before middle)
    (start : StillLoading root opened before before)
    (within : fragment.size ≤ before.frame.document.size) :
    StillLoading root opened before middle := by
  induction parts with
  | start => exact start
  | leaf parts shape noEnum noReference empty inductionHypothesis =>
      exact inductionHypothesis.quiet (.add _ shape) rfl rfl
  | @part state last parts outline part partProperty node outlined inside resolved
      inductionHypothesis =>
      have below := (Json.partOf_of_mem outlined inside).below.size
      obtain ⟨loading, frame, outer, files⟩ := resolved opened inductionHypothesis.loading
        inductionHypothesis.files (by
          rw [inductionHypothesis.frame]
          exact Nat.lt_of_lt_of_le below within)
      exact inductionHypothesis.trans ⟨loading, frame, outer, files⟩

/-- A fragment that refers to a file has an answer. -/
def AnsweredAt (progress : Progress) (frame : Frame) (fragment : Json) (node : NodeId) : Prop :=
  ∀ file, fragment.target? = some (.file file) →
    FileAnswer progress.files progress.forward progress.journal (frame.filePath file) node

/-- A fragment without a reference has nothing to answer. -/
theorem AnsweredAt.of_none {frame : Frame} {node : NodeId} (own : fragment.target? = none) :
    AnsweredAt after frame fragment node := by
  intro file refers
  rw [own] at refers
  cases refers

/-- A reference to a file is answered by what the file has. -/
theorem AnsweredAt.of_file {frame : Frame} {node : NodeId} {file : String}
    (refers : fragment.target? = some (.file file))
    (answer : FileAnswer after.files after.forward after.journal (frame.filePath file) node) :
    AnsweredAt after frame fragment node := by
  intro other refersToo
  cases refers.symm.trans refersToo
  exact answer

/-- A file without a node is not loaded. -/
theorem unloaded_of_missing (still : StillLoading root opened before after) {path : Path}
    (missing : after.files.lookup path = none) : ¬Loaded after.journal path := by
  rintro ⟨read, closed⟩
  rw [still.files] at closed
  rcases still.loading.covered path read with isOpen | ⟨node, stored⟩
  · exact closed isOpen
  · have absent := List.lookup_eq_none_iff.mp missing (path, node) stored
    simp at absent

/-- A pointer that is followed leaves the files open. -/
theorem pointer_loading {pointer : String} {target : Json} {last : Progress} {node : NodeId}
    (start : StillLoading root opened before before)
    (found : Pointer.lookup? before.frame.document (Pointer.segments pointer) = some target)
    (resolved : loadsOnce root target .inner (before.enter before.frame pointer) (.ok node) last) :
    StillLoading root opened before (last.leave (before.frame.pointerKey pointer)) := by
  have entered : StillLoading root opened before (before.enter before.frame pointer) :=
    start.quiet (.enter ..) rfl rfl
  obtain ⟨loading, frame, outer, files⟩ := resolved opened entered.loading entered.files
    (Pointer.lookup?_below found).size
  have inside : StillLoading root opened before last := ⟨loading, frame, outer, files⟩
  exact inside.quiet (.leave ..) rfl rfl

/-- A file that was loaded has its node for good. -/
theorem file_loading {path : Path} {document : Json} {node loaded : NodeId} {last closed : Progress}
    {settings : Settings} (start : StillLoading root opened before before)
    (normal : path.normalize = path) (missing : before.files.lookup path = none)
    (fresh : ∀ frame ∈ before.frames, frame.key ≠ some path.text)
    (resolved : loadsOnce root document ⟨property, true⟩
      ((before.note (.read path)).push (fileFrame path document)) (.ok node) last)
    (finished : finishFile settings path node last.pop = .ok loaded closed) :
    StillLoading root opened before closed ∧
      FileAnswer closed.files closed.forward closed.journal path loaded := by
  obtain ⟨loading, -, nested, files⟩ := resolved (path :: opened)
    (start.loading.push normal missing fresh) (congrArg (path :: ·) start.files) rfl
  have distinct : (path :: opened).Nodup := loading.among.nodup loading.distinct
  have nested : last.outer = before.frame :: before.outer := nested
  have poppedFrame : last.pop.frame = before.frame := by rw [Progress.pop_of_outer nested]
  have poppedOuter : last.pop.outer = before.outer := by rw [Progress.pop_of_outer nested]
  obtain ⟨middle, retouched, made⟩ := finishFile_cases finished
  have quiet : Quiet last middle := (Quiet.pop last).trans (.retouched retouched)
  have remembered {remaining : Progress} (onward : Quiet last remaining)
      (frame : remaining.frame = middle.frame) (outer : remaining.outer = middle.outer)
      (same : closed = remaining.remember path loaded) :
      StillLoading root opened before closed ∧
        FileAnswer closed.files closed.forward closed.journal path loaded := by
    subst same
    have frame := frame.trans (retouched.frame.trans poppedFrame)
    have outer := outer.trans (retouched.outer.trans poppedOuter)
    have openHere : openFiles remaining.journal = opened := onward.openFiles_eq.trans files
    refine ⟨⟨loading.remember nested onward frame outer loaded, frame, outer, openHere⟩,
      .final ⟨?_, ?_⟩ List.mem_cons_self⟩
    · change path ∈ readPaths remaining.journal
      rw [onward.readPaths_eq]
      exact loading.among.subset List.mem_cons_self
    · change path ∉ openFiles remaining.journal
      rw [openHere]
      exact (List.nodup_cons.mp distinct).1
  rcases made with ⟨rfl, -, same⟩ | ⟨-, name, same⟩
  · exact remembered quiet rfl rfl same
  · exact remembered (quiet.trans (.add middle _)) rfl rfl same

/-- Whatever a fragment is made of or leads to, the same files are open behind it as before, and its
reference to a file is answered. -/
theorem built_loading {node : NodeId}
    (built : Built context (loadsOnce root) fragment property before (.ok node) after)
    (start : StillLoading root opened before before)
    (within : fragment.size ≤ before.frame.document.size) :
    StillLoading root opened before after ∧ AnsweredAt after before.frame fragment node := by
  have followed {pointer : String} {last : Progress}
      (refers : fragment.target? = some (.pointer pointer))
      (still : StillLoading root opened before last) :
      StillLoading root opened before (last.note (.followed before.frame pointer (some node))) ∧
        AnsweredAt (last.note (.followed before.frame pointer (some node))) before.frame fragment
          node := by
    refine ⟨still.quiet (.followed ..) rfl rfl, ?_⟩
    intro file refersToo
    cases refers.symm.trans refersToo
  have located {file : String} {last : Progress} (refers : fragment.target? = some (.file file))
      (still : StillLoading root opened before last)
      (answer : FileAnswer last.files last.forward last.journal (before.frame.filePath file) node) :
      StillLoading root opened before
          (last.note (.located (before.frame.filePath file) (some node))) ∧
        AnsweredAt (last.note (.located (before.frame.filePath file) (some node))) before.frame
          fragment node := by
    have quiet := Quiet.located last (before.frame.filePath file) (some node)
    refine ⟨still.quiet quiet rfl rfl, .of_file refers ?_⟩
    cases answer with
    | final loaded stored => exact .final (quiet.loaded_iff.mpr loaded) stored
    | advance unloaded handedOut =>
        exact .advance (fun loaded => unloaded (quiet.loaded_iff.mp loaded)) handedOut
  have normal (file : String) :
      (before.frame.filePath file).normalize = before.frame.filePath file :=
    Path.normalize_normalize _
  cases built with
  | made own parts shape noEnum noReference =>
      exact ⟨(parts_loading parts start within).quiet (.add _ shape) rfl rfl, .of_none own⟩
  | enumStored outlined =>
      refine ⟨?_, .of_none (Json.target?_eq_none outlined)⟩
      exact start.quiet ((Quiet.add before _).trans (.putEnum ..)) rfl rfl
  | documentReferred refers =>
      refine ⟨start.refer _ _, fun file refersToo => ?_⟩
      cases refers.symm.trans refersToo
  | pointerStored refers stored => exact followed refers start
  | pointerReferred refers missing awaited => exact followed refers (start.refer _ _)
  | pointerLost refers nowhere => exact followed refers (start.quiet (.add before _) rfl rfl)
  | pointerFinished refers missing fresh found resolved =>
      exact followed refers ((pointer_loading start found resolved).retouch
        (finishPointer_retouched ..))
  | @fileStored file _ refers here stored =>
      obtain ⟨newer, older, same, -⟩ := List.lookup_eq_some_iff.mp stored
      have member : (before.frame.filePath file, node) ∈ before.files := by simp [same]
      obtain ⟨read, closed⟩ := start.loading.files _ member
      exact located refers start (.final ⟨read, by rw [start.files]; exact closed⟩ member)
  | fileReferred refers here missing frame isOpen key =>
      exact located refers (start.refer _ _)
        (.advance (unloaded_of_missing start missing) List.mem_cons_self)
  | fileFinished refers here missing fresh served resolved finished =>
      obtain ⟨still, answer⟩ := file_loading start (normal _) missing fresh resolved finished
      exact located refers still answer

/-- A failure leaves no file read twice either. -/
theorem failed_loading {error : CompileError}
    (built : Built context (loadsOnce root) fragment property before (.error error) after)
    (start : StillLoading root opened before before)
    (within : fragment.size ≤ before.frame.document.size) : LoadsOnce root after := by
  have normal (file : String) :
      (before.frame.filePath file).normalize = before.frame.filePath file :=
    Path.normalize_normalize _
  cases built with
  | faulty error enum outlineless => exact start.loading.toLoadsOnce
  | partFailed parts outlined inside failed =>
      have still := parts_loading parts start within
      refine failed opened still.loading still.files ?_
      rw [still.frame]
      exact Nat.lt_of_lt_of_le (Json.partOf_of_mem outlined inside).below.size within
  | @pointerFailed pointer target error last refers missing fresh found failed =>
      have entered := start.quiet (.enter before before.frame pointer) rfl rfl
      have loads := failed opened entered.loading entered.files (Pointer.lookup?_below found).size
      exact (loads.quiet (.leave ..)).quiet (.followed ..)
  | remote refers away => exact start.loading.toLoadsOnce
  | unreadable refers here missing fresh error unserved =>
      exact (start.loading.read (normal _) missing fresh).quiet (.located ..)
  | fileFailed refers here missing fresh served failed =>
      have loads := failed _ (start.loading.push (normal _) missing fresh)
        (congrArg (before.frame.filePath _ :: ·) start.files) rfl
      exact (loads.quiet (.pop _)).quiet (.located ..)

/-- A fragment is noted when it is resolved, which closes the file of a whole document. -/
theorem visited_loading {node : NodeId} (still : StillLoading root opened before after)
    (answered : AnsweredAt after before.frame fragment node) :
    Loading root opened (after.note (.visited before.frame fragment (some node))) where
  distinct := still.loading.distinct
  normal := still.loading.normal
  single := still.loading.single
  reference := still.loading.reference
  answered := ⟨answered, still.loading.answered⟩
  frames := still.loading.frames
  among := still.loading.among
  files := still.loading.files
  covered := still.loading.covered

/-- Resolving a fragment loads every file at most once and leaves the same files open. -/
theorem resolveFragment_loadsOnce (context : Context) (root : Frame) (budget : Nat) :
    Obeys (loadsOnce root) (resolveFragment context budget) := by
  refine resolveFragment_obeys (fun _ _ _ _ loading _ _ => loading.toLoadsOnce) ?_ budget
  intro fragment site before outcome after resolved opened loading files placed
  have start : StillLoading root opened before before := ⟨loading, rfl, rfl, files⟩
  have within : fragment.size ≤ before.frame.document.size := by
    split at placed
    · exact Nat.le_of_eq (congrArg Json.size placed)
    · exact Nat.le_of_lt placed
  cases resolved with
  | @completed node middle built =>
      obtain ⟨still, answered⟩ := built_loading built start within
      have adopted := adopted_retouched fragment site node middle
      have quiet := Quiet.retouched adopted
      have onward := still.retouch adopted
      have answeredOnward : AnsweredAt
          (adoptDescription fragment node (adoptName fragment site node middle)) before.frame
            fragment node := by
        intro file refers
        rw [quiet.files, quiet.forward]
        cases answered file refers with
        | final loaded stored => exact .final (quiet.loaded_iff.mpr loaded) stored
        | advance unloaded handedOut =>
            exact .advance (fun loaded => unloaded (quiet.loaded_iff.mp loaded)) handedOut
      refine ⟨visited_loading onward answeredOnward, onward.frame, onward.outer, ?_⟩
      change (if fragment = before.frame.document then _ else _) = _
      rw [onward.files]
      split at placed
      · next isDocument => rw [if_pos placed, if_pos isDocument]
      · next inner =>
        rw [if_neg inner, if_neg]
        rintro rfl
        exact Nat.lt_irrefl _ placed
  | failed built =>
      have loads := failed_loading built start within
      exact ⟨loads.distinct, loads.normal, loads.single, loads.reference, trivial, loads.answered⟩

end Build

namespace Compilation

/-- A fragment that refers to the file at a path was resolved to a node after the given events. -/
def RefersTo (journal before : List Event) (path : Path) (node : NodeId) : Prop :=
  ∃ (frame : Frame) (fragment : Json) (file : String),
    .visited frame fragment (some node) :: before <:+ journal ∧
      fragment.target? = some (.file file) ∧ path = frame.filePath file

/-- At the start no file is open. -/
theorem start_loading (root : Frame) : Loading root [] (Progress.start root) where
  distinct := List.nodup_nil
  normal path member := by cases member
  single := List.nodup_nil
  reference entry member := by cases member
  answered := trivial
  frames := rfl
  among := List.Sublist.refl []
  files entry member := by cases member
  covered path member := by cases member

/-- However a compilation ends, every file was loaded at most once. -/
theorem ending_loadsOnce (context : Context) (document : Json) (sourcePath : Option Path) :
    LoadsOnce (rootFrame document sourcePath) (ending context document sourcePath) := by
  obtain ⟨outcome, last, ended, ending⟩ := exists_ending context document sourcePath
  have resolved := resolveFragment_loadsOnce context (rootFrame document sourcePath) _ _ _ _ _ _
    ended [] (start_loading _) rfl rfl
  rcases ending with ⟨error, rfl, same⟩ | ⟨root, rfl, same⟩
  · rw [same]
    exact resolved
  · rw [same]
    refine resolved.1.toLoadsOnce.quiet ⟨rfl, rfl, ?_, [_], by simp [Event.IsQuiet], rfl⟩
    exact fun node name reference => (Model.shape_setId ..).trans reference

/-- A reference is answered with the node of its file, or in advance while the file has none. -/
theorem answer_of_refersTo {root : Frame} {progress : Progress} (loads : LoadsOnce root progress)
    {before : List Event} {path : Path} {node : NodeId}
    (refersTo : RefersTo progress.journal before path node) :
    FileAnswer progress.files progress.forward before path node := by
  obtain ⟨frame, fragment, file, suffix, refers, rfl⟩ := refersTo
  exact loads.answered.of_suffix suffix file refers

/-- Every file is loaded at most once, under its shortest path, and the source is never loaded. All
references that lead to one path once its file is loaded have one node, however they are spelled and
wherever they stand, and the others have a reference to the declaration that there will be. -/
theorem files_loaded_once (context : Context) (document : Json) (sourcePath : Option Path) :
    let progress := ending context document sourcePath
    (readPaths progress.journal).Nodup ∧
      (∀ path ∈ readPaths progress.journal, path.normalize = path ∧
        ∀ source, sourcePath = some source → path ≠ source.normalize) ∧
      (∀ path first second earlier later, RefersTo progress.journal earlier path first →
        Loaded earlier path → RefersTo progress.journal later path second →
          Loaded later path → first = second) ∧
      ∀ path node before, RefersTo progress.journal before path node → ¬Loaded before path →
        (path.text, node) ∈ progress.forward ∧
          ∃ name, (progress.node node).shape = .reference name := by
  intro progress
  have loads : LoadsOnce (rootFrame document sourcePath) progress :=
    ending_loadsOnce context document sourcePath
  refine ⟨loads.distinct, ?_, ?_, ?_⟩
  · intro path read
    obtain ⟨normal, other⟩ := loads.normal path read
    refine ⟨normal, ?_⟩
    rintro source rfl rfl
    exact other rfl
  · intro path first second earlier later refersFirst loadedFirst refersSecond loadedSecond
    cases answer_of_refersTo loads refersFirst with
    | advance unloaded => exact absurd loadedFirst unloaded
    | final _ firstStored =>
        cases answer_of_refersTo loads refersSecond with
        | advance unloaded => exact absurd loadedSecond unloaded
        | final _ secondStored =>
            exact (Prod.mk.inj (List.inj_on_of_nodup_map loads.single firstStored secondStored
              rfl)).2
  · intro path node before refersTo unloaded
    cases answer_of_refersTo loads refersTo with
    | final loaded => exact absurd loaded unloaded
    | advance _ handedOut => exact ⟨handedOut, loads.reference _ handedOut⟩

/-- Two spellings of a path to a file that refers to itself. -/
def listedTwice : Json :=
  .object [("properties", .object [
    ("first", .object [("$ref", .string "node.json")]),
    ("second", .object [("$ref", .string "lists/../node.json")])])]

def nodeFile : Json :=
  .object [("properties", .object [("next", .object [("$ref", .string "./node.json")])])]

def nodePath : Path := ⟨false, [.child "node.json"]⟩

/-- A reference to a file can be shown by its place in the journal. -/
theorem refersTo_of_drop {journal : List Event} (index : Nat) (file : String) {frame : Frame}
    {fragment : Json} {node : NodeId}
    (noted : (journal.drop index).head? = some (.visited frame fragment (some node)))
    (refers : fragment.target? = some (.file file)) :
    RefersTo journal (journal.drop (index + 1)) (frame.filePath file) node := by
  obtain ⟨rest, same⟩ := List.head?_eq_some_iff.mp noted
  have behind : journal.drop (index + 1) = rest := by
    rw [← List.tail_drop, same]
    rfl
  exact ⟨frame, fragment, file, by rw [behind, ← same]; exact List.drop_suffix index journal,
    refers, rfl⟩

/-- A file that is listed under two spellings and refers to itself is loaded once. -/
theorem files_loaded_once_listedTwice :
    let journal := (ending ⟨{}, .ofFiles [(nodePath, nodeFile.compact)]⟩ listedTwice none).journal
    ∃ first second, RefersTo journal (journal.drop 5) nodePath first ∧
      Loaded (journal.drop 5) nodePath ∧ RefersTo journal (journal.drop 3) nodePath second ∧
        Loaded (journal.drop 3) nodePath ∧ first = second := by
  intro journal
  have noted : (journal.drop 4).head? = some (.visited (rootFrame listedTwice none)
        (.object [("$ref", .string "node.json")]) (some 3)) ∧
      (journal.drop 2).head? = some (.visited (rootFrame listedTwice none)
        (.object [("$ref", .string "lists/../node.json")]) (some 3)) ∧
      Loaded (journal.drop 5) nodePath ∧ Loaded (journal.drop 3) nodePath := by
    decide +kernel
  obtain ⟨firstNoted, secondNoted, firstLoaded, secondLoaded⟩ := noted
  have firstPath : (rootFrame listedTwice none).filePath "node.json" = nodePath := by
    decide +kernel
  have secondPath : (rootFrame listedTwice none).filePath "lists/../node.json" = nodePath := by
    decide +kernel
  have first := firstPath ▸ refersTo_of_drop 4 "node.json" firstNoted (by decide +kernel)
  have second :=
    secondPath ▸ refersTo_of_drop 2 "lists/../node.json" secondNoted (by decide +kernel)
  exact ⟨3, 3, first, firstLoaded, second, secondLoaded,
    (files_loaded_once _ listedTwice none).2.2.1 nodePath 3 3 _ _ first firstLoaded second
      secondLoaded⟩

end Compilation

end SchemaTypes
