/-
This file measures what is left to do in a compilation: every reference that is followed takes away
a key that can still be entered or a file that can still be opened, and every other descent leads to
a smaller fragment.
-/
import SchemaTypes.Compilation.Result
import SchemaTypes.Proofs.Build.Scope
import SchemaTypes.Proofs.Path.NormalForm
import SchemaTypes.Proofs.Termination.Extent

namespace SchemaTypes

open Build

theorem countP_lt_countP {α : Type} {first second : α → Bool} {members : List α}
    (narrower : ∀ member ∈ members, first member = true → second member = true) {lost : α}
    (inside : lost ∈ members) (without : first lost = false) (holds : second lost = true) :
    members.countP first < members.countP second := by
  induction members with
  | nil => cases inside
  | cons member members inductionHypothesis =>
      have rest := List.countP_mono_left fun other later =>
        narrower other (List.mem_cons_of_mem _ later)
      simp only [List.countP_cons]
      rcases List.mem_cons.mp inside with rfl | later
      · simp only [without, holds, Bool.false_eq_true, ↓reduceIte]
        omega
      · have fewer := inductionHypothesis
          (fun other later => narrower other (List.mem_cons_of_mem _ later)) later
        by_cases counted : first member = true
        · have still := narrower member List.mem_cons_self counted
          simp only [counted, still, ↓reduceIte]
          omega
        · simp only [counted, Bool.false_eq_true, ↓reduceIte]
          split <;> omega

/-- The keys of all pointers in the document of a frame. -/
def Frame.pointerKeys (frame : Frame) : List String :=
  frame.document.texts.filterMap fun reference =>
    match Target.ofReference reference with
    | .pointer pointer => some (frame.pointerKey pointer)
    | _ => none

/-- A document has no more pointers than its size says. -/
theorem Frame.length_pointerKeys_le (frame : Frame) :
    frame.pointerKeys.length ≤ frame.document.size :=
  Nat.le_trans (List.length_filterMap_le _ _) (Json.length_texts_le frame.document)

namespace Loader

variable (loader : Loader)

/-- The paths in normal form that are served. -/
noncomputable def paths : List Path :=
  loader.served.choose.filter fun path => path.normalize = path

/-- A loader has no more paths in normal form than it says. -/
theorem length_paths_le : loader.paths.length ≤ loader.pathCount :=
  Nat.le_trans (List.length_filter_le _ _) loader.served.choose_spec.1

variable {loader}

theorem served_of_mem_paths {path : Path} {text : String} (listed : path ∈ loader.paths)
    (served : loader.read path = .ok text) : text ∈ loader.texts :=
  (loader.served.choose_spec.2 path text (of_decide_eq_true (List.mem_filter.mp listed).2)
    served).2

/-- Every path in normal form that is served is listed. -/
theorem mem_paths {path : Path} {text : String} (normal : path.normalize = path)
    (served : loader.read path = .ok text) : path ∈ loader.paths :=
  List.mem_filter.mpr
    ⟨(loader.served.choose_spec.2 path text normal served).1, decide_eq_true normal⟩

end Loader

namespace Compilation

/-- The frames of the files that can be opened. -/
noncomputable def fileFrames (loader : Loader) : List Frame :=
  loader.paths.filterMap fun path =>
    (loader.read path).toOption.bind fun text => (Json.parse text).toOption.map (fileFrame path)

/-- The frames of all documents that can take part in a compilation. -/
noncomputable def frames (loader : Loader) (document : Json) (sourcePath : Option Path) :
    List Frame :=
  rootFrame document sourcePath :: fileFrames loader

/-- The keys of all pointers that can be followed. -/
noncomputable def keys (loader : Loader) (document : Json) (sourcePath : Option Path) :
    List String :=
  (frames loader document sourcePath).flatMap Frame.pointerKeys

/-- The number of references that can still be followed one inside the other. -/
noncomputable def jumps (loader : Loader) (document : Json) (sourcePath : Option Path)
    (progress : Progress) : Nat :=
  (keys loader document sourcePath).countP (fun key => key ∉ progress.pending) +
    loader.paths.countP fun path => ∀ frame ∈ progress.frames, frame.key ≠ some path.text

/-- A budget that is enough for a fragment. -/
noncomputable def need (loader : Loader) (document : Json) (sourcePath : Option Path)
    (progress : Progress) (fragment : Json) : Nat :=
  jumps loader document sourcePath progress * (extent loader document + 1) + fragment.size

variable {loader : Loader} {document : Json} {sourcePath : Option Path}

theorem mem_fileFrames_iff {frame : Frame} :
    frame ∈ fileFrames loader ↔ ∃ path ∈ loader.paths, ∃ text, loader.read path = .ok text ∧
      ∃ content, Json.parse text = .ok content ∧ frame = fileFrame path content := by
  rw [fileFrames, List.mem_filterMap]
  refine exists_congr fun path => and_congr_right fun _ => ?_
  cases loader.read path with
  | error error => simp [Except.toOption]
  | ok text =>
      cases parsed : Json.parse text with
      | error error => simp [Except.toOption, parsed]
      | ok content => simp [Except.toOption, parsed, eq_comm]

theorem length_fileFrames_le (loader : Loader) : (fileFrames loader).length ≤ loader.pathCount :=
  Nat.le_trans (List.length_filterMap_le _ _) loader.length_paths_le

/-- A file that can be opened is no larger than all files together. -/
theorem size_fileFrame_le {frame : Frame} (file : frame ∈ fileFrames loader) :
    frame.document.size ≤ Json.sizeItems (documents loader) := by
  obtain ⟨path, listed, text, served, content, parsed, rfl⟩ := mem_fileFrames_iff.mp file
  have known : content ∈ documents loader :=
    List.mem_filterMap.mpr ⟨text, Loader.served_of_mem_paths listed served, by rw [parsed]; rfl⟩
  exact Json.size_le_sizeItems known

/-- No document of a compilation is greater than its extent. -/
theorem size_le_extent {frame : Frame} (known : frame ∈ frames loader document sourcePath) :
    frame.document.size ≤ extent loader document := by
  unfold extent
  rcases List.mem_cons.mp known with rfl | file
  · exact Nat.le_add_right document.size _
  · have some : 0 < loader.pathCount :=
      Nat.lt_of_lt_of_le (List.length_pos_of_mem file) (length_fileFrames_le loader)
    calc frame.document.size
        ≤ Json.sizeItems (documents loader) := size_fileFrame_le file
      _ ≤ loader.pathCount * Json.sizeItems (documents loader) := Nat.le_mul_of_pos_left _ some
      _ ≤ _ := Nat.le_add_left _ document.size

/-- Documents of a bounded size have a bounded number of pointers. -/
theorem length_pointerKeys_le {bound : Nat} {frames : List Frame}
    (bounded : ∀ frame ∈ frames, frame.document.size ≤ bound) :
    (frames.flatMap Frame.pointerKeys).length ≤ frames.length * bound := by
  induction frames with
  | nil => simp
  | cons frame frames inductionHypothesis =>
      have first := Nat.le_trans frame.length_pointerKeys_le (bounded frame List.mem_cons_self)
      have rest := inductionHypothesis fun other later => bounded other (List.mem_cons_of_mem _ later)
      rw [List.flatMap_cons, List.length_append, List.length_cons, Nat.succ_mul]
      omega

/-- No compilation has more pointers than its extent says. -/
theorem length_keys_le : (keys loader document sourcePath).length ≤ extent loader document := by
  have ofRoot := (rootFrame document sourcePath).length_pointerKeys_le
  have ofFiles := Nat.le_trans (length_pointerKeys_le fun _ file => size_fileFrame_le file)
    (Nat.mul_le_mul_right _ (length_fileFrames_le loader))
  rw [keys, frames, List.flatMap_cons, List.length_append]
  exact Nat.add_le_add ofRoot ofFiles

/-- Only files that the loader serves are opened. -/
theorem fileFrame_mem_frames {path : Path} {text : String} {content : Json}
    (normal : path.normalize = path) (served : loader.read path = .ok text)
    (parsed : Json.parse text = .ok content) :
    fileFrame path content ∈ frames loader document sourcePath :=
  List.mem_cons_of_mem _ (mem_fileFrames_iff.mpr
    ⟨path, Loader.mem_paths normal served, text, served, content, parsed, rfl⟩)

/-- Entering a pointer takes away its key. -/
theorem jumps_enter {progress : Progress} {reference pointer : String}
    (known : progress.frame ∈ frames loader document sourcePath)
    (mentioned : reference ∈ progress.frame.document.texts)
    (points : Target.ofReference reference = .pointer pointer)
    (fresh : progress.frame.pointerKey pointer ∉ progress.pending) :
    jumps loader document sourcePath (progress.enter progress.frame pointer) <
      jumps loader document sourcePath progress := by
  have inside : progress.frame.pointerKey pointer ∈ keys loader document sourcePath := by
    refine List.mem_flatMap.mpr ⟨progress.frame, known, List.mem_filterMap.mpr ?_⟩
    exact ⟨reference, mentioned, by rw [points]⟩
  apply Nat.add_lt_add_right
  refine countP_lt_countP ?_ inside ?_ ?_
  · intro key _ free
    simp only [Progress.enter, List.mem_cons, decide_eq_true_eq] at free ⊢
    exact fun awaited => free (.inr awaited)
  · simp [Progress.enter]
  · simpa using fresh

/-- Opening a file takes away its path. -/
theorem jumps_open {progress : Progress} {path : Path} {text : String} {content : Json}
    (normal : path.normalize = path) (served : loader.read path = .ok text)
    (fresh : ∀ frame ∈ progress.frames, frame.key ≠ some path.text) :
    jumps loader document sourcePath
        ((progress.note (.read path)).push (fileFrame path content)) <
      jumps loader document sourcePath progress := by
  have listed := Loader.mem_paths normal served
  apply Nat.add_lt_add_left
  refine countP_lt_countP ?_ listed ?_ ?_
  · intro other _ free
    simp only [decide_eq_true_eq] at free ⊢
    exact fun frame opened => free frame (List.mem_cons_of_mem _ opened)
  · simp [Progress.frames, Progress.push, fileFrame]
  · simpa using fresh

/-- A part needs less than its fragment wherever the same documents and pointers are open. -/
theorem need_part {before state : Progress} {fragment part : Json}
    (frame : state.frame = before.frame) (outer : state.outer = before.outer)
    (pending : state.pending = before.pending) (below : part.Below fragment) :
    need loader document sourcePath state part <
      need loader document sourcePath before fragment := by
  have frames : state.frames = before.frames := by rw [Progress.frames, frame, outer]; rfl
  have same : jumps loader document sourcePath state = jumps loader document sourcePath before := by
    unfold jumps
    rw [frames, pending]
  have smaller := below.size
  rw [need, need, same]
  omega

/-- A reference that is followed leads to less, however large its target is. -/
theorem need_target {before state : Progress} {fragment target : Json}
    (fewer : jumps loader document sourcePath state < jumps loader document sourcePath before)
    (size : target.size ≤ extent loader document) :
    need loader document sourcePath state target <
      need loader document sourcePath before fragment := by
  have product := Nat.mul_le_mul_right (extent loader document + 1) (Nat.succ_le_of_lt fewer)
  rw [Nat.succ_mul] at product
  unfold need
  omega

/-- The budget of a compilation is enough for its document. -/
theorem need_start_le :
    need loader document sourcePath (Progress.start (rootFrame document sourcePath)) document ≤
      budget loader document := by
  have size : document.size ≤ extent loader document :=
    @size_le_extent loader document sourcePath _ List.mem_cons_self
  have free : jumps loader document sourcePath (Progress.start (rootFrame document sourcePath)) ≤
      extent loader document + loader.pathCount :=
    Nat.add_le_add (Nat.le_trans List.countP_le_length length_keys_le)
      (Nat.le_trans List.countP_le_length loader.length_paths_le)
  have product := Nat.mul_le_mul_right (extent loader document + 1) free
  rw [budget, Nat.succ_mul]
  unfold need
  omega

end Compilation
end SchemaTypes
