/-
This file bounds what can be read in a tree of files. A path in normal form first climbs and then
descends, so a file and the number of steps up determine the path, and there are no more steps than
the spelling of a path has room for. Main statement: finitely many paths in normal form are served.
-/
import SchemaTypes.FileSystem.Reading
import SchemaTypes.Proofs.Path.Walking

namespace SchemaTypes

open Path Path.Directories

/-- All texts but the last one are followed by a separator. -/
theorem Text.length_le_intercalate (texts : List String) :
    texts.length ≤ (String.intercalate "/" texts).utf8ByteSize + 1 := by
  induction texts with
  | nil => simp
  | cons first texts inductionHypothesis =>
      cases texts with
      | nil => simp
      | cons second texts =>
          have separator : "/".utf8ByteSize = 1 := rfl
          rw [String.intercalate_cons_cons, String.utf8ByteSize_append, String.utf8ByteSize_append]
          simp only [List.length_cons] at inductionHypothesis ⊢
          omega

/-- A path has no more steps than its spelling has room for. -/
theorem Path.length_steps_le (path : Path) : path.steps.length ≤ path.text.utf8ByteSize + 1 := by
  have steps := Text.length_le_intercalate (path.steps.map Step.text)
  rw [List.length_map] at steps
  rw [text, String.utf8ByteSize_append]
  omega

namespace FileSystem

variable {files : FileSystem} {path : Path} {location : Location} {text : String}

/-- What passes the check is no longer than a path may be. -/
theorem checkSpelling_eq_ok {spelling : String} (accepted : checkSpelling spelling = .ok ()) :
    spelling.utf8ByteSize ≤ pathLimit := by
  unfold checkSpelling at accepted
  split at accepted
  · cases accepted
  · split at accepted
    · cases accepted
    · next short => exact Nat.le_of_not_lt short

/-- A location is a place in the tree of names; the names of such a place are in reverse. -/
theorem enter_reverse {next : Location} {step : Step}
    (entered : files.enter location step = .ok next) :
    next.reverse = ofNames.step location.reverse step := by
  unfold enter at entered
  split at entered
  · cases entered
  · cases step with
    | current =>
        cases entered
        rfl
    | parent =>
        cases entered
        exact List.tail_reverse.symm
    | child name =>
        dsimp only at entered
        split at entered
        · cases entered
        · split at entered
          · cases entered
            exact List.reverse_append
          · cases entered

/-- Steps that can be taken in a tree of files lead where they lead in the tree of names. -/
theorem foldlM_enter_reverse {steps : List Step} {last : Location}
    (walked : steps.foldlM files.enter location = .ok last) :
    last.reverse = steps.foldl ofNames.step location.reverse := by
  induction steps generalizing location with
  | nil =>
      cases walked
      rfl
  | cons step steps inductionHypothesis =>
      simp only [List.foldlM_cons, bind, Except.bind] at walked
      cases entered : files.enter location step with
      | error error => simp [entered] at walked
      | ok next =>
          simp only [entered] at walked
          rw [List.foldl_cons, ← enter_reverse entered]
          exact inductionHypothesis walked

/-- What is found at the end of a path is where the path leads in the tree of names. -/
theorem locate_reverse (located : files.locate path = .ok location) :
    location.reverse = ofNames.walk files.workingDirectory.reverse path := by
  unfold locate at located
  split at located
  · cases located
  · rw [foldlM_enter_reverse located, walk]
    congr 1
    unfold FileSystem.start Directories.start
    split <;> rfl

/-- A text is read from the location that the path leads to. -/
theorem readPath_eq_ok (served : files.readPath path = .ok text) :
    ∃ location, checkSpelling path.text = .ok () ∧ files.locate path = .ok location ∧
      files.content? location = some (.text text) := by
  simp only [readPath, bind, Except.bind] at served
  split at served
  · cases served
  next accepted =>
  split at served
  · cases served
  next location located =>
  unfold readAt at served
  split at served
  · next found =>
    cases served
    exact ⟨location, accepted, located, found⟩
  · cases served
  · cases served

/-- The paths in normal form that lead to a location, one from the root and one for every number of
steps up that there is room for. -/
def pathsTo (files : FileSystem) (location : Location) : List Path :=
  ⟨true, location.map .child⟩ ::
    (List.range (pathLimit + 2)).map fun climbs =>
      ⟨false, List.replicate climbs .parent ++
        (location.drop (files.workingDirectory.length - climbs)).map .child⟩

/-- The number of these paths. -/
def pathsToCount : Nat := pathLimit + 3

theorem length_pathsTo (files : FileSystem) (location : Location) :
    (files.pathsTo location).length = pathsToCount := by
  rw [pathsTo, List.length_cons, List.length_map, List.length_range]
  rfl

/-- A path in normal form can be read off where it leads and how far it climbs. -/
theorem mem_pathsTo (normal : path.normalize = path) (accepted : checkSpelling path.text = .ok ())
    (located : files.locate path = .ok location) : path ∈ files.pathsTo location := by
  have room := Nat.le_trans path.length_steps_le (Nat.succ_le_succ (checkSpelling_eq_ok accepted))
  obtain ⟨climbs, names, form⟩ := path.exists_normal
  rw [normal] at form
  have reversed := (locate_reverse located).trans (form.walk_ofNames _)
  have few : climbs < pathLimit + 2 := by
    rw [form.steps, List.length_append, List.length_replicate] at room
    omega
  obtain ⟨rooted, steps⟩ := path
  obtain ⟨rfl, free⟩ := form
  cases rooted with
  | true =>
      obtain rfl := free rfl
      have named : location = names := by simpa using reversed
      rw [named]
      exact List.mem_cons_self
  | false =>
      have named : location =
          files.workingDirectory.take (files.workingDirectory.length - climbs) ++ names := by
        rw [if_neg Bool.false_ne_true, List.drop_reverse, ← List.reverse_append] at reversed
        exact List.reverse_inj.mp reversed
      refine List.mem_cons_of_mem _ (List.mem_map.mpr ⟨climbs, List.mem_range.mpr few, ?_⟩)
      rw [named, List.drop_left' (by rw [List.length_take]; omega)]

/-- Only finitely many paths in normal form lead to the files of a tree. -/
theorem exists_paths (files : FileSystem) :
    ∃ paths : List Path, paths.length ≤ files.files.length * pathsToCount ∧
      ∀ path text, path.normalize = path → files.readPath path = .ok text →
        path ∈ paths ∧ text ∈ files.texts := by
  refine ⟨files.files.flatMap fun file => files.pathsTo file.1, ?_, ?_⟩
  · simp [List.length_flatMap, length_pathsTo, List.map_const', List.sum_replicate_nat]
  · intro path text normal served
    obtain ⟨location, accepted, located, found⟩ := readPath_eq_ok served
    obtain ⟨before, after, stored, _⟩ := List.lookup_eq_some_iff.mp found
    have member : (location, Content.text text) ∈ files.files := by simp [stored]
    exact ⟨List.mem_flatMap.mpr ⟨_, member, mem_pathsTo normal accepted located⟩,
      List.mem_filterMap.mpr ⟨_, member, rfl⟩⟩

end FileSystem
end SchemaTypes
