/-
This file shows what writing to a tree of files leaves in it. Directories that are made change no
file. Main statement: a file that is written is found again at the same spelling, and all other
files stay as they were.
-/
import SchemaTypes.FileSystem.Writing
import Mathlib.Data.List.Basic

namespace SchemaTypes.FileSystem

/-- No file was created or changed, whatever directories were made. -/
structure SameFiles (before after : FileSystem) : Prop where
  workingDirectory : after.workingDirectory = before.workingDirectory
  files : after.files = before.files

/-- One file has a new content, and no other file was created or changed. -/
structure Rewritten (before after : FileSystem) (location : Location) (content : Content) :
    Prop where
  here : after.content? location = some content
  elsewhere : ∀ other, other ≠ location → after.content? other = before.content? other

namespace SameFiles

variable {before middle after : FileSystem}

theorem refl (files : FileSystem) : SameFiles files files := ⟨rfl, rfl⟩

/-- What is left alone twice is left alone. -/
theorem trans (first : SameFiles before middle) (second : SameFiles middle after) :
    SameFiles before after :=
  ⟨second.workingDirectory.trans first.workingDirectory, second.files.trans first.files⟩

/-- Every location has the content that it had. -/
theorem content?_eq (same : SameFiles before after) (location : Location) :
    after.content? location = before.content? location :=
  congrArg (List.lookup location) same.files

end SameFiles

section Directories

variable {files after : FileSystem} {path : Path}

/-- A directory that is made touches no file. -/
theorem makeDirectory_sameFiles (made : files.makeDirectory path = .ok after) :
    SameFiles files after := by
  simp only [makeDirectory, bind, Except.bind, pure, Except.pure, throw, throwThe,
    MonadExceptOf.throw] at made
  split at made
  · cases made
  split at made
  · cases made
  split at made
  · split at made
    · cases made
    split at made
    · cases made
    · cases made
      exact ⟨rfl, rfl⟩
  · cases made

/-- A directory that is made or is there already touches no file. -/
theorem makeDirectoryIfMissing_sameFiles (made : files.makeDirectoryIfMissing path = .ok after) :
    SameFiles files after := by
  unfold makeDirectoryIfMissing at made
  split at made
  · next directory =>
    cases made
    exact makeDirectory_sameFiles directory
  · split at made
    · split at made
      · cases made
        exact .refl files
      · cases made
    · cases made

/-- Whether or not all directories can be made, no file is touched. -/
theorem makeDirectories_sameFiles (files : FileSystem) (rooted : Bool) (steps : List Path.Step) :
    SameFiles files (files.makeDirectories rooted steps).1 := by
  induction steps with
  | nil => exact .refl files
  | cons last before inductionHypothesis =>
      unfold makeDirectories
      dsimp only
      split
      · next made => exact makeDirectoryIfMissing_sameFiles made
      · cases outcome : files.makeDirectories rooted before with
        | mk made failure =>
            rw [outcome] at inductionHypothesis
            cases failure with
            | some error => exact inductionHypothesis
            | none =>
                dsimp only
                split
                · next last =>
                  exact inductionHypothesis.trans (makeDirectoryIfMissing_sameFiles last)
                · exact inductionHypothesis
      · exact .refl files

/-- Whatever becomes of the directory of a file, no file is touched. -/
theorem prepareDirectory_sameFiles (files : FileSystem) (spelling : String) (path : Path) :
    SameFiles files (files.prepareDirectory spelling path).1 := by
  unfold prepareDirectory
  split
  · exact .refl files
  · exact makeDirectories_sameFiles files path.rooted path.steps.reverse

end Directories

section Files

variable {files after : FileSystem} {location other : Location} {content : Content}

/-- A file that is put has its content, and the other ones keep theirs. -/
theorem lookup_putContent (location other : Location) (content : Content)
    (entries : List (Location × Content)) :
    (putContent location content entries).lookup other =
      if other = location then some content else entries.lookup other := by
  induction entries with
  | nil =>
      by_cases same : other = location
      · simp [putContent, same]
      · have apart : (other == location) = false := by simpa using same
        simp [putContent, List.lookup_cons, same, apart]
  | cons entry entries inductionHypothesis =>
      obtain ⟨first, old⟩ := entry
      by_cases here : first = location
      · by_cases same : other = location
        · simp [putContent, here, same]
        · have apart : (other == location) = false := by simpa using same
          simp [putContent, List.lookup_cons, here, same, apart]
      · by_cases same : other = first
        · subst same
          simp [putContent, here]
        · have apart : (other == first) = false := by simpa using same
          simp only [putContent, here, ↓reduceIte, List.lookup_cons, apart, inductionHypothesis]

/-- Putting a file changes the content of its own location only. -/
theorem putFile_rewritten (files : FileSystem) (location : Location) (content : Content) :
    Rewritten files (files.putFile location content) location content where
  here := (lookup_putContent ..).trans (if_pos rfl)
  elsewhere _ apart := (lookup_putContent ..).trans (if_neg apart)

/-- What is there stays there when a file is put beside it. -/
theorem isPresent_putFile (present : files.isPresent other = true) :
    (files.putFile location content).isPresent other = true := by
  simp only [isPresent, isFile, Bool.or_eq_true] at present ⊢
  refine present.imp_right fun isFile => ?_
  by_cases same : other = location
  · rw [same, (putFile_rewritten files location content).here]
    rfl
  · rw [(putFile_rewritten files location content).elsewhere other same]
    exact isFile

/-- A step that can be taken can still be taken when a file was put somewhere. -/
theorem enter_putFile {start next : Location} {step : Path.Step}
    (entered : files.enter start step = .ok next) :
    (files.putFile location content).enter start step = .ok next := by
  unfold enter at entered ⊢
  change (if (!files.isDirectory start) = true then _ else _) = _
  split at entered
  · cases entered
  · next directory =>
    rw [if_neg directory]
    cases step with
    | current => exact entered
    | parent => exact entered
    | child name =>
        dsimp only at entered ⊢
        split at entered
        · cases entered
        · next short =>
          rw [if_neg short]
          split at entered
          · next present =>
            rw [if_pos (isPresent_putFile present)]
            exact entered
          · cases entered

/-- A walk that succeeds still does when a file was put somewhere. -/
theorem foldlM_enter_putFile {start next : Location} {steps : List Path.Step}
    (walked : steps.foldlM files.enter start = .ok next) :
    steps.foldlM (files.putFile location content).enter start = .ok next := by
  induction steps generalizing start with
  | nil => exact walked
  | cons step steps inductionHypothesis =>
      simp only [List.foldlM_cons, bind, Except.bind] at walked ⊢
      cases entered : files.enter start step with
      | error error => simp [entered] at walked
      | ok onward =>
          simp only [entered] at walked
          simp only [enter_putFile entered]
          exact inductionHypothesis walked

/-- A file is written behind a path that leads to a directory, under a name that is not that of a
directory. -/
structure Target (files : FileSystem) (spelling : String) (parent : Location) (name : String) :
    Prop where
  accepted : checkSpelling spelling = .ok ()
  last : (spelledPath spelling).steps.getLast? = some (.child name)
  walked : (spelledPath spelling).steps.dropLast.foldlM files.enter
    (files.start (spelledPath spelling)) = .ok parent
  isDirectory : files.isDirectory parent = true
  short : name.utf8ByteSize ≤ nameLimit

/-- A text is written only where its spelling has a target. -/
theorem writeText_target {spelling text : String}
    (written : files.writeText spelling text = .ok after) :
    ∃ parent name, Target files spelling parent name ∧
      after = files.putFile (parent ++ [name]) (.text text) := by
  simp only [writeText, bind, Except.bind, pure, Except.pure, throw, throwThe,
    MonadExceptOf.throw] at written
  split at written
  · cases written
  next accepted =>
  split at written
  · cases written
  next parent walked =>
  split at written
  · cases written
  next directory =>
  split at written
  · next name last =>
    split at written
    · cases written
    next short =>
    split at written
    · cases written
    next free =>
    cases written
    simp only [Bool.or_eq_true, decide_eq_true_eq, not_or, Nat.not_lt, Nat.le_zero] at free
    rw [free.1, Nat.sub_zero, List.take_length] at walked last
    exact ⟨parent, name, ⟨accepted, last, walked, by simpa using directory,
      Nat.le_of_not_lt short⟩, rfl⟩
  · split at written <;> cases written
  · cases written

/-- A file that was written is found again at the same spelling, and no other file has changed. -/
theorem writeText_rewritten {spelling text : String}
    (written : files.writeText spelling text = .ok after) :
    ∃ location, after.locateText spelling = .ok location ∧
      Rewritten files after location (.text text) := by
  obtain ⟨parent, name, target, rfl⟩ := writeText_target written
  have rewritten := putFile_rewritten files (parent ++ [name]) (.text text)
  refine ⟨parent ++ [name], ?_, rewritten⟩
  have isDirectory :
      (files.putFile (parent ++ [name]) (.text text)).isDirectory parent = true :=
    target.isDirectory
  have present : (files.putFile (parent ++ [name]) (.text text)).isPresent
      (parent ++ [name]) = true := by
    simp [isPresent, isFile, rewritten.here]
  have entered : (files.putFile (parent ++ [name]) (.text text)).enter parent (.child name) =
      .ok (parent ++ [name]) := by
    simp [enter, isDirectory, Nat.not_lt.mpr target.short, present]
  have nonempty : spelledPath spelling ≠ .empty := by
    intro empty
    have last := target.last
    rw [empty] at last
    cases last
  have steps : (spelledPath spelling).steps =
      (spelledPath spelling).steps.dropLast ++ [.child name] :=
    (List.dropLast_append_getLast? _ target.last).symm
  rw [locateText, target.accepted]
  change locate _ _ = _
  rw [locate, if_neg nonempty, steps, List.foldlM_append]
  change Except.bind _ _ = _
  rw [show (files.putFile (parent ++ [name]) (.text text)).start (spelledPath spelling) =
    files.start (spelledPath spelling) from rfl, foldlM_enter_putFile target.walked]
  simp [Except.bind, entered, bind, pure, Except.pure]

end Files

end SchemaTypes.FileSystem
