/-
This file says what a run of the command leaves behind. Files are compiled one by one, in the order
of the arguments, and nothing of one compilation is seen by the next. Main statement: a run delivers
the declarations of all its inputs, or else it prints nothing and touches no file.
-/
import SchemaTypes.Proofs.Command.Effective
import SchemaTypes.Proofs.FileSystem.Written
import Mathlib.Data.List.Forall2

namespace SchemaTypes.Compilation

variable {files : FileSystem} {settings : Settings} {paths : List String}

/-- Files that are compiled together have the texts that each of them has alone. -/
theorem compileEach_eq_ok_iff {texts : List String} :
    compileEach files settings paths = .ok texts ↔
      List.Forall₂ (fun path text => compileFile files settings path = .ok text) paths texts := by
  induction paths generalizing texts with
  | nil => simp [compileEach, eq_comm]
  | cons path paths inductionHypothesis =>
      rw [List.forall₂_cons_left_iff, compileEach]
      simp only [bind, Except.bind, pure, Except.pure]
      cases compiled : compileFile files settings path with
      | error error => simp
      | ok text =>
          cases rest : compileEach files settings paths with
          | error error =>
              have none (later : List String) :
                  ¬ List.Forall₂ (fun path text => compileFile files settings path = .ok text)
                    paths later := by
                rw [← inductionHypothesis, rest]
                nofun
              simp [none]
          | ok later =>
              simp only [← inductionHypothesis, rest]
              constructor
              · intro same
                cases same
                exact ⟨text, later, rfl, rfl, rfl⟩
              · rintro ⟨_, _, sameText, sameLater, rfl⟩
                cases sameText
                cases sameLater
                rfl

/-- The first file that fails alone, and how. -/
structure FirstFailure (files : FileSystem) (settings : Settings) (paths : List String)
    (before : List String) (path : String) (error : CompileError) : Prop where
  located : ∃ after, paths = before ++ path :: after
  earlier : ∀ other ∈ before, ∃ text, compileFile files settings other = .ok text
  failed : compileFile files settings path = .error error

/-- Files that are compiled together fail as the first of them that fails alone. -/
theorem FirstFailure.compileEach_eq {before : List String} {path : String} {error : CompileError}
    (first : FirstFailure files settings paths before path error) :
    compileEach files settings paths = .error error := by
  obtain ⟨⟨after, rfl⟩, earlier, failed⟩ := first
  induction before with
  | nil => simp [compileEach, failed, bind, Except.bind]
  | cons other before inductionHypothesis =>
      obtain ⟨text, compiled⟩ := earlier other List.mem_cons_self
      have rest := inductionHypothesis fun other member =>
        earlier other (List.mem_cons_of_mem _ member)
      simp [compileEach, compiled, rest, bind, Except.bind]

/-- Where a file fails alone, there is a first one that does. -/
theorem exists_firstFailure {path : String} {error : CompileError} (member : path ∈ paths)
    (failed : compileFile files settings path = .error error) :
    ∃ before path error, FirstFailure files settings paths before path error := by
  induction paths with
  | nil => cases member
  | cons other paths inductionHypothesis =>
      cases compiled : compileFile files settings other with
      | error early => exact ⟨[], other, early, ⟨paths, rfl⟩, nofun, compiled⟩
      | ok text =>
          rcases List.mem_cons.mp member with rfl | later
          · rw [failed] at compiled
            cases compiled
          · obtain ⟨before, path, error, ⟨after, located⟩, earlier, failed⟩ :=
              inductionHypothesis later
            refine ⟨other :: before, path, error, ⟨after, by simp [located]⟩, ?_, failed⟩
            rintro sooner (_ | ⟨_, member⟩)
            · exact ⟨text, compiled⟩
            · exact earlier sooner member

end SchemaTypes.Compilation

namespace SchemaTypes.Command

open Compilation

/-- The text is all of the output, or else all that stands in the file it was asked into. -/
def Delivered (files : FileSystem) (outcome : Outcome) (out : Option String) (text : String) :
    Prop :=
  match out with
  | none => outcome.output = text ∧ files.SameFiles outcome.files
  | some path =>
    outcome.output = "" ∧
      ∃ location, outcome.files.locateText path = .ok location ∧
        files.Rewritten outcome.files location (.text text)

section Deliver

variable {files after : FileSystem} {path text : String}

/-- Directories may be left behind where a text cannot be delivered, and never a file. -/
theorem deliver_failed {failure : Failure}
    (outcome : deliver files path text = (after, some failure)) : files.SameFiles after := by
  have made := FileSystem.prepareDirectory_sameFiles files (Path.parentText path)
    (Path.ofString path).directory
  unfold deliver at outcome
  split at outcome
  · next source prepared =>
    cases outcome
    rw [prepared] at made
    exact made
  · next source prepared =>
    rw [prepared] at made
    split at outcome
    · cases outcome
      exact made
    · cases outcome

/-- A text that is delivered is found again at the path it was asked into, and no other file has
changed. -/
theorem deliver_done (outcome : deliver files path text = (after, none)) :
    ∃ location, after.locateText path = .ok location ∧
      files.Rewritten after location (.text text) := by
  have made := FileSystem.prepareDirectory_sameFiles files (Path.parentText path)
    (Path.ofString path).directory
  unfold deliver at outcome
  split at outcome
  · cases outcome
  · next prepared preparing =>
    rw [preparing] at made
    split at outcome
    · cases outcome
    · next written =>
      cases outcome
      obtain ⟨location, located, rewritten⟩ := FileSystem.writeText_rewritten written
      exact ⟨location, located, rewritten.here, fun other apart =>
        (rewritten.elsewhere other apart).trans (made.content?_eq other)⟩

end Deliver

section Runs

variable {files : FileSystem} {options : Options}

/-- What is produced is made of what each input has alone under the settings in force. -/
theorem produce_eq_ok {text : String} (produced : produce files options = .ok text) :
    ∃ settings texts, Effective files options settings ∧
      List.Forall₂ (fun path text => compileFile files settings path = .ok text)
        options.inputs texts ∧
      text = String.intercalate "\n" texts := by
  unfold produce at produced
  cases loaded : loadSettings files options.config with
  | error failure => simp [loaded, Except.bind] at produced
  | ok configured =>
      simp only [loaded, Except.bind, compileFiles] at produced
      cases compiled : compileEach files (options.apply configured) options.inputs with
      | error error => simp [compiled, Except.map] at produced
      | ok texts =>
          simp only [compiled, Except.map, Except.ok.injEq] at produced
          exact ⟨options.apply configured, texts, effective_iff.mpr ⟨configured, loaded, rfl⟩,
            compileEach_eq_ok_iff.mp compiled, produced.symm⟩

/-- The first input that fails alone decides the error of the whole. -/
theorem produce_firstFailure {settings : Settings} {before : List String} {path : String}
    {error : CompileError} (inForce : Effective files options settings)
    (first : FirstFailure files settings options.inputs before path error) :
    produce files options = .error (.compile error) := by
  obtain ⟨configured, loaded, rfl⟩ := effective_iff.mp inForce
  simp [produce, loaded, Except.bind, compileFiles, first.compileEach_eq, Except.map]

/-- A compilation ends as a failure that touches no file, or with its text delivered. -/
theorem compile_cases (files : FileSystem) (options : Options) :
    (∃ after failure, compile files options = fail after failure ∧ files.SameFiles after) ∨
      ∃ text, produce files options = .ok text ∧ (compile files options).code = 0 ∧
        Delivered files (compile files options) options.out (text ++ "\n") := by
  unfold compile
  cases produced : produce files options with
  | error failure => exact .inl ⟨files, failure, rfl, .refl files⟩
  | ok text =>
      cases out : options.out with
      | none => exact .inr ⟨text, rfl, rfl, rfl, .refl files⟩
      | some path =>
          dsimp only
          cases delivery : deliver files path (text ++ "\n") with
          | mk after outcome =>
              cases outcome with
              | some failure => exact .inl ⟨after, failure, rfl, deliver_failed delivery⟩
              | none => exact .inr ⟨text, rfl, rfl, rfl, deliver_done delivery⟩

/-- A run that fails prints nothing and touches no file. A run that succeeds delivers, on the output
or in the file it was asked into, one below the other what each input has alone under the settings
in force. Where an input fails alone under them, the run fails as the first of these inputs. -/
theorem run_all_or_nothing {arguments : List String}
    (accepted : Invocation.ofArguments? arguments = some (.compile options)) :
    ((run files arguments).code ≠ 0 →
      (run files arguments).output = "" ∧ files.SameFiles (run files arguments).files) ∧
    ((run files arguments).code = 0 →
      ∃ settings texts, Effective files options settings ∧
        List.Forall₂ (fun path text => compileFile files settings path = .ok text)
          options.inputs texts ∧
        Delivered files (run files arguments) options.out
          (String.intercalate "\n" texts ++ "\n")) ∧
    (∀ settings, Effective files options settings →
      ∀ input ∈ options.inputs, ∀ error, compileFile files settings input = .error error →
        ∃ before first firstError,
          FirstFailure files settings options.inputs before first firstError ∧
          run files arguments = fail files (.compile firstError)) := by
  have ran : run files arguments = compile files options := by
    unfold run
    rw [accepted]
  rw [ran]
  refine ⟨fun failed => ?failed, fun done => ?done,
    fun settings inForce input member error failed => ?first⟩
  case failed =>
    rcases compile_cases files options with ⟨after, failure, ended, same⟩ | ⟨_, _, done, _⟩
    · rw [ended]
      exact ⟨rfl, same⟩
    · exact absurd done failed
  case done =>
    rcases compile_cases files options with ⟨_, _, ended, _⟩ | ⟨_, produced, _, delivered⟩
    · rw [ended] at done
      cases done
    · obtain ⟨settings, texts, inForce, compiled, rfl⟩ := produce_eq_ok produced
      exact ⟨settings, texts, inForce, compiled, delivered⟩
  case first =>
    obtain ⟨before, first, firstError, found⟩ := exists_firstFailure member failed
    refine ⟨before, first, firstError, found, ?_⟩
    unfold compile
    rw [produce_firstFailure inForce found]

end Runs

/-- A configuration and two schemas in the working directory. The first one refers to a schema that
lies above it, by more steps up than there are, and the second one refers to the first. -/
def street : FileSystem :=
  [(["pet.json"], "\x7b\"type\":[\"string\",\"number\"]\x7d"),
    (["work", "home.json"],
      "\x7b\"properties\":\x7b\"pet\":\x7b\"$ref\":\"../../pet.json\"\x7d\x7d\x7d"),
    (["work", "street.json"],
      "\x7b\"properties\":\x7b\"home\":\x7b\"$ref\":\"home.json\"\x7d\x7d\x7d"),
    (["work", "jsonschema-ts.toml"], "[settings]\nend_property_with_semicolon = false\n")].foldl
    (fun files file => files.addFile file.1 (.text file.2)) (.create ["work"])

def streetArguments (inputs : List String) : List String :=
  inputs ++ ["--out", "made/types.ts", "--no-type-semicolons"]

def streetOptions (inputs : List String) : Options :=
  { inputs, out := some "made/types.ts", flags := [.noTypeSemicolons] }

/-- The properties end as the configuration says, and the types as the flag does. -/
def streetSettings : Settings :=
  { endPropertyWithSemicolon := false, endTypeWithSemicolon := false }

/-- What the first schema declares is declared again for the second one. -/
def streetText : String :=
  ofLines
    ["export type Pet = string | number",
      "export interface Home \x7b",
      "  pet?: Pet",
      "  [k: string]: any",
      "\x7d",
      "export type Pet = string | number",
      "export interface Home \x7b",
      "  pet?: Pet",
      "  [k: string]: any",
      "\x7d",
      "export interface Street \x7b",
      "  home?: Home",
      "  [k: string]: any",
      "\x7d"]

/-- The configuration of the street is in force whatever the inputs are. -/
theorem street_effective (inputs : List String) :
    Effective street (streetOptions inputs) streetSettings :=
  have loaded : loadSettings street none = .ok { endPropertyWithSemicolon := false } := by
    decide +kernel
  effective_iff.mpr ⟨_, loaded, rfl⟩

/-- Both schemas are delivered in a file whose directory is made for it, and nothing is when the
second input is missing. -/
theorem run_street_delivered :
    (Invocation.ofArguments? (streetArguments ["home.json", "street.json"]) =
        some (.compile (streetOptions ["home.json", "street.json"])) ∧
      (run street (streetArguments ["home.json", "street.json"])).code = 0 ∧
      Effective street (streetOptions ["home.json", "street.json"]) streetSettings ∧
      (∃ texts,
        List.Forall₂ (fun path text => compileFile street streetSettings path = .ok text)
          ["home.json", "street.json"] texts ∧
        String.intercalate "\n" texts ++ "\n" = streetText) ∧
      Delivered street (run street (streetArguments ["home.json", "street.json"]))
        (some "made/types.ts") streetText) ∧
    Invocation.ofArguments? (streetArguments ["home.json", "lost.json"]) =
        some (.compile (streetOptions ["home.json", "lost.json"])) ∧
      (run street (streetArguments ["home.json", "lost.json"])).code ≠ 0 ∧
      (run street (streetArguments ["home.json", "lost.json"])).output = "" ∧
      (run street (streetArguments ["home.json", "lost.json"])).errors =
        "Error: failed to read schema \"lost.json\": No such file or directory (os error 2)\n" ∧
      street.SameFiles (run street (streetArguments ["home.json", "lost.json"])).files ∧
      ∃ before first firstError,
        FirstFailure street streetSettings ["home.json", "lost.json"] before first firstError ∧
        run street (streetArguments ["home.json", "lost.json"]) =
          fail street (.compile firstError) := by
  have accepted : Invocation.ofArguments? (streetArguments ["home.json", "street.json"]) =
      some (.compile (streetOptions ["home.json", "street.json"])) := by
    decide +kernel
  obtain ⟨done, written⟩ :
      (run street (streetArguments ["home.json", "street.json"])).code = 0 ∧
        (run street (streetArguments ["home.json", "street.json"])).files.readText
          "made/types.ts" = .ok streetText := by
    decide +kernel
  have acceptedToo : Invocation.ofArguments? (streetArguments ["home.json", "lost.json"]) =
      some (.compile (streetOptions ["home.json", "lost.json"])) := by
    decide +kernel
  obtain ⟨failed, reported⟩ :
      (run street (streetArguments ["home.json", "lost.json"])).code ≠ 0 ∧
        (run street (streetArguments ["home.json", "lost.json"])).errors =
          "Error: failed to read schema \"lost.json\": No such file or directory (os error 2)\n" := by
    decide +kernel
  have missing : compileFile street streetSettings "lost.json" =
      .error (.readSchema "lost.json" .notFound) := by
    decide +kernel
  obtain ⟨settings, texts, inForce, compiled, delivered⟩ := (run_all_or_nothing accepted).2.1 done
  obtain rfl := inForce.unique (street_effective _)
  obtain ⟨silent, location, located, rewritten⟩ := delivered
  have same : String.intercalate "\n" texts ++ "\n" = streetText := by
    simpa [FileSystem.readText, located, bind, Except.bind, FileSystem.readAt, rewritten.here]
      using written
  obtain ⟨silentToo, untouched⟩ := (run_all_or_nothing acceptedToo).1 failed
  have first := (run_all_or_nothing acceptedToo).2.2 streetSettings (street_effective _) "lost.json"
    (by simp [streetOptions]) _ missing
  exact ⟨⟨accepted, done, street_effective _, ⟨texts, compiled, same⟩, silent, location, located,
    same ▸ rewritten⟩, acceptedToo, failed, silentToo, reported, untouched, first⟩

end SchemaTypes.Command
