/-
This file shows that two compilations of one document resolve the same fragments and read the same
files, and that they fail for one reason, whatever their settings are. A fragment that only one of
them resolves again makes no difference.
-/
import SchemaTypes.Proofs.Comparison.Revisit

namespace SchemaTypes.Build

variable {loader : Loader} {settings others : Settings} {root : Frame} {left right : Resolver}
  {first second : Progress} {fragment : Json}

/-- Both resolvers find their way through a fragment, or they fail for one reason. -/
def Parallel (loader : Loader) (settings others : Settings) (root : Frame)
    (left right : Resolver) : Prop :=
  ∀ fragment site first second, first.Surveyed ⟨settings, loader⟩ root →
    second.Surveyed ⟨others, loader⟩ root → Level first second →
    Reachable loader root first.frame fragment →
    Abreast True Level (left fragment site) (right fragment site) first second

/-- Where both steps can only run out of budget, they stay abreast. -/
theorem Abreast.of_settles {left right : Build NodeId} (level : Level first second)
    (settles : Settles (Level first) left first)
    (settlesToo : Settles (Level second) right second) :
    Abreast True Level left right first second := by
  rcases settles with ⟨after, failed⟩ | ⟨node, after, done, onward⟩
  · exact .exhausted failed
  · rcases settlesToo with ⟨last, failed⟩ | ⟨made, last, doneToo, onwardToo⟩
    · exact .exhaustedToo trivial failed
    · exact .ok done doneToo (level.change onward onwardToo)

/-- What stands under the key of a pointer was made of its target. -/
theorem saw_of_stored {context : Context} {before : Progress} {pointer : String} {target : Json}
    {node : NodeId} (unambiguous : Unambiguous context.loader root)
    (surveyed : before.Surveyed context root)
    (mentioned : Mentioned context.loader root (.pointer before.frame pointer))
    (leads : Pointer.lookup? before.frame.document (Pointer.segments pointer) = some target)
    (stored : before.declarations.get? (before.frame.pointerKey pointer) = some node) :
    before.Saw before.frame target := by
  rw [stored_eq surveyed] at stored
  obtain ⟨content, found, visited⟩ := surveyed.told.pointer_of_registered unambiguous
    surveyed.traced.coherent mentioned stored
  obtain rfl := Option.some.inj (leads.symm.trans found)
  exact ⟨node, visited⟩

/-- A file that was resolved is closed and remembered. -/
theorem finishFile_closes (settings : Settings) (path : Path) (node : NodeId)
    (before : Progress) :
    ∃ loaded after, finishFile settings path node before = .ok loaded after ∧
      after.frame = before.frame ∧ after.outer = before.outer ∧ after.pending = before.pending ∧
      (∀ frame fragment, after.Saw frame fragment ↔ before.Saw frame fragment) ∧
      ∀ other, after.Loaded other ↔ other = path ∨ before.Loaded other := by
  have remembered (progress : Progress) (other : Path) (made : NodeId) :
      (progress.remember path made).Loaded other ↔ other = path ∨ progress.Loaded other := by
    simp [Progress.Loaded, Progress.remember, exists_or]
  simp only [finishFile]
  split
  · refine ⟨_, _, rfl, rfl, rfl, rfl, fun frame fragment => ?_, fun other => remembered _ _ _⟩
    simp [Progress.Saw, declareFile, Progress.remember, Progress.add, Progress.declare,
      Progress.release]
  · refine ⟨_, _, rfl, ?_⟩
    unfold inlineFile
    split
    · exact ⟨rfl, rfl, rfl, fun _ _ => .rfl, fun other => remembered _ _ _⟩
    · exact ⟨rfl, rfl, rfl, fun _ _ => .rfl, fun other => remembered _ _ _⟩

/-- A file is finished in both compilations, whether or not one of them declares it. -/
theorem finishFile_abreast (level : Level first second) (path : Path) (node made : NodeId) :
    Abreast True Level (finishFile settings path node) (finishFile others path made)
      first second := by
  obtain ⟨_, after, done, frame, outer, pending, saw, loaded⟩ :=
    finishFile_closes settings path node first
  obtain ⟨_, last, doneToo, frameToo, outerToo, pendingToo, sawToo, loadedToo⟩ :=
    finishFile_closes others path made second
  refine .ok done doneToo ⟨?_, ?_, ?_, fun other part => ?_, fun other => ?_⟩
  · rw [frame, frameToo, level.frame]
  · rw [outer, outerToo, level.outer]
  · rw [pending, pendingToo, level.pending]
  · rw [saw, sawToo, level.saw]
  · rw [loaded, loadedToo, level.loaded]

/-- A file is read, and its document is resolved. -/
def openFile (context : Context) (resolve : Resolver) (path : Path) (property : Option String) :
    Build NodeId := do
  let document ← readDocument context.loader path
  let node ← inFrame (fileFrame path document) (resolve document ⟨property, true⟩)
  finishFile context.settings path node

/-- A file that was neither read nor is being resolved is opened. -/
theorem resolvePath_eq_openFile {context : Context} {resolve : Resolver} {path : Path}
    {property : Option String} {before : Progress} (missing : before.files.lookup path = none)
    (fresh : ∀ frame ∈ before.frames, frame.key ≠ some path.text) :
    resolvePath context resolve path property before =
      openFile context resolve path property before := by
  have unopened : (before.frame :: before.outer).reverse.find? (·.key = some path.text) = none :=
    List.find?_eq_none.mpr fun frame opened => by
      simpa using fresh frame (List.mem_reverse.mp opened)
  simp only [resolvePath, get_bind, missing, unopened]
  rfl

/-- Both compilations read the same document or fail with the same error. -/
theorem readDocument_abreast {path : Path} :
    Abreast True
      (fun after last => after = first.note (.read path) ∧ last = second.note (.read path))
      (readDocument loader path) (readDocument loader path) first second := by
  cases served : loader.read path with
  | error source =>
      have failed (progress : Progress) : readDocument loader path progress =
          .error (.missingReference path source) (progress.note (.read path)) := by
        simp [readDocument, served]
      exact .error trivial (failed first) (failed second)
  | ok text =>
      cases parsed : Json.parse text with
      | error source =>
          have failed (progress : Progress) : readDocument loader path progress =
              .error (.malformedReference path source) (progress.note (.read path)) := by
            simp [readDocument, served, parsed]
          exact .error trivial (failed first) (failed second)
      | ok document =>
          exact .ok (readDocument_eq_ok.mpr ⟨text, served, parsed, rfl⟩)
            (readDocument_eq_ok.mpr ⟨text, served, parsed, rfl⟩) ⟨rfl, rfl⟩

section Steps

variable (unambiguous : Unambiguous loader root)
  (parallel : Parallel loader settings others root left right)
  (revisits : Revisits ⟨settings, loader⟩ root left)
  (revisitsToo : Revisits ⟨others, loader⟩ root right)
  (surveyed : first.Surveyed ⟨settings, loader⟩ root)
  (surveyedToo : second.Surveyed ⟨others, loader⟩ root) (level : Level first second)
  (reachable : Reachable loader root first.frame fragment)

include parallel surveyed surveyedToo level reachable

/-- Both compilations resolve the target of a pointer. -/
theorem enterPointer_abreast {pointer : String} {target : Json}
    (refers : fragment.target? = some (.pointer pointer))
    (missing : first.declarations.get? (first.frame.pointerKey pointer) = none)
    (missingToo : second.declarations.get? (first.frame.pointerKey pointer) = none)
    (fresh : first.frame.pointerKey pointer ∉ first.pending)
    (leads : Pointer.lookup? first.frame.document (Pointer.segments pointer) = some target) :
    Abreast True Level (enterPointer settings left first.frame pointer target)
      (enterPointer others right first.frame pointer target) first second := by
  have entered := pointerEntered_surveyed surveyed reachable refers missing fresh leads
  have frame := level.frame
  have enteredToo : (second.enter first.frame pointer).Surveyed ⟨others, loader⟩ root := by
    rw [← frame] at reachable missingToo fresh leads ⊢
    rw [← level.pending] at fresh
    exact pointerEntered_surveyed surveyedToo reachable refers missingToo fresh leads
  have resolved := parallel target .inner _ _ entered enteredToo (level.enter first.frame pointer)
    (reachable.follow (.pointer refers leads))
  have passed : Abreast True Level (whilePending first.frame pointer (left target .inner))
      (whilePending first.frame pointer (right target .inner)) first second :=
    resolved.between fun _ _ level => level.leave (first.frame.pointerKey pointer)
  refine passed.bind fun node made middle last _ _ level => ?_
  exact .ok rfl rfl (level.change (finishPointer_level ..) (finishPointer_level ..))

include unambiguous revisits revisitsToo

/-- A pointer is followed alike, or the compilation that follows it again learns nothing new. -/
theorem resolvePointer_abreast {pointer : String}
    (refers : fragment.target? = some (.pointer pointer)) :
    Abreast True Level (resolvePointer settings left pointer)
      (resolvePointer others right pointer) first second := by
  have frame := level.frame
  have reachableToo : Reachable loader root second.frame fragment := frame ▸ reachable
  cases leads : Pointer.lookup? first.frame.document (Pointer.segments pointer) with
  | none =>
      have leadsToo := leads
      rw [← frame] at leadsToo
      exact .of_settles level (.inr (resolvePointer_at_once (.inr (.inr leads))))
        (.inr (resolvePointer_at_once (.inr (.inr leadsToo))))
  | some target =>
      have settles (saw : first.Saw first.frame target) :
          Settles (Level first) (resolvePointer settings left pointer) first :=
        resolvePointer_settles surveyed revisits reachable refers fun other leadsToo => by
          obtain rfl := Option.some.inj (leads.symm.trans leadsToo)
          exact .inr saw
      have settlesToo (saw : first.Saw first.frame target) :
          Settles (Level second) (resolvePointer others right pointer) second :=
        resolvePointer_settles surveyedToo revisitsToo reachableToo refers fun other leadsToo => by
          rw [frame] at leadsToo ⊢
          obtain rfl := Option.some.inj (leads.symm.trans leadsToo)
          exact .inr ((level.saw _ _).mpr saw)
      by_cases awaited : first.frame.pointerKey pointer ∈ first.pending
      · have awaitedToo : second.frame.pointerKey pointer ∈ second.pending := by
          rw [frame, level.pending]
          exact awaited
        exact .of_settles level (.inr (resolvePointer_at_once (.inr (.inl awaited))))
          (.inr (resolvePointer_at_once (.inr (.inl awaitedToo))))
      · cases stored : first.declarations.get? (first.frame.pointerKey pointer) with
        | some node =>
            have saw := saw_of_stored unambiguous surveyed (.pointer reachable refers) leads stored
            exact .of_settles level (settles saw) (settlesToo saw)
        | none =>
            cases storedToo : second.declarations.get? (first.frame.pointerKey pointer) with
            | some node =>
                have mentioned : Mentioned loader root (.pointer second.frame pointer) :=
                  .pointer reachableToo refers
                have sawToo : second.Saw second.frame target := by
                  rw [← frame] at leads storedToo
                  exact saw_of_stored unambiguous surveyedToo mentioned leads storedToo
                rw [frame, level.saw] at sawToo
                exact .of_settles level (settles sawToo) (settlesToo sawToo)
            | none =>
                have abreast := enterPointer_abreast parallel surveyed surveyedToo level reachable
                  refers stored storedToo awaited leads
                have entering : resolvePointer settings left pointer first =
                    enterPointer settings left first.frame pointer target first :=
                  resolvePointer_eq_enterPointer stored awaited leads
                have enteringToo : resolvePointer others right pointer second =
                    enterPointer others right first.frame pointer target second := by
                  rw [← frame] at storedToo leads awaited ⊢
                  rw [← level.pending] at awaited
                  exact resolvePointer_eq_enterPointer storedToo awaited leads
                exact abreast.congr entering enteringToo

omit unambiguous revisits revisitsToo in
/-- Both compilations read a file, or neither of them can. -/
theorem openFile_abreast (property : Option String) {file : String}
    (refers : fragment.target? = some (.file file))
    (missing : first.files.lookup (first.frame.filePath file) = none)
    (missingToo : second.files.lookup (first.frame.filePath file) = none)
    (fresh : ∀ frame ∈ first.frames, frame.key ≠ some (first.frame.filePath file).text) :
    Abreast True Level (openFile ⟨settings, loader⟩ left (first.frame.filePath file) property)
      (openFile ⟨others, loader⟩ right (first.frame.filePath file) property) first second := by
  unfold openFile
  refine readDocument_abreast.bind fun document content middle last read readToo same => ?_
  obtain ⟨text, served, parsed, -⟩ := readDocument_eq_ok.mp read
  obtain ⟨other, servedToo, parsedToo, -⟩ := readDocument_eq_ok.mp readToo
  obtain rfl := Except.ok.inj (served.symm.trans servedToo)
  obtain rfl := Except.ok.inj (parsed.symm.trans parsedToo)
  obtain ⟨rfl, rfl⟩ := same
  have opened := fileOpened_surveyed surveyed missing fresh served parsed
  have openedToo : ((second.note (.read (first.frame.filePath file))).push
      (fileFrame (first.frame.filePath file) document)).Surveyed ⟨others, loader⟩ root := by
    rw [← level.frames] at fresh
    exact fileOpened_surveyed surveyedToo missingToo fresh served parsed
  have noted : Level (first.note (.read (first.frame.filePath file)))
      (second.note (.read (first.frame.filePath file))) :=
    level.change (.note first (by simp)) (.note second (by simp))
  have served : loader.Serves (first.frame.filePath file) document := ⟨text, served, parsed⟩
  have resolved := parallel document ⟨property, true⟩ _ _ opened openedToo (noted.push _)
    (reachable.follow (.file refers (fresh root surveyed.rootOpen) served))
  have closed : Abreast True Level
      (inFrame (fileFrame (first.frame.filePath file) document) (left document ⟨property, true⟩))
      (inFrame (fileFrame (first.frame.filePath file) document) (right document ⟨property, true⟩))
      (first.note (.read (first.frame.filePath file)))
      (second.note (.read (first.frame.filePath file))) :=
    resolved.between fun _ _ level => level.pop
  exact closed.bind fun node made _ _ _ _ level => finishFile_abreast level _ _ _

omit unambiguous revisits revisitsToo in
/-- A file is opened by both compilations or by none of them. -/
theorem resolvePath_abreast (property : Option String) {file : String}
    (refers : fragment.target? = some (.file file)) :
    Abreast True Level (resolvePath ⟨settings, loader⟩ left (first.frame.filePath file) property)
      (resolvePath ⟨others, loader⟩ right (first.frame.filePath file) property) first second := by
  have coversToo (covers : first.Covers (first.frame.filePath file)) :
      second.Covers (first.frame.filePath file) := by
    rcases covers with loaded | opened
    · exact .inl ((level.loaded _).mpr loaded)
    · exact .inr (level.frames ▸ opened)
  by_cases covers : first.Covers (first.frame.filePath file)
  · exact .of_settles level (.inr (resolvePath_at_once covers))
      (.inr (resolvePath_at_once (coversToo covers)))
  · obtain ⟨unloaded, unopened⟩ := not_or.mp covers
    have missing {progress : Progress} (absent : ¬progress.Loaded (first.frame.filePath file)) :
        progress.files.lookup (first.frame.filePath file) = none :=
      Option.eq_none_iff_forall_not_mem.mpr fun node found =>
        absent (Progress.loaded_iff.mpr ⟨node, found⟩)
    have fresh : ∀ frame ∈ first.frames,
        frame.key ≠ some (first.frame.filePath file).text :=
      fun frame opened key => unopened ⟨frame, opened, key⟩
    have missingToo := missing (mt (level.loaded _).mp unloaded)
    have abreast := openFile_abreast parallel surveyed surveyedToo level reachable property refers
      (missing unloaded) missingToo fresh
    exact abreast.congr (resolvePath_eq_openFile (missing unloaded) fresh)
      (resolvePath_eq_openFile missingToo (level.frames ▸ fresh))

/-- References are answered abreast, whatever they lead to. -/
theorem buildReference_abreast (property : Option String)
    (reference : Rule.classify fragment = .reference) :
    Abreast True Level (buildReference ⟨settings, loader⟩ left fragment property)
      (buildReference ⟨others, loader⟩ right fragment property) first second := by
  cases asks : fragment.target? with
  | none =>
      rw [buildReference_none reference asks, buildReference_none reference asks]
      exact .ok rfl rfl (level.change (.same rfl rfl rfl rfl rfl) (.same rfl rfl rfl rfl rfl))
  | some target =>
      cases target with
      | document =>
          rw [buildReference_document asks, buildReference_document asks]
          exact .ok rfl rfl (level.change (.same rfl rfl rfl rfl rfl) (.same rfl rfl rfl rfl rfl))
      | pointer pointer =>
          rw [buildReference_pointer asks, buildReference_pointer asks]
          have abreast := resolvePointer_abreast unambiguous parallel revisits revisitsToo surveyed
            surveyedToo level reachable asks
          exact Abreast.get_bind (abreast.noting fun _ _ after last level =>
            level.change (.note after (by simp)) (.note last (by simp)))
      | file file =>
          rw [buildReference_file asks, buildReference_file asks]
          unfold followFile
          split
          · exact .error trivial rfl rfl
          · have abreast := resolvePath_abreast parallel surveyed surveyedToo level reachable
              property asks
            refine Abreast.get_bind ?_
            rw [level.frame]
            exact abreast.noting fun _ _ after last level =>
              level.change (.note after (by simp)) (.note last (by simp))

/-- A fragment is built abreast, by its reference or from its parts. -/
theorem buildNode_lockstep (property : Option String)
    (surveys : Surveys ⟨settings, loader⟩ root left)
    (surveysToo : Surveys ⟨others, loader⟩ root right) :
    Abreast True Level (buildNode ⟨settings, loader⟩ left fragment property)
      (buildNode ⟨others, loader⟩ right fragment property) first second := by
  by_cases reference : Rule.classify fragment = .reference
  · have abreast := buildReference_abreast unambiguous parallel revisits revisitsToo surveyed
      surveyedToo level reachable property reference
    simpa only [buildNode, reference] using abreast
  · let even (after last : Progress) : Prop := after.Surveyed ⟨settings, loader⟩ root ∧
      last.Surveyed ⟨others, loader⟩ root ∧ Level after last ∧ after.frame = first.frame
    have parts (outline : Outline) (part : Json) (outlined : fragment.outline? = some outline)
        (inside : .fragment part ∈ outline.parts) (property : Option String)
        (after last : Progress) (here : even after last) :
        Abreast True even (left part ⟨property, false⟩) (right part ⟨property, false⟩)
          after last := by
      obtain ⟨surveyedAfter, surveyedLast, levelHere, frame⟩ := here
      have reachablePart : Reachable loader root after.frame part :=
        frame ▸ reachable.part outlined inside
      have reachableToo : Reachable loader root last.frame part :=
        levelHere.frame ▸ reachablePart
      have abreast := parallel part ⟨property, false⟩ after last surveyedAfter surveyedLast
        levelHere reachablePart
      refine abreast.imp fun _ _ final finalToo done doneToo level => ?_
      obtain ⟨passage, onward, -⟩ := surveys.inner surveyedAfter reachablePart done
      obtain ⟨-, onwardToo, -⟩ := surveysToo.inner surveyedLast reachableToo doneToo
      exact ⟨onward, onwardToo, level, passage.frame.trans frame⟩
    have start : even first second := ⟨surveyed, surveyedToo, level, rfl⟩
    exact buildNode_abreast (fun _ _ _ _ here one other => here.2.2.1.change one other) parts start
      property reference fun _ => trivial

end Steps

/-- Two resolvers that go parallel below a fragment do so at the fragment. -/
theorem resolveBy_parallel (unambiguous : Unambiguous loader root)
    (parallel : Parallel loader settings others root left right)
    (revisits : Revisits ⟨settings, loader⟩ root left)
    (revisitsToo : Revisits ⟨others, loader⟩ root right)
    (surveys : Surveys ⟨settings, loader⟩ root left)
    (surveysToo : Surveys ⟨others, loader⟩ root right) :
    Parallel loader settings others root (resolveBy ⟨settings, loader⟩ left)
      (resolveBy ⟨others, loader⟩ right) := by
  intro fragment site first second surveyed surveyedToo level reachable
  have built := buildNode_lockstep unambiguous parallel revisits revisitsToo surveyed surveyedToo
    level reachable site.property surveys surveysToo
  have adopted (node : NodeId) (progress : Progress) :
      Level progress (adoptDescription fragment node (adoptName fragment site node progress)) :=
    (adoptName_level fragment site node progress).trans (adoptDescription_level ..)
  have finished : Abreast True Level
      (do
        let node ← buildNode ⟨settings, loader⟩ left fragment site.property
        modify (adoptName fragment site node)
        modify (adoptDescription fragment node)
        return node)
      (do
        let node ← buildNode ⟨others, loader⟩ right fragment site.property
        modify (adoptName fragment site node)
        modify (adoptDescription fragment node)
        return node) first second :=
    built.bind fun node made middle last _ _ level =>
      .ok rfl rfl (level.change (adopted node middle) (adopted made last))
  apply Abreast.get_bind
  rw [level.frame]
  exact finished.noting fun _ _ _ _ level => level.visit

/-- Two compilations with one loader resolve every fragment alike but for its nodes. -/
theorem resolveFragment_parallel (unambiguous : Unambiguous loader root)
    (settings others : Settings) (budget : Nat) :
    Parallel loader settings others root (resolveFragment ⟨settings, loader⟩ budget)
      (resolveFragment ⟨others, loader⟩ budget) := by
  induction budget with
  | zero => exact fun _ _ _ _ _ _ _ _ => .exhausted rfl
  | succ budget inductionHypothesis =>
      exact resolveBy_parallel unambiguous inductionHypothesis
        (resolveFragment_revisits unambiguous budget) (resolveFragment_revisits unambiguous budget)
        (resolveFragment_surveys unambiguous budget) (resolveFragment_surveys unambiguous budget)

end SchemaTypes.Build
