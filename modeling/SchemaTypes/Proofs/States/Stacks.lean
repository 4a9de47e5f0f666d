/-
This file is about the documents and the pointers that are being resolved. Main statement: a step
leaves both as it has found them, even where it fails, so that a compilation always stands in a
document, never opens one twice, and has nothing pending in the end.
-/
import SchemaTypes.Proofs.Names.Awaited
import SchemaTypes.Proofs.States.Invariants

namespace SchemaTypes

open Build

namespace Build

variable {α β : Type} {before middle after : Progress}

/-- The same documents and pointers are being resolved as before. -/
structure SameStacks (before after : Progress) : Prop where
  frames : after.frames = before.frames
  pending : after.pending = before.pending

theorem SameStacks.refl (progress : Progress) : SameStacks progress progress := ⟨rfl, rfl⟩

/-- Stacks that are kept twice are kept. -/
theorem SameStacks.trans (first : SameStacks before middle) (second : SameStacks middle after) :
    SameStacks before after :=
  ⟨second.frames.trans first.frames, second.pending.trans first.pending⟩

theorem Retouched.sameStacks (retouched : Retouched before after) : SameStacks before after :=
  ⟨congrArg₂ List.cons retouched.frame retouched.outer, retouched.pending⟩

/-- A step comes back to the documents and to the pointers that it began with, whether it succeeds
or fails. -/
def Restores (act : Build α) : Prop :=
  ∀ before outcome after, Ends act before outcome after → SameStacks before after

namespace Restores

theorem pure (value : α) : Restores (Pure.pure value) := by
  intro before outcome after taken
  obtain ⟨-, rfl⟩ := ends_pure.mp taken
  exact .refl before

theorem throw (error : CompileError) : Restores (MonadExcept.throw error : Build α) := by
  intro before outcome after taken
  obtain ⟨-, rfl⟩ := ends_throw.mp taken
  exact .refl before

theorem allocate (shape : Shape) : Restores (Build.allocate shape) := by
  intro before outcome after taken
  obtain ⟨-, rfl⟩ := ends_allocate.mp taken
  exact ⟨rfl, rfl⟩

theorem forwardReference (key name : String) : Restores (Build.forwardReference key name) := by
  intro before outcome after taken
  obtain ⟨-, rfl⟩ := ends_forwardReference.mp taken
  exact ⟨rfl, rfl⟩

/-- Steps that restore the stacks can be taken one after another. -/
theorem bind {act : Build α} {next : α → Build β} (first : Restores act)
    (rest : ∀ value, Restores (next value)) : Restores (act >>= next) := by
  intro before outcome after taken
  rcases ends_bind.mp taken with ⟨error, -, failed⟩ | ⟨value, middle, done, taken⟩
  · exact first _ _ _ failed
  · exact (first _ _ _ done).trans (rest value _ _ _ taken)

/-- Nothing comes behind a failure. -/
theorem throw_bind (error : CompileError) (next : α → Build β) :
    Restores (MonadExcept.throw error >>= next) := by
  intro before outcome after taken
  rcases ends_bind.mp taken with ⟨_, -, failed⟩ | ⟨_, _, done, -⟩
  · exact throw error _ _ _ failed
  · cases (ends_throw.mp done).1

theorem get_bind {next : Progress → Build β} (rest : ∀ progress, Restores (next progress)) :
    Restores (get >>= next) :=
  fun before outcome after taken => rest before before outcome after (ends_get_bind.mp taken)

theorem modify_bind {change : Progress → Progress} {next : PUnit → Build β}
    (same : ∀ progress, SameStacks progress (change progress)) (rest : Restores (next ⟨⟩)) :
    Restores (modify change >>= next) :=
  fun before _ _ taken => (same before).trans (rest _ _ _ (ends_modify_bind.mp taken))

theorem noting {event : Option NodeId → Event} {act : Build NodeId} (restores : Restores act) :
    Restores (Build.noting event act) := by
  intro before outcome after taken
  obtain ⟨last, ended, rfl⟩ := ends_noting.mp taken
  obtain ⟨frames, pending⟩ := restores _ _ _ ended
  exact ⟨frames, pending⟩

/-- Members that restore the stacks do so one after another. -/
theorem each {act : α → Build β} (restores : ∀ member, Restores (act member))
    (members : List α) : Restores (Build.each act members) := by
  induction members with
  | nil => exact pure []
  | cons member members inductionHypothesis =>
      exact (restores member).bind fun _ => inductionHypothesis.bind fun _ => pure _

/-- The frame of a document is pushed, and it is the one that is popped. -/
theorem inFrame (frame : Frame) {act : Build α} (restores : Restores act) :
    Restores (Build.inFrame frame act) := by
  intro before outcome after taken
  obtain ⟨last, ended, rfl⟩ := ends_between.mp taken
  obtain ⟨frames, pending⟩ := restores _ _ _ ended
  have nested : last.outer = before.frame :: before.outer := (List.cons.inj frames).2
  rw [Progress.pop_of_outer nested]
  exact ⟨rfl, pending⟩

/-- The key of a pointer is put in front of the pending ones, and it is the first one to go. -/
theorem whilePending (frame : Frame) (pointer : String) {act : Build α}
    (restores : Restores act) : Restores (Build.whilePending frame pointer act) := by
  intro before outcome after taken
  obtain ⟨last, ended, rfl⟩ := ends_between.mp taken
  obtain ⟨frames, pending⟩ := restores _ _ _ ended
  refine ⟨frames, ?_⟩
  change last.pending.erase (frame.pointerKey pointer) = before.pending
  rw [pending]
  exact List.erase_cons_head ..

theorem readDocument (loader : Loader) (path : Path) :
    Restores (Build.readDocument loader path) := by
  intro before outcome after taken
  rw [(ends_readDocument taken).1]
  exact ⟨rfl, rfl⟩

theorem finishFile (settings : Settings) (path : Path) (node : NodeId) :
    Restores (Build.finishFile settings path node) := by
  intro before outcome after taken
  cases outcome with
  | ok loaded =>
      obtain ⟨middle, retouched, closed⟩ := finishFile_cases taken
      obtain ⟨frames, pending⟩ := retouched.sameStacks
      rcases closed with ⟨-, -, rfl⟩ | ⟨-, name, rfl⟩ <;> exact ⟨frames, pending⟩
  | error error =>
      simp only [Ends, Build.finishFile] at taken
      split at taken <;> cases taken

theorem buildEnum (fragment : Json) : Restores (Build.buildEnum fragment) := by
  unfold Build.buildEnum
  split
  · exact throw _
  · exact (each (fun _ => allocate _) _).bind fun _ => allocate _

theorem buildNamedEnum (fragment : Json) (property : Option String) :
    Restores (Build.buildNamedEnum fragment property) := by
  unfold Build.buildNamedEnum
  split
  · exact throw _
  · exact throw _
  · dsimp only
    split
    · exact throw_bind _ _
    · split
      · exact throw _
      · refine get_bind fun progress => (allocate _).bind fun node => ?_
        exact modify_bind (fun _ => ⟨rfl, rfl⟩) (pure node)

section Resolvers

variable {resolve : Resolver} (restores : ∀ fragment site, Restores (resolve fragment site))

include restores

/-- Following a pointer restores the stacks. -/
theorem followPointer (settings : Settings) (pointer : String) :
    Restores (Build.followPointer settings resolve pointer) := by
  refine get_bind fun _ => noting (get_bind fun progress => ?_)
  dsimp only
  split
  · exact pure _
  · split
    · exact forwardReference _ _
    · split
      · exact allocate _
      · refine (whilePending _ _ (restores _ _)).bind fun node => ?_
        exact modify_bind (fun before => (finishPointer_retouched ..).sameStacks) (pure node)

/-- Following a reference to a file restores the stacks. -/
theorem followFile (context : Context) (reference : String) (property : Option String) :
    Restores (Build.followFile context resolve reference property) := by
  have located (path : Path) : Restores (resolvePath context resolve path property) := by
    refine get_bind fun progress => ?_
    split
    · exact pure _
    · split
      · exact forwardReference _ _
      · refine (readDocument _ _).bind fun document => ?_
        exact (inFrame _ (restores _ _)).bind fun _ => finishFile _ _ _
  unfold Build.followFile
  split
  · exact throw_bind _ _
  · exact get_bind fun _ => noting (located _)

theorem follow (context : Context) (reference : String) (property : Option String) :
    Restores (Build.follow context resolve reference property) := by
  unfold Build.follow
  split
  · exact get_bind fun _ => forwardReference _ _
  · exact followPointer restores context.settings _
  · exact followFile restores context _ property

theorem buildArray (items : Option Json) : Restores (Build.buildArray resolve items) := by
  unfold Build.buildArray
  split
  · exact (restores _ _).bind fun _ => allocate _
  · exact (allocate _).bind fun _ => allocate _

/-- Building an interface restores the stacks. -/
theorem buildInterface (fragment : Json) : Restores (Build.buildInterface resolve fragment) := by
  have listed (required : List String) (fields : List (String × Json)) :
      Restores (resolveProperties resolve required fields) :=
    each (fun _ => (restores _ _).bind fun _ => pure _) fields
  refine (listed _ _).bind fun properties => ?_
  have indexed {act : Build NodeId} (yields : Restores act) : Restores (do
      let type ← act
      Build.allocate (.interface (properties ++ [(⟨indexSignature, true, type⟩ : Property)]))) :=
    yields.bind fun _ => allocate _
  split
  · exact indexed (restores _ _)
  · split
    · split <;> exact allocate _
    · exact indexed (allocate _)
  · split
    · exact allocate _
    · exact indexed (allocate _)
  · exact allocate _

/-- Building a node restores the stacks. -/
theorem buildNode (context : Context) (fragment : Json) (property : Option String) :
    Restores (Build.buildNode context resolve fragment property) := by
  have members (keyword : String) : Restores (resolveMembers resolve fragment keyword) :=
    each (fun _ => restores _ _) _
  unfold Build.buildNode
  cases Rule.classify fragment with
  | typedArray => exact buildArray restores _
  | namedEnum => exact buildNamedEnum fragment property
  | enum => exact buildEnum fragment
  | namedSchema => exact buildInterface restores fragment
  | allOf => exact (members _).bind fun _ => allocate _
  | anyOf => exact (members _).bind fun _ => allocate _
  | reference =>
      dsimp only [buildReference]
      split
      · exact follow restores context _ property
      · exact allocate _
  | array => exact buildArray restores none
  | union => exact (each (fun _ => restores _ _) _).bind fun _ => allocate _
  | anonymousSchema => exact buildInterface restores fragment
  | _ => exact allocate _

end Resolvers

/-- However deep a fragment leads and however it ends, its resolution comes back. -/
theorem resolveFragment (context : Context) (budget : Nat) (fragment : Json) (site : Site) :
    Restores (Build.resolveFragment context budget fragment site) := by
  induction budget generalizing fragment site with
  | zero => exact throw _
  | succ budget inductionHypothesis =>
      refine get_bind fun _ => noting ((buildNode inductionHypothesis _ _ _).bind fun node => ?_)
      refine fun before outcome after taken => ?_
      simp only [ends_modify_bind, ends_pure] at taken
      obtain ⟨-, rfl⟩ := taken
      exact (adopted_retouched fragment site node before).sameStacks

end Restores

end Build

/-- The root document is the outermost one, and no file is open twice. -/
structure Progress.Stacked (root : Frame) (progress : Progress) : Prop where
  bottom : progress.frames.getLast? = some root
  distinct : (progress.frames.filterMap Frame.key).Nodup

namespace Progress.Stacked

variable {root : Frame} {before after : Progress}

theorem start (root : Frame) : (Progress.start root).Stacked root where
  bottom := rfl
  distinct := by
    cases key : root.key <;> simp [Progress.start, Progress.frames, key]

theorem of_frames (stacked : before.Stacked root) (frames : after.frames = before.frames) :
    after.Stacked root := by
  obtain ⟨bottom, distinct⟩ := stacked
  rw [← frames] at bottom distinct
  exact ⟨bottom, distinct⟩

/-- A file is opened only if no open document has its key. -/
theorem push (stacked : before.Stacked root) {frame : Frame} {key : String}
    (own : frame.key = some key) (fresh : ∀ other ∈ before.frames, other.key ≠ some key) :
    (before.push frame).Stacked root where
  bottom := stacked.bottom
  distinct := by
    change ((frame :: before.frames).filterMap Frame.key).Nodup
    rw [List.filterMap_cons_some own]
    refine List.nodup_cons.mpr ⟨?_, stacked.distinct⟩
    intro member
    obtain ⟨other, opened, same⟩ := List.mem_filterMap.mp member
    exact fresh other opened same

/-- The root document stays open. -/
theorem pop (stacked : before.Stacked root) : before.pop.Stacked root := by
  cases nested : before.outer with
  | nil =>
      unfold Progress.pop
      rw [nested]
      exact stacked
  | cons enclosing outer =>
      obtain ⟨bottom, distinct⟩ := stacked
      rw [Progress.frames, nested] at bottom distinct
      rw [Progress.pop_of_outer nested]
      exact ⟨bottom, (List.sublist_cons_self ..).filterMap Frame.key |>.nodup distinct⟩

/-- Every change keeps the root document outermost and files from being open twice. -/
theorem step {context : Context} (change : Transition context before after)
    (stacked : before.Stacked root) : after.Stacked root := by
  cases change with
  | pointerFinished pointer target node =>
      exact stacked.of_frames (finishPointer_retouched ..).sameStacks.frames
  | fileOpened path text document missing fresh =>
      have noted : (before.note (.read path)).Stacked root := stacked.of_frames rfl
      exact noted.push rfl fresh
  | fileDeclared path node name => exact stacked.pop.of_frames rfl
  | fileInlined path node =>
      refine stacked.pop.of_frames ?_
      simp only [inlineFile]
      split <;> rfl
  | _ => exact stacked.of_frames rfl

/-- The documents are in order wherever a compilation stands. -/
theorem invariant (context : Context) (root : Frame) :
    Invariant context fun progress => progress.Scoped ∧ progress.Stacked root := by
  have kept := Invariant.scoped context
  exact
    { within := And.left
      step := fun change holds => ⟨kept.step change holds.1, step change holds.2⟩
      titled := fun holds node name => ⟨kept.titled holds.1 node name, holds.2.of_frames rfl⟩
      declared := fun holds known key =>
        ⟨kept.declared holds.1 known key, holds.2.of_frames rfl⟩
      noted := fun holds event => ⟨kept.noted holds.1 event, holds.2.of_frames rfl⟩
      left := fun holds key => ⟨kept.left holds.1 key, holds.2.of_frames rfl⟩
      popped := fun holds => ⟨kept.popped holds.1, holds.2.pop⟩
      renamed := fun holds node name => ⟨kept.renamed holds.1 node name, holds.2.of_frames rfl⟩ }

end Progress.Stacked

namespace Compilation

variable {context : Context} {document : Json} {sourcePath : Option Path}
  {compilation : Compilation}

/-- At the end of a successful compilation no pointer is being resolved, and no key is left that was
met again but that of the root document. -/
theorem finished_stacks (built : build context document sourcePath = .ok compilation) :
    compilation.progress.pending = [] ∧
      (compilation.progress.forced = [] ∨
        compilation.progress.forced = [(rootFrame document sourcePath).ownKey]) := by
  obtain ⟨last, passage, -, same⟩ := exists_run built
  have awaited := passage.run.keeps Progress.Awaited.step (.start _)
  have only : ∀ key ∈ last.forced, key = (rootFrame document sourcePath).ownKey := by
    intro key forced
    rcases awaited.forced key forced with pending | ⟨frame, opened, rfl⟩
    · rw [passage.pending] at pending
      cases pending
    · rw [Progress.frames, passage.frame, passage.outer] at opened
      rw [List.mem_singleton.mp opened]
      rfl
  rw [same]
  refine ⟨passage.pending, ?_⟩
  change last.forced = [] ∨ last.forced = _
  have repeated := List.eq_replicate_of_mem only
  have once : last.forced.length ≤ 1 := by
    have distinct := awaited.distinct
    rw [repeated] at distinct
    exact List.nodup_replicate.mp distinct
  rcases Nat.le_one_iff_eq_zero_or_eq_one.mp once with none | one
  · exact .inl (List.length_eq_zero_iff.mp none)
  · rw [one] at repeated
    exact .inr repeated

/-- Whatever is resolved or followed, at whatever point, leaves the open documents and the pending
pointers as it has found them, whether it succeeds or fails; in particular a document that was
opened for it is the one that is closed behind it. Wherever a compilation stands, the root document
is the outermost one that is open, and no two open documents have one key. When it has succeeded, no
pointer is pending, and at most the key of the root document was met again without an answer. -/
theorem stacks_restored (context : Context) (document : Json) (sourcePath : Option Path) :
    (∀ budget,
      (∀ fragment site, Restores (resolveFragment context budget fragment site)) ∧
      (∀ reference property,
        Restores (follow context (resolveFragment context budget) reference property)) ∧
      (∀ pointer,
        Restores (followPointer context.settings (resolveFragment context budget) pointer)) ∧
      (∀ reference property,
        Restores (followFile context (resolveFragment context budget) reference property)) ∧
      ∀ fragment site frame (before : Progress) outcome last,
        Ends (resolveFragment context budget fragment site) (before.push frame) outcome last →
          last.frame = frame ∧ last.pop.frames = before.frames) ∧
    (∀ progress, Reached context document sourcePath progress →
      progress.Stacked (rootFrame document sourcePath)) ∧
    ∀ compilation, build context document sourcePath = .ok compilation →
      compilation.progress.pending = [] ∧
        (compilation.progress.forced = [] ∨
          compilation.progress.forced = [(rootFrame document sourcePath).ownKey]) := by
  refine ⟨fun budget => ?_, fun progress reached => ?_, fun compilation => finished_stacks⟩
  · have restores := Restores.resolveFragment context budget
    refine ⟨restores, Restores.follow restores context, Restores.followPointer restores _,
      Restores.followFile restores context, ?_⟩
    intro fragment site frame before outcome last ended
    obtain ⟨top, outer⟩ := List.cons.inj (restores _ _ _ _ _ ended).frames
    refine ⟨top, ?_⟩
    rw [Progress.pop_of_outer outer]
    rfl
  · exact (reached.holds (Progress.Stacked.invariant context _) ⟨.start _, .start _⟩).2

/-- A document that refers to itself and to a file. -/
def selfAndFile : Json :=
  .object [("properties", .object [("next", .object [("$ref", .string "#")]),
    ("unit", .object [("$ref", .string "unit.json")])])]

def unitPath : Path := Path.ofString "unit.json"

def unitFile : Json := .object [("type", .string "string")]

/-- While the file is being resolved both documents are open, and so they are behind a reference
that leads nowhere. In the end nothing is pending, and the key of the root was met again. -/
theorem stacks_restored_selfAndFile :
    let context : Context := ⟨{}, .ofFiles [(unitPath, unitFile.compact)]⟩
    ∃ (compilation : Compilation) (progress after : Progress) (error : CompileError),
      build context selfAndFile none = .ok compilation ∧
      compilation.progress.pending = [] ∧ compilation.progress.forced = ["#"] ∧
      Reached context selfAndFile none progress ∧
      progress.frames = [fileFrame unitPath unitFile, rootFrame selfAndFile none] ∧
      progress.Stacked (rootFrame selfAndFile none) ∧
      resolveFragment context 9 (.object [("$ref", .string "missing.json")]) .inner progress =
        .error error after ∧
      after.frames = progress.frames ∧ after.pending = progress.pending := by
  intro context
  obtain ⟨compilation, built, checked⟩ := exists_ok
    (show (build context selfAndFile none).toOption.any (fun compilation => decide
      (compilation.progress.forced = ["#"])) = true by decide +kernel)
  obtain ⟨resolutions, reachable, finished⟩ := stacks_restored context selfAndFile none
  obtain ⟨last, resolved, -⟩ := exists_last built
  have served : context.loader.read unitPath = .ok unitFile.compact := by decide +kernel
  have parsed : Json.parse unitFile.compact = .ok unitFile := by decide +kernel
  have reached : Reached context selfAndFile none
      (((Progress.start (rootFrame selfAndFile none)).note (.read unitPath)).push
        (fileFrame unitPath unitFile)) :=
    .underway (meets_start resolved) (.single (.fileOpened _ unitPath _ unitFile rfl
      (by decide +kernel) served parsed))
  have failing : passes (fun _ _ => true)
      (resolveFragment context 9 (.object [("$ref", .string "missing.json")]) .inner
        (((Progress.start (rootFrame selfAndFile none)).note (.read unitPath)).push
          (fileFrame unitPath unitFile))) = false := by decide +kernel
  obtain ⟨error, after, failed⟩ := exists_of_not_passes failing
  have restored := (resolutions 9).1 _ _ _ (.error error) after failed
  exact ⟨compilation, _, after, error, built, (finished compilation built).1,
    of_decide_eq_true checked, reached, rfl, reachable _ reached, failed, restored.frames,
    restored.pending⟩

end Compilation
end SchemaTypes
