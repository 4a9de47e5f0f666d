/-
This file shows that references are followed as they would be with another description. Main
statement: with the same budget, fragments that two compilations come to together are resolved to
the same node, and both compilations face each other as before.
-/
import SchemaTypes.Proofs.Remarks.Mirrored

namespace SchemaTypes

open Build Json

/-- Where one loader serves a document, the other one serves it with another description. -/
def Loader.ServesAlike (old new : Json) (loader loader' : Loader) : Prop :=
  ∀ path document, loader.Serves path document →
    ∃ document', loader'.Serves path document' ∧ Replaced old new document document'

/-- A loader serves the same documents as itself. -/
theorem Loader.servesAlike_self {old new : Json} (loader : Loader) :
    loader.ServesAlike old new loader :=
  fun _ document served => ⟨document, served, .same document⟩

namespace Build

variable {old new : Json} {frames frames' : List Frame} {frame frame' : Frame}
  {outer outer' : List Frame} {settings : Settings} {loader loader' : Loader}
  {root root' : Frame} {left right : Resolver} {first second : Progress}
  {fragment fragment' : Json}

/-- Whether a node needs a declaration does not depend on descriptions. -/
theorem needsDeclaration_facing (facing : Facing old new frames frames' first second)
    (key : String) (node : NodeId) :
    second.needsDeclaration settings key node = first.needsDeclaration settings key node := by
  rw [Progress.needsDeclaration, Progress.needsDeclaration, facing.forced, facing.isSimple]

/-- Both compilations declare the target of a pointer, or neither does. -/
theorem finishPointer_facing (facing : Facing old new frames frames' first second)
    (alike : frame.Alike old new frame') (pointer : String) (node : NodeId) :
    Facing old new frames frames' (finishPointer settings frame pointer node first)
      (finishPointer settings frame' pointer node second) := by
  simp only [finishPointer, alike.pointerKey, needsDeclaration_facing facing]
  split
  · exact (facing.release _).declare _ _ _ _ _
  · exact facing.release _

theorem finishFile_mirrors (facing : Facing old new frames frames' first second) (path : Path)
    (node : NodeId) :
    Mirrors (Facing old new frames frames') (finishFile settings path node)
      (finishFile settings path node) first second := by
  have released := facing.release path.text
  have needed := @needsDeclaration_facing _ _ _ _ settings _ _ facing path.text node
  have name : fileName path ((second.release path.text).node node) =
      fileName path ((first.release path.text).node node) := by
    rw [fileName, fileName, released.id]
  have declared : Facing old new frames frames' (declareFile path node (first.release path.text))
      (declareFile path node (second.release path.text)) := by
    simp only [declareFile, name, released.size]
    exact ((released.declare _ _ _ _ _).add _).remember _ _
  have inlined : Facing old new frames frames' (inlineFile path node (first.release path.text))
      (inlineFile path node (second.release path.text)) := by
    simp only [inlineFile, released.declarations]
    split
    · exact released.remember _ _
    · exact (released.setId _ _).remember _ _
  intro value after done
  simp only [finishFile] at done ⊢
  rw [needed, facing.size]
  split at done
  · next needs =>
    cases done
    exact ⟨_, by rw [if_pos needs], declared⟩
  · next simple =>
    cases done
    exact ⟨_, by rw [if_neg simple], inlined⟩

/-- Fragments that two compilations come to together are resolved in the same way. -/
def Mirrored (old new : Json) (loader loader' : Loader) (root root' : Frame)
    (left right : Resolver) : Prop :=
  ∀ {frame frame' : Frame} {outer outer' : List Frame} {fragment fragment' : Json} (site : Site),
    Together loader loader' root root' frame frame' fragment fragment' →
    Replaced old new fragment fragment' → ∀ {first second : Progress},
    Facing old new (frame :: outer) (frame' :: outer') first second →
    Mirrors (Facing old new (frame :: outer) (frame' :: outer')) (left fragment site)
      (right fragment' site) first second

/-- An open document is found under its key in both compilations. -/
theorem find?_alike {frames frames' : List Frame}
    (alike : List.Forall₂ (Frame.Alike old new) frames frames') (key : String) :
    Option.Rel (Frame.Alike old new) (frames.find? (·.key = some key))
      (frames'.find? (·.key = some key)) := by
  induction alike with
  | nil => exact .none
  | cons first _ inductionHypothesis =>
      rw [List.find?_cons, List.find?_cons, first.key]
      split
      · exact .some first
      · exact inductionHypothesis

theorem fileFrame_alike (redescribed : Redescribed old new) {document document' : Json}
    (replaced : Replaced old new document document') (path : Path) :
    (fileFrame path document).Alike old new (fileFrame path document') :=
  ⟨replaced, rfl, rfl, by rw [fileFrame, fileFrame, replaced.declaredName? redescribed]⟩

section Following

variable (redescribed : Redescribed old new)
  (only : DescribesOnly old new loader loader' root root')
  (mirrored : Mirrored old new loader loader' root root' left right)
  (together : Together loader loader' root root' frame frame' fragment fragment')
  (facing : Facing old new (frame :: outer) (frame' :: outer') first second)

include facing

omit facing in
theorem followDocument_mirrors
    (facing : Facing old new (frame :: outer) (frame' :: outer') first second) :
    Mirrors (Facing old new (frame :: outer) (frame' :: outer')) followDocument followDocument
      first second := by
  unfold followDocument
  refine .get_bind ?_
  dsimp only
  rw [facing.frame, facing.frame', facing.innermost.ownKey, facing.innermost.name]
  exact forwardReference_mirrors facing _ _

include redescribed mirrored together

include only in
/-- A pointer leads to targets that are resolved alike, since it does not lead to the description.
-/
theorem followPointer_mirrors {pointer : String}
    (refers : fragment.target? = some (.pointer pointer)) :
    Mirrors (Facing old new (frame :: outer) (frame' :: outer'))
      (followPointer settings left pointer) (followPointer settings right pointer)
      first second := by
  have alike := facing.innermost
  have resolved : Mirrors (Facing old new (frame :: outer) (frame' :: outer'))
      (resolvePointer settings left pointer) (resolvePointer settings right pointer)
      first second := by
    unfold resolvePointer
    refine .get_bind ?_
    dsimp only
    rw [facing.frame, facing.frame', alike.pointerKey, facing.declarations, facing.pending]
    cases first.declarations.get? (frame.pointerKey pointer) with
    | some node => exact .pure facing node
    | none =>
        dsimp only
        split
        · exact forwardReference_mirrors facing _ _
        · have found := alike.document.lookup? redescribed (only.pointer together refers)
          generalize leads : Pointer.lookup? frame.document (Pointer.segments pointer) = target,
            leads' : Pointer.lookup? frame'.document (Pointer.segments pointer) = target'
            at found ⊢
          cases found with
          | none => exact allocate_mirrors facing _
          | @some target target' within =>
              have entered : Mirrors (Facing old new (frame :: outer) (frame' :: outer'))
                  (whilePending frame pointer (left target .inner))
                  (whilePending frame' pointer (right target' .inner)) first second := by
                refine Mirrors.between (mirrored .inner (.pointer together refers leads leads')
                  within (facing.enter alike pointer)) fun _ _ facing => ?_
                rw [alike.pointerKey]
                exact facing.leave _
              exact entered.bind fun node _ _ _ facing =>
                .modify_bind (.pure (finishPointer_facing facing alike pointer node) node)
  exact .get_bind (resolved.noting fun _ _ _ facing => facing.note _ _)

/-- A file is opened alike, with another description in it. -/
theorem openFile_mirrors (serves : loader.ServesAlike old new loader') {file : String}
    (refers : fragment.target? = some (.file file)) (property : Option String) :
    Mirrors (Facing old new (frame :: outer) (frame' :: outer'))
      (do
        let document ← readDocument loader (frame.filePath file)
        let node ← inFrame (fileFrame (frame.filePath file) document)
          (left document ⟨property, true⟩)
        finishFile settings (frame.filePath file) node)
      (do
        let document ← readDocument loader' (frame.filePath file)
        let node ← inFrame (fileFrame (frame.filePath file) document)
          (right document ⟨property, true⟩)
        finishFile settings (frame.filePath file) node) first second := by
  intro value after done
  obtain ⟨document, middle, opened, onward⟩ := bind_eq_ok.mp done
  obtain ⟨text, served, parsed, rfl⟩ := readDocument_eq_ok.mp opened
  obtain ⟨document', ⟨text', served', parsed'⟩, within⟩ :=
    serves _ document ⟨text, served, parsed⟩
  have noted := facing.note (.read (frame.filePath file)) (.read (frame.filePath file))
  have resolved : Mirrors (Facing old new (frame :: outer) (frame' :: outer'))
      (inFrame (fileFrame (frame.filePath file) document) (left document ⟨property, true⟩))
      (inFrame (fileFrame (frame.filePath file) document') (right document' ⟨property, true⟩))
      (first.note (.read (frame.filePath file))) (second.note (.read (frame.filePath file))) :=
    Mirrors.between (mirrored ⟨property, true⟩
      (.file together refers ⟨text, served, parsed⟩ ⟨text', served', parsed'⟩) within
      (noted.push (fileFrame_alike redescribed within _))) fun _ _ facing => facing.pop
  obtain ⟨last, done', level⟩ := (resolved.bind fun node _ _ _ facing =>
    finishFile_mirrors facing (frame.filePath file) node) value after onward
  exact ⟨last, bind_eq_ok.mpr
    ⟨document', _, readDocument_eq_ok.mpr ⟨text', served', parsed', rfl⟩, done'⟩, level⟩

/-- A reference to a file is followed alike. -/
theorem followFile_mirrors (serves : loader.ServesAlike old new loader') {file : String}
    (refers : fragment.target? = some (.file file)) (property : Option String) :
    Mirrors (Facing old new (frame :: outer) (frame' :: outer'))
      (followFile ⟨settings, loader⟩ left file property)
      (followFile ⟨settings, loader'⟩ right file property) first second := by
  have resolved : Mirrors (Facing old new (frame :: outer) (frame' :: outer'))
      (resolvePath ⟨settings, loader⟩ left (frame.filePath file) property)
      (resolvePath ⟨settings, loader'⟩ right (frame.filePath file) property) first second := by
    unfold resolvePath
    refine .get_bind ?_
    rw [facing.files]
    cases first.files.lookup (frame.filePath file) with
    | some node => exact .pure facing node
    | none =>
        have opened := find?_alike (List.rel_reverse facing.alike) (frame.filePath file).text
        have frames : first.frame :: first.outer = frame :: outer := facing.opened
        have frames' : second.frame :: second.outer = frame' :: outer' := facing.opened'
        dsimp only
        rw [frames, frames']
        generalize (frame :: outer).reverse.find? (·.key = some (frame.filePath file).text) = one,
          (frame' :: outer').reverse.find? (·.key = some (frame.filePath file).text) = other
          at opened ⊢
        cases opened with
        | some alike =>
            dsimp only
            rw [alike.name]
            exact forwardReference_mirrors facing _ _
        | none => exact openFile_mirrors redescribed mirrored together facing serves refers property
  unfold followFile
  split
  · rintro _ _ ⟨⟩
  · refine .get_bind ?_
    dsimp only
    rw [facing.frame, facing.frame', facing.innermost.directory]
    exact resolved.noting fun _ _ _ facing => facing.note _ _

include only in
theorem buildReference_mirrors (serves : loader.ServesAlike old new loader')
    (replaced : Replaced old new fragment fragment')
    (reference : Rule.classify fragment = .reference) (property : Option String) :
    Mirrors (Facing old new (frame :: outer) (frame' :: outer'))
      (buildReference ⟨settings, loader⟩ left fragment property)
      (buildReference ⟨settings, loader'⟩ right fragment' property) first second := by
  unfold buildReference
  rw [replaced.textField? redescribed (by decide)]
  cases text : fragment.textField? "$ref" with
  | none => exact allocate_mirrors facing _
  | some address =>
      have refers : fragment.target? = some (Target.ofReference address) := by
        simp [target?, reference, text]
      dsimp only
      unfold follow
      cases asked : Target.ofReference address with
      | document => exact followDocument_mirrors facing
      | pointer pointer =>
          exact followPointer_mirrors redescribed only mirrored together facing
            (refers.trans (congrArg some asked))
      | file file =>
          exact followFile_mirrors redescribed mirrored together facing serves
            (refers.trans (congrArg some asked)) property

end Following

/-- Resolvers that are mirrored below a fragment are mirrored on it. -/
theorem resolveBy_mirrored (redescribed : Redescribed old new)
    (only : DescribesOnly old new loader loader' root root')
    (serves : loader.ServesAlike old new loader')
    (mirrored : Mirrored old new loader loader' root root' left right) :
    Mirrored old new loader loader' root root' (resolveBy ⟨settings, loader⟩ left)
      (resolveBy ⟨settings, loader'⟩ right) := by
  intro frame frame' outer outer' fragment fragment' site together replaced first second facing
  have built : Mirrors (Facing old new (frame :: outer) (frame' :: outer'))
      (buildNode ⟨settings, loader⟩ left fragment site.property)
      (buildNode ⟨settings, loader'⟩ right fragment' site.property) first second :=
    buildNode_mirrors redescribed replaced facing
      (fun outlined outlined' inside within property _ _ facing =>
        mirrored ⟨property, false⟩ (.part together outlined outlined' inside) within facing)
      (only.literal together) (only.enum together) (only.properties together) site.property
      fun reference => buildReference_mirrors redescribed only mirrored together facing serves
        replaced reference site.property
  intro node after done
  simp only [resolveBy, get_bind, noting_eq_ok, bind_eq_ok, modify_bind, pure_apply,
    EStateM.Result.ok.injEq] at done
  obtain ⟨adopted, ⟨made, middle, done, rfl, rfl⟩, rfl⟩ := done
  obtain ⟨last, done', level⟩ := built made middle done
  have named := level.adoptName redescribed replaced site made
  refine ⟨_, ?_, named.visit redescribed replaced first.frame second.frame made⟩
  simp only [resolveBy, get_bind, noting_eq_ok, bind_eq_ok, modify_bind, pure_apply,
    EStateM.Result.ok.injEq]
  exact ⟨_, ⟨made, last, done', rfl, rfl⟩, rfl⟩

/-- A description decides nothing on the way: with the same budget both compilations do the same. -/
theorem resolveFragment_mirrored (redescribed : Redescribed old new)
    (only : DescribesOnly old new loader loader' root root')
    (serves : loader.ServesAlike old new loader') (budget : Nat) :
    Mirrored old new loader loader' root root' (resolveFragment ⟨settings, loader⟩ budget)
      (resolveFragment ⟨settings, loader'⟩ budget) := by
  induction budget with
  | zero =>
      intro _ _ _ _ _ _ _ _ _ _ _ _
      exact .throw _ _
  | succ budget inductionHypothesis =>
      exact resolveBy_mirrored redescribed only serves inductionHypothesis

end Build
end SchemaTypes
