/-
This file shows that a fragment which was resolved once can be resolved again: no file is read, and
nothing fails but for want of budget. What was resolved stays the same.
-/
import SchemaTypes.Proofs.Comparison.Abreast
import SchemaTypes.Proofs.Meaning.Answers

namespace SchemaTypes

open Build

section Changes

variable {first second progress : Progress} {frame : Frame} {fragment : Json} {node made : NodeId}

/-- The same documents are being resolved. -/
theorem Level.frames (level : Level first second) : second.frames = first.frames := by
  rw [Progress.frames, Progress.frames, level.frame, level.outer]

/-- A fragment was resolved before or is the one that is noted. -/
theorem Progress.saw_note_iff {event : Event} {other : Frame} {part : Json} :
    (progress.note event).Saw other part ↔
      (∃ node, event = .visited other part (some node)) ∨ progress.Saw other part := by
  simp only [Progress.Saw, Progress.note, List.mem_cons, exists_or, eq_comm]

/-- The visit of a fragment is noted on both sides. -/
theorem Level.visit (level : Level first second) :
    Level (first.note (.visited frame fragment (some node)))
      (second.note (.visited frame fragment (some made))) where
  frame := level.frame
  outer := level.outer
  pending := level.pending
  saw other part := by
    rw [Progress.saw_note_iff, Progress.saw_note_iff, level.saw]
    simp
  loaded := level.loaded

/-- Another visit of a fragment makes no difference. -/
theorem Level.revisit (saw : progress.Saw frame fragment) :
    Level progress (progress.note (.visited frame fragment (some node))) where
  frame := rfl
  outer := rfl
  pending := rfl
  saw other part := by
    rw [Progress.saw_note_iff]
    apply or_iff_right_of_imp
    rintro ⟨made, same⟩
    cases same
    exact saw
  loaded _ := .rfl

/-- A pointer that both sides follow keeps them abreast. -/
theorem Level.enter (level : Level first second) (frame : Frame) (pointer : String) :
    Level (first.enter frame pointer) (second.enter frame pointer) where
  frame := level.frame
  outer := level.outer
  pending := congrArg (frame.pointerKey pointer :: ·) level.pending
  saw other part := by
    have here := level.saw other part
    simpa [Progress.Saw, Progress.enter] using here
  loaded := level.loaded

/-- A pointer that both sides finish keeps them abreast. -/
theorem Level.leave (level : Level first second) (key : String) :
    Level (first.leave key) (second.leave key) where
  frame := level.frame
  outer := level.outer
  pending := congrArg (·.erase key) level.pending
  saw other part := by
    have here := level.saw other part
    simpa [Progress.Saw, Progress.leave] using here
  loaded := level.loaded

/-- A document that both sides open keeps them abreast. -/
theorem Level.push (level : Level first second) (frame : Frame) :
    Level (first.push frame) (second.push frame) where
  frame := rfl
  outer := level.frames
  pending := level.pending
  saw := level.saw
  loaded := level.loaded

/-- A document that both sides close keeps them abreast. -/
theorem Level.pop (level : Level first second) : Level first.pop second.pop := by
  unfold Progress.pop
  rw [level.outer]
  cases first.outer with
  | nil => exact level
  | cons enclosing outer => exact ⟨rfl, rfl, level.pending, level.saw, level.loaded⟩

/-- A pointer is left again. -/
theorem Level.leave_enter {pointer : String}
    (level : Level (progress.enter frame pointer) second) :
    Level progress (second.leave (frame.pointerKey pointer)) := by
  have passed : Level progress
      ((progress.enter frame pointer).leave (frame.pointerKey pointer)) :=
    ⟨rfl, rfl, by simp [Progress.leave, Progress.enter],
      fun _ _ => by simp [Progress.Saw, Progress.leave, Progress.enter], fun _ => .rfl⟩
  exact passed.trans (level.leave (frame.pointerKey pointer))

/-- A name does not show in how far a compilation has come. -/
theorem adoptName_level (fragment : Json) (site : Site) (node : NodeId) (progress : Progress) :
    Level progress (adoptName fragment site node progress) := by
  unfold adoptName
  split
  · cases fragment.declaredName? with
    | none => exact .refl progress
    | some name =>
        dsimp only
        split
        · exact .same rfl rfl rfl rfl rfl
        · exact .still rfl rfl rfl rfl fun _ _ _ => by simp [Progress.declare]
  · exact .refl progress

/-- A description does not show in how far a compilation has come. -/
theorem adoptDescription_level (fragment : Json) (node : NodeId) (progress : Progress) :
    Level progress (adoptDescription fragment node progress) := by
  unfold adoptDescription
  split
  · exact .same rfl rfl rfl rfl rfl
  · exact .refl progress

/-- Whether the target of a pointer is declared does not show in how far a compilation has come. -/
theorem finishPointer_level (settings : Settings) (frame : Frame) (pointer : String)
    (node : NodeId) (progress : Progress) :
    Level progress (finishPointer settings frame pointer node progress) := by
  simp only [finishPointer]
  split
  · exact .still rfl rfl rfl rfl fun _ _ _ => by simp [Progress.declare, Progress.release]
  · exact .same rfl rfl rfl rfl rfl

end Changes

section Closure

variable {loader : Loader} {root frame : Frame} {progress : Progress} {context : Context}

/-- A pointer that was being resolved is being resolved still, or its target was resolved. -/
theorem Told.open_or_resolved {pointer : String} {older : List Event}
    (isOpen : (frame, pointer) ∈ openPointers older) :
    ∀ later, Told loader root progress (later ++ older) →
      (frame, pointer) ∈ openPointers (later ++ older) ∨
        ∃ target node, Pointer.lookup? frame.document (Pointer.segments pointer) = some target ∧
          .visited frame target (some node) ∈ later ++ older := by
  intro later
  induction later with
  | nil => exact fun _ => .inl isOpen
  | cons event later inductionHypothesis =>
      intro told
      rcases inductionHypothesis told.2 with still | ⟨target, node, leads, visited⟩
      · cases event with
        | entered other text => exact .inl (List.mem_cons_of_mem _ still)
        | left =>
            obtain ⟨other, text, target, node, top, leads, visited⟩ := told.1
            change (openPointers (later ++ older)).head? = _ at top
            obtain ⟨rest, same⟩ := List.head?_eq_some_iff.mp top
            rw [same] at still
            rcases List.mem_cons.mp still with here | enclosing
            · obtain ⟨rfl, rfl⟩ := Prod.mk.inj here
              exact .inr ⟨target, node, leads, List.mem_cons_of_mem _ visited⟩
            · left
              simp only [List.cons_append, openPointers, same, List.tail_cons]
              exact enclosing
        | _ => exact .inl still
      · exact .inr ⟨target, node, leads, List.mem_cons_of_mem _ visited⟩

/-- Why a fragment that was resolved has its node. -/
theorem Progress.Surveyed.explained_of_saw (surveyed : progress.Surveyed context root)
    {fragment : Json} (saw : progress.Saw frame fragment) :
    ∃ later older node, progress.journal = later ++ older ∧
      Reachable context.loader root frame fragment ∧
      Explained context.loader root progress older frame fragment node := by
  obtain ⟨node, visited⟩ := saw
  obtain ⟨older, ⟨later, same⟩, reachable, -, explained⟩ := surveyed.told.event visited
  refine ⟨later ++ [.visited frame fragment (some node)], older, node, ?_, reachable, explained⟩
  rw [← same, List.append_assoc]
  rfl

/-- A target that a pointer was answered with was resolved, or its pointer is being resolved. -/
theorem Progress.Surveyed.pending_or_saw (surveyed : progress.Surveyed context root)
    {later older : List Event} (journal : progress.journal = later ++ older) {pointer : String}
    {target : Json} {node : NodeId}
    (leads : Pointer.lookup? frame.document (Pointer.segments pointer) = some target)
    (answer : .visited frame target (some node) ∈ older ∨ (frame, pointer) ∈ openPointers older) :
    frame.pointerKey pointer ∈ progress.pending ∨ progress.Saw frame target := by
  have told := surveyed.told
  rw [journal] at told
  rcases answer with visited | isOpen
  · refine .inr ⟨node, ?_⟩
    rw [journal]
    exact List.mem_append_right _ visited
  · rcases Told.open_or_resolved isOpen later told with still | ⟨content, made, found, visited⟩
    · left
      rw [surveyed.traced.pending, journal]
      exact List.mem_map_of_mem still
    · obtain rfl := Option.some.inj (leads.symm.trans found)
      exact .inr ⟨made, journal ▸ visited⟩

end Closure

namespace Build

variable {α β : Type}

/-- A step that fails for no reason but its budget. -/
def Settles (good : Progress → Prop) (act : Build α) (before : Progress) : Prop :=
  (∃ after, act before = .error .exhausted after) ∨
    ∃ value after, act before = .ok value after ∧ good after

namespace Settles

variable {good mid : Progress → Prop} {act : Build α} {before : Progress}

/-- Steps that fail only for want of budget do so one after the other as well. -/
theorem bind {next : α → Build β} (settles : Settles mid act before)
    (onward : ∀ value middle, mid middle → Settles good (next value) middle) :
    Settles good (act >>= next) before := by
  rcases settles with ⟨after, failed⟩ | ⟨value, middle, done, here⟩
  · exact .inl ⟨after, bind_eq_error.mpr (.inl failed)⟩
  · rcases onward value middle here with ⟨after, failed⟩ | ⟨result, after, finished, there⟩
    · exact .inl ⟨after, bind_eq_error.mpr (.inr ⟨_, _, done, failed⟩)⟩
    · exact .inr ⟨result, after, bind_eq_ok.mpr ⟨_, _, done, finished⟩, there⟩

/-- Noting an event cannot fail. -/
theorem noting {event : Option NodeId → Event} {act : Build NodeId}
    (settles : Settles mid act before)
    (onward : ∀ node after, mid after → good (after.note (event (some node)))) :
    Settles good (Build.noting event act) before := by
  rcases settles with ⟨after, failed⟩ | ⟨node, after, done, here⟩
  · exact .inl ⟨_, noting_eq_error.mpr ⟨after, failed, rfl⟩⟩
  · exact .inr ⟨node, _, noting_eq_ok.mpr ⟨after, done, rfl⟩, onward node after here⟩

/-- Entering and leaving cannot fail. -/
theorem between {enter leave : Progress → Progress} (settles : Settles mid act (enter before))
    (onward : ∀ after, mid after → good (leave after)) :
    Settles good (Build.between enter leave act) before := by
  rcases settles with ⟨after, failed⟩ | ⟨value, after, done, here⟩
  · exact .inl ⟨_, between_eq_error.mpr ⟨after, failed, rfl⟩⟩
  · exact .inr ⟨value, _, between_eq_ok.mpr ⟨after, done, rfl⟩, onward after here⟩

end Settles

section Pointers

variable {settings : Settings} {resolve : Resolver} {pointer : String} {before : Progress}

/-- The target of a pointer is resolved, and it is declared if it needs to be. -/
def enterPointer (settings : Settings) (resolve : Resolver) (frame : Frame) (pointer : String)
    (target : Json) : Build NodeId := do
  let node ← whilePending frame pointer (resolve target .inner)
  modify (finishPointer settings frame pointer node)
  return node

/-- A pointer whose key is neither declared nor pending is followed to its target. -/
theorem resolvePointer_eq_enterPointer {target : Json}
    (missing : before.declarations.get? (before.frame.pointerKey pointer) = none)
    (fresh : before.frame.pointerKey pointer ∉ before.pending)
    (leads : Pointer.lookup? before.frame.document (Pointer.segments pointer) = some target) :
    resolvePointer settings resolve pointer before =
      enterPointer settings resolve before.frame pointer target before := by
  simp only [resolvePointer, get_bind, missing, fresh, leads, ↓reduceIte]
  rfl

/-- A pointer that is not entered is answered at once. -/
theorem resolvePointer_at_once
    (atOnce : (∃ node, before.declarations.get? (before.frame.pointerKey pointer) = some node) ∨
      before.frame.pointerKey pointer ∈ before.pending ∨
      Pointer.lookup? before.frame.document (Pointer.segments pointer) = none) :
    ∃ node after, resolvePointer settings resolve pointer before = .ok node after ∧
      Level before after := by
  simp only [resolvePointer, get_bind]
  cases stored : before.declarations.get? (before.frame.pointerKey pointer) with
  | some node => exact ⟨node, before, rfl, .refl before⟩
  | none =>
      dsimp only
      by_cases awaited : before.frame.pointerKey pointer ∈ before.pending
      · rw [if_pos awaited]
        exact ⟨_, _, rfl, .same rfl rfl rfl rfl rfl⟩
      · rw [if_neg awaited]
        have nowhere : Pointer.lookup? before.frame.document (Pointer.segments pointer) = none := by
          simpa [stored, awaited] using atOnce
        rw [nowhere]
        exact ⟨_, _, rfl, .same rfl rfl rfl rfl rfl⟩

end Pointers

section Files

variable {context : Context} {resolve : Resolver} {path : Path} {property : Option String}
  {before : Progress}

/-- A file was read when a node is remembered for it. -/
theorem Progress.loaded_iff {progress : Progress} :
    progress.Loaded path ↔ ∃ node, progress.files.lookup path = some node := by
  constructor
  · rintro ⟨node, member⟩
    cases found : progress.files.lookup path with
    | some other => exact ⟨other, rfl⟩
    | none =>
        have absent := List.lookup_eq_none_iff.mp found _ member
        simp at absent
  · rintro ⟨node, found⟩
    obtain ⟨newer, older, located, -⟩ := List.lookup_eq_some_iff.mp found
    exact ⟨node, by simp [located]⟩

/-- A file that was read or is being read is answered at once. -/
theorem resolvePath_at_once (covers : before.Covers path) :
    ∃ node after, resolvePath context resolve path property before = .ok node after ∧
      Level before after := by
  simp only [resolvePath, get_bind]
  cases stored : before.files.lookup path with
  | some node => exact ⟨node, before, rfl, .refl before⟩
  | none =>
      dsimp only
      rcases covers with loaded | ⟨frame, opened, key⟩
      · obtain ⟨node, found⟩ := Progress.loaded_iff.mp loaded
        cases stored.symm.trans found
      · cases found : (before.frame :: before.outer).reverse.find? (·.key = some path.text) with
        | some frame => exact ⟨_, _, rfl, .same rfl rfl rfl rfl rfl⟩
        | none =>
            have other := List.find?_eq_none.mp found frame (List.mem_reverse.mpr opened)
            exact absurd key (by simpa using other)

end Files

section References

variable {context : Context} {resolve : Resolver} {fragment : Json} {property : Option String}

/-- A target is spelled as the text of a reference. -/
theorem textField?_of_target? {target : Target} (refers : fragment.target? = some target) :
    ∃ text, fragment.textField? "$ref" = some text ∧ Target.ofReference text = target := by
  unfold Json.target? at refers
  rw [if_pos (Json.classify_of_target? (by unfold Json.target?; exact refers))] at refers
  exact Option.map_eq_some_iff.mp refers

theorem buildReference_document (refers : fragment.target? = some .document) :
    buildReference context resolve fragment property = followDocument := by
  obtain ⟨text, field, same⟩ := textField?_of_target? refers
  simp only [buildReference, field, follow, same]

theorem buildReference_pointer {pointer : String}
    (refers : fragment.target? = some (.pointer pointer)) :
    buildReference context resolve fragment property =
      followPointer context.settings resolve pointer := by
  obtain ⟨text, field, same⟩ := textField?_of_target? refers
  simp only [buildReference, field, follow, same]

theorem buildReference_file {file : String} (refers : fragment.target? = some (.file file)) :
    buildReference context resolve fragment property =
      followFile context resolve file property := by
  obtain ⟨text, field, same⟩ := textField?_of_target? refers
  simp only [buildReference, field, follow, same]

theorem buildReference_none (reference : Rule.classify fragment = .reference)
    (none : fragment.target? = none) :
    buildReference context resolve fragment property = allocate .any := by
  unfold Json.target? at none
  rw [if_pos reference, Option.map_eq_none_iff] at none
  simp only [buildReference, none]

end References

/-- A resolver finds its way through every fragment that was resolved before. -/
def Revisits (context : Context) (root : Frame) (resolve : Resolver) : Prop :=
  ∀ fragment site before, before.Surveyed context root → before.Saw before.frame fragment →
    Settles (Level before) (resolve fragment site) before

variable {context : Context} {root : Frame} {resolve : Resolver} {fragment : Json}
  {before : Progress}

section Steps

variable (surveyed : before.Surveyed context root) (revisits : Revisits context root resolve)
  (reachable : Reachable context.loader root before.frame fragment)

include surveyed revisits reachable

/-- The target of a pointer is resolved again. -/
theorem enterPointer_settles {pointer : String} {target : Json}
    (refers : fragment.target? = some (.pointer pointer))
    (missing : before.declarations.get? (before.frame.pointerKey pointer) = none)
    (fresh : before.frame.pointerKey pointer ∉ before.pending)
    (leads : Pointer.lookup? before.frame.document (Pointer.segments pointer) = some target)
    (saw : before.Saw before.frame target) :
    Settles (Level before) (enterPointer context.settings resolve before.frame pointer target)
      before := by
  have entered := pointerEntered_surveyed surveyed reachable refers missing fresh leads
  have sawEntered : (before.enter before.frame pointer).Saw before.frame target :=
    saw.imp fun _ visited => List.mem_cons_of_mem _ visited
  have resolved := revisits target .inner _ entered sawEntered
  have passed : Settles (Level before) (whilePending before.frame pointer (resolve target .inner))
      before := resolved.between fun _ level => level.leave_enter
  refine passed.bind fun node middle level => ?_
  exact .inr ⟨node, _, rfl, level.trans (finishPointer_level ..)⟩

/-- A pointer settles where its target is pending or was resolved before. -/
theorem resolvePointer_settles {pointer : String}
    (refers : fragment.target? = some (.pointer pointer))
    (resolved : ∀ target, Pointer.lookup? before.frame.document (Pointer.segments pointer) =
      some target → before.frame.pointerKey pointer ∈ before.pending ∨
        before.Saw before.frame target) :
    Settles (Level before) (resolvePointer context.settings resolve pointer) before := by
  by_cases atOnce :
      (∃ node, before.declarations.get? (before.frame.pointerKey pointer) = some node) ∨
        before.frame.pointerKey pointer ∈ before.pending ∨
        Pointer.lookup? before.frame.document (Pointer.segments pointer) = none
  · exact .inr (resolvePointer_at_once atOnce)
  · simp only [not_or, not_exists] at atOnce
    obtain ⟨unstored, fresh, leads⟩ := atOnce
    have missing := Option.eq_none_iff_forall_not_mem.mpr unstored
    obtain ⟨target, leads⟩ := Option.ne_none_iff_exists'.mp leads
    have saw := (resolved target leads).resolve_left fresh
    have settles := enterPointer_settles surveyed revisits reachable refers missing fresh leads saw
    unfold Settles
    rw [resolvePointer_eq_enterPointer missing fresh leads]
    exact settles

/-- A reference that was answered once is answered again. -/
theorem buildReference_settles {later older : List Event} {node : NodeId}
    (property : Option String) (reference : Rule.classify fragment = .reference)
    (journal : before.journal = later ++ older)
    (saw : before.Saw before.frame fragment)
    (explained : Explained context.loader root before older before.frame fragment node) :
    Settles (Level before) (buildReference context resolve fragment property) before := by
  have followed {pointer : String} (refers : fragment.target? = some (.pointer pointer))
      (resolved : ∀ target, Pointer.lookup? before.frame.document (Pointer.segments pointer) =
        some target → before.frame.pointerKey pointer ∈ before.pending ∨
          before.Saw before.frame target) :
      Settles (Level before) (buildReference context resolve fragment property) before := by
    rw [buildReference_pointer refers]
    have settles := resolvePointer_settles surveyed revisits reachable refers resolved
    exact settles.noting fun node after level => level.trans (.note after (by simp))
  cases explained with
  | drawn outlined =>
      rw [Json.outline?_eq_none reference] at outlined
      cases outlined
  | lost lost =>
      cases lost with
      | pointer refers nowhere =>
          refine followed refers fun target leads => ?_
          cases nowhere.symm.trans leads
      | noText _ none =>
          rw [buildReference_none reference none]
          exact .inr ⟨_, _, rfl, .same rfl rfl rfl rfl rfl⟩
  | document refers =>
      rw [buildReference_document refers]
      exact .inr ⟨_, _, rfl, .same rfl rfl rfl rfl rfl⟩
  | @pointer pointer target refers leads answer =>
      refine followed refers fun other leadsToo => ?_
      obtain rfl := Option.some.inj (leads.symm.trans leadsToo)
      exact surveyed.pending_or_saw journal leads (answer.imp_right And.right)
  | @file file refers here =>
      rw [buildReference_file refers]
      obtain ⟨made, visited⟩ := saw
      have covers := surveyed.covered _ _ _ _ visited refers
      unfold followFile
      rw [here]
      have settles : Settles (Level before)
          (resolvePath context resolve (before.frame.filePath file) property) before :=
        .inr (resolvePath_at_once covers)
      exact settles.noting fun node after level => level.trans (.note after (by simp))

/-- A fragment is built again of parts that were resolved before. The other step of the comparison
resolves nothing. -/
theorem drawn_settles (surveys : Surveys context root resolve) (property : Option String)
    (noReference : Rule.classify fragment ≠ .reference) {outline : Outline}
    (outlined : fragment.outline? = some outline)
    (saw : ∀ part, .fragment part ∈ outline.parts → before.Saw before.frame part) :
    Settles (Level before) (buildNode context resolve fragment property) before := by
  let even (first _ : Progress) : Prop := first.Surveyed context root ∧ Level before first
  have parts (other : Outline) (part : Json) (outlinedToo : fragment.outline? = some other)
      (inside : .fragment part ∈ other.parts) (property : Option String) (first second : Progress)
      (level : even first second) :
      Abreast False even (resolve part ⟨property, false⟩) (pure 0 : Build NodeId) first second := by
    obtain rfl := Option.some.inj (outlined.symm.trans outlinedToo)
    have here : first.frame = before.frame := level.2.frame
    have sawFirst : first.Saw first.frame part := by
      rw [here, level.2.saw]
      exact saw part inside
    rcases revisits part ⟨property, false⟩ first level.1 sawFirst with
      ⟨after, failed⟩ | ⟨node, after, done, onward⟩
    · exact .exhausted failed
    · have reachablePart := reachable.part outlined inside
      rw [← here] at reachablePart
      obtain ⟨-, surveyedAfter, -⟩ := surveys.inner level.1 reachablePart done
      exact .ok done rfl ⟨surveyedAfter, level.2.trans onward⟩
  have abreast : Abreast False (fun after _ => Level before after)
      (buildNode context resolve fragment property)
      (buildNode context (fun _ _ => pure 0) fragment property) before before :=
    buildNode_abreast (fun _ _ _ _ level onward _ => level.2.trans onward) parts
      ⟨surveyed, .refl before⟩ property noReference fun none => by
        cases none.symm.trans outlined
  cases abreast with
  | ok done _ level => exact .inr ⟨_, _, done, level⟩
  | error allowed => exact allowed.elim
  | exhausted failed => exact .inl ⟨_, failed⟩
  | exhaustedToo allowed => exact allowed.elim

/-- A fragment that was resolved once is built again. -/
theorem buildNode_settles (surveys : Surveys context root resolve) (property : Option String)
    (saw : before.Saw before.frame fragment) :
    Settles (Level before) (buildNode context resolve fragment property) before := by
  obtain ⟨later, older, node, journal, -, explained⟩ := surveyed.explained_of_saw saw
  by_cases reference : Rule.classify fragment = .reference
  · have settles := buildReference_settles surveyed revisits reachable property reference journal
      saw explained
    simpa only [buildNode, reference] using settles
  · cases explained with
    | drawn outlined drawn =>
        refine drawn_settles surveyed revisits reachable surveys property reference outlined
          fun part inside => ?_
        obtain ⟨child, -, visited⟩ := exists_of_mem_right drawn.parts.flip inside
        refine ⟨child, ?_⟩
        rw [journal]
        exact List.mem_append_right _ visited
    | lost lost => exact absurd lost.reference reference
    | document refers => exact absurd (Json.classify_of_target? refers) reference
    | pointer refers => exact absurd (Json.classify_of_target? refers) reference
    | file refers => exact absurd (Json.classify_of_target? refers) reference

end Steps

/-- A fragment that was resolved is resolved again whatever the budget, unless it runs out. -/
theorem resolveFragment_revisits (unambiguous : Unambiguous context.loader root) (budget : Nat) :
    Revisits context root (resolveFragment context budget) := by
  induction budget with
  | zero => exact fun _ _ before _ _ => .inl ⟨before, rfl⟩
  | succ budget inductionHypothesis =>
      intro fragment site before surveyed saw
      obtain ⟨-, -, -, -, reachable, -⟩ := surveyed.explained_of_saw saw
      have built := buildNode_settles surveyed inductionHypothesis reachable
        (resolveFragment_surveys unambiguous budget) site.property saw
      have adopted : Settles (Level before) (do
          let node ← buildNode context (resolveFragment context budget) fragment site.property
          modify (adoptName fragment site node)
          modify (adoptDescription fragment node)
          return node) before := by
        refine built.bind fun node middle level => .inr ⟨node, _, rfl, ?_⟩
        exact (level.trans (adoptName_level fragment site node middle)).trans
          (adoptDescription_level ..)
      show Settles (Level before) (noting (.visited before.frame fragment) _) before
      exact adopted.noting fun node after level =>
        level.trans (.revisit ((level.saw _ _).mpr saw))

end Build
end SchemaTypes
