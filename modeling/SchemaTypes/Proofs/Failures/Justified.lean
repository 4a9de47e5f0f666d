/-
This file shows that a compilation fails only for a fault of a fragment that the root leads to.
-/
import SchemaTypes.Proofs.Build.Anatomy
import SchemaTypes.Proofs.Meaning.Inside
import SchemaTypes.Proofs.References.Residence

namespace SchemaTypes

open Build

/-- A fragment that the descent from the root document leads to. -/
inductive Descended (loader : Loader) (root : Frame) : Frame → Json → Prop where
  | root : Descended loader root root root.document
  | part {frame : Frame} {fragment part : Json} (within : Descended loader root frame fragment)
      (descends : fragment.DescendsTo part) : Descended loader root frame part
  | follow {frame next : Frame} {fragment target : Json}
      (within : Descended loader root frame fragment)
      (follows : Follows loader root frame fragment next target) :
      Descended loader root next target

variable {loader : Loader} {root frame : Frame} {fragment : Json} {error : CompileError}

/-- Besides what the descent leads to, a compilation comes only to fragments that are put together
for a type. -/
theorem Reachable.descended_or_type (reachable : Reachable loader root frame fragment) :
    Descended loader root frame fragment ∨ ∃ type, fragment = .object [("type", type)] := by
  induction reachable with
  | root => exact .inl .root
  | part _ outlined inside inductionHypothesis =>
      rcases inductionHypothesis with descended | ⟨type, rfl⟩
      · rcases Json.descendsTo_or_type outlined inside with descends | ⟨_, type, _, _, rfl⟩
        · exact .inl (descended.part descends)
        · exact .inr ⟨type, rfl⟩
      · obtain ⟨inner, rfl, -⟩ := (Json.partOf_of_mem outlined inside).of_type
        exact .inr ⟨inner, rfl⟩
  | follow _ follows inductionHypothesis =>
      rcases inductionHypothesis with descended | ⟨type, rfl⟩
      · exact .inl (descended.follow follows)
      · exact absurd follows.reference (Json.classify_type_ne_reference type)

/-- A fragment at fault is an enum or a reference. -/
theorem Faulty.rule (faulty : Faulty loader frame fragment error) :
    Rule.classify fragment = .enum ∨ Rule.classify fragment = .namedEnum ∨
      Rule.classify fragment = .reference := by
  cases faulty with
  | enum fault => exact fault.rule.imp_right .inl
  | remote refers => exact .inr (.inr (Json.classify_of_target? refers))
  | file refers => exact .inr (.inr (Json.classify_of_target? refers))

/-- Nothing is wrong with a fragment that is put together for a type. -/
theorem Faulty.descended (faulty : Faulty loader frame fragment error)
    (reachable : Reachable loader root frame fragment) :
    Descended loader root frame fragment := by
  rcases reachable.descended_or_type with descended | ⟨type, rfl⟩
  · exact descended
  · exact absurd rfl (Json.classify_type_ne type faulty.rule)

/-- The same documents are being resolved as before. -/
structure Returned (before after : Progress) : Prop where
  frame : after.frame = before.frame
  outer : after.outer = before.outer

namespace Returned

variable {before middle after : Progress}

theorem refl (progress : Progress) : Returned progress progress := ⟨rfl, rfl⟩

/-- Documents that are being resolved stay so over two steps. -/
theorem trans (first : Returned before middle) (second : Returned middle after) :
    Returned before after :=
  ⟨second.frame.trans first.frame, second.outer.trans first.outer⟩

theorem frames (returned : Returned before after) : after.frames = before.frames := by
  rw [Progress.frames, returned.frame, returned.outer]
  rfl

/-- A document that was opened on the way is closed again. -/
theorem pop {path : Path} {document : Json} {last : Progress}
    (inside : Returned ((before.note (.read path)).push (fileFrame path document)) last) :
    Returned before last.pop := by
  have nested : last.outer = before.frame :: before.outer := inside.outer
  rw [Progress.pop_of_outer nested]
  exact ⟨rfl, rfl⟩

end Returned

/-- Resolutions come back to the documents that they began with, and if they fail, there is a
fragment at fault that the root leads to. -/
def failsJustly (loader : Loader) (root : Frame) : Effect := fun fragment _ before outcome after =>
  outcome ≠ .error .exhausted → Reachable loader root before.frame fragment →
    root ∈ before.frames →
      Returned before after ∧ ∀ error, outcome = .error error →
        ∃ frame faulty, Reachable loader root frame faulty ∧ Faulty loader frame faulty error

namespace Build

variable {context : Context} {property : Option String} {before after : Progress}

/-- Making parts comes back to the documents it began with, as long as each part does. -/
theorem parts_returned (reachable : Reachable context.loader root before.frame fragment)
    (rootOpen : root ∈ before.frames)
    (parts : Parts (failsJustly context.loader root) fragment before after) :
    Returned before after := by
  induction parts with
  | start => exact .refl before
  | leaf parts shape noEnum noReference empty inductionHypothesis =>
      exact ⟨inductionHypothesis.frame, inductionHypothesis.outer⟩
  | @part state last parts outline part partProperty node outlined inside resolved
      inductionHypothesis =>
      refine inductionHypothesis.trans (resolved (by simp) ?_ ?_).1
      · rw [inductionHypothesis.frame]
        exact reachable.part outlined inside
      · rw [inductionHypothesis.frames]
        exact rootOpen

/-- A node that cannot be built has a faulty fragment, or it is one of the fragments that it leads
to. -/
theorem built_justly {outcome : Except CompileError NodeId}
    (built : Built context (failsJustly context.loader root) fragment property before outcome
      after)
    (decided : outcome ≠ .error .exhausted)
    (reachable : Reachable context.loader root before.frame fragment)
    (rootOpen : root ∈ before.frames) :
    Returned before after ∧ ∀ error, outcome = .error error →
      ∃ frame faulty, Reachable context.loader root frame faulty ∧
        Faulty context.loader frame faulty error := by
  have here {error : CompileError} (faulty : Faulty context.loader before.frame fragment error) :
      ∀ other, (.error error : Except CompileError NodeId) = .error other →
        ∃ frame faulty, Reachable context.loader root frame faulty ∧
          Faulty context.loader frame faulty other := by
    rintro other same
    cases same
    exact ⟨before.frame, fragment, reachable, faulty⟩
  cases built with
  | made own parts shape noEnum noReference =>
      have returned := parts_returned reachable rootOpen parts
      exact ⟨⟨returned.frame, returned.outer⟩, nofun⟩
  | enumStored outlined => exact ⟨⟨rfl, rfl⟩, nofun⟩
  | faulty error enum outlineless fault => exact ⟨.refl before, here (.enum fault)⟩
  | partFailed parts outlined inside failed =>
      have returned := parts_returned reachable rootOpen parts
      obtain ⟨back, justly⟩ := failed decided
        (returned.frame ▸ reachable.part outlined inside) (returned.frames ▸ rootOpen)
      exact ⟨returned.trans back, justly⟩
  | documentReferred refers => exact ⟨⟨rfl, rfl⟩, nofun⟩
  | pointerStored refers stored => exact ⟨⟨rfl, rfl⟩, nofun⟩
  | pointerReferred refers missing awaited => exact ⟨⟨rfl, rfl⟩, nofun⟩
  | pointerLost refers nowhere => exact ⟨⟨rfl, rfl⟩, nofun⟩
  | pointerFinished refers missing fresh found resolved =>
      obtain ⟨back, -⟩ := resolved decided (reachable.follow (.pointer refers found)) rootOpen
      exact ⟨⟨(finishPointer_retouched ..).frame.trans back.frame,
        (finishPointer_retouched ..).outer.trans back.outer⟩, nofun⟩
  | pointerFailed refers missing fresh found failed =>
      obtain ⟨back, justly⟩ := failed decided (reachable.follow (.pointer refers found)) rootOpen
      exact ⟨⟨back.frame, back.outer⟩, justly⟩
  | remote refers away => exact ⟨.refl before, here (.remote refers away)⟩
  | fileStored refers near stored => exact ⟨⟨rfl, rfl⟩, nofun⟩
  | fileReferred refers near missing frame isOpen key => exact ⟨⟨rfl, rfl⟩, nofun⟩
  | unreadable refers near missing fresh error unserved fault =>
      exact ⟨⟨rfl, rfl⟩, here (.file refers near fault)⟩
  | fileFinished refers near missing fresh served resolved finished =>
      obtain ⟨inside, -⟩ := resolved (by simp)
        (reachable.follow (.file refers (fresh root rootOpen) served))
        (List.mem_cons_of_mem _ rootOpen)
      have back := inside.pop
      refine ⟨?_, nofun⟩
      obtain ⟨middle, retouched, ⟨-, -, rfl⟩ | ⟨-, name, rfl⟩⟩ := finishFile_cases finished
      · exact back.trans ⟨retouched.frame, retouched.outer⟩
      · exact back.trans ⟨retouched.frame, retouched.outer⟩
  | fileFailed refers near missing fresh served failed =>
      obtain ⟨inside, justly⟩ := failed decided
        (reachable.follow (.file refers (fresh root rootOpen) served))
        (List.mem_cons_of_mem _ rootOpen)
      exact ⟨⟨inside.pop.frame, inside.pop.outer⟩, justly⟩

/-- Every resolution comes back, and every failure has a fragment at fault. -/
theorem resolveFragment_justly (context : Context) (root : Frame) (budget : Nat) :
    Obeys (failsJustly context.loader root) (resolveFragment context budget) := by
  refine resolveFragment_obeys (fun _ _ _ decided => absurd rfl decided) ?_ budget
  intro fragment site before outcome after resolved decided reachable rootOpen
  cases resolved with
  | @completed node middle built =>
      have returned := (built_justly built decided reachable rootOpen).1
      have adopted := adopted_retouched fragment site node middle
      exact ⟨⟨adopted.frame.trans returned.frame, adopted.outer.trans returned.outer⟩, nofun⟩
  | failed built =>
      obtain ⟨returned, justly⟩ := built_justly built decided reachable rootOpen
      exact ⟨⟨returned.frame, returned.outer⟩, justly⟩

end Build

namespace Compilation

variable {context : Context} {document : Json} {sourcePath : Option Path}

/-- A compilation that fails meets a fragment at fault on its descent. -/
theorem exists_faulty (failed : build context document sourcePath = .error error) :
    ∃ frame fragment, Descended context.loader (rootFrame document sourcePath) frame fragment ∧
      Faulty context.loader frame fragment error := by
  have resolved : ∃ last,
      Ends (resolveFragment context (budget context.loader document) document ⟨none, true⟩)
        (Progress.start (rootFrame document sourcePath)) (.error error) last := by
    simp only [build] at failed
    cases outcome : run context document sourcePath with
    | ok root progress => simp [outcome] at failed
    | error other progress =>
        obtain rfl : other = error := by simpa [outcome] using failed
        simp only [run, bind_eq_error, modify_bind, pure_apply] at outcome
        rcases outcome with failed | ⟨_, _, _, impossible⟩
        · exact ⟨progress, failed⟩
        · cases impossible
  obtain ⟨last, ended⟩ := resolved
  obtain ⟨-, justly⟩ := resolveFragment_justly context (rootFrame document sourcePath) _ _ _ _ _ _
    ended (ends_ne_exhausted ended) .root List.mem_cons_self
  obtain ⟨frame, fragment, reachable, faulty⟩ := justly error rfl
  exact ⟨frame, fragment, faulty.descended reachable, faulty⟩

end Compilation
end SchemaTypes
