/-
This file shows that a compilation comes to an end however its references lead in circles. Main
statement: the budget is never used up, and the outcome is the same with every greater budget.
-/
import SchemaTypes.Proofs.Termination.Descent
import SchemaTypes.Proofs.Termination.Measure

namespace SchemaTypes

open Build

variable {context : Context} {document : Json} {sourcePath : Option Path}

/-- A point that a fragment of a compilation can be resolved at. -/
structure Compilation.Reaches (context : Context) (document : Json) (sourcePath : Option Path)
    (fragment : Json) (progress : Progress) : Prop where
  within : progress.Scoped
  frames : ∀ frame ∈ progress.frames, frame ∈ frames context.loader document sourcePath
  size : fragment.size ≤ extent context.loader document
  texts : fragment.texts ⊆ progress.frame.document.texts

namespace Compilation.Reaches

variable {fragment : Json} {before : Progress}

/-- The root document is the first fragment of a compilation. -/
theorem start (context : Context) (document : Json) (sourcePath : Option Path) :
    Reaches context document sourcePath document
      (Progress.start (rootFrame document sourcePath)) where
  within := .start _
  frames frame member := by
    obtain rfl := List.mem_singleton.mp member
    exact List.mem_cons_self
  size := @size_le_extent context.loader document sourcePath _ List.mem_cons_self
  texts := List.Subset.refl _

/-- A part of a fragment can be resolved wherever the same documents are open. -/
theorem part (reaches : Reaches context document sourcePath fragment before) {part : Json}
    {state : Progress} (below : part.Below fragment) (alike : Alike before state) :
    Reaches context document sourcePath part state where
  within := alike.within
  frames frame member := by
    rw [Progress.frames, alike.frame, alike.outer] at member
    exact reaches.frames frame member
  size := Nat.le_trans (Nat.le_of_lt below.size) reaches.size
  texts := by
    rw [alike.frame]
    exact List.Subset.trans below.texts reaches.texts

/-- The target of a pointer can be resolved once the pointer is entered. -/
theorem target (reaches : Reaches context document sourcePath fragment before) {pointer : String}
    {target : Json}
    (found : Pointer.lookup? before.frame.document (Pointer.segments pointer) = some target) :
    Reaches context document sourcePath target (before.enter before.frame pointer) where
  within := reaches.within.grow (Nat.le_refl _) rfl rfl rfl
  frames := reaches.frames
  size := Nat.le_trans (Pointer.lookup?_within found).size
    (size_le_extent (reaches.frames _ List.mem_cons_self))
  texts := (Pointer.lookup?_within found).texts

/-- The document of a file can be resolved once the file is open. -/
theorem file (reaches : Reaches context document sourcePath fragment before) {path : Path}
    {text : String} {content : Json} (normal : path.normalize = path)
    (served : context.loader.read path = .ok text) (parsed : Json.parse text = .ok content) :
    Reaches context document sourcePath content
      ((before.note (.read path)).push (fileFrame path content)) where
  within := reaches.within.grow (Nat.le_refl _) rfl rfl rfl
  frames frame member := by
    rcases List.mem_cons.mp member with rfl | outer
    · exact fileFrame_mem_frames normal served parsed
    · exact reaches.frames frame outer
  size := size_le_extent
    (@fileFrame_mem_frames context.loader document sourcePath _ _ _ normal served parsed)
  texts := List.Subset.refl _

end Compilation.Reaches

/-- Two budgets that are enough for a fragment lead to one outcome. -/
theorem Build.resolveFragment_agree (first : Nat) : ∀ (second : Nat) (fragment : Json)
    (site : Site) (before : Progress),
    Compilation.Reaches context document sourcePath fragment before →
    Compilation.need context.loader document sourcePath before fragment ≤ first →
    Compilation.need context.loader document sourcePath before fragment ≤ second →
    Agree (resolveFragment context first fragment site)
      (resolveFragment context second fragment site) before := by
  induction first with
  | zero =>
      intro second fragment site before reaches enough _
      have positive := fragment.size_pos
      unfold Compilation.need at enough
      omega
  | succ first inductionHypothesis =>
      intro second fragment site before reaches enough enoughToo
      cases second with
      | zero =>
          have positive := fragment.size_pos
          unfold Compilation.need at enoughToo
          omega
      | succ second =>
          have less {other : Json} {property : Site} {state : Progress}
              (onward : Compilation.Reaches context document sourcePath other state)
              (decreases : Compilation.need context.loader document sourcePath state other <
                Compilation.need context.loader document sourcePath before fragment) :
              Agree (resolveFragment context first other property)
                (resolveFragment context second other property) state :=
            inductionHypothesis second other property state onward
              (Nat.le_of_lt_succ (Nat.lt_of_lt_of_le decreases enough))
              (Nat.le_of_lt_succ (Nat.lt_of_lt_of_le decreases enoughToo))
          refine resolveBy_agree (resolveFragment_lawful context first) ⟨?_, ?_, ?_⟩ site
            reaches.within
          · intro part property state below alike
            exact less (reaches.part below alike)
              (Compilation.need_part alike.frame alike.outer alike.pending below)
          · intro reference pointer target mentioned points fresh found
            have onward := reaches.target found
            refine less onward (Compilation.need_target ?_ onward.size)
            exact Compilation.jumps_enter (reaches.frames _ List.mem_cons_self)
              (reaches.texts mentioned) points fresh
          · intro path text content property normal fresh served parsed
            have onward := reaches.file normal served parsed
            exact less onward (Compilation.need_target
              (Compilation.jumps_open normal served fresh) onward.size)

namespace Compilation

/-- The root document is resolved alike with the budget and with a greater one. -/
theorem root_agree (context : Context) (document : Json) (sourcePath : Option Path) (extra : Nat) :
    Agree
      (resolveFragment context (budget context.loader document) document ⟨none, true⟩)
      (resolveFragment context (budget context.loader document + extra) document ⟨none, true⟩)
      (Progress.start (rootFrame document sourcePath)) := by
  have enough : need context.loader document sourcePath
      (Progress.start (rootFrame document sourcePath)) document ≤
        budget context.loader document := need_start_le
  exact resolveFragment_agree (budget context.loader document)
    (budget context.loader document + extra) document ⟨none, true⟩ _
    (Reaches.start context document sourcePath) enough
    (Nat.le_trans enough (Nat.le_add_right _ extra))

/-- The root document is resolved within the budget, to a node or to a failure of its own, and a
greater budget leads to the same outcome. -/
theorem build_ne_exhausted (context : Context) (document : Json) (sourcePath : Option Path) :
    build context document sourcePath ≠ .error .exhausted ∧
      ∀ extra,
        resolveFragment context (budget context.loader document + extra) document ⟨none, true⟩
            (Progress.start (rootFrame document sourcePath)) =
          resolveFragment context (budget context.loader document) document ⟨none, true⟩
            (Progress.start (rootFrame document sourcePath)) := by
  have agree (extra : Nat) := root_agree context document sourcePath extra
  refine ⟨?_, fun extra => (agree extra).same.symm⟩
  intro exhausted
  simp only [build] at exhausted
  cases outcome : run context document sourcePath with
  | ok root progress => simp [outcome] at exhausted
  | error error progress =>
      simp only [outcome, Except.error.injEq] at exhausted
      subst exhausted
      simp only [run, bind_eq_error, modify_bind, pure_apply] at outcome
      rcases outcome with failed | ⟨root, middle, resolved, failed⟩
      · exact (agree 0).decided progress failed
      · cases failed

end Compilation
end SchemaTypes
