/-
This file compares steps that two compilations take. They match where they come to the same node or
to the same error, and composed steps match if their parts do.
-/
import SchemaTypes.Proofs.Build.Resolution
import SchemaTypes.Proofs.Comparison.Similar

namespace SchemaTypes.Build

variable {α β : Type}

/-- Two steps come to one result or fail for one reason, and lead from twins to twins. -/
inductive Match (names : Prop) (left right : Build α) (first second : Progress) : Prop where
  | ok {value : α} {after other : Progress} (done : left first = .ok value after)
      (doneToo : right second = .ok value other) (twin : Twin names after other)
  | error {error : CompileError} {after other : Progress} (failed : left first = .error error after)
      (failedToo : right second = .error error other) (twin : Twin names after other)

namespace Match

variable {names : Prop} {left right : Build α} {first second : Progress}

/-- Nothing is done, so twins stay twins. -/
theorem pure (twin : Twin names first second) (value : α) :
    Match names (Pure.pure value) (Pure.pure value) first second :=
  .ok rfl rfl twin

/-- The same error is thrown on both sides. -/
theorem throw (twin : Twin names first second) (error : CompileError) :
    Match names (MonadExcept.throw error : Build α) (MonadExcept.throw error) first second :=
  .error rfl rfl twin

/-- The second step is compared only where the first one has led. -/
theorem bind {next other : α → Build β} (begun : Match names left right first second)
    (onward : ∀ value middle last, left first = .ok value middle → Twin names middle last →
      Match names (next value) (other value) middle last) :
    Match names (left >>= next) (right >>= other) first second := by
  cases begun with
  | error failed failedToo twin =>
      exact .error (bind_eq_error.mpr (.inl failed)) (bind_eq_error.mpr (.inl failedToo)) twin
  | ok done doneToo twin =>
      cases onward _ _ _ done twin with
      | ok finished finishedToo twins =>
          exact .ok (bind_eq_ok.mpr ⟨_, _, done, finished⟩)
            (bind_eq_ok.mpr ⟨_, _, doneToo, finishedToo⟩) twins
      | error failed failedToo twins =>
          exact .error (bind_eq_error.mpr (.inr ⟨_, _, done, failed⟩))
            (bind_eq_error.mpr (.inr ⟨_, _, doneToo, failedToo⟩)) twins

/-- Each side may look at its own progress. -/
theorem get_bind {next other : Progress → Build β}
    (onward : Match names (next first) (other second) first second) :
    Match names (get >>= next) (get >>= other) first second := by
  cases onward with
  | ok done doneToo twin => exact .ok done doneToo twin
  | error failed failedToo twin => exact .error failed failedToo twin

/-- Each side may change its own progress first. -/
theorem modify_bind {change change' : Progress → Progress} {next other : PUnit → Build β}
    (onward : Match names (next ⟨⟩) (other ⟨⟩) (change first) (change' second)) :
    Match names (modify change >>= next) (modify change' >>= other) first second := by
  cases onward with
  | ok done doneToo twin => exact .ok done doneToo twin
  | error failed failedToo twin => exact .error failed failedToo twin

/-- Steps with one result note one event. -/
theorem noting {event : Option NodeId → Event} {left right : Build NodeId}
    (done : Match names left right first second) :
    Match names (Build.noting event left) (Build.noting event right) first second := by
  cases done with
  | ok done doneToo twin =>
      exact .ok (noting_eq_ok.mpr ⟨_, done, rfl⟩) (noting_eq_ok.mpr ⟨_, doneToo, rfl⟩)
        (twin.note _)
  | error failed failedToo twin =>
      exact .error (noting_eq_error.mpr ⟨_, failed, rfl⟩)
        (noting_eq_error.mpr ⟨_, failedToo, rfl⟩) (twin.note _)

/-- Steps match between what both sides enter and leave. -/
theorem between {enter leave : Progress → Progress}
    (done : Match names left right (enter first) (enter second))
    (left' : ∀ {after other : Progress}, Twin names after other →
      Twin names (leave after) (leave other)) :
    Match names (Build.between enter leave left) (Build.between enter leave right)
      first second := by
  cases done with
  | ok done doneToo twin =>
      exact .ok (between_eq_ok.mpr ⟨_, done, rfl⟩) (between_eq_ok.mpr ⟨_, doneToo, rfl⟩)
        (left' twin)
  | error failed failedToo twin =>
      exact .error (between_eq_error.mpr ⟨_, failed, rfl⟩)
        (between_eq_error.mpr ⟨_, failedToo, rfl⟩) (left' twin)

/-- The same shape is added under the same number. -/
theorem allocate (twin : Twin names first second) {shape : Shape}
    (children : ∀ child ∈ shape.children, child < first.model.size) :
    Match names (Build.allocate shape) (Build.allocate shape) first second := by
  refine .ok rfl ?_ (twin.add children rfl fun _ => rfl)
  rw [allocate_apply, twin.similar.size]

/-- A node without parts. -/
theorem leaf (twin : Twin names first second) {shape : Shape} (empty : shape.children = []) :
    Match names (Build.allocate shape) (Build.allocate shape) first second :=
  .allocate twin (by simp [empty])

/-- Forward references may differ in the names that they show. -/
theorem forwardReference (twin : Twin names first second) (key : String) {name other : String}
    (named : names → other = name) :
    Match names (Build.forwardReference key name) (Build.forwardReference key other)
      first second := by
  refine .ok rfl ?_ (twin.refer key named)
  rw [forwardReference_apply, twin.similar.size]

/-- Steps that match for every member match for all members in their order. -/
theorem each {act other : α → Build β} {members : List α}
    (part : ∀ member ∈ members, ∀ first second, Twin names first second →
      Match names (act member) (other member) first second) :
    ∀ {first second : Progress}, Twin names first second →
      Match names (Build.each act members) (Build.each other members) first second := by
  induction members with
  | nil => exact fun twin => .pure twin []
  | cons member members inductionHypothesis =>
      intro first second twin
      refine (part member List.mem_cons_self _ _ twin).bind fun value middle last _ twin => ?_
      have rest := inductionHypothesis (fun later inside =>
        part later (List.mem_cons_of_mem _ inside)) twin
      exact rest.bind fun values _ _ _ twin => .pure twin _

end Match

/-- Two resolvers match on every fragment. -/
def Matches (names : Prop) (left right : Resolver) : Prop :=
  ∀ fragment site first second, Twin names first second →
    Match names (left fragment site) (right fragment site) first second

end SchemaTypes.Build
