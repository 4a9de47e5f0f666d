/-
This file compares steps that are taken with different budgets. Composed steps have one outcome if
their parts have one.
-/
import SchemaTypes.Proofs.Build.Resolution

namespace SchemaTypes.Build

variable {α β : Type}

/-- Two steps have one outcome, and it is not that the budget is used up. -/
structure Agree (left right : Build α) (before : Progress) : Prop where
  same : left before = right before
  decided : ∀ after, left before ≠ .error .exhausted after

namespace Agree

variable {left right : Build α} {before : Progress}

theorem allocate (shape : Shape) (before : Progress) :
    Agree (Build.allocate shape) (Build.allocate shape) before :=
  ⟨rfl, by simp⟩

theorem forwardReference (key name : String) (before : Progress) :
    Agree (Build.forwardReference key name) (Build.forwardReference key name) before :=
  ⟨rfl, by simp⟩

theorem pure (value : α) (before : Progress) :
    Agree (Pure.pure value : Build α) (Pure.pure value) before :=
  ⟨rfl, by simp⟩

theorem throw {error : CompileError} (other : error ≠ .exhausted) (before : Progress) :
    Agree (MonadExcept.throw error : Build α) (MonadExcept.throw error) before :=
  ⟨rfl, by simp [other]⟩

/-- The second step is compared only where the first one has led. -/
theorem bind {next other : α → Build β} (first : Agree left right before)
    (onward : ∀ value middle, left before = .ok value middle →
      Agree (next value) (other value) middle) :
    Agree (left >>= next) (right >>= other) before := by
  constructor
  · change EStateM.bind left next before = EStateM.bind right other before
    unfold EStateM.bind
    rw [← first.same]
    cases outcome : left before with
    | ok value middle => exact (onward value middle outcome).same
    | error error middle => rfl
  · intro after exhausted
    rcases bind_eq_error.mp exhausted with failed | ⟨value, middle, done, failed⟩
    · exact first.decided after failed
    · exact (onward value middle done).decided after failed

/-- Steps that agree do so with what is noted behind them. -/
theorem noting {event : Option NodeId → Event} {left right : Build NodeId} {before : Progress}
    (agree : Agree left right before) :
    Agree (Build.noting event left) (Build.noting event right) before := by
  constructor
  · unfold Build.noting
    rw [agree.same]
  · intro after exhausted
    obtain ⟨last, failed, -⟩ := noting_eq_error.mp exhausted
    exact agree.decided last failed

theorem between {enter leave : Progress → Progress} (agree : Agree left right (enter before)) :
    Agree (Build.between enter leave left) (Build.between enter leave right) before := by
  constructor
  · unfold Build.between
    rw [agree.same]
  · intro after exhausted
    obtain ⟨last, failed, -⟩ := between_eq_error.mp exhausted
    exact agree.decided last failed

/-- A step that reads the progress is compared at the progress that it reads. -/
theorem get_bind {next other : Progress → Build β}
    (agree : Agree (next before) (other before) before) :
    Agree (get >>= next) (get >>= other) before :=
  ⟨agree.same, agree.decided⟩

theorem modify_bind {change : Progress → Progress} {next other : PUnit → Build β}
    (agree : Agree (next ⟨⟩) (other ⟨⟩) (change before)) :
    Agree (modify change >>= next) (modify change >>= other) before :=
  ⟨agree.same, agree.decided⟩

end Agree

/-- A point where the same documents and pointers are being resolved as before. -/
structure Alike (before state : Progress) : Prop where
  within : state.Scoped
  frame : state.frame = before.frame
  outer : state.outer = before.outer
  pending : state.pending = before.pending

theorem Alike.refl {before : Progress} (within : before.Scoped) : Alike before before :=
  ⟨within, rfl, rfl, rfl⟩

/-- A successful step leads to a point where the same documents and pointers are being resolved. -/
theorem Alike.onward {context : Context} {before state after : Progress}
    (alike : Alike before state) (passage : Passage context state after) : Alike before after :=
  ⟨passage.within alike.within, passage.frame.trans alike.frame, passage.outer.trans alike.outer,
    passage.pending.trans alike.pending⟩

/-- Members agree one after another if each of them does wherever it is come to. -/
theorem Agree.each (context : Context) {before : Progress} {act other : α → Build β}
    (number : β → NodeId)
    (returns : ∀ member state value after, state.Scoped → act member state = .ok value after →
      Passage context state after ∧ number value < after.model.size)
    {members : List α}
    (part : ∀ member ∈ members, ∀ state, Alike before state →
      Agree (act member) (other member) state)
    {state : Progress} (alike : Alike before state) :
    Agree (Build.each act members) (Build.each other members) state := by
  induction members generalizing state with
  | nil => exact .pure [] state
  | cons member members inductionHypothesis =>
      refine (part member List.mem_cons_self state alike).bind ?_
      intro value middle done
      have passage := (returns member state value middle alike.within done).1
      refine (inductionHypothesis (fun later inside =>
        part later (List.mem_cons_of_mem _ inside)) (alike.onward passage)).bind ?_
      intro values last _
      exact .pure _ last

end SchemaTypes.Build
