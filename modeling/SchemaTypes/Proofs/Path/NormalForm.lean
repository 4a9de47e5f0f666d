/-
This file shows what the normal form of a path looks like, and that it is its own normal form.
-/
import SchemaTypes.Path

namespace SchemaTypes.Path

/-- Reversed steps in normal form are names behind parents, and a root has no parents. -/
inductive Settled (rooted : Bool) : List Step → Prop where
  | parents (count : Nat) (free : rooted = true → count = 0) :
      Settled rooted (List.replicate count .parent)
  | child (name : String) {before : List Step} (settled : Settled rooted before) :
      Settled rooted (.child name :: before)

/-- A step up keeps reversed steps in normal form. -/
theorem climb_settled {rooted : Bool} {reversed : List Step} (settled : Settled rooted reversed) :
    Settled rooted (climb rooted reversed) := by
  cases settled with
  | child name settled => exact settled
  | parents count free =>
      cases rooted with
      | true =>
          obtain rfl := free rfl
          exact .parents 0 free
      | false =>
          have one : climb false (List.replicate count .parent) =
              List.replicate (count + 1) .parent := by
            cases count <;> rfl
          rw [one]
          exact .parents (count + 1) (by simp)

/-- Every step keeps reversed steps in normal form. -/
theorem pushStep_settled {rooted : Bool} {reversed : List Step} (step : Step)
    (settled : Settled rooted reversed) : Settled rooted (pushStep rooted reversed step) := by
  cases step with
  | current => exact settled
  | parent => exact climb_settled settled
  | child name => exact .child name settled

/-- Any number of steps keeps reversed steps in normal form. -/
theorem foldl_pushStep_settled {rooted : Bool} (steps : List Step) {reversed : List Step}
    (settled : Settled rooted reversed) :
    Settled rooted (steps.foldl (pushStep rooted) reversed) := by
  induction steps generalizing reversed with
  | nil => exact settled
  | cons step steps inductionHypothesis => exact inductionHypothesis (pushStep_settled step settled)

/-- Leading steps up stay as they are in a path without a root. -/
theorem foldl_pushStep_replicate (count : Nat) :
    (List.replicate count Step.parent).foldl (pushStep false) [] =
      List.replicate count .parent := by
  induction count with
  | zero => rfl
  | succ count inductionHypothesis =>
      rw [List.replicate_succ', List.foldl_append, inductionHypothesis, ← List.replicate_succ',
        List.replicate_succ]
      cases count <;> rfl

/-- Settled steps are pushed one after the other and none of them takes another one back. -/
theorem foldl_pushStep_reverse {rooted : Bool} {reversed : List Step}
    (settled : Settled rooted reversed) :
    reversed.reverse.foldl (pushStep rooted) [] = reversed := by
  induction settled with
  | parents count free =>
      cases rooted with
      | true =>
          obtain rfl := free rfl
          rfl
      | false => rw [List.reverse_replicate, foldl_pushStep_replicate]
  | child name settled inductionHypothesis =>
      rw [List.reverse_cons, List.foldl_append, inductionHypothesis]
      rfl

/-- The steps of a normal form are names behind parents, and none of these in a rooted path. -/
theorem normalize_settled (path : Path) : Settled path.rooted path.normalize.steps.reverse := by
  rw [normalize, List.reverse_reverse]
  exact foldl_pushStep_settled path.steps (.parents 0 fun _ => rfl)

/-- A path in normal form stays as it is. -/
theorem normalize_normalize (path : Path) : path.normalize.normalize = path.normalize := by
  have pushed := foldl_pushStep_reverse (normalize_settled path)
  rw [List.reverse_reverse] at pushed
  change Path.mk path.rooted
    (path.normalize.steps.foldl (pushStep path.rooted) []).reverse = path.normalize
  rw [pushed, List.reverse_reverse]
  rfl

end SchemaTypes.Path
