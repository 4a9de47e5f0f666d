/-
This file takes the outcome of a composed step apart into the outcomes of its parts.
-/
import SchemaTypes.Compilation.Progress

namespace SchemaTypes.Build

variable {α β : Type}

/-- Two steps succeed one after the other when each of them does. -/
theorem bind_eq_ok {act : Build α} {next : α → Build β} {before after : Progress} {value : β} :
    (act >>= next) before = .ok value after ↔
      ∃ first middle, act before = .ok first middle ∧ next first middle = .ok value after := by
  change EStateM.bind act next before = _ ↔ _
  unfold EStateM.bind
  cases act before <;> simp [and_assoc]

/-- Two steps fail where the first one fails or the second one fails behind it. -/
theorem bind_eq_error {act : Build α} {next : α → Build β} {before after : Progress}
    {error : CompileError} :
    (act >>= next) before = .error error after ↔
      act before = .error error after ∨
        ∃ first middle, act before = .ok first middle ∧ next first middle = .error error after := by
  change EStateM.bind act next before = _ ↔ _
  unfold EStateM.bind
  cases act before <;> simp [and_assoc]

@[simp] theorem pure_apply (value : α) (before : Progress) :
    (pure value : Build α) before = .ok value before := rfl

@[simp] theorem throw_apply (error : CompileError) (before : Progress) :
    (throw error : Build α) before = .error error before := rfl

@[simp] theorem modify_apply (change : Progress → Progress) (before : Progress) :
    (modify change : Build PUnit) before = .ok ⟨⟩ (change before) := rfl

@[simp] theorem get_bind (next : Progress → Build β) (before : Progress) :
    ((get : Build Progress) >>= next) before = next before before := rfl

@[simp] theorem modify_bind (change : Progress → Progress) (next : PUnit → Build β)
    (before : Progress) : ((modify change : Build PUnit) >>= next) before =
      next ⟨⟩ (change before) := rfl

/-- A new node is numbered by the size of the model before it. -/
@[simp] theorem allocate_apply (shape : Shape) (before : Progress) :
    allocate shape before = .ok before.model.size (before.add shape) := rfl

/-- A forward reference is a new node that waits for the name of its key. -/
@[simp] theorem forwardReference_apply (key name : String) (before : Progress) :
    forwardReference key name before = .ok before.model.size (before.refer key name) := rfl

/-- The event of a successful step is noted with its node, behind all that the step has noted. -/
theorem noting_eq_ok {event : Option NodeId → Event} {act : Build NodeId}
    {before after : Progress} {node : NodeId} :
    noting event act before = .ok node after ↔
      ∃ last, act before = .ok node last ∧ last.note (event (some node)) = after := by
  unfold noting
  cases act before with
  | ok value last => simp +contextual [and_assoc, eq_comm]
  | error error last => simp

/-- The event of a step that fails is noted without a node. -/
theorem noting_eq_error {event : Option NodeId → Event} {act : Build NodeId}
    {before after : Progress} {error : CompileError} :
    noting event act before = .error error after ↔
      ∃ last, act before = .error error last ∧ last.note (event none) = after := by
  unfold noting
  cases act before <;> simp [and_assoc]

/-- What is left again after a successful step is left from where the step has ended. -/
theorem between_eq_ok {enter leave : Progress → Progress} {act : Build α}
    {before after : Progress} {value : α} :
    between enter leave act before = .ok value after ↔
      ∃ last, act (enter before) = .ok value last ∧ leave last = after := by
  unfold between
  cases act (enter before) <;> simp [and_assoc]

/-- What was entered is left as well when the step inside fails. -/
theorem between_eq_error {enter leave : Progress → Progress} {act : Build α}
    {before after : Progress} {error : CompileError} :
    between enter leave act before = .error error after ↔
      ∃ last, act (enter before) = .error error last ∧ leave last = after := by
  unfold between
  cases act (enter before) <;> simp [and_assoc]

/-- A step has succeeded, and what it has come to passes a check. -/
def passes (check : α → Progress → Bool) : EStateM.Result CompileError Progress α → Bool
  | .ok value after => check value after
  | .error _ _ => false

/-- A closed run that passes its check has succeeded with a result that the check holds of. -/
theorem exists_of_passes {check : α → Progress → Bool}
    {result : EStateM.Result CompileError Progress α} (passed : passes check result = true) :
    ∃ value after, result = .ok value after ∧ check value after = true := by
  cases result with
  | ok value after => exact ⟨value, after, rfl, passed⟩
  | error error after => cases passed

/-- A closed run that passes no check has failed. -/
theorem exists_of_not_passes {result : EStateM.Result CompileError Progress α}
    (failed : passes (fun _ _ => true) result = false) :
    ∃ error after, result = .error error after := by
  cases result with
  | ok value after => cases failed
  | error error after => exact ⟨error, after, rfl⟩

end SchemaTypes.Build
