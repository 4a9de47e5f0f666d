/-
This file says which states a compilation comes to, whether it succeeds or fails: those at which it
makes a difference to stop it, and what it changes from there.
-/
import SchemaTypes.Compilation.Result
import SchemaTypes.Proofs.Build.Transition

namespace SchemaTypes

open Build

namespace Build

/-- A step that is stopped at a point: where it begins there, and where it ends there. -/
def haltingAt (point : Progress) (act : Build NodeId) : Build NodeId := fun progress =>
  if progress = point then .error .exhausted progress
  else
    match act progress with
    | .ok node after => if after = point then .error .exhausted after else .ok node after
    | .error error after => .error (if after = point then .exhausted else error) after

/-- The resolver, stopped at a point. -/
def resolveHalting (context : Context) (point : Progress) : Nat → Resolver
  | 0 => fun _ _ => throw .exhausted
  | budget + 1 => fun fragment site =>
    haltingAt point (resolveBy context (resolveHalting context point budget) fragment site)

end Build

namespace Compilation

/-- It makes a difference to stop the compilation at a point, whether it fails in the end or not. -/
def Meets (context : Context) (document : Json) (sourcePath : Option Path) (point : Progress) :
    Prop :=
  resolveHalting context point (budget context.loader document) document ⟨none, true⟩
      (Progress.start (rootFrame document sourcePath)) ≠
    resolveFragment context (budget context.loader document) document ⟨none, true⟩
      (Progress.start (rootFrame document sourcePath))

/-- The states of a compilation: where it begins or ends to resolve a fragment and what it changes
from there, the outcome of its run, and the final model while the references get their names. -/
inductive Reached (context : Context) (document : Json) (sourcePath : Option Path) :
    Progress → Prop where
  | underway {point progress : Progress} (met : Meets context document sourcePath point)
      (onward : Run context point progress) : Reached context document sourcePath progress
  | declared {root : NodeId} {progress : Progress}
      (done : run context document sourcePath = .ok root progress) :
      Reached context document sourcePath progress
  | failed {error : CompileError} {progress : Progress}
      (failed : run context document sourcePath = .error error progress) :
      Reached context document sourcePath progress
  | binding {root : NodeId} {progress : Progress} {bound : List (String × NodeId)}
      (done : run context document sourcePath = .ok root progress)
      (part : bound <+: progress.forward) :
      Reached context document sourcePath
        { progress with
          model := bound.foldl
            (bindReference progress (rootFrame document sourcePath).ownKey root) progress.model }

variable {context : Context} {document : Json} {sourcePath : Option Path} {point : Progress}

/-- The compilation comes to the state in which its root is resolved. -/
theorem meets_resolved {node : NodeId}
    (resolved : resolveFragment context (budget context.loader document) document ⟨none, true⟩
      (Progress.start (rootFrame document sourcePath)) = .ok node point) :
    Meets context document sourcePath point := by
  intro same
  rw [resolved] at same
  generalize budget context.loader document = fuel at same
  cases fuel with
  | zero => cases same
  | succ fuel =>
      simp only [resolveHalting, haltingAt] at same
      split at same
      · cases same
      · split at same
        · split at same
          · cases same
          · next apart =>
            rw [EStateM.Result.ok.injEq] at same
            exact apart same.2
        · cases same

/-- A compilation whose root is resolved comes to the state in which it starts. -/
theorem meets_start {root : NodeId} {last : Progress}
    (resolved : resolveFragment context (budget context.loader document) document ⟨none, true⟩
      (Progress.start (rootFrame document sourcePath)) = .ok root last) :
    Meets context document sourcePath (Progress.start (rootFrame document sourcePath)) := by
  intro same
  rw [resolved] at same
  generalize budget context.loader document = fuel at same
  cases fuel with
  | zero => cases same
  | succ fuel =>
      simp only [resolveHalting, haltingAt, ↓reduceIte] at same
      cases same

end Compilation
end SchemaTypes
