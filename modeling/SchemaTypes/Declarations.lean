/-
This file keeps the declared nodes of a compilation under their keys.
-/
import SchemaTypes.Model
import SchemaTypes.Table

namespace SchemaTypes

/-- Several keys may hold the same node; named enums have keys of their own besides. -/
structure Declarations where
  named : Table NodeId
  enums : Table NodeId
deriving DecidableEq, Inhabited, Repr

namespace Declarations

def empty : Declarations := ⟨[], []⟩

def get? (declarations : Declarations) (key : String) : Option NodeId :=
  declarations.named.get? key

def isDeclared (declarations : Declarations) (node : NodeId) : Bool :=
  node ∈ declarations.named.values ∨ node ∈ declarations.enums.values

/-- The other node that a key would lose to the given one. -/
def displaced? (declarations : Declarations) (key : String) (node : NodeId) : Option NodeId :=
  (declarations.get? key).filter (· ≠ node)

def declare (declarations : Declarations) (key : String) (node : NodeId) : Declarations :=
  { declarations with named := declarations.named.put key node }

def putEnum (declarations : Declarations) (name : String) (node : NodeId) : Declarations :=
  { declarations with enums := declarations.enums.put name node }

def enumCount (declarations : Declarations) : Nat := declarations.enums.length

/-- The first occurrences of the members of a list. -/
def firsts : List NodeId → List NodeId
  | [] => []
  | node :: rest => node :: (firsts rest).filter (· ≠ node)

theorem mem_firsts {node : NodeId} {nodes : List NodeId} : node ∈ firsts nodes ↔ node ∈ nodes := by
  induction nodes with
  | nil => simp [firsts]
  | cons first rest inductionHypothesis =>
    by_cases same : node = first <;> simp [firsts, inductionHypothesis, same]

theorem nodup_firsts (nodes : List NodeId) : (firsts nodes).Nodup := by
  induction nodes with
  | nil => simp [firsts]
  | cons first rest inductionHypothesis =>
    simp only [firsts, List.nodup_cons]
    exact ⟨by simp, List.Pairwise.filter _ inductionHypothesis⟩

theorem firsts_append (nodes others : List NodeId) :
    firsts (nodes ++ others) = firsts nodes ++ (firsts others).filter (· ∉ nodes) := by
  induction nodes with
  | nil => exact (List.filter_eq_self.mpr (by simp)).symm
  | cons node rest inductionHypothesis =>
      simp only [List.cons_append, firsts, inductionHypothesis, List.filter_append,
        List.filter_filter, List.mem_cons, not_or]
      refine congrArg (fun tail => node :: ((firsts rest).filter (· ≠ node) ++ tail)) ?_
      exact List.filter_congr fun other _ => by simp

/-- A node that a list already has adds nothing at its end. -/
theorem firsts_append_of_mem {node : NodeId} {nodes : List NodeId} (old : node ∈ nodes) :
    firsts (nodes ++ [node]) = firsts nodes := by
  simp [firsts_append, firsts, old]

/-- The nodes to write, each once: named enums, and then the others that are no named enums. -/
def emissionOrder (declarations : Declarations) (model : Model) : List NodeId :=
  firsts (declarations.enums.values ++
    declarations.named.values.filter fun node => !(model.node node).shape.isNamedEnum)

end Declarations
end SchemaTypes
