/-
This file brings types into the form in which no union stands directly inside of a union, no
intersection directly inside of an intersection, and neither has a single member. Main statement:
flattening leaves a type in that form as it is.
-/
import SchemaTypes.Proofs.Precedence.Reader
import Mathlib.Data.List.Basic

namespace SchemaTypes.TypeScript

namespace Connective

/-- Whether a type is put together with the operator. -/
def joins : Connective → TypeExpr → Bool
  | .union, .union _ => true
  | .intersection, .intersection _ => true
  | _, _ => false

/-- What a type adds where it is a member itself. -/
def parts : Connective → TypeExpr → List TypeExpr
  | .union, .union members => members
  | .intersection, .intersection members => members
  | _, other => [other]

/-- A type that is put together with an operator adds its members. -/
theorem parts_type (connective : Connective) (members : List TypeExpr) :
    connective.parts (connective.type members) = members := by
  cases connective <;> rfl

/-- Any other type adds itself. -/
theorem parts_of_not {connective : Connective} {type : TypeExpr}
    (apart : connective.joins type = false) : connective.parts type = [type] := by
  cases connective <;> cases type <;> first | rfl | cases apart

/-- Only a single member stands for itself. -/
theorem of_eq_type {connective : Connective} {members : List TypeExpr}
    (several : members.length ≠ 1) : connective.of members = connective.type members := by
  fun_cases connective.of members with
  | case1 => exact absurd rfl several
  | case2 => rfl

/-- What is put together can be taken apart again. -/
theorem parts_of {connective : Connective} {members : List TypeExpr}
    (apart : ∀ member ∈ members, connective.joins member = false) :
    connective.parts (connective.of members) = members := by
  fun_cases connective.of members with
  | case1 member => exact parts_of_not (apart _ List.mem_cons_self)
  | case2 => exact connective.parts_type _

end Connective

mutual

def TypeExpr.flat : TypeExpr → TypeExpr
  | .array element => .array element.flat
  | .union members => Connective.union.of ((flatMembers members).flatMap Connective.union.parts)
  | .intersection members =>
    Connective.intersection.of ((flatMembers members).flatMap Connective.intersection.parts)
  | other => other

def flatMembers : List TypeExpr → List TypeExpr
  | [] => []
  | member :: members => member.flat :: flatMembers members

end

theorem flatMembers_eq_map (members : List TypeExpr) :
    flatMembers members = members.map TypeExpr.flat := by
  induction members with
  | nil => rfl
  | cons member members inductionHypothesis =>
      rw [flatMembers, inductionHypothesis, List.map_cons]

/-- A flattened type is put together of what its flattened members add. -/
theorem Connective.flat_type (connective : Connective) (members : List TypeExpr) :
    (connective.type members).flat =
      connective.of (members.flatMap fun member => connective.parts member.flat) := by
  cases connective <;> rw [type, TypeExpr.flat, flatMembers_eq_map, List.flatMap_map]

/-- The form that flattening brings types into. -/
inductive TypeExpr.Flat : TypeExpr → Prop where
  | keyword (word : Keyword) : Flat (.keyword word)
  | array {element : TypeExpr} (inside : Flat element) : Flat (.array element)
  | joined (connective : Connective) {members : List TypeExpr} (several : members.length ≠ 1)
      (inside : ∀ member ∈ members, Flat member)
      (apart : ∀ member ∈ members, connective.joins member = false) :
      Flat (connective.type members)

namespace TypeExpr.Flat

variable {connective : Connective} {type : TypeExpr} {members : List TypeExpr}

/-- Flat members are put together to a flat type. -/
theorem of (inside : ∀ member ∈ members, Flat member)
    (apart : ∀ member ∈ members, connective.joins member = false) :
    Flat (connective.of members) := by
  by_cases single : members.length = 1
  · obtain ⟨member, rfl⟩ := List.length_eq_one_iff.mp single
    exact inside member List.mem_cons_self
  · rw [Connective.of_eq_type single]
    exact .joined connective single inside apart

/-- A flat type is put together from its members, or it has an operator of its own. -/
theorem cases_joins (flat : Flat type) (connective : Connective) :
    connective.joins type = false ∨
      ∃ members : List TypeExpr, type = connective.type members ∧ members.length ≠ 1 ∧
        (∀ member ∈ members, Flat member) ∧
        ∀ member ∈ members, connective.joins member = false := by
  cases flat with
  | keyword => exact .inl (by cases connective <;> rfl)
  | array => exact .inl (by cases connective <;> rfl)
  | @joined own members several inside apart =>
      by_cases same : own = connective
      · subst same
        exact .inr ⟨members, rfl, several, inside, apart⟩
      · exact .inl (by cases own <;> cases connective <;> first | rfl | exact absurd rfl same)

/-- What a flat type adds is flat and not put together with the operator. -/
theorem parts (flat : Flat type) (connective : Connective) :
    ∀ part ∈ connective.parts type, Flat part ∧ connective.joins part = false := by
  obtain apart | ⟨members, rfl, -, inside, apart⟩ := flat.cases_joins connective
  · rw [Connective.parts_of_not apart]
    intro part listed
    obtain rfl := List.mem_singleton.mp listed
    exact ⟨flat, apart⟩
  · rw [connective.parts_type]
    exact fun part listed => ⟨inside part listed, apart part listed⟩

/-- A flat type is put together of what it adds. -/
theorem of_parts (flat : Flat type) (connective : Connective) :
    connective.of (connective.parts type) = type := by
  obtain apart | ⟨members, rfl, several, -⟩ := flat.cases_joins connective
  · rw [Connective.parts_of_not apart]
    rfl
  · rw [connective.parts_type, Connective.of_eq_type several]

/-- Flattening leaves a flat type as it is. -/
theorem flat_eq (flat : Flat type) : type.flat = type := by
  induction flat with
  | keyword word => rfl
  | array inside inductionHypothesis => rw [TypeExpr.flat, inductionHypothesis]
  | @joined connective members several inside apart inductionHypothesis =>
      have same : (members.flatMap fun member => connective.parts member.flat) = members := by
        refine Eq.trans (List.flatMap_congr fun member listed => ?_)
          (List.flatMap_singleton' members)
        rw [inductionHypothesis member listed, Connective.parts_of_not (apart member listed)]
      rw [connective.flat_type, same, Connective.of_eq_type several]

end TypeExpr.Flat

namespace Connective

variable {connective : Connective} {members : List TypeExpr}

/-- A single member is flattened as if it stood alone. -/
theorem flat_singleton (connective : Connective) {member : TypeExpr} (flat : member.flat.Flat) :
    (connective.type [member]).flat = member.flat := by
  rw [flat_type, List.flatMap_singleton, flat.of_parts]

/-- What flattened members add is flat and not put together with the operator. -/
theorem apart_of_flat (flat : ∀ member ∈ members, member.flat.Flat) :
    ∀ part ∈ members.flatMap fun member => connective.parts member.flat,
      part.Flat ∧ connective.joins part = false := by
  intro part listed
  obtain ⟨member, isMember, isPart⟩ := List.mem_flatMap.mp listed
  exact (flat member isMember).parts connective part isPart

/-- A flattened type adds what its flattened members add. -/
theorem parts_flat_type (flat : ∀ member ∈ members, member.flat.Flat) :
    connective.parts (connective.type members).flat =
      members.flatMap fun member => connective.parts member.flat := by
  rw [flat_type]
  exact parts_of fun part listed => (apart_of_flat flat part listed).2

end Connective

end SchemaTypes.TypeScript
