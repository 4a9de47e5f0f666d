/-
This file says which names the declaration of a node prints, and that they include all names in the
type that is written.
-/
import SchemaTypes.TypeScript.Unfolding

namespace SchemaTypes

/-- A place where a name is printed: for a node that is written by its name, or for a reference. -/
inductive Mention where
  | name (node : NodeId)
  | reference (node : NodeId)

/-- The names that the body of a node prints. Parts with a name are not looked into. -/
inductive Model.Prints (model : Model) : NodeId → Mention → String → Prop where
  | reference {node : NodeId} {name : String} (shape : (model.node node).shape = .reference name) :
      Prints model node (.reference node) name
  | name {node child : NodeId} {id : String} (part : child ∈ (model.node node).shape.children)
      (named : (model.node child).id = some id) :
      Prints model node (.name child) (Identifier.ofName id)
  | inside {node child : NodeId} {mention : Mention} {name : String}
      (part : child ∈ (model.node node).shape.children) (unnamed : (model.node child).id = none)
      (printed : Prints model child mention name) : Prints model node mention name

namespace TypeScript

mutual

def TypeExpr.names : TypeExpr → List String
  | .name text => [text]
  | .array element => element.names
  | .union members => memberNames members
  | .intersection members => memberNames members
  | .object properties => propertyNames properties
  | _ => []

def memberNames : List TypeExpr → List String
  | [] => []
  | member :: members => member.names ++ memberNames members

def propertyNames : List (Label × TypeExpr) → List String
  | [] => []
  | (_, type) :: properties => type.names ++ propertyNames properties

end

/-- A name among members is a name in one of them. -/
theorem mem_memberNames_map {α : Type} {child : α → TypeExpr} {members : List α} {name : String}
    (member : name ∈ memberNames (members.map child)) :
    ∃ part ∈ members, name ∈ (child part).names := by
  induction members with
  | nil => cases member
  | cons first members inductionHypothesis =>
      rw [List.map_cons, memberNames] at member
      rcases List.mem_append.mp member with here | later
      · exact ⟨first, List.mem_cons_self, here⟩
      · obtain ⟨part, inside, here⟩ := inductionHypothesis later
        exact ⟨part, List.mem_cons_of_mem _ inside, here⟩

/-- A name among properties is a name in the type of one of them. -/
theorem mem_propertyNames_map {α : Type} {label : α → Label} {child : α → TypeExpr}
    {properties : List α} {name : String}
    (member : name ∈ propertyNames (properties.map fun part => (label part, child part))) :
    ∃ part ∈ properties, name ∈ (child part).names := by
  induction properties with
  | nil => cases member
  | cons first properties inductionHypothesis =>
      rw [List.map_cons, propertyNames] at member
      rcases List.mem_append.mp member with here | later
      · exact ⟨first, List.mem_cons_self, here⟩
      · obtain ⟨part, inside, here⟩ := inductionHypothesis later
        exact ⟨part, List.mem_cons_of_mem _ inside, here⟩

end TypeScript

namespace Model

open TypeScript

/-- The names in the type of a shape are those of its children and that of a reference. -/
theorem mem_names_shapeType {model : Model} {child : NodeId → TypeExpr} {shape : Shape}
    {name : String} (nonempty : name ≠ "") (member : name ∈ (model.shapeType child shape).names) :
    shape = .reference name ∨ ∃ part ∈ shape.children, name ∈ (child part).names := by
  cases shape with
  | array element => exact .inr ⟨element, List.mem_singleton.mpr rfl, member⟩
  | union members => exact .inr (mem_memberNames_map member)
  | intersection members =>
      obtain ⟨part, inside, here⟩ := mem_memberNames_map member
      exact .inr ⟨part, (List.mem_filter.mp inside).1, here⟩
  | reference text =>
      rw [List.mem_singleton.mp member]
      exact .inl rfl
  | namedEnum members => exact absurd (List.mem_singleton.mp member) nonempty
  | interface properties =>
      obtain ⟨property, inside, here⟩ := mem_propertyNames_map member
      exact .inr ⟨property.type, List.mem_map_of_mem inside, here⟩
  | _ => cases member

/-- Where a child is written, its name is printed, or without a name what its own body prints. -/
theorem printed_of_mem_inlineType {model : Model} {node child : NodeId} {name : String}
    (nonempty : name ≠ "") (fuel : Nat) (part : child ∈ (model.node node).shape.children)
    (member : name ∈ (model.inlineType fuel child).names) :
    ∃ mention, model.Prints node mention name := by
  induction fuel generalizing node child with
  | zero => cases member
  | succ fuel inductionHypothesis =>
      rw [inlineType] at member
      cases named : (model.node child).id with
      | some id =>
          rw [named] at member
          rw [List.mem_singleton.mp member]
          exact ⟨.name child, .name part named⟩
      | none =>
          rw [named] at member
          rcases mem_names_shapeType nonempty member with shape | ⟨inner, inside, here⟩
          · exact ⟨.reference child, .inside part named (.reference shape)⟩
          · obtain ⟨mention, printed⟩ := inductionHypothesis inside here
            exact ⟨mention, .inside part named printed⟩

/-- Every name in the type that a declaration defines is printed for some mention. -/
theorem printed_of_mem_definedType {model : Model} {node : NodeId} {name : String}
    (nonempty : name ≠ "") (member : name ∈ (model.definedType node).names) :
    ∃ mention, model.Prints node mention name := by
  rcases mem_names_shapeType nonempty member with shape | ⟨part, inside, here⟩
  · exact ⟨.reference node, .reference shape⟩
  · exact printed_of_mem_inlineType nonempty _ inside here

end Model
end SchemaTypes
