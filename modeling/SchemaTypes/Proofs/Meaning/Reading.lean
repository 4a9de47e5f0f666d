/-
This file reads types off the declarations of an output. A name is read as the type that is declared
under it first, so it makes no difference whether a type is named or written where it is used.
-/
import SchemaTypes.Compilation.Result
import SchemaTypes.Proofs.Meaning.Chronicle

namespace SchemaTypes

namespace TypeScript

/-- Names have no head of their own. -/
def TypeExpr.head? : TypeExpr → Option Head
  | .keyword .any => some .any
  | .keyword (.primitive kind) => some (.primitive kind)
  | .name _ => none
  | .literal value => some (.literal value)
  | .array _ => some .array
  | .union _ => some .union
  | .intersection _ => some .intersection
  | .object properties =>
    some (.interface (properties.map fun (label, _) => (label.name, label.required)))

def TypeExpr.parts : TypeExpr → List TypeExpr
  | .array element => [element]
  | .union members => members
  | .intersection members => members
  | .object properties => properties.map Prod.snd
  | _ => []

def Definition.type? : Definition → Option TypeExpr
  | .enum _ => none
  | .interface type => some type
  | .alias type => some type

/-- What is read at a place of a type. Comments are not read, and a name that leads to no head
however often it is replaced has no reading. -/
inductive Reads (output : List Declaration) : TypeExpr → List Nat → Top → Prop where
  | head {type : TypeExpr} {head : Head} (own : type.head? = some head) :
      Reads output type [] ⟨head, type.parts.length⟩
  | part {type part : TypeExpr} {number : Nat} {place : List Nat} {top : Top}
      (inside : type.parts[number]? = some part) (read : Reads output part place top) :
      Reads output type (number :: place) top
  | declared {text : String} {declaration : Declaration} {type : TypeExpr} {place : List Nat}
      {top : Top} (found : output.find? (·.name = text) = some declaration)
      (defines : declaration.definition.type? = some type) (read : Reads output type place top) :
      Reads output (.name text) place top
  | enum {text : String} {declaration : Declaration} {members : List EnumMember}
      (found : output.find? (·.name = text) = some declaration)
      (defines : declaration.definition = .enum members) :
      Reads output (.name text) [] ⟨.enum members, 0⟩

end TypeScript

namespace Model

open TypeScript

/-- The children of a node that are written. -/
def written (model : Model) : Shape → List NodeId
  | .intersection members => members.filter fun member => !(model.node member).isNull
  | shape => shape.children

variable {model : Model} {child : NodeId → TypeExpr} {shape : Shape} {head : Head}

/-- Only children are written. -/
theorem written_subset : model.written shape ⊆ shape.children := by
  cases shape with
  | intersection members => exact List.filter_subset_self _
  | _ => exact List.Subset.refl _

/-- The type of a shape is read at its top as what the shape is. -/
theorem head?_shapeType (top : shape.head? = some head) (noEnum : shape.isNamedEnum = false) :
    (model.shapeType child shape).head? = some head := by
  cases shape with
  | reference name => cases top
  | namedEnum members => cases noEnum
  | interface properties =>
      rw [← top]
      simp [shapeType, TypeExpr.head?, Shape.head?, label]
  | _ => exact top

/-- The type of a shape has the types of the children that are written as its parts. -/
theorem parts_shapeType :
    (model.shapeType child shape).parts = (model.written shape).map child := by
  cases shape with
  | interface properties => simp [shapeType, TypeExpr.parts, written, Shape.children]
  | _ => rfl

/-- The type of a shape has a head exactly if the shape has. -/
theorem head?_of_shapeType (top : (model.shapeType child shape).head? = some head) :
    shape.head? = some head := by
  cases shape with
  | interface properties =>
      rw [← top]
      simp [shapeType, TypeExpr.head?, Shape.head?, label]
  | reference name => cases top
  | namedEnum members => cases top
  | _ => exact top

/-- Only references are written as names by themselves. -/
theorem reference_of_shapeType {text : String} (noEnum : shape.isNamedEnum = false)
    (name : model.shapeType child shape = .name text) : shape = .reference text := by
  cases shape with
  | namedEnum members => cases noEnum
  | reference other =>
      rw [TypeExpr.name.inj name]
  | _ => cases name

/-- The declaration of a node that is no enum defines its type. -/
theorem type?_declaration {node : NodeId} (noEnum : (model.node node).shape.isNamedEnum = false) :
    (model.declaration node).definition.type? = some (model.definedType node) := by
  unfold declaration
  cases shape : (model.node node).shape with
  | namedEnum members =>
      rw [shape] at noEnum
      cases noEnum
  | _ => simp only [shape, Definition.type?]

/-- Exactly the named enums are declared as enums. -/
theorem definition_eq_enum {node : NodeId} {members : List EnumMember} :
    (model.declaration node).definition = .enum members ↔
      (model.node node).shape = .namedEnum members := by
  unfold declaration
  cases shape : (model.node node).shape <;> simp [shape]

end Model

namespace Compilation

open TypeScript

/-- The declarations that are written, in their order. -/
def output (compilation : Compilation) : List Declaration :=
  compilation.emissionOrder.map compilation.model.declaration

/-- The node that the first declaration of a name belongs to. -/
def first? (compilation : Compilation) (name : String) : Option NodeId :=
  compilation.emissionOrder.find? fun node => compilation.model.declaredName node = name

/-- What is read for the root at a place, from its name onward. -/
def RootReads (compilation : Compilation) (place : List Nat) (top : Top) : Prop :=
  Reads compilation.output (.name (Identifier.ofName compilation.id)) place top

/-- The first declaration of a name belongs to the first node that is called so. -/
theorem find?_output (compilation : Compilation) (name : String) :
    compilation.output.find? (·.name = name) =
      (compilation.first? name).map compilation.model.declaration :=
  List.find?_map ..

end Compilation
end SchemaTypes
