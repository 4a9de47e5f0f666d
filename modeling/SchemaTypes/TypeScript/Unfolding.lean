/-
This file reads the types and declarations of a model off its nodes.
-/
import SchemaTypes.Declarations
import SchemaTypes.Identifier
import SchemaTypes.TypeScript.Declaration

namespace SchemaTypes.Model

open TypeScript

/-- The name under which a node is declared; nodes without an id have none. -/
def declaredName (model : Model) (id : NodeId) : String :=
  match (model.node id).id with
  | some name => Identifier.ofName name
  | none => ""

def label (model : Model) (property : Property) : Label :=
  ⟨property.name, property.required, (model.node property.type).description⟩

/-- The type of a shape, with the types of its children given; an intersection leaves null out. -/
def shapeType (model : Model) (child : NodeId → TypeExpr) : Shape → TypeExpr
  | .any => .keyword .any
  | .primitive kind => .keyword (.primitive kind)
  | .literal value => .literal value
  | .array element => .array (child element)
  | .union members => .union (members.map child)
  | .intersection members =>
    .intersection ((members.filter fun member => !(model.node member).isNull).map child)
  | .reference name => .name name
  | .namedEnum _ => .name ""
  | .interface properties =>
    .object (properties.map fun property => (model.label property, child property.type))

/-- The type that is written where another type uses a node; the fuel bounds the depth. -/
def inlineType (model : Model) : Nat → NodeId → TypeExpr
  | 0, _ => .keyword .any
  | fuel + 1, id =>
    match (model.node id).id with
    | some name => .name (Identifier.ofName name)
    | none => model.shapeType (model.inlineType fuel) (model.node id).shape

/-- A chain of children that is longer than the model runs in a circle, and nodes with children that
come before them are in none. -/
def typeOf (model : Model) (id : NodeId) : TypeExpr := model.inlineType (model.size + 1) id

/-- The type that the declaration of a node defines. -/
def definedType (model : Model) (id : NodeId) : TypeExpr :=
  model.shapeType model.typeOf (model.node id).shape

def declaration (model : Model) (id : NodeId) : Declaration :=
  let node := model.node id
  { description := if node.isSimple then none else node.description
    name := model.declaredName id
    definition :=
      match node.shape with
      | .namedEnum members => .enum members
      | .interface _ => .interface (model.definedType id)
      | _ => .alias (model.definedType id) }

end SchemaTypes.Model

namespace SchemaTypes.Declarations

/-- The declarations of all nodes in their order, one below the other. -/
def text (declarations : Declarations) (model : Model) (settings : Settings) : String :=
  String.intercalate "\n"
    ((declarations.emissionOrder model).map fun id => (model.declaration id).text settings)

end SchemaTypes.Declarations
