/-
This file shows that a model whose nodes come after their children can be written. Main statement: a
writer that fails where it meets a node outside of the model, or where it goes deeper than a node's
number, never fails on such a model, and writes the same text.
-/
import SchemaTypes.TypeScript.Unfolding

namespace SchemaTypes

open TypeScript

namespace Model

/-- All children of a node come before it. -/
def Grounded (model : Model) : Prop :=
  ∀ node, ∀ child ∈ (model.node node).shape.children, child < node

namespace Grounded

variable {model : Model}

/-- There are no nodes to begin with. -/
theorem empty : Model.empty.Grounded := by
  intro node child part
  simp [Model.node, Model.empty, Shape.children] at part

/-- A node whose children are in the model comes after them. -/
theorem add (grounded : model.Grounded) {shape : Shape}
    (children : ∀ child ∈ shape.children, child < model.size) : (model.add shape).Grounded := by
  intro node child part
  rw [node_add] at part
  split at part
  · next new =>
    subst new
    exact children child part
  · exact grounded node child part

/-- A name does not touch the children of a node. -/
theorem setId (grounded : model.Grounded) (node : NodeId) (name : Option String) :
    (model.setId node name).Grounded := by
  intro other child part
  rw [shape_setId] at part
  exact grounded other child part

theorem setDescription (grounded : model.Grounded) (node : NodeId) (description : Option String) :
    (model.setDescription node description).Grounded := by
  intro other child part
  rw [shape_setDescription] at part
  exact grounded other child part

/-- A reference has no children. -/
theorem setReference (grounded : model.Grounded) (node : NodeId) (name : String) :
    (model.setShape node (.reference name)).Grounded := by
  intro other child part
  rw [shape_setShape] at part
  split at part
  · cases part
  · exact grounded other child part

end Grounded

/-- The type of a shape, unless it has a child outside of the model or one without a type. -/
def shapeType? (model : Model) (child : NodeId → Option TypeExpr) (shape : Shape) :
    Option TypeExpr :=
  if shape.children.all (· < model.size) then
    match shape with
    | .array element => (child element).map .array
    | .union members => (members.mapM child).map .union
    | .intersection members =>
      ((members.filter fun member => !(model.node member).isNull).mapM child).map .intersection
    | .interface properties =>
      (properties.mapM fun property =>
        (child property.type).map fun type => (model.label property, type)).map .object
    | other => some (model.shapeType (fun _ => .keyword .any) other)
  else none

/-- The type that is written for a node. There is none beyond the last node, and none where the
depth is used up. -/
def inlineType? (model : Model) : Nat → NodeId → Option TypeExpr
  | 0, _ => none
  | depth + 1, id =>
    if id < model.size then
      match (model.node id).id with
      | some name => some (.name (Identifier.ofName name))
      | none => model.shapeType? (model.inlineType? depth) (model.node id).shape
    else none

def declaration? (model : Model) (depth : Nat) (id : NodeId) : Option Declaration :=
  if id < model.size then
    (model.shapeType? (model.inlineType? depth) (model.node id).shape).map fun type =>
      { model.declaration id with
        definition :=
          match (model.node id).shape with
          | .namedEnum members => .enum members
          | .interface _ => .interface type
          | _ => .alias type }
  else none

variable {model : Model}

/-- A partial function that is defined on all members gives a list for them. -/
theorem mapM_eq_some {α β : Type} {partial? : α → Option β} {total : α → β} {members : List α}
    (defined : ∀ member ∈ members, partial? member = some (total member)) :
    members.mapM partial? = some (members.map total) := by
  induction members with
  | nil => rfl
  | cons member members inductionHypothesis =>
      rw [List.mapM_cons, defined member List.mem_cons_self,
        inductionHypothesis fun other later => defined other (List.mem_cons_of_mem _ later)]
      rfl

/-- The type of a shape depends on the types of its children only. -/
theorem shapeType_congr {first second : NodeId → TypeExpr} {shape : Shape}
    (same : ∀ child ∈ shape.children, first child = second child) :
    model.shapeType first shape = model.shapeType second shape := by
  cases shape with
  | array element => exact congrArg TypeExpr.array (same element List.mem_cons_self)
  | union members => exact congrArg TypeExpr.union (List.map_congr_left same)
  | intersection members =>
      refine congrArg TypeExpr.intersection (List.map_congr_left fun member kept => ?_)
      exact same member (List.mem_filter.mp kept).1
  | interface properties =>
      refine congrArg TypeExpr.object (List.map_congr_left fun property member => ?_)
      rw [same property.type (List.mem_map_of_mem member)]
  | _ => rfl

/-- Where all children have types, the checked type of a shape is there and is its type. -/
theorem shapeType?_eq_some {partial? : NodeId → Option TypeExpr} {total : NodeId → TypeExpr}
    {shape : Shape} (inside : ∀ child ∈ shape.children, child < model.size)
    (defined : ∀ child ∈ shape.children, partial? child = some (total child)) :
    model.shapeType? partial? shape = some (model.shapeType total shape) := by
  have all : shape.children.all (· < model.size) = true := by
    simpa using inside
  unfold shapeType?
  rw [if_pos all]
  cases shape with
  | array element => simp [defined element List.mem_cons_self, shapeType]
  | union members =>
      have parts : members.mapM partial? = some (members.map total) := mapM_eq_some defined
      simp [parts, shapeType]
  | intersection members =>
      have parts : (members.filter fun member => !(model.node member).isNull).mapM partial? =
          some ((members.filter fun member => !(model.node member).isNull).map total) :=
        mapM_eq_some fun member kept => defined member (List.mem_filter.mp kept).1
      simp [parts, shapeType]
  | interface properties =>
      have parts : (properties.mapM fun property =>
          (partial? property.type).map fun type => (model.label property, type)) =
          some (properties.map fun property => (model.label property, total property.type)) :=
        mapM_eq_some fun property member => by
          rw [defined property.type (List.mem_map_of_mem member)]
          rfl
      simp [parts, shapeType]
  | _ => rfl

/-- More depth than a node's number makes no difference. -/
theorem inlineType_stable (grounded : model.Grounded) :
    ∀ (depth other : Nat) (id : NodeId), id < depth → id < other →
      model.inlineType depth id = model.inlineType other id := by
  intro depth
  induction depth with
  | zero => intro other id shallow _; exact absurd shallow (Nat.not_lt_zero id)
  | succ depth inductionHypothesis =>
      intro other id shallow deep
      cases other with
      | zero => exact absurd deep (Nat.not_lt_zero id)
      | succ other =>
          rw [inlineType, inlineType]
          cases (model.node id).id with
          | some name => rfl
          | none =>
              refine shapeType_congr fun child part => ?_
              have before := grounded id child part
              exact inductionHypothesis other child
                (Nat.lt_of_lt_of_le before (Nat.le_of_lt_succ shallow))
                (Nat.lt_of_lt_of_le before (Nat.le_of_lt_succ deep))

/-- A node is written by its name, or without a name by what its declaration would define. -/
theorem typeOf_eq (grounded : model.Grounded) {id : NodeId} (known : id < model.size) :
    model.typeOf id =
      match (model.node id).id with
      | some name => .name (Identifier.ofName name)
      | none => model.definedType id := by
  rw [typeOf, inlineType]
  cases (model.node id).id with
  | some name => rfl
  | none =>
      refine shapeType_congr fun child part => ?_
      have before := Nat.lt_trans (grounded id child part) known
      exact inlineType_stable grounded _ _ child before (Nat.lt_succ_of_lt before)

/-- A node is written without going deeper than its number. -/
theorem inlineType?_eq_some (grounded : model.Grounded) {depth : Nat} :
    ∀ {id : NodeId}, id < model.size → id < depth →
      model.inlineType? depth id = some (model.typeOf id) := by
  induction depth with
  | zero => intro id _ shallow; exact absurd shallow (Nat.not_lt_zero id)
  | succ depth inductionHypothesis =>
      intro id known shallow
      rw [inlineType?, if_pos known, typeOf_eq grounded known]
      cases (model.node id).id with
      | some name => rfl
      | none =>
          refine shapeType?_eq_some (fun child part => ?_) fun child part => ?_
          · exact Nat.lt_trans (grounded id child part) known
          · have before := grounded id child part
            exact inductionHypothesis (Nat.lt_trans before known)
              (Nat.lt_of_lt_of_le before (Nat.le_of_lt_succ shallow))

/-- A grounded node can be declared with no more depth than its number. -/
theorem declaration?_eq_some (grounded : model.Grounded) {depth : Nat} {id : NodeId}
    (known : id < model.size) (enough : id ≤ depth) :
    model.declaration? depth id = some (model.declaration id) := by
  have defined : model.shapeType? (model.inlineType? depth) (model.node id).shape =
      some (model.definedType id) := by
    refine shapeType?_eq_some (fun child part => ?_) fun child part => ?_
    · exact Nat.lt_trans (grounded id child part) known
    · have before := grounded id child part
      exact inlineType?_eq_some grounded (Nat.lt_trans before known)
        (Nat.lt_of_lt_of_le before enough)
  rw [declaration?, if_pos known, defined]
  rfl

end Model

namespace Declarations

/-- The text of all declarations. There is none if a key holds a number that is no node, or if a
declared node cannot be written. -/
def text? (declarations : Declarations) (model : Model) (settings : Settings) (depth : Nat) :
    Option String :=
  if declarations.named.values.all (· < model.size) then
    ((declarations.emissionOrder model).mapM fun id =>
      (model.declaration? depth id).map (·.text settings)).map (String.intercalate "\n")
  else none

/-- A model with grounded nodes is written, and the checks on the way make no difference. -/
theorem text?_eq_some {declarations : Declarations} {model : Model} (grounded : model.Grounded)
    (named : ∀ node ∈ declarations.named.values, node < model.size)
    (enums : ∀ node ∈ declarations.enums.values, node < model.size) (settings : Settings)
    {depth : Nat} (enough : model.size ≤ depth) :
    declarations.text? model settings depth = some (declarations.text model settings) := by
  have all : declarations.named.values.all (· < model.size) = true := by
    simpa using named
  rw [text?, if_pos all,
    @Model.mapM_eq_some _ _ _ fun id => (model.declaration id).text settings]
  · rfl
  · intro id emitted
    have known : id < model.size := by
      rcases List.mem_append.mp (mem_firsts.mp emitted) with inEnums | inNamed
      · exact enums id inEnums
      · exact named id (List.mem_filter.mp inNamed).1
    rw [Model.declaration?_eq_some grounded known (Nat.le_trans (Nat.le_of_lt known) enough)]
    rfl

end Declarations
end SchemaTypes
