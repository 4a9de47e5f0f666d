/-
This file holds the types of a compilation as nodes that refer to each other by number.
-/
import SchemaTypes.Json.Value

namespace SchemaTypes

abbrev NodeId : Type := Nat

inductive Primitive where
  | string
  | number
  | boolean
  | null
  | object
deriving DecidableEq, Inhabited, Repr

structure EnumMember where
  identifier : String
  value : Json
deriving DecidableEq, Repr

structure Property where
  name : String
  required : Bool
  type : NodeId
deriving DecidableEq, Repr

inductive Shape where
  | any
  | primitive (kind : Primitive)
  | literal (value : Json)
  | array (element : NodeId)
  | union (members : List NodeId)
  | intersection (members : List NodeId)
  /-- The name of a declaration that stands elsewhere. -/
  | reference (name : String)
  | namedEnum (members : List EnumMember)
  | interface (properties : List Property)
deriving DecidableEq, Inhabited, Repr

def Shape.children : Shape → List NodeId
  | .array element => [element]
  | .union members => members
  | .intersection members => members
  | .interface properties => properties.map Property.type
  | _ => []

def Shape.isNamedEnum : Shape → Bool
  | .namedEnum _ => true
  | _ => false

/-- A node with an id is written by that name wherever another type uses it. -/
structure Node where
  shape : Shape
  id : Option String := none
  description : Option String := none
deriving DecidableEq, Inhabited, Repr

/-- Simple types carry no comment and need no declaration of their own. -/
def Node.isSimple (node : Node) : Bool :=
  match node.shape with
  | .namedEnum _ => false
  | .interface _ => false
  | .union members => members.length ≤ 1
  | .intersection members => members.length ≤ 1
  | _ => true

def Node.isNull (node : Node) : Bool := node.shape = .primitive .null

/-- Nodes are numbered in the order in which they were added. -/
structure Model where
  nodes : Array Node
deriving DecidableEq, Inhabited, Repr

namespace Model

def empty : Model := ⟨#[]⟩

def size (model : Model) : Nat := model.nodes.size

/-- Numbers beyond the last node stand for a type without constraints. -/
def node (model : Model) (id : NodeId) : Node := model.nodes[id]?.getD ⟨.any, none, none⟩

/-- The new node has the number `model.size`. -/
def add (model : Model) (shape : Shape) : Model := ⟨model.nodes.push ⟨shape, none, none⟩⟩

def update (model : Model) (id : NodeId) (change : Node → Node) : Model :=
  ⟨model.nodes.modify id change⟩

def setId (model : Model) (id : NodeId) (name : Option String) : Model :=
  model.update id fun node => { node with id := name }

def setDescription (model : Model) (id : NodeId) (description : Option String) : Model :=
  model.update id fun node => { node with description }

def setShape (model : Model) (id : NodeId) (shape : Shape) : Model :=
  model.update id fun node => { node with shape }

@[simp] theorem size_add (model : Model) (shape : Shape) :
    (model.add shape).size = model.size + 1 := by
  simp [size, add]

theorem size_update (model : Model) (id : NodeId) (change : Node → Node) :
    (model.update id change).size = model.size := by
  simp [size, update]

@[simp] theorem size_setId (model : Model) (id : NodeId) (name : Option String) :
    (model.setId id name).size = model.size := size_update ..

@[simp] theorem size_setDescription (model : Model) (id : NodeId) (description : Option String) :
    (model.setDescription id description).size = model.size := size_update ..

@[simp] theorem size_setShape (model : Model) (id : NodeId) (shape : Shape) :
    (model.setShape id shape).size = model.size := size_update ..

theorem node_add (model : Model) (shape : Shape) (id : NodeId) :
    (model.add shape).node id =
      if id = model.size then ⟨shape, none, none⟩ else model.node id := by
  by_cases new : id = model.size
  · simp [node, add, size, new]
  · simp only [size] at new
    simp [node, add, size, Array.getElem?_push, new]

@[simp] theorem node_add_size (model : Model) (shape : Shape) :
    (model.add shape).node model.size = ⟨shape, none, none⟩ := by
  simp [node_add]

theorem node_add_of_lt {model : Model} {id : NodeId} (known : id < model.size) (shape : Shape) :
    (model.add shape).node id = model.node id := by
  rw [node_add, if_neg (Nat.ne_of_lt known)]

/-- A new node has no name, and neither has a number beyond all nodes. -/
@[simp] theorem id_add (model : Model) (shape : Shape) (id : NodeId) :
    ((model.add shape).node id).id = (model.node id).id := by
  rw [node_add]
  split
  · next new => simp [node, size, new]
  · rfl

theorem shape_of_size_le {model : Model} {id : NodeId} (beyond : model.size ≤ id) :
    (model.node id).shape = .any := by
  simp [node, Array.getElem?_eq_none beyond]

/-- Only nodes of the model have a shape of their own. -/
theorem lt_size_of_shape {model : Model} {id : NodeId} (shape : (model.node id).shape ≠ .any) :
    id < model.size :=
  Nat.lt_of_not_le fun beyond => shape (shape_of_size_le beyond)

theorem lt_size_of_description {model : Model} {id : NodeId}
    (described : (model.node id).description ≠ none) : id < model.size := by
  refine Nat.lt_of_not_le fun beyond => described ?_
  simp [node, Array.getElem?_eq_none beyond]

theorem node_update (model : Model) (id other : NodeId) (change : Node → Node) :
    (model.update id change).node other =
      if other = id ∧ id < model.size then change (model.node id) else model.node other := by
  by_cases same : other = id
  · subst same
    by_cases present : other < model.nodes.size <;>
      simp [node, update, size, Array.getElem_modify, present]
  · have different : id ≠ other := fun equal => same equal.symm
    simp [node, update, Array.getElem?_modify, same, different]

@[simp] theorem shape_setId (model : Model) (id other : NodeId) (name : Option String) :
    ((model.setId id name).node other).shape = (model.node other).shape := by
  rw [setId, node_update]
  split
  · next same => rw [same.1]
  · rfl

@[simp] theorem shape_setDescription (model : Model) (id other : NodeId)
    (description : Option String) :
    ((model.setDescription id description).node other).shape = (model.node other).shape := by
  rw [setDescription, node_update]
  split
  · next same => rw [same.1]
  · rfl

@[simp] theorem id_setDescription (model : Model) (id other : NodeId)
    (description : Option String) :
    ((model.setDescription id description).node other).id = (model.node other).id := by
  rw [setDescription, node_update]
  split
  · next same => rw [same.1]
  · rfl

@[simp] theorem description_setId (model : Model) (id other : NodeId) (name : Option String) :
    ((model.setId id name).node other).description = (model.node other).description := by
  rw [setId, node_update]
  split
  · next same => rw [same.1]
  · rfl

theorem description_setDescription_of_ne (model : Model) {id other : NodeId} (apart : other ≠ id)
    (description : Option String) :
    ((model.setDescription id description).node other).description =
      (model.node other).description := by
  rw [setDescription, node_update, if_neg fun same => apart same.1]

@[simp] theorem id_setShape (model : Model) (id other : NodeId) (shape : Shape) :
    ((model.setShape id shape).node other).id = (model.node other).id := by
  rw [setShape, node_update]
  split
  · next same => rw [same.1]
  · rfl

theorem shape_setShape (model : Model) (id other : NodeId) (shape : Shape) :
    ((model.setShape id shape).node other).shape =
      if other = id ∧ id < model.size then shape else (model.node other).shape := by
  rw [setShape, node_update]
  split <;> rfl

theorem id_setId (model : Model) (id other : NodeId) (name : Option String) :
    ((model.setId id name).node other).id =
      if other = id ∧ id < model.size then name else (model.node other).id := by
  rw [setId, node_update]
  split <;> rfl

theorem update_update (model : Model) (id : NodeId) (first second : Node → Node) :
    (model.update id first).update id second = model.update id (second ∘ first) := by
  simp only [update, mk.injEq]
  apply Array.ext_getElem?
  intro index
  simp only [Array.getElem?_modify]
  split <;> simp

/-- The later name of a node stands. -/
theorem setId_setId (model : Model) (id : NodeId) (first second : Option String) :
    (model.setId id first).setId id second = model.setId id second := by
  rw [setId, setId, setId, update_update]
  rfl

theorem setDescription_setId (model : Model) (id : NodeId) (name description : Option String) :
    (model.setId id name).setDescription id description =
      (model.setDescription id description).setId id name := by
  rw [setId, setId, setDescription, setDescription, update_update, update_update]
  rfl

theorem setShape_comm (model : Model) {first second : NodeId} (apart : first ≠ second)
    (shape other : Shape) :
    (model.setShape first shape).setShape second other =
      (model.setShape second other).setShape first shape := by
  simp only [setShape, update, mk.injEq]
  apply Array.ext_getElem?
  intro index
  simp only [Array.getElem?_modify]
  by_cases here : first = index
  · subst here
    simp [Ne.symm apart]
  · simp [here]

end Model
end SchemaTypes
