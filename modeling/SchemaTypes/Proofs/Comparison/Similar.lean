/-
This file compares models that differ in names only, and the progresses of two compilations that
have such models and otherwise everything in common.
-/
import SchemaTypes.Proofs.Build.Sound

namespace SchemaTypes

open Build

/-- The shape without the name of a reference. -/
def Shape.anonymous : Shape → Shape
  | .reference _ => .reference ""
  | shape => shape

/-- Two nodes differ at most in the text of their names. -/
structure Node.Similar (first second : Node) : Prop where
  shape : second.shape.anonymous = first.shape.anonymous
  id : second.id.isSome = first.id.isSome
  description : second.description = first.description

namespace Node.Similar

variable {first second : Node}

/-- A node differs from itself in nothing. -/
theorem refl (node : Node) : node.Similar node := ⟨rfl, rfl, rfl⟩

/-- Whether a type is simple does not depend on names. -/
theorem isSimple_eq (similar : first.Similar second) : second.isSimple = first.isSimple := by
  have shape := similar.shape
  unfold Node.isSimple
  cases one : first.shape <;> cases other : second.shape <;>
    simp_all [Shape.anonymous]

/-- Whether a node is a named enum does not depend on names. -/
theorem isNamedEnum_eq (similar : first.Similar second) :
    second.shape.isNamedEnum = first.shape.isNamedEnum := by
  have shape := similar.shape
  cases one : first.shape <;> cases other : second.shape <;>
    simp_all [Shape.anonymous, Shape.isNamedEnum]

/-- Similar nodes have names both or neither. -/
theorem isNone_eq (similar : first.Similar second) : second.id.isNone = first.id.isNone := by
  rw [← Option.not_isSome, ← Option.not_isSome, similar.id]

end Node.Similar

/-- Two models differ at most in names. -/
structure Model.Similar (first second : Model) : Prop where
  size : second.size = first.size
  nodes : ∀ node, (first.node node).Similar (second.node node)

namespace Model.Similar

variable {first second : Model}

/-- A model differs from itself in nothing. -/
theorem refl (model : Model) : model.Similar model := ⟨rfl, fun node => .refl (model.node node)⟩

/-- Shapes that differ in the name of a reference may be added on both sides. -/
theorem add (similar : first.Similar second) {shape other : Shape}
    (same : other.anonymous = shape.anonymous) : (first.add shape).Similar (second.add other) where
  size := by simp [similar.size]
  nodes node := by
    rw [node_add, node_add, similar.size]
    split
    · exact ⟨same, rfl, rfl⟩
    · exact similar.nodes node

/-- A change that keeps nodes similar keeps models similar. -/
theorem update (similar : first.Similar second) (id : NodeId) {change other : Node → Node}
    (same : ∀ node node' : Node, node.Similar node' → (change node).Similar (other node')) :
    (first.update id change).Similar (second.update id other) where
  size := by simp [size_update, similar.size]
  nodes node := by
    rw [node_update, node_update, similar.size]
    split
    · exact same _ _ (similar.nodes id)
    · exact similar.nodes node

/-- Different names may be set on both sides, as long as there is one on both or on neither. -/
theorem setId (similar : first.Similar second) (node : NodeId) {name other : Option String}
    (same : other.isSome = name.isSome) :
    (first.setId node name).Similar (second.setId node other) :=
  similar.update node fun _ _ alike => ⟨alike.shape, same, alike.description⟩

theorem setDescription (similar : first.Similar second) (node : NodeId)
    (description : Option String) :
    (first.setDescription node description).Similar (second.setDescription node description) :=
  similar.update node fun _ _ alike => ⟨alike.shape, alike.id, rfl⟩

/-- A reference may be bound to different names on both sides. -/
theorem setShape (similar : first.Similar second) (node : NodeId) {shape other : Shape}
    (same : other.anonymous = shape.anonymous) :
    (first.setShape node shape).Similar (second.setShape node other) :=
  similar.update node fun _ _ alike => ⟨same, alike.id, alike.description⟩

end Model.Similar

/-- Two progresses have everything in common but the names in their models, and where names are the
same, these too. -/
inductive Twin (names : Prop) (first : Progress) : Progress → Prop where
  | intro (model : Model) (sound : first.Sound) (similar : first.model.Similar model)
      (exact : names → model = first.model) : Twin names first { first with model }

namespace Twin

variable {names : Prop} {first second : Progress}

/-- A compilation whose nodes are in order is its own twin. -/
theorem refl {progress : Progress} (sound : progress.Sound) : Twin names progress progress :=
  .intro progress.model sound (.refl progress.model) fun _ => rfl

theorem sound (twin : Twin names first second) : first.Sound := by
  cases twin
  assumption

theorem similar (twin : Twin names first second) : first.model.Similar second.model := by
  cases twin
  assumption

/-- Where names are compared as well, twins are the same. -/
theorem eq (twin : Twin names first second) (same : names) : second = first := by
  obtain ⟨model, _, _, exact⟩ := twin
  rw [exact same]

/-- A change that has nothing to do with the model. -/
theorem change (twin : Twin names first second) (change : Progress → Progress)
    (apart : ∀ model, change { first with model } = { change first with model })
    (model : (change first).model = first.model) (sound : (change first).Sound) :
    Twin names (change first) (change second) := by
  obtain ⟨other, _, similar, exact⟩ := twin
  rw [apart other]
  exact .intro other sound (model ▸ similar) fun same => (exact same).trans model.symm

/-- Both sides note one event. -/
theorem note (twin : Twin names first second) (event : Event) :
    Twin names (first.note event) (second.note event) :=
  twin.change (·.note event) (fun _ => rfl) rfl (twin.sound.keep rfl rfl rfl rfl)

theorem release (twin : Twin names first second) (key : String) :
    Twin names (first.release key) (second.release key) :=
  twin.change (·.release key) (fun _ => rfl) rfl (twin.sound.keep rfl rfl rfl rfl)

theorem push (twin : Twin names first second) (frame : Frame) :
    Twin names (first.push frame) (second.push frame) :=
  twin.change (·.push frame) (fun _ => rfl) rfl (twin.sound.keep rfl rfl rfl rfl)

theorem pop (twin : Twin names first second) : Twin names first.pop second.pop := by
  refine twin.change (·.pop) (fun model => ?_) ?_ twin.sound.pop <;>
    cases nested : first.outer <;> simp [Progress.pop, nested]

theorem enter (twin : Twin names first second) (frame : Frame) (pointer : String) :
    Twin names (first.enter frame pointer) (second.enter frame pointer) :=
  twin.change (·.enter frame pointer) (fun _ => rfl) rfl (twin.sound.keep rfl rfl rfl rfl)

theorem leave (twin : Twin names first second) (key : String) :
    Twin names (first.leave key) (second.leave key) :=
  twin.change (·.leave key) (fun _ => rfl) rfl (twin.sound.keep rfl rfl rfl rfl)

/-- Both sides remember the same node for a file. -/
theorem remember (twin : Twin names first second) (path : Path) {node : NodeId}
    (known : node < first.model.size) :
    Twin names (first.remember path node) (second.remember path node) :=
  twin.change (·.remember path node) (fun _ => rfl) rfl (twin.sound.remember path known)

/-- A new node has the same number on both sides. -/
theorem add (twin : Twin names first second) {shape other : Shape}
    (children : ∀ child ∈ shape.children, child < first.model.size)
    (same : other.anonymous = shape.anonymous) (named : names → other = shape) :
    Twin names (first.add shape) (second.add other) := by
  obtain ⟨model, sound, similar, exact⟩ := twin
  refine .intro (model.add other) (sound.add children) (similar.add same) fun holds => ?_
  rw [exact holds, named holds]
  rfl

theorem setId (twin : Twin names first second) (node : NodeId) {id other : Option String}
    (same : other.isSome = id.isSome) (named : names → other = id) :
    Twin names (first.setId node id) (second.setId node other) := by
  obtain ⟨model, sound, similar, exact⟩ := twin
  refine .intro (model.setId node other) (sound.setId node id) (similar.setId node same)
    fun holds => ?_
  rw [exact holds, named holds]
  rfl

theorem setDescription (twin : Twin names first second) (node : NodeId)
    (description : Option String) :
    Twin names (first.setDescription node description)
      (second.setDescription node description) := by
  obtain ⟨model, sound, similar, exact⟩ := twin
  refine .intro (model.setDescription node description) (sound.setDescription node description)
    (similar.setDescription node description) fun holds => ?_
  rw [exact holds]
  rfl

/-- A node may be declared under different names on both sides, but under one key. -/
theorem declare (twin : Twin names first second) (origin : Origin) (key : String) {node : NodeId}
    (known : node < first.model.size) {name other : String} (named : names → other = name) :
    Twin names (first.declare origin key node name) (second.declare origin key node other) := by
  obtain ⟨model, sound, similar, exact⟩ := twin
  refine .intro (model.setId node (some other)) (sound.declare origin key name known)
    (similar.setId node rfl) fun holds => ?_
  rw [exact holds, named holds]
  rfl

/-- A named enum is stored under one name on both sides. -/
theorem putEnum (twin : Twin names first second) (name : String) (generated : Bool)
    {node : NodeId} (known : node < first.model.size) :
    Twin names (first.putEnum name generated node) (second.putEnum name generated node) := by
  obtain ⟨model, sound, similar, exact⟩ := twin
  refine .intro (model.setId node (some name)) (sound.putEnum name generated known)
    (similar.setId node rfl) fun holds => ?_
  rw [exact holds]
  rfl

/-- A forward reference may show different names on both sides, but it waits for one key. -/
theorem refer (twin : Twin names first second) (key : String) {name other : String}
    (named : names → other = name) :
    Twin names (first.refer key name) (second.refer key other) := by
  obtain ⟨model, sound, similar, exact⟩ := twin
  have size : ({ first with model } : Progress).refer key other =
      { first.refer key name with model := model.add (.reference (Identifier.ofName other)) } := by
    simp [Progress.refer, similar.size]
  rw [size]
  refine .intro _ (sound.refer key name) (similar.add rfl) fun holds => ?_
  rw [exact holds, named holds]
  rfl

end Twin
end SchemaTypes
