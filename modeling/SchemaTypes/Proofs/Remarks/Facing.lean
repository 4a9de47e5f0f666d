/-
This file compares two compilations that have come equally far and differ in descriptions only: in
those of the documents that they read, and in those of nodes. A node has another description only
where both have resolved the fragment whose description is another one.
-/
import SchemaTypes.Proofs.Build.Transition
import SchemaTypes.Proofs.Remarks.Together

namespace SchemaTypes

open Build Json

namespace Model

variable {model first second : Model}

/-- The model without its descriptions. -/
def bare (model : Model) : Model := ⟨model.nodes.map fun node => { node with description := none }⟩

theorem node_bare (model : Model) (id : NodeId) :
    model.bare.node id = { model.node id with description := none } := by
  simp only [node, bare, Array.getElem?_map]
  cases model.nodes[id]? <;> rfl

@[simp] theorem bare_add (model : Model) (shape : Shape) :
    (model.add shape).bare = model.bare.add shape := by
  simp [bare, add]

@[simp] theorem bare_setDescription (model : Model) (id : NodeId) (description : Option String) :
    (model.setDescription id description).bare = model.bare := by
  simp only [bare, setDescription, update, mk.injEq]
  apply Array.ext_getElem?
  intro index
  simp only [Array.getElem?_map, Array.getElem?_modify]
  split
  · cases model.nodes[index]? <;> rfl
  · rfl

/-- A change that has nothing to do with descriptions. -/
theorem bare_update (model : Model) (id : NodeId) {change : Node → Node}
    (apart : ∀ node : Node, { change node with description := none } =
      change { node with description := none }) :
    (model.update id change).bare = model.bare.update id change := by
  simp only [bare, update, mk.injEq]
  apply Array.ext_getElem?
  intro index
  simp only [Array.getElem?_map, Array.getElem?_modify]
  split
  · cases model.nodes[index]? with
    | none => rfl
    | some node => exact congrArg some (apart node)
  · rfl

@[simp] theorem bare_setId (model : Model) (id : NodeId) (name : Option String) :
    (model.setId id name).bare = model.bare.setId id name :=
  bare_update model id fun _ => rfl

@[simp] theorem bare_setShape (model : Model) (id : NodeId) (shape : Shape) :
    (model.setShape id shape).bare = model.bare.setShape id shape :=
  bare_update model id fun _ => rfl

theorem size_of_bare (same : second.bare = first.bare) : second.size = first.size := by
  have sizes := congrArg size same
  simpa [bare, size] using sizes

/-- Models that are equal without descriptions have nodes of the same shapes and names. -/
theorem node_of_bare (same : second.bare = first.bare) (id : NodeId) :
    (second.node id).shape = (first.node id).shape ∧ (second.node id).id = (first.node id).id := by
  have nodes := congrArg (Model.node · id) same
  simp only [node_bare, Node.mk.injEq] at nodes
  exact ⟨nodes.1, nodes.2.1⟩

@[simp] theorem description_add (model : Model) (shape : Shape) (id : NodeId) :
    ((model.add shape).node id).description = (model.node id).description := by
  rw [node_add]
  split
  · next new => simp [node, size, new]
  · rfl

@[simp] theorem description_setShape (model : Model) (id other : NodeId) (shape : Shape) :
    ((model.setShape id shape).node other).description = (model.node other).description := by
  rw [setShape, node_update]
  split
  · next same => rw [same.1]
  · rfl

/-- Only the node that is given a description changes its own. -/
theorem description_setDescription (model : Model) (id other : NodeId)
    (description : Option String) :
    ((model.setDescription id description).node other).description =
      if other = id ∧ id < model.size then description else (model.node other).description := by
  rw [setDescription, node_update]
  split <;> rfl

end Model

/-- The frames of two documents in which a fragment has different descriptions. -/
structure Frame.Alike (old new : Json) (frame frame' : Frame) : Prop where
  document : Replaced old new frame.document frame'.document
  directory : frame'.directory = frame.directory
  key : frame'.key = frame.key
  name : frame'.name = frame.name

namespace Frame.Alike

variable {old new : Json} {frame frame' : Frame} (alike : frame.Alike old new frame')

include alike

theorem ownKey : frame'.ownKey = frame.ownKey := by rw [Frame.ownKey, Frame.ownKey, alike.key]

/-- The key of a pointer does not depend on descriptions. -/
theorem pointerKey (pointer : String) : frame'.pointerKey pointer = frame.pointerKey pointer := by
  rw [Frame.pointerKey, Frame.pointerKey, alike.key]

end Frame.Alike

/-- Both compilations have resolved the fragment to a node, and the description that the node has in
one of them is the one that the fragment has there. -/
structure Described (old new : Json) (first second : Progress) (node : NodeId) : Prop where
  visited : ∃ frame frame',
    (Event.visited frame old (some node), Event.visited frame' new (some node)) ∈
      first.journal.zip second.journal
  own : (∃ text, (first.node node).description = some text ∧
      old.textField? "description" = some text) ∨
    ∃ text, (second.node node).description = some text ∧
      new.textField? "description" = some text

/-- A node keeps a description for good. -/
theorem Described.mono {old new : Json} {first second after last : Progress} {node : NodeId}
    (described : Described old new first second node)
    (events : first.journal.zip second.journal ⊆ after.journal.zip last.journal)
    (kept : ∀ text, (first.node node).description = some text →
      (after.node node).description = some text)
    (kept' : ∀ text, (second.node node).description = some text →
      (last.node node).description = some text) : Described old new after last node where
  visited := described.visited.imp fun _ => Exists.imp fun _ inside => events inside
  own := described.own.imp (Exists.imp fun text => And.imp_left (kept text))
    (Exists.imp fun text => And.imp_left (kept' text))

/-- The documents given are being resolved, and nothing differs but descriptions. -/
structure Facing (old new : Json) (frames frames' : List Frame) (first second : Progress) :
    Prop where
  opened : first.frames = frames
  opened' : second.frames = frames'
  alike : List.Forall₂ (Frame.Alike old new) frames frames'
  model : second.model.bare = first.model.bare
  declarations : second.declarations = first.declarations
  pending : second.pending = first.pending
  forced : second.forced = first.forced
  forward : second.forward = first.forward
  files : second.files = first.files
  events : second.journal.length = first.journal.length
  described : ∀ node, (second.node node).description = (first.node node).description ∨
    Described old new first second node

namespace Facing

variable {old new : Json} {frames frames' : List Frame} {first second after last : Progress}

theorem size (facing : Facing old new frames frames' first second) :
    second.model.size = first.model.size := Model.size_of_bare facing.model

section Innermost

variable {inner inner' : Frame} {outer outer' : List Frame}
  (facing : Facing old new (inner :: outer) (inner' :: outer') first second)

include facing

theorem frame : first.frame = inner := (List.cons.inj facing.opened).1

theorem frame' : second.frame = inner' := (List.cons.inj facing.opened').1

theorem innermost : inner.Alike old new inner' := (List.forall₂_cons.mp facing.alike).1

end Innermost

/-- A change of both progresses that has nothing to do with descriptions. -/
theorem keep (facing : Facing old new frames frames' first second)
    (stays : after.frames = first.frames) (stays' : last.frames = second.frames)
    (journal : after.journal = first.journal) (journal' : last.journal = second.journal)
    (kept : ∀ node, (after.node node).description = (first.node node).description)
    (kept' : ∀ node, (last.node node).description = (second.node node).description)
    (model : last.model.bare = after.model.bare)
    (declarations : last.declarations = after.declarations) (pending : last.pending = after.pending)
    (forced : last.forced = after.forced) (forward : last.forward = after.forward)
    (files : last.files = after.files) : Facing old new frames frames' after last where
  opened := stays.trans facing.opened
  opened' := stays'.trans facing.opened'
  alike := facing.alike
  model := model
  declarations := declarations
  pending := pending
  forced := forced
  forward := forward
  files := files
  events := by rw [journal, journal', facing.events]
  described node := by
    rw [kept, kept']
    refine (facing.described node).imp_right fun described => ?_
    exact described.mono (by rw [journal, journal']; exact fun _ => id)
      (fun text => (kept node).trans) fun text => (kept' node).trans

theorem note (facing : Facing old new frames frames' first second) (event event' : Event) :
    Facing old new frames frames' (first.note event) (second.note event') where
  opened := facing.opened
  opened' := facing.opened'
  alike := facing.alike
  model := facing.model
  declarations := facing.declarations
  pending := facing.pending
  forced := facing.forced
  forward := facing.forward
  files := facing.files
  events := congrArg (· + 1) facing.events
  described node := (facing.described node).imp_right fun described =>
    described.mono (fun _ => List.mem_cons_of_mem _) (fun _ => id) fun _ => id

theorem add (facing : Facing old new frames frames' first second) (shape : Shape) :
    Facing old new frames frames' (first.add shape) (second.add shape) :=
  facing.keep rfl rfl rfl rfl (fun _ => Model.description_add ..)
    (fun _ => Model.description_add ..) (by simp [Progress.add, facing.model])
    facing.declarations facing.pending facing.forced facing.forward facing.files

theorem setId (facing : Facing old new frames frames' first second) (node : NodeId)
    (id : Option String) :
    Facing old new frames frames' (first.setId node id) (second.setId node id) :=
  facing.keep rfl rfl rfl rfl (fun _ => Model.description_setId ..)
    (fun _ => Model.description_setId ..) (by simp [Progress.setId, facing.model])
    facing.declarations facing.pending facing.forced facing.forward facing.files

theorem release (facing : Facing old new frames frames' first second) (key : String) :
    Facing old new frames frames' (first.release key) (second.release key) :=
  facing.keep rfl rfl rfl rfl (fun _ => rfl) (fun _ => rfl) facing.model facing.declarations
    facing.pending (congrArg (·.erase key) facing.forced) facing.forward facing.files

theorem remember (facing : Facing old new frames frames' first second) (path : Path)
    (node : NodeId) :
    Facing old new frames frames' (first.remember path node) (second.remember path node) :=
  facing.keep rfl rfl rfl rfl (fun _ => rfl) (fun _ => rfl) facing.model facing.declarations
    facing.pending facing.forced facing.forward (congrArg ((path, node) :: ·) facing.files)

theorem refer (facing : Facing old new frames frames' first second) (key name : String) :
    Facing old new frames frames' (first.refer key name) (second.refer key name) := by
  refine facing.keep rfl rfl rfl rfl (fun _ => Model.description_add ..)
    (fun _ => Model.description_add ..) (by simp [Progress.refer, facing.model])
    facing.declarations facing.pending (congrArg (·.insert key) facing.forced) ?_ facing.files
  simp only [Progress.refer, facing.size, facing.forward]

theorem register (facing : Facing old new frames frames' first second)
    (declarations : Declarations) :
    Facing old new frames frames' { first with declarations } { second with declarations } :=
  facing.keep rfl rfl rfl rfl (fun _ => rfl) (fun _ => rfl) facing.model rfl facing.pending
    facing.forced facing.forward facing.files

/-- A node gets its name and is stored, and then this is noted. -/
theorem declare (facing : Facing old new frames frames' first second) (origin origin' : Origin)
    (key : String) (node : NodeId) (name : String) :
    Facing old new frames frames' (first.declare origin key node name)
      (second.declare origin' key node name) := by
  have stored := ((facing.setId node (some name)).register
    (first.declarations.declare key node)).note (.declared origin key node)
      (.declared origin' key node)
  have same : second.declarations.declare key node = first.declarations.declare key node := by
    rw [facing.declarations]
  unfold Progress.declare
  rw [same]
  exact stored

theorem putEnum (facing : Facing old new frames frames' first second) (name : String)
    (generated : Bool) (node : NodeId) :
    Facing old new frames frames' (first.putEnum name generated node)
      (second.putEnum name generated node) := by
  have stored := ((facing.setId node (some name)).register
    (first.declarations.putEnum name node)).note (.enumStored name generated node)
      (.enumStored name generated node)
  have same : second.declarations.putEnum name node = first.declarations.putEnum name node := by
    rw [facing.declarations]
  unfold Progress.putEnum
  rw [same]
  exact stored

theorem pend (facing : Facing old new frames frames' first second) (pending : List String) :
    Facing old new frames frames' { first with pending } { second with pending } :=
  facing.keep rfl rfl rfl rfl (fun _ => rfl) (fun _ => rfl) facing.model facing.declarations rfl
    facing.forced facing.forward facing.files

/-- Both compilations can enter the same pointer. -/
theorem enter (facing : Facing old new frames frames' first second) {frame frame' : Frame}
    (alike : frame.Alike old new frame') (pointer : String) :
    Facing old new frames frames' (first.enter frame pointer) (second.enter frame' pointer) := by
  have entered := (facing.pend (frame.pointerKey pointer :: first.pending)).note
    (.entered frame pointer) (.entered frame' pointer)
  unfold Progress.enter
  rw [facing.pending, alike.pointerKey]
  exact entered

theorem leave (facing : Facing old new frames frames' first second) (key : String) :
    Facing old new frames frames' (first.leave key) (second.leave key) := by
  have left := (facing.pend (first.pending.erase key)).note .left .left
  unfold Progress.leave
  rw [facing.pending]
  exact left

/-- Both compilations can go on with a file in which descriptions differ. -/
theorem push (facing : Facing old new frames frames' first second) {frame frame' : Frame}
    (alike : frame.Alike old new frame') :
    Facing old new (frame :: frames) (frame' :: frames') (first.push frame)
      (second.push frame') where
  opened := congrArg (frame :: ·) facing.opened
  opened' := congrArg (frame' :: ·) facing.opened'
  alike := .cons alike facing.alike
  model := facing.model
  declarations := facing.declarations
  pending := facing.pending
  forced := facing.forced
  forward := facing.forward
  files := facing.files
  events := facing.events
  described node := (facing.described node).imp_right fun described =>
    ⟨described.visited, described.own⟩

/-- Both documents are closed, and those around them are being resolved again. -/
theorem pop {frame frame' enclosing enclosing' : Frame} {outer outer' : List Frame}
    (facing : Facing old new (frame :: enclosing :: outer) (frame' :: enclosing' :: outer')
      first second) :
    Facing old new (enclosing :: outer) (enclosing' :: outer') first.pop second.pop := by
  have nested : first.outer = enclosing :: outer := (List.cons.inj facing.opened).2
  have nested' : second.outer = enclosing' :: outer' := (List.cons.inj facing.opened').2
  rw [Progress.pop_of_outer nested, Progress.pop_of_outer nested']
  exact ⟨rfl, rfl, (List.forall₂_cons.mp facing.alike).2, facing.model, facing.declarations,
    facing.pending, facing.forced, facing.forward, facing.files, facing.events, fun node =>
      (facing.described node).imp_right fun described => ⟨described.visited, described.own⟩⟩

section Adoption

variable (facing : Facing old new frames frames' first second)

include facing

theorem id (node : NodeId) : (second.node node).id = (first.node node).id :=
  (Model.node_of_bare facing.model node).2

theorem isSimple (node : NodeId) : (second.node node).isSimple = (first.node node).isSimple := by
  rw [Node.isSimple, Node.isSimple, Progress.node, (Model.node_of_bare facing.model node).1]
  rfl

/-- A fragment gives its node the same name with another description. -/
theorem adoptName {fragment fragment' : Json} (redescribed : Redescribed old new)
    (replaced : Replaced old new fragment fragment') (site : Site) (node : NodeId) :
    Facing old new frames frames' (adoptName fragment site node first)
      (adoptName fragment' site node second) := by
  unfold Build.adoptName
  rw [facing.id, replaced.declaredName? redescribed]
  split
  · split
    · exact facing
    · split
      · exact facing.setId node _
      · exact facing.declare _ _ _ _ _
  · exact facing

omit facing in
/-- A description is adopted only by the node itself, and only if the node has none. -/
theorem exists_adopted (fragment : Json) (node : NodeId) (progress : Progress) :
    ∃ model : Model, adoptDescription fragment node progress = { progress with model } ∧
      model.bare = progress.model.bare ∧
      ∀ other, (model.node other).description =
        if other = node ∧ node < progress.model.size then
          ((progress.node node).description).or (fragment.textField? "description")
        else (progress.node other).description := by
  unfold adoptDescription
  cases present : (progress.node node).description with
  | none =>
      exact ⟨_, rfl, Model.bare_setDescription .., fun other =>
        Model.description_setDescription ..⟩
  | some text =>
      refine ⟨progress.model, rfl, rfl, fun other => ?_⟩
      split
      · next same =>
        rw [same.1]
        exact present
      · rfl

/-- A node keeps its description, and one that has none takes over the description of its fragment.
If this differs, both compilations have just resolved the fragment to the node. -/
theorem visit {fragment fragment' : Json} (redescribed : Redescribed old new)
    (replaced : Replaced old new fragment fragment') (frame frame' : Frame) (node : NodeId) :
    Facing old new frames frames'
      ((adoptDescription fragment node first).note (.visited frame fragment (some node)))
      ((adoptDescription fragment' node second).note (.visited frame' fragment' (some node))) := by
  obtain ⟨model, adopted, bare, descriptions⟩ := exists_adopted fragment node first
  obtain ⟨model', adopted', bare', descriptions'⟩ := exists_adopted fragment' node second
  rw [adopted, adopted']
  refine ⟨facing.opened, facing.opened', facing.alike, bare'.trans (facing.model.trans bare.symm),
    facing.declarations, facing.pending, facing.forced, facing.forward, facing.files,
    congrArg (· + 1) facing.events, fun other => ?_⟩
  have kept (text : String) (present : (first.node other).description = some text) :
      (model.node other).description = some text := by
    rw [descriptions]
    split
    · next same => rw [← same.1, present, Option.some_or]
    · exact present
  have kept' (text : String) (present : (second.node other).description = some text) :
      (model'.node other).description = some text := by
    rw [descriptions']
    split
    · next same => rw [← same.1, present, Option.some_or]
    · exact present
  rcases facing.described other with same | described
  · change (model'.node other).description = (model.node other).description ∨ _
    by_cases here : other = node ∧ node < first.model.size
    · obtain ⟨rfl, known⟩ := here
      have mine := (descriptions other).trans (if_pos ⟨rfl, known⟩)
      have theirs := (descriptions' other).trans (if_pos ⟨rfl, facing.size ▸ known⟩)
      rw [same] at theirs
      cases present : (first.node other).description with
      | some text =>
          rw [present, Option.some_or] at mine theirs
          exact .inl (theirs.trans mine.symm)
      | none =>
          rw [present, Option.none_or] at mine theirs
          by_cases apart : fragment = old ∧ fragment' = new
          · obtain ⟨rfl, rfl⟩ := apart
            cases text : fragment.textField? "description" with
            | some words => exact .inr ⟨⟨frame, frame', List.mem_cons_self⟩,
                .inl ⟨words, mine.trans text, text⟩⟩
            | none =>
                cases text' : fragment'.textField? "description" with
                | some words => exact .inr ⟨⟨frame, frame', List.mem_cons_self⟩,
                    .inr ⟨words, theirs.trans text', text'⟩⟩
                | none => exact .inl (theirs.trans (text'.trans (mine.trans text).symm))
          · rw [replaced.description? redescribed apart] at theirs
            exact .inl (theirs.trans mine.symm)
    · rw [descriptions, descriptions', facing.size, if_neg here, if_neg here]
      exact .inl same
  · exact .inr (described.mono (fun _ => List.mem_cons_of_mem _) kept kept')

end Adoption
end Facing

end SchemaTypes
