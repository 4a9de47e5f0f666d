/-
This file says which nodes are unions or intersections, however ambiguous the keys of references
are. Main statement: they are the nodes of the fragments that list members, and they have as many
members as these.
-/
import SchemaTypes.Proofs.Build.Anatomy
import SchemaTypes.Proofs.Comparison.Abreast
import SchemaTypes.Proofs.Declarations.Emission

namespace SchemaTypes

open Build

/-- The head of a shape that joins members, and their number. -/
def Shape.junction? : Shape → Option Top
  | .union members => some ⟨.union, members.length⟩
  | .intersection members => some ⟨.intersection, members.length⟩
  | _ => none

def Head.joins : Head → Bool
  | .union => true
  | .intersection => true
  | _ => false

/-- The head of a fragment that lists members of its own, and their number. -/
def Json.junction? (fragment : Json) : Option Top :=
  (fragment.outline?.filter (·.head.joins)).map fun outline => ⟨outline.head, outline.parts.length⟩

namespace Json

variable {fragment : Json}

/-- A fragment whose outline joins members has their number. -/
theorem junction?_of_outline? {outline : Outline} (outlined : fragment.outline? = some outline)
    (joins : outline.head.joins = true) :
    fragment.junction? = some ⟨outline.head, outline.parts.length⟩ := by
  simp [junction?, outlined, joins]

/-- A fragment whose outline joins nothing has no members. -/
theorem junction?_eq_none {outline : Outline} (outlined : fragment.outline? = some outline)
    (plain : outline.head.joins = false) : fragment.junction? = none := by
  simp [junction?, outlined, plain]

/-- The outline of an interface joins nothing. -/
theorem interfaceOutline_joins : fragment.interfaceOutline.head.joins = false := by
  unfold interfaceOutline
  dsimp only
  repeat' split
  all_goals rfl

/-- The outline of a named enum joins nothing. -/
theorem enumOutline?_joins {outline : Outline} (outlined : fragment.enumOutline? = some outline) :
    outline.head.joins = false := by
  unfold enumOutline? at outlined
  split at outlined
  · split at outlined
    · obtain ⟨members, -, rfl⟩ := Option.map_eq_some_iff.mp outlined
      rfl
    · cases outlined
  · cases outlined

end Json

namespace Progress

/-- A node was made of a fragment that joins members. -/
def Joins (progress : Progress) (node : NodeId) (top : Top) : Prop :=
  ∃ frame fragment, .visited frame fragment (some node) ∈ progress.journal ∧
    fragment.junction? = some top

/-- The nodes that join members are those of the fragments that do. -/
def Joined (progress : Progress) : Prop :=
  ∀ node top, (progress.node node).shape.junction? = some top ↔ progress.Joins node top

/-- The shapes are the same, and the fragments that join members have been visited before. -/
structure Alike (before after : Progress) : Prop where
  shape : ∀ node, (after.node node).shape = (before.node node).shape
  joins : ∀ node top, after.Joins node top ↔ before.Joins node top

variable {before middle after : Progress} {fragment : Json} {node : NodeId} {top : Top}

/-- What was made of what can be read off the journal. -/
theorem joins_of_journal (same : after.journal = before.journal) :
    after.Joins node top ↔ before.Joins node top := by
  rw [Joins, Joins, same]

/-- Only the visit of a fragment that joins members adds to what is joined. -/
theorem joins_of_cons {event : Event} (journal : after.journal = event :: before.journal)
    (plain : ∀ frame fragment, event = .visited frame fragment (some node) →
      fragment.junction? = none) : after.Joins node top ↔ before.Joins node top := by
  rw [Joins, Joins, journal]
  constructor
  · rintro ⟨frame, fragment, visited, joins⟩
    rcases List.mem_cons.mp visited with here | earlier
    · rw [plain frame fragment here.symm] at joins
      cases joins
    · exact ⟨frame, fragment, earlier, joins⟩
  · rintro ⟨frame, fragment, visited, joins⟩
    exact ⟨frame, fragment, List.mem_cons_of_mem _ visited, joins⟩

/-- The node of a fragment that is visited joins what the fragment joins. -/
theorem joins_visited {frame : Frame} :
    (before.note (.visited frame fragment (some node))).Joins node top ↔
      fragment.junction? = some top ∨ before.Joins node top := by
  constructor
  · rintro ⟨frame, visited, member, joins⟩
    rcases List.mem_cons.mp member with same | earlier
    · injection same with _ sameFragment
      exact .inl (sameFragment ▸ joins)
    · exact .inr ⟨frame, visited, earlier, joins⟩
  · rintro (joins | ⟨frame, visited, member, joins⟩)
    · exact ⟨_, _, List.mem_cons_self, joins⟩
    · exact ⟨frame, visited, List.mem_cons_of_mem _ member, joins⟩

namespace Alike

/-- Changes that say nothing new about members say nothing new together. -/
theorem trans (first : before.Alike middle) (second : middle.Alike after) : before.Alike after :=
  ⟨fun node => (second.shape node).trans (first.shape node),
    fun node top => (second.joins node top).trans (first.joins node top)⟩

/-- Changes of anything but the model and the journal make no difference. -/
theorem keep (model : after.model = before.model) (journal : after.journal = before.journal) :
    before.Alike after :=
  ⟨fun node => by rw [Progress.node, model]; rfl, fun _ _ => joins_of_journal journal⟩

/-- An event says nothing new about members unless it visits a fragment that has some. -/
theorem cons {event : Event} (model : after.model = before.model)
    (journal : after.journal = event :: before.journal) (plain : ∀ frame fragment node,
      event = .visited frame fragment (some node) → fragment.junction? = none) :
    before.Alike after :=
  ⟨fun node => by rw [Progress.node, model]; rfl,
    fun _ _ => joins_of_cons journal fun frame fragment => plain frame fragment _⟩

/-- Names, descriptions and declarations say nothing about members. -/
theorem of_retouched (retouched : Retouched before after) : before.Alike after := by
  refine ⟨retouched.shape, fun node top => ?_⟩
  rcases retouched.journal with same | ⟨origin, key, declared, same⟩
  · exact joins_of_journal same
  · exact joins_of_cons same nofun

/-- Storing an enum says nothing about members. -/
theorem putEnum (name : String) (generated : Bool) (node : NodeId) :
    before.Alike (before.putEnum name generated node) :=
  ⟨fun _ => Model.shape_setId .., fun _ _ => joins_of_cons rfl nofun⟩

/-- Declaring a node says nothing about members. -/
theorem declare (origin : Origin) (key : String) (node : NodeId) (name : String) :
    before.Alike (before.declare origin key node name) :=
  ⟨fun _ => Model.shape_setId .., fun _ _ => joins_of_cons rfl nofun⟩

end Alike

namespace Joined

/-- There are no nodes at the beginning. -/
theorem start (frame : Frame) : (Progress.start frame).Joined := by
  intro node top
  simp [Progress.start, Progress.node, Model.empty, Model.node, Shape.junction?, Joins]

/-- Changes that say nothing new about members keep what is known of them. -/
theorem alike (joined : before.Joined) (alike : before.Alike after) : after.Joined := by
  intro node top
  rw [alike.shape, alike.joins]
  exact joined node top

/-- Nothing is said of nodes that are still to be made. -/
theorem not_joins (joined : before.Joined) : ¬before.Joins before.model.size top := by
  intro joins
  have shape := (joined _ _).mpr joins
  rw [Progress.node, Model.shape_of_size_le (Nat.le_refl _)] at shape
  cases shape

/-- A node that joins nothing may be added. -/
theorem add (joined : before.Joined) {shape : Shape} (plain : shape.junction? = none) :
    (before.add shape).Joined := by
  intro node top
  rw [joins_of_journal (show (before.add shape).journal = before.journal from rfl), Progress.node,
    Progress.add, Model.node_add]
  split
  · next new =>
    rw [plain, new]
    exact iff_of_false (Option.some_ne_none _).symm joined.not_joins
  · exact joined node top

/-- A new node and the fragment that it is made of join the same. -/
theorem visit (joined : before.Joined) {shape : Shape} (same : shape.junction? = fragment.junction?)
    (alike : (before.add shape).Alike after) (frame : Frame) :
    (after.note (.visited frame fragment (some before.model.size))).Joined := by
  intro node top
  have earlier : after.Joins node top ↔ before.Joins node top := alike.joins node top
  have shapes : ((after.note (.visited frame fragment (some before.model.size))).node node).shape =
      ((before.model.add shape).node node).shape := alike.shape node
  rw [shapes, Model.node_add]
  by_cases new : node = before.model.size
  · subst new
    rw [if_pos rfl, joins_visited, earlier, same]
    exact (or_iff_left joined.not_joins).symm
  · rw [if_neg new, @joins_of_cons after _ _ _ _ rfl, earlier]
    · exact joined node top
    · intro _ _ visited
      injection visited with _ _ sameNode
      exact absurd (Option.some.inj sameNode).symm new

end Joined
end Progress

namespace Build

/-- A successful step keeps what is known of the nodes that join members. -/
def Keeping : Effect := fun _ _ before outcome after =>
  ∀ node, outcome = .ok node → before.Joined → after.Joined

/-- How a fragment is settled: its node is new and joins what the fragment joins, or the fragment
joins nothing of its own. -/
inductive Settled (fragment : Json) (node : NodeId) (built : Progress) : Prop where
  | made {middle : Progress} {shape : Shape} (joined : middle.Joined)
      (same : shape.junction? = fragment.junction?) (new : node = middle.model.size)
      (alike : (middle.add shape).Alike built) : Settled fragment node built
  | answered (joined : built.Joined) (plain : fragment.junction? = none) :
      Settled fragment node built

variable {context : Context} {resolve : Resolver} {fragment : Json} {before middle built : Progress}
  {node : NodeId}

/-- A settled fragment is visited with the node that it deserves. -/
theorem Settled.note {frame : Frame} (settled : Settled fragment node built) (site : Site) :
    ((adoptDescription fragment node (adoptName fragment site node built)).note
      (.visited frame fragment (some node))).Joined := by
  have adopted := Progress.Alike.of_retouched (adopted_retouched fragment site node built)
  cases settled with
  | made joined same new alike =>
      subst new
      exact joined.visit same (alike.trans adopted) frame
  | answered joined plain =>
      refine (joined.alike adopted).alike (.cons rfl rfl ?_)
      intro _ _ _ visited
      injection visited with _ sameFragment
      exact sameFragment ▸ plain

/-- A new node settles the fragment whose members it joins. -/
theorem allocate_settled (joined : middle.Joined) {shape : Shape}
    (same : shape.junction? = fragment.junction?)
    (allocated : allocate shape middle = .ok node built) : Settled fragment node built := by
  simp only [allocate_apply, EStateM.Result.ok.injEq] at allocated
  obtain ⟨rfl, rfl⟩ := allocated
  exact .made joined same rfl (.keep rfl rfl)

/-- What joins nothing is added for a fragment that joins nothing. -/
theorem allocate_plain (joined : middle.Joined) {shape : Shape} (leaf : shape.junction? = none)
    (plain : fragment.junction? = none) (allocated : allocate shape middle = .ok node built) :
    Settled fragment node built :=
  allocate_settled joined (leaf.trans plain.symm) allocated

/-- Steps that keep what is known of members do so one after the other. -/
theorem each_joined {α β : Type} {act : α → Build β}
    (part : ∀ member before value after, before.Joined → act member before = .ok value after →
      after.Joined) {members : List α} :
    ∀ {before values after}, before.Joined → each act members before = .ok values after →
      after.Joined := by
  induction members with
  | nil =>
      intro before values after joined taken
      simp only [each, pure_apply, EStateM.Result.ok.injEq] at taken
      obtain ⟨-, rfl⟩ := taken
      exact joined
  | cons member members inductionHypothesis =>
      intro before values after joined taken
      simp only [each, bind_eq_ok, pure_apply, EStateM.Result.ok.injEq] at taken
      obtain ⟨first, middle, firstTaken, rest, last, restTaken, -, rfl⟩ := taken
      exact inductionHypothesis (part _ _ _ _ joined firstTaken) restTaken

/-- An enum joins its literals. -/
theorem buildEnum_settled (joined : before.Joined) (enum : Rule.classify fragment = .enum)
    (done : buildEnum fragment before = .ok node built) : Settled fragment node built := by
  cases listed : fragment.itemsField? "enum" with
  | none => simp [buildEnum, listed] at done
  | some values =>
      simp only [buildEnum, listed, bind_eq_ok] at done
      obtain ⟨nodes, middle, literals, allocated⟩ := done
      have length := each_length literals
      refine allocate_settled (each_joined ?_ joined literals) ?_ allocated
      · intro value before node after joined added
        simp only [allocate_apply, EStateM.Result.ok.injEq] at added
        obtain ⟨-, rfl⟩ := added
        exact joined.add rfl
      · have outlined : fragment.outline? =
            some ⟨.union, values.map fun value => .leaf (.literal value)⟩ := by
          simp [Json.outline?, enum, listed]
        rw [Json.junction?_of_outline? outlined rfl, List.length_map, ← length]
        rfl

/-- A named enum is settled: neither its fragment nor its node joins anything. -/
theorem buildNamedEnum_settled (joined : before.Joined)
    (enum : Rule.classify fragment = .namedEnum) {property : Option String}
    (done : buildNamedEnum fragment property before = .ok node built) :
    Settled fragment node built := by
  have plain : fragment.junction? = none := by
    cases outlined : fragment.outline? with
    | none => rw [Json.junction?, outlined]; rfl
    | some outline =>
        have enumOutlined : fragment.enumOutline? = some outline := by
          rw [← outlined, Json.outline?, enum]
        exact Json.junction?_eq_none outlined (Json.enumOutline?_joins enumOutlined)
  cases values : fragment.itemsField? "enum" with
  | none => simp [buildNamedEnum, values] at done
  | some enumValues =>
      cases names : fragment.itemsField? "tsEnumNames" with
      | none => simp [buildNamedEnum, values, names] at done
      | some enumNames =>
          simp only [buildNamedEnum, values, names] at done
          split at done
          · simp [bind_eq_ok] at done
          · cases found : enumMembers? enumNames enumValues with
            | none => simp [found] at done
            | some members =>
                simp only [found, get_bind, bind_eq_ok, allocate_apply, modify_bind, pure_apply,
                  EStateM.Result.ok.injEq] at done
                obtain ⟨made, middle, ⟨rfl, rfl⟩, rfl, rfl⟩ := done
                exact @Settled.made _ _ _ before (.namedEnum members) joined plain.symm rfl
                  (.putEnum ..)

section Builders

variable (obeys : Obeys Keeping resolve) (joined : before.Joined)

include obeys

/-- Resolving another fragment keeps what is known of members. -/
theorem resolve_joined (fragment : Json) (site : Site) (before : Progress) (node : NodeId)
    (after : Progress) (joined : before.Joined)
    (resolved : resolve fragment site before = .ok node after) : after.Joined :=
  obeys fragment site before (.ok node) after resolved node rfl joined

include joined

/-- An array is settled: neither its fragment nor its node joins anything. -/
theorem buildArray_settled {items : Option Json} (plain : fragment.junction? = none)
    (done : buildArray resolve items before = .ok node built) : Settled fragment node built := by
  cases items with
  | none =>
      simp only [buildArray, bind_eq_ok, allocate_apply, EStateM.Result.ok.injEq] at done
      obtain ⟨element, middle, ⟨-, rfl⟩, rfl, rfl⟩ := done
      exact .answered ((joined.add rfl).add rfl) plain
  | some items =>
      simp only [buildArray, bind_eq_ok] at done
      obtain ⟨element, middle, resolved, allocated⟩ := done
      exact allocate_plain (resolve_joined obeys _ _ _ _ _ joined resolved) rfl plain allocated

/-- The members of a union or of an intersection. -/
theorem members_settled {values : List Json} {part : Json → Json} {head : Head}
    {make : List NodeId → Shape}
    (outlined : fragment.outline? = some ⟨head, values.map fun value => .fragment (part value)⟩)
    (joins : head.joins = true)
    (same : ∀ nodes, (make nodes).junction? = some ⟨head, nodes.length⟩)
    (done : (do
      let nodes ← each (fun value => resolve (part value) .inner) values
      allocate (make nodes)) before = .ok node built) : Settled fragment node built := by
  obtain ⟨nodes, middle, resolved, allocated⟩ := bind_eq_ok.mp done
  have length := each_length resolved
  refine allocate_settled
    (each_joined (fun value => resolve_joined obeys (part value) .inner) joined resolved) ?_
    allocated
  rw [Json.junction?_of_outline? outlined joins, List.length_map, ← length]
  exact same nodes

/-- An interface is settled: neither its fragment nor its node joins anything. -/
theorem buildInterface_settled (outlined : fragment.outline? = some fragment.interfaceOutline)
    (done : buildInterface resolve fragment before = .ok node built) :
    Settled fragment node built := by
  have plain := Json.junction?_eq_none outlined Json.interfaceOutline_joins
  simp only [buildInterface, bind_eq_ok] at done
  obtain ⟨properties, middle, resolved, done⟩ := done
  have onward : middle.Joined := by
    refine each_joined ?_ joined resolved
    rintro ⟨name, part⟩ before property after joined made
    simp only [bind_eq_ok, pure_apply, EStateM.Result.ok.injEq] at made
    obtain ⟨type, last, partResolved, -, rfl⟩ := made
    exact resolve_joined obeys _ _ _ _ _ joined partResolved
  have leaf {shape : Shape} (noJunction : shape.junction? = none)
      (allocated : allocate shape middle = .ok node built) : Settled fragment node built :=
    allocate_plain onward noJunction plain allocated
  have indexed {act : Build NodeId}
      (keeps : ∀ type last, act middle = .ok type last → last.Joined)
      (made : (do
        let type ← act
        allocate (.interface (properties ++ [(⟨indexSignature, true, type⟩ : Property)]))) middle =
          .ok node built) : Settled fragment node built := by
    obtain ⟨type, last, typeMade, allocated⟩ := bind_eq_ok.mp made
    exact allocate_plain (keeps type last typeMade) rfl plain allocated
  have any (type : NodeId) (last : Progress) (added : allocate .any middle = .ok type last) :
      last.Joined := by
    simp only [allocate_apply, EStateM.Result.ok.injEq] at added
    obtain ⟨-, rfl⟩ := added
    exact onward.add rfl
  cases additional : fragment.get? "additionalProperties" with
  | none =>
      simp only [additional] at done
      split at done
      · split at done
        · exact leaf rfl done
        · exact leaf rfl done
      · exact indexed any done
  | some value =>
      cases value with
      | object fields =>
          simp only [additional] at done
          exact indexed (fun type last => resolve_joined obeys _ _ _ type last onward) done
      | bool allowed =>
          cases allowed with
          | true =>
              simp only [additional] at done
              split at done
              · exact leaf rfl done
              · exact indexed any done
          | false =>
              simp only [additional] at done
              exact leaf rfl done
      | _ =>
          simp only [additional] at done
          exact leaf rfl done

end Builders

theorem journal_pop (progress : Progress) : progress.pop.journal = progress.journal := by
  unfold Progress.pop
  split <;> rfl

/-- Finishing a file adds a reference at most, which joins nothing. -/
theorem finishFile_joined {settings : Settings} {path : Path} {loaded : NodeId}
    (joined : before.Joined) (finished : finishFile settings path node before = .ok loaded built) :
    built.Joined := by
  obtain ⟨middle, retouched, ⟨-, -, rfl⟩ | ⟨-, name, rfl⟩⟩ := finishFile_cases finished
  · exact (joined.alike (.of_retouched retouched)).alike (.keep rfl rfl)
  · have added : (middle.add (.reference name)).Joined :=
      (joined.alike (.of_retouched retouched)).add rfl
    exact added.alike (.keep rfl rfl)

/-- The answer to a reference is a node that there was, a reference, or the node of the target. -/
theorem joined_of_target? {property : Option String} {target : Target}
    (refers : fragment.target? = some target) (joined : before.Joined)
    (answered : Built context Keeping fragment property before (.ok node) built) :
    built.Joined := by
  have referred (key name : String) : (before.refer key name).Joined := by
    have added : (before.add (.reference (Identifier.ofName name))).Joined := joined.add rfl
    exact added.alike (.keep rfl rfl)
  cases answered with
  | made own => cases own.symm.trans refers
  | enumStored outlined => cases (Json.target?_eq_none outlined).symm.trans refers
  | documentReferred => exact referred _ _
  | pointerStored => exact joined.alike (.cons rfl rfl nofun)
  | pointerReferred => exact (referred _ _).alike (.cons rfl rfl nofun)
  | pointerLost =>
      have added : (before.add .any).Joined := joined.add rfl
      exact added.alike (.cons rfl rfl nofun)
  | pointerFinished asks missing fresh found resolved =>
      have last := resolved _ rfl (joined.alike (.cons rfl rfl nofun))
      have left {key : String} := last.alike (@Progress.Alike.cons _ (Progress.leave _ key) .left
        rfl rfl nofun)
      exact (left.alike (.of_retouched (finishPointer_retouched ..))).alike (.cons rfl rfl nofun)
  | fileStored => exact joined.alike (.cons rfl rfl nofun)
  | fileReferred => exact (referred _ _).alike (.cons rfl rfl nofun)
  | fileFinished asks here missing fresh served resolved finished =>
      have last := resolved _ rfl (joined.alike (.cons rfl rfl nofun))
      have popped := last.alike (.keep (Progress.model_pop _) (journal_pop _))
      exact (finishFile_joined popped finished).alike (.cons rfl rfl nofun)

/-- A reference shares the node of its target or adds one that joins nothing. -/
theorem buildReference_joined {property : Option String} (joined : before.Joined)
    (obeys : Obeys Keeping resolve) (reference : Rule.classify fragment = .reference)
    (done : buildReference context resolve fragment property before = .ok node built) :
    built.Joined := by
  cases field : fragment.textField? "$ref" with
  | none =>
      simp only [buildReference, field, allocate_apply, EStateM.Result.ok.injEq] at done
      obtain ⟨-, rfl⟩ := done
      exact joined.add rfl
  | some text =>
      have refers : fragment.target? = some (Target.ofReference text) := by
        simp [Json.target?, reference, field]
      have answered : Built context Keeping fragment property before (.ok node) built :=
        buildReference_built obeys reference done
      exact joined_of_target? refers joined answered

/-- Every rule settles its fragment. -/
theorem buildNode_settled {property : Option String} (joined : before.Joined)
    (obeys : Obeys Keeping resolve)
    (done : buildNode context resolve fragment property before = .ok node built) :
    Settled fragment node built := by
  unfold buildNode at done
  cases rule : Rule.classify fragment with
  | typedArray =>
      simp only [rule] at done
      have plain : fragment.junction? = none := by
        simp [Json.junction?, Json.outline?, rule, Head.joins]
      exact buildArray_settled obeys joined plain done
  | namedEnum =>
      simp only [rule] at done
      exact buildNamedEnum_settled joined rule done
  | enum =>
      simp only [rule] at done
      exact buildEnum_settled joined rule done
  | namedSchema =>
      simp only [rule] at done
      exact buildInterface_settled obeys joined (by simp [Json.outline?, rule]) done
  | anonymousSchema =>
      simp only [rule] at done
      exact buildInterface_settled obeys joined (by simp [Json.outline?, rule]) done
  | allOf =>
      simp only [rule] at done
      exact @members_settled _ _ _ _ _ obeys joined _ id .intersection .intersection
        (by simp [Json.outline?, rule, Json.memberParts]) rfl (fun _ => rfl) done
  | anyOf =>
      simp only [rule] at done
      exact @members_settled _ _ _ _ _ obeys joined _ id .union .union
        (by simp [Json.outline?, rule, Json.memberParts]) rfl (fun _ => rfl) done
  | reference =>
      simp only [rule] at done
      have plain : fragment.junction? = none := by simp [Json.junction?, Json.outline?, rule]
      exact .answered (buildReference_joined joined obeys rule done) plain
  | array =>
      simp only [rule] at done
      have plain : fragment.junction? = none := by
        simp [Json.junction?, Json.outline?, rule, Head.joins]
      exact buildArray_settled obeys joined plain done
  | union =>
      simp only [rule, buildTypeUnion] at done
      exact members_settled obeys joined (by simp [Json.outline?, rule]) rfl (fun _ => rfl) done
  | _ =>
      simp only [rule] at done
      have plain : fragment.junction? = none := by
        simp [Json.junction?, Json.outline?, rule, Outline.leaf, Head.joins]
      exact allocate_plain joined rfl plain done

/-- Whatever is resolved, the nodes that join members are those of the fragments that do. -/
theorem resolveFragment_keeping (context : Context) (budget : Nat) :
    Obeys Keeping (resolveFragment context budget) := by
  induction budget with
  | zero =>
      intro fragment site before outcome after taken node same
      subst same
      simp [Ends, resolveFragment] at taken
  | succ budget inductionHypothesis =>
      intro fragment site before outcome after taken node same joined
      subst same
      simp only [Ends, resolveFragment, resolveBy, get_bind, noting_eq_ok, bind_eq_ok, modify_bind,
        pure_apply, EStateM.Result.ok.injEq] at taken
      obtain ⟨last, ⟨made, built, nodeBuilt, rfl, rfl⟩, rfl⟩ := taken
      exact (buildNode_settled joined inductionHypothesis nodeBuilt).note site

end Build

namespace Compilation

variable {context : Context} {document : Json} {sourcePath : Option Path}
  {compilation : Compilation}

/-- What is known of nodes that join members when the root is declared. Only references change
their shapes after that. -/
theorem exists_joined (built : build context document sourcePath = .ok compilation) :
    ∃ progress : Progress, progress.Joined ∧
      (∀ entry ∈ progress.forward, ∃ name, (progress.node entry.2).shape = .reference name) ∧
      compilation.progress = bindReferences (rootFrame document sourcePath).ownKey
        compilation.root progress := by
  obtain ⟨last, resolved, -, ended, bound⟩ := exists_last built
  have joined : last.Joined := resolveFragment_keeping context _ _ _ _ _ _ resolved _ rfl (.start _)
  have references : ∀ entry ∈ last.forward, ∃ name,
      (last.node entry.2).shape = .reference name := by
    obtain ⟨inner, passage, known, rfl⟩ := resolveFragment_lawful context _ _ _ _ _ _
      (Progress.Scoped.start (rootFrame document sourcePath)) resolved
    obtain ⟨untitled, onward, -, titled⟩ :=
      completed_document context document none compilation.root inner known
    have recorded := (passage.trans onward).run.keeps Progress.Recorded.step (.start _)
    rcases titled with same | ⟨name, same⟩
    · rw [same]
      exact recorded.forward
    · rw [same]
      intro entry member
      rw [Progress.node, Progress.setId, Model.shape_setId]
      exact recorded.forward entry member
  refine ⟨ending context document sourcePath, ?_, ?_, bound⟩
  · rw [ended]
    exact joined.alike (.declare ..)
  · rw [ended]
    intro entry member
    rw [Progress.node, Progress.declare, Model.shape_setId]
    exact references entry member

/-- A node is a union or an intersection exactly if it was made of a fragment that joins as many
members in the same way. -/
theorem junction?_iff (built : build context document sourcePath = .ok compilation)
    (node : NodeId) (top : Top) :
    (compilation.model.node node).shape.junction? = some top ↔
      compilation.progress.Joins node top := by
  obtain ⟨progress, joined, references, same⟩ := exists_joined built
  have shape : (compilation.model.node node).shape.junction? =
      (progress.node node).shape.junction? := by
    rw [model, same]
    by_cases known : node < progress.model.size
    · rcases @bindReferences_shape progress _ compilation.root node known with
        ⟨key, name, handedOut, -, bound⟩ | ⟨-, kept⟩
      · obtain ⟨other, reference⟩ := references _ handedOut
        rw [← Progress.node, bound, reference]
        rfl
      · rw [← Progress.node, kept]
    · have beyond := Nat.le_of_not_lt known
      rw [Model.shape_of_size_le (by rw [bindReferences_size]; exact beyond), Progress.node,
        Model.shape_of_size_le beyond]
  rw [shape, joined, same]
  exact (Progress.joins_of_journal rfl).symm

end Compilation
end SchemaTypes
