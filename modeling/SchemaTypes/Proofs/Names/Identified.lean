/-
This file shows that names and registrations go together: a node that has a name was registered, and
a node that is declared has a name. Named enums never lose theirs.
-/
import SchemaTypes.Proofs.Declarations.Recorded

namespace SchemaTypes

open Build

/-- A node is declared if one of the two tables holds it. -/
theorem Declarations.isDeclared_iff {declarations : Declarations} {node : NodeId} :
    declarations.isDeclared node = true ↔
      node ∈ declarations.named.values ∨ node ∈ declarations.enums.values := by
  simp [isDeclared]

/-- Nothing is newly declared but the node that a key is given. -/
theorem Declarations.isDeclared_declare {declarations : Declarations} {key : String}
    {node other : NodeId} (declared : (declarations.declare key node).isDeclared other = true) :
    other = node ∨ declarations.isDeclared other = true := by
  rcases isDeclared_iff.mp declared with inNamed | inEnums
  · exact (Table.mem_values_put inNamed).imp_right fun old => isDeclared_iff.mpr (.inl old)
  · exact .inr (isDeclared_iff.mpr (.inr inEnums))

/-- Nothing is newly declared but the enum that is stored. -/
theorem Declarations.isDeclared_putEnum {declarations : Declarations} {name : String}
    {node other : NodeId} (declared : (declarations.putEnum name node).isDeclared other = true) :
    other = node ∨ declarations.isDeclared other = true := by
  rcases isDeclared_iff.mp declared with inNamed | inEnums
  · exact .inr (isDeclared_iff.mpr (.inl inNamed))
  · exact (Table.mem_values_put inEnums).imp_right fun old => isDeclared_iff.mpr (.inr old)

/-- A declared node was registered under some name. -/
theorem Declarations.registered_of_isDeclared {journal : List Event} {node : NodeId}
    (declared : (ofJournal journal).isDeclared node = true) :
    ∃ slot, (slot, node) ∈ registrations journal := by
  rcases isDeclared_iff.mp declared with inNamed | inEnums
  · obtain ⟨key, stands⟩ := mem_named_ofJournal.mp inNamed
    exact ⟨.key key, stands.registered⟩
  · obtain ⟨name, stands⟩ := mem_enums_ofJournal.mp inEnums
    exact ⟨.enum name, stands.registered⟩

/-- Every node that is declared has a name. -/
def Progress.Named (progress : Progress) : Prop :=
  ∀ node, progress.declarations.isDeclared node = true → (progress.node node).id ≠ none

namespace Progress.Named

variable {before after : Progress}

/-- At the beginning nothing is declared. -/
theorem start (frame : Frame) : (Progress.start frame).Named := by
  intro node declared
  simp [Progress.start, Declarations.empty, Declarations.isDeclared, Table.values] at declared

theorem grow (named : before.Named) (ids : ∀ node, (after.node node).id = (before.node node).id)
    (declarations : after.declarations = before.declarations) : after.Named := by
  intro node declared
  rw [ids]
  rw [declarations] at declared
  exact named node declared

/-- A node that gets a name has one. -/
theorem setId (named : before.Named) (node : NodeId) (name : String) :
    (before.setId node (some name)).Named := by
  intro other declared
  simp only [Progress.node, Progress.setId, Model.id_setId]
  split
  · simp
  · exact named other declared

/-- A registration gives a name to the node that it declares. -/
theorem register (named : before.Named) {node : NodeId} {name : String}
    (known : node < before.model.size) (model : after.model = before.model.setId node (some name))
    (declared : ∀ other, after.declarations.isDeclared other = true →
      other = node ∨ before.declarations.isDeclared other = true) : after.Named := by
  intro other inside
  simp only [Progress.node, model, Model.id_setId]
  split
  · simp
  · next different =>
    rcases declared other inside with rfl | old
    · exact absurd ⟨rfl, known⟩ different
    · exact named other old

/-- A declared node is named by its declaration. -/
theorem declare (named : before.Named) (origin : Origin) (key name : String) {node : NodeId}
    (known : node < before.model.size) : (before.declare origin key node name).Named :=
  named.register known rfl fun _ => Declarations.isDeclared_declare

/-- A stored enum is named by its storing. -/
theorem putEnum (named : before.Named) (name : String) (generated : Bool) {node : NodeId}
    (known : node < before.model.size) : (before.putEnum name generated node).Named :=
  named.register known rfl fun _ => Declarations.isDeclared_putEnum

/-- A node that is not declared may lose its name. -/
theorem forget (named : before.Named) {node : NodeId}
    (undeclared : before.declarations.isDeclared node ≠ true) : (before.setId node none).Named := by
  intro other declared
  simp only [Progress.node, Progress.setId, Model.id_setId]
  split
  · next same => exact absurd (same.1 ▸ declared) undeclared
  · exact named other declared

end Progress.Named

/-- The nodes that have names are registered, and the declared ones are among them. -/
structure Progress.Identified (progress : Progress) : Prop where
  registered : ∀ node, (progress.node node).id ≠ none →
    ∃ slot, (slot, node) ∈ registrations progress.journal
  named : ∀ node, progress.declarations.isDeclared node = true → (progress.node node).id ≠ none

namespace Progress.Identified

variable {before after : Progress}

/-- At the beginning nothing has a name. -/
theorem start (frame : Frame) : (Progress.start frame).Identified where
  registered node named := by
    have unnamed : ((Progress.start frame).node node).id = none := by
      simp [Progress.start, Progress.node, Model.empty, Model.node]
    exact absurd unnamed named
  named := Progress.Named.start frame

/-- Changes that name no node leave everything as it was. -/
theorem grow (identified : before.Identified)
    (ids : ∀ node, (after.node node).id = (before.node node).id)
    (declarations : after.declarations = before.declarations)
    (journal : before.journal <:+ after.journal) : after.Identified where
  registered node named := by
    rw [ids] at named
    obtain ⟨slot, member⟩ := identified.registered node named
    exact ⟨slot, mem_registrations_of_suffix journal member⟩
  named := Progress.Named.grow identified.named ids declarations

/-- A registered node may get another name. -/
theorem setId (identified : before.Identified) {node : NodeId} (name : String)
    (registered : ∃ slot, (slot, node) ∈ registrations before.journal) :
    (before.setId node (some name)).Identified where
  registered other named := by
    simp only [Progress.node, Progress.setId, Model.id_setId] at named
    split at named
    · next same => exact same.1 ▸ registered
    · exact identified.registered other named
  named := Progress.Named.setId identified.named node name

/-- A registration gives a name to its node, and the journal knows the registration. -/
theorem register (identified : before.Identified) {event : Event} {slot : Slot} {node : NodeId}
    {name : String} (known : node < before.model.size)
    (registration : event.registration? = some (slot, node))
    (model : after.model = before.model.setId node (some name))
    (journal : after.journal = event :: before.journal)
    (declared : ∀ other, after.declarations.isDeclared other = true →
      other = node ∨ before.declarations.isDeclared other = true) : after.Identified where
  registered other named := by
    rw [journal]
    simp only [Progress.node, model, Model.id_setId] at named
    split at named
    · next same => exact ⟨slot, by simp [registrations, registration, same.1]⟩
    · obtain ⟨old, member⟩ := identified.registered other named
      exact ⟨old, mem_registrations_of_suffix ⟨[event], rfl⟩ member⟩
  named := Progress.Named.register identified.named known model declared

/-- A declared node is registered and named at once. -/
theorem declare (identified : before.Identified) (origin : Origin) (key name : String)
    {node : NodeId} (known : node < before.model.size) :
    (before.declare origin key node name).Identified :=
  identified.register known rfl rfl rfl fun _ => Declarations.isDeclared_declare

/-- A stored enum is registered and named at once. -/
theorem putEnum (identified : before.Identified) (name : String) (generated : Bool)
    {node : NodeId} (known : node < before.model.size) :
    (before.putEnum name generated node).Identified :=
  identified.register known rfl rfl rfl fun _ => Declarations.isDeclared_putEnum

/-- A node that loses its name needs no registration any more. -/
theorem forget (identified : before.Identified) {node : NodeId}
    (undeclared : before.declarations.isDeclared node ≠ true) :
    (before.setId node none).Identified where
  registered other named := by
    simp only [Progress.node, Progress.setId, Model.id_setId] at named
    split at named
    · exact absurd rfl named
    · exact identified.registered other named
  named := Progress.Named.forget identified.named undeclared

/-- Every change names what it registers and registers what it names. -/
theorem step {context : Context} (before after : Progress)
    (change : Transition context before after) (recorded : before.Recorded)
    (identified : before.Identified) : after.Identified := by
  have added (shape : Shape) : (before.add shape).Identified :=
    identified.grow (fun node => Model.id_add ..) rfl List.suffix_rfl
  cases change with
  | allocated shape => exact added shape
  | enumStored members chosen =>
      exact (added (.namedEnum members)).putEnum _ _ (by simp [Progress.add])
  | named node name known => exact identified.declare .name name name known
  | titled node name declared =>
      refine identified.setId name (Declarations.registered_of_isDeclared ?_)
      rw [← recorded.declarations]
      exact declared
  | described node description =>
      exact identified.grow (fun _ => Model.id_setDescription ..) rfl List.suffix_rfl
  | documentReferred => exact (added _).grow (fun _ => rfl) rfl List.suffix_rfl
  | pointerReferred => exact (added _).grow (fun _ => rfl) rfl ⟨[_], rfl⟩
  | pointerLost => exact (added _).grow (fun _ => rfl) rfl ⟨[_], rfl⟩
  | fileReferred => exact (added _).grow (fun _ => rfl) rfl ⟨[_], rfl⟩
  | pointerFinished pointer target node rest awaited found known =>
      have released : ((before.leave (before.frame.pointerKey pointer)).release
          (before.frame.pointerKey pointer)).Identified :=
        identified.grow (fun _ => rfl) rfl ⟨[_], rfl⟩
      simp only [finishPointer]
      split
      · exact (released.declare (.pointer before.frame pointer) _ _ known).grow (fun _ => rfl) rfl
          ⟨[_], rfl⟩
      · exact released.grow (fun _ => rfl) rfl ⟨[_], rfl⟩
  | fileDeclared path node name enclosing outer own nested known =>
      rw [Progress.pop_of_outer nested]
      have declared := identified.declare (.file path) path.text (Identifier.ofName name) known
      exact declared.grow (fun _ => Model.id_add ..) rfl ⟨[_], rfl⟩
  | fileInlined path node enclosing outer own nested =>
      rw [Progress.pop_of_outer nested]
      simp only [inlineFile]
      split
      · exact identified.grow (fun _ => rfl) rfl ⟨[_], rfl⟩
      · next undeclared => exact (identified.forget undeclared).grow (fun _ => rfl) rfl ⟨[_], rfl⟩
  | _ => exact identified.grow (fun _ => rfl) rfl ⟨[_], rfl⟩

end Progress.Identified

/-- Named enums have names. They get them when they are stored, and only simple nodes lose
theirs. -/
def Progress.EnumsNamed (progress : Progress) : Prop :=
  ∀ node, (progress.node node).shape.isNamedEnum = true → (progress.node node).id ≠ none

namespace Progress.EnumsNamed

variable {before after : Progress}

/-- At the beginning there are no enums. -/
theorem start (frame : Frame) : (Progress.start frame).EnumsNamed := by
  intro node isEnum
  simp [Progress.start, Progress.node, Model.empty, Model.node, Shape.isNamedEnum] at isEnum

/-- A new node is no named enum unless it is stored. -/
theorem add (named : before.EnumsNamed) {shape : Shape} (noEnum : shape.isNamedEnum = false) :
    (before.add shape).EnumsNamed := by
  intro node isEnum
  simp only [Progress.node, Progress.add, Model.id_add]
  rw [Progress.node, Progress.add, Model.node_add] at isEnum
  split at isEnum
  · cases noEnum.symm.trans isEnum
  · exact named node isEnum

theorem setId (named : before.EnumsNamed) (node : NodeId) (name : String) :
    (before.setId node (some name)).EnumsNamed := by
  intro other isEnum
  simp only [Progress.node, Progress.setId, Model.shape_setId] at isEnum
  simp only [Progress.node, Progress.setId, Model.id_setId]
  split
  · simp
  · exact named other isEnum

/-- A node that loses its name is simple and so no named enum. -/
theorem forget (named : before.EnumsNamed) {node : NodeId}
    (simple : (before.node node).isSimple = true) : (before.setId node none).EnumsNamed := by
  intro other isEnum
  simp only [Progress.node, Progress.setId, Model.shape_setId] at isEnum
  simp only [Progress.node, Progress.setId, Model.id_setId]
  split
  · next same =>
    rw [same.1] at isEnum
    unfold Node.isSimple at simple
    cases shape : (before.model.node node).shape <;> simp_all [Progress.node, Shape.isNamedEnum]
  · exact named other isEnum

/-- Every change keeps the names of enums. -/
theorem step {context : Context} (before after : Progress)
    (change : Transition context before after) (named : before.EnumsNamed) :
    after.EnumsNamed := by
  cases change with
  | allocated shape noEnum => exact named.add noEnum
  | enumStored members chosen =>
      intro node isEnum
      simp only [Progress.node, Progress.putEnum, Progress.add, Model.shape_setId,
        Model.node_add] at isEnum
      simp only [Progress.node, Progress.putEnum, Progress.add, Model.id_setId, Model.id_add]
      split at isEnum
      · next new => simp [new]
      · next old =>
        rw [if_neg fun same => old same.1]
        exact named node isEnum
  | named node name => exact named.setId node name
  | titled node name => exact named.setId node name
  | described node description =>
      intro other isEnum
      simp only [Progress.node, Progress.setDescription, Model.shape_setDescription] at isEnum
      simp only [Progress.node, Progress.setDescription, Model.id_setDescription]
      exact named other isEnum
  | documentReferred => exact named.add rfl
  | pointerReferred => exact named.add rfl
  | pointerLost => exact named.add rfl
  | fileReferred => exact named.add rfl
  | pointerFinished pointer target made =>
      simp only [finishPointer]
      split
      · exact named.setId made _
      · exact named
  | fileDeclared path made name enclosing outer own nested =>
      rw [Progress.pop_of_outer nested]
      have declared : (before.setId made (some (Identifier.ofName name))).EnumsNamed :=
        named.setId made _
      exact declared.add rfl
  | fileInlined path made enclosing outer own nested known unforced simple =>
      rw [Progress.pop_of_outer nested]
      simp only [inlineFile]
      split
      · exact named
      · exact named.forget simple
  | _ => exact named

end Progress.EnumsNamed
end SchemaTypes
