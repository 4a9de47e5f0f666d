/-
This file shows that the declarations of a compilation are those of its journal, and that exactly
the named enums are registered as enums.
-/
import SchemaTypes.Proofs.Declarations.History

namespace SchemaTypes

open Build

/-- The registrations of a journal are those of its two parts. -/
theorem registrations_append (later earlier : List Event) :
    registrations (later ++ earlier) = registrations later ++ registrations earlier :=
  List.filterMap_append

/-- What was registered earlier is still in the journal later. -/
theorem mem_registrations_of_suffix {earlier journal : List Event} (grown : earlier <:+ journal)
    {entry : Slot × NodeId} (member : entry ∈ registrations earlier) :
    entry ∈ registrations journal := by
  obtain ⟨later, rfl⟩ := grown
  rw [registrations_append]
  exact List.mem_append_right _ member

/-- Why a node has its shape: named enums are registered as such, and references were handed out
for a key or stand for a declared file. -/
inductive Progress.Accounts (progress : Progress) (node : NodeId) : Shape → Prop where
  | plain {shape : Shape} (noEnum : shape.isNamedEnum = false)
      (noReference : ∀ name, shape ≠ .reference name) : Accounts progress node shape
  | enum {members : List EnumMember} (name : String)
      (registered : (.enum name, node) ∈ registrations progress.journal) :
      Accounts progress node (.namedEnum members)
  | forward {name : String} (key : String) (handedOut : (key, node) ∈ progress.forward) :
      Accounts progress node (.reference name)
  | file {name : String} (path : Path) (target : NodeId)
      (remembered : (path, node) ∈ progress.files)
      (declared : .declared (.file path) path.text target ∈ progress.journal) :
      Accounts progress node (.reference name)

/-- An account of a shape is still good when journal and tables have grown. -/
theorem Progress.Accounts.grow {before after : Progress} {node : NodeId} {shape : Shape}
    (accounts : before.Accounts node shape) (journal : before.journal <:+ after.journal)
    (forward : before.forward <:+ after.forward) (files : before.files <:+ after.files) :
    after.Accounts node shape := by
  cases accounts with
  | plain noEnum noReference => exact .plain noEnum noReference
  | enum name registered => exact .enum name (mem_registrations_of_suffix journal registered)
  | forward key handedOut => exact .forward key (forward.subset handedOut)
  | file path target remembered declared =>
      exact .file path target (files.subset remembered) (journal.subset declared)

/-- What the journal says about the nodes and about the declarations of a compilation. -/
structure Progress.Recorded (progress : Progress) : Prop where
  declarations : progress.declarations = Declarations.ofJournal progress.journal
  accounts : ∀ node < progress.model.size, progress.Accounts node (progress.node node).shape
  enums : ∀ name node, (.enum name, node) ∈ registrations progress.journal →
    (progress.node node).shape.isNamedEnum = true
  forward : ∀ entry ∈ progress.forward, ∃ name, (progress.node entry.2).shape = .reference name

namespace Transition

variable {context : Context} {before after : Progress}

/-- The declarations keep in step with the journal. -/
theorem declarations_eq (change : Transition context before after)
    (recorded : before.declarations = Declarations.ofJournal before.journal) :
    after.declarations = Declarations.ofJournal after.journal := by
  cases change with
  | pointerFinished pointer target made rest awaited found madeKnown visited =>
      simp only [Progress.note, finishPointer]
      split
      · exact congrArg (Declarations.declare · _ _) recorded
      · exact recorded
  | fileDeclared path made name enclosing outer own nested madeKnown =>
      rw [Progress.pop_of_outer nested]
      exact congrArg (Declarations.declare · _ _) recorded
  | fileInlined path made enclosing outer own nested madeKnown unforced =>
      rw [Progress.pop_of_outer nested]
      simp only [Progress.note, inlineFile]
      split <;> exact recorded
  | enumStored => exact congrArg (Declarations.putEnum · _ _) recorded
  | named => exact congrArg (Declarations.declare · _ _) recorded
  | _ => exact recorded

/-- At most one node is new after a change, and the change accounts for it. -/
theorem accounts_new (change : Transition context before after) {node : NodeId}
    (new : before.model.size ≤ node) (inside : node < after.model.size) :
    after.Accounts node (after.node node).shape := by
  have last (size : after.model.size = before.model.size + 1) : node = before.model.size :=
    Nat.le_antisymm (Nat.le_of_lt_succ (Nat.lt_of_lt_of_eq inside size)) new
  have none_new (size : after.model.size = before.model.size) :
      after.Accounts node (after.node node).shape :=
    absurd inside (Nat.not_lt_of_le (Nat.le_trans (Nat.le_of_eq size) new))
  cases change with
  | allocated shape noEnum noReference children =>
      obtain rfl := last (Model.size_add _ _)
      simpa [Progress.node, Progress.add] using .plain noEnum noReference
  | enumStored members chosen =>
      obtain rfl := last (by simp [Progress.putEnum, Progress.add])
      simp only [Progress.node, Progress.putEnum, Progress.add, Model.shape_setId,
        Model.node_add_size]
      exact .enum _ List.mem_cons_self
  | documentReferred =>
      obtain rfl := last (Model.size_add _ _)
      simpa [Progress.node, Progress.refer] using .forward _ List.mem_cons_self
  | pointerReferred pointer missing awaited =>
      obtain rfl := last (Model.size_add _ _)
      simpa [Progress.node, Progress.refer, Progress.note] using .forward _ List.mem_cons_self
  | pointerLost pointer nowhere =>
      obtain rfl := last (Model.size_add _ _)
      simpa [Progress.node, Progress.add, Progress.note] using .plain rfl (by simp)
  | fileReferred path frame opened key =>
      obtain rfl := last (Model.size_add _ _)
      simpa [Progress.node, Progress.refer, Progress.note] using .forward _ List.mem_cons_self
  | fileDeclared path made name enclosing outer own nested madeKnown =>
      rw [Progress.pop_of_outer nested] at *
      obtain rfl := last (by simp [Progress.note, Progress.remember, Progress.add,
        Progress.declare, Progress.release])
      have size : (before.model.setId made (some (Identifier.ofName name))).size =
          before.model.size := Model.size_setId ..
      simp only [Progress.node, Progress.note, Progress.remember, Progress.add, Progress.declare,
        Progress.release]
      rw [← size, Model.node_add_size]
      exact .file path made List.mem_cons_self (List.mem_cons_of_mem _ List.mem_cons_self)
  | pointerFinished pointer target made rest awaited found madeKnown visited =>
      exact none_new (finishPointer_keeps ..).2.2.2.1
  | fileInlined path made enclosing outer own nested madeKnown unforced =>
      refine none_new ?_
      rw [Progress.pop_of_outer nested]
      simp only [Progress.note, inlineFile]
      split <;> simp [Progress.remember, Progress.release, Progress.setId]
  | _ =>
      exact none_new (by simp [Progress.declare, Progress.setId, Progress.setDescription,
        Progress.note, Progress.enter, Progress.push])

/-- Only new named enums are registered as enums. -/
theorem enum_registered_new (change : Transition context before after) {name : String}
    {node : NodeId} (member : (.enum name, node) ∈ registrations after.journal) :
    (.enum name, node) ∈ registrations before.journal ∨
      (after.node node).shape.isNamedEnum = true := by
  cases change with
  | enumStored members chosen =>
      rcases List.mem_cons.mp member with same | old
      · obtain ⟨-, rfl⟩ := Prod.mk.inj same
        refine .inr ?_
        simp [Progress.node, Progress.putEnum, Progress.add, Shape.isNamedEnum]
      · exact .inl old
  | pointerFinished pointer target made rest awaited found madeKnown visited =>
      left
      simp only [Progress.note, finishPointer] at member
      split at member <;>
        simpa [registrations, Event.registration?, Progress.declare, Progress.release,
          Progress.leave] using member
  | fileDeclared path made title enclosing outer own nested madeKnown =>
      rw [Progress.pop_of_outer nested] at member
      left
      simpa [registrations, Event.registration?, Progress.note, Progress.remember, Progress.add,
        Progress.declare, Progress.release] using member
  | fileInlined path made enclosing outer own nested madeKnown unforced =>
      rw [Progress.pop_of_outer nested] at member
      left
      simp only [Progress.note, inlineFile] at member
      split at member <;>
        simpa [registrations, Event.registration?, Progress.remember, Progress.release,
          Progress.setId] using member
  | _ =>
      left
      simpa [registrations, Event.registration?, Progress.note, Progress.add, Progress.declare,
        Progress.setId, Progress.setDescription, Progress.refer, Progress.enter, Progress.push]
        using member

/-- What is handed out is a new reference. -/
theorem forward_new (change : Transition context before after) {entry : String × NodeId}
    (member : entry ∈ after.forward) :
    entry ∈ before.forward ∨ ∃ name, (after.node entry.2).shape = .reference name := by
  have handedOut (key title : String) (handed : entry ∈ (before.refer key title).forward) :
      entry ∈ before.forward ∨
        ∃ name, ((before.refer key title).node entry.2).shape = .reference name := by
    rcases List.mem_cons.mp handed with rfl | old
    · exact .inr ⟨Identifier.ofName title, by simp [Progress.node, Progress.refer]⟩
    · exact .inl old
  cases change with
  | documentReferred => exact handedOut _ _ member
  | pointerReferred => exact handedOut _ _ member
  | fileReferred => exact handedOut _ _ member
  | pointerFinished pointer target made rest awaited found madeKnown visited =>
      left
      simp only [Progress.note, finishPointer] at member
      split at member <;> exact member
  | fileDeclared path made title enclosing outer own nested madeKnown =>
      rw [Progress.pop_of_outer nested] at member
      exact .inl member
  | fileInlined path made enclosing outer own nested madeKnown unforced =>
      rw [Progress.pop_of_outer nested] at member
      left
      simp only [Progress.note, inlineFile] at member
      split at member <;> exact member
  | _ => exact .inl member

end Transition

namespace Progress.Recorded

/-- At the beginning nothing was registered. -/
theorem start (frame : Frame) : (Progress.start frame).Recorded :=
  ⟨rfl, by simp [Progress.start, Model.size, Model.empty],
    by simp [Progress.start, registrations], by simp [Progress.start]⟩

/-- Every change records what it registers. -/
theorem step {context : Context} (before after : Progress)
    (change : Transition context before after) (recorded : before.Recorded) : after.Recorded where
  declarations := change.declarations_eq recorded.declarations
  accounts node inside := by
    by_cases known : node < before.model.size
    · rw [change.shape_eq known]
      exact (recorded.accounts node known).grow change.journal_suffix change.forward_suffix
        change.files_suffix
    · exact change.accounts_new (Nat.le_of_not_lt known) inside
  enums name node member := by
    rcases change.enum_registered_new member with old | isEnum
    · have wasEnum := recorded.enums name node old
      have known : node < before.model.size := Model.lt_size_of_shape fun plain => by
        rw [Progress.node, plain] at wasEnum
        cases wasEnum
      rw [change.shape_eq known]
      exact wasEnum
    · exact isEnum
  forward entry member := by
    rcases change.forward_new member with old | reference
    · obtain ⟨name, reference⟩ := recorded.forward entry old
      have known : entry.2 < before.model.size := Model.lt_size_of_shape fun plain => by
        rw [Progress.node, plain] at reference
        cases reference
      exact ⟨name, (change.shape_eq known).trans reference⟩
    · exact reference

/-- Another registration under a key leaves everything else as it was. -/
theorem declare {progress : Progress} (recorded : progress.Recorded) (origin : Origin)
    (key name : String) (node : NodeId) : (progress.declare origin key node name).Recorded where
  declarations := congrArg (Declarations.declare · _ _) recorded.declarations
  accounts other inside := by
    simp only [Progress.node, Progress.declare, Model.shape_setId, Model.size_setId] at inside ⊢
    exact (recorded.accounts other inside).grow ⟨[_], rfl⟩ List.suffix_rfl List.suffix_rfl
  enums other stored member := by
    simp only [Progress.node, Progress.declare, Model.shape_setId]
    exact recorded.enums other stored
      (by simpa [registrations, Event.registration?, Progress.declare] using member)
  forward entry member := by
    simp only [Progress.node, Progress.declare, Model.shape_setId]
    exact recorded.forward entry member

end Progress.Recorded

/-- A property that every change keeps of a recorded progress holds after a run. -/
theorem Run.keeps_recorded {context : Context} {property : Progress → Prop}
    (step : ∀ before after, Transition context before after → before.Recorded → property before →
      property after)
    {before after : Progress} (run : Run context before after) (recorded : before.Recorded)
    (holds : property before) : after.Recorded ∧ property after := by
  induction run with
  | refl => exact ⟨recorded, holds⟩
  | tail _ change inductionHypothesis =>
      obtain ⟨middle, kept⟩ := inductionHypothesis
      exact ⟨.step _ _ change middle, step _ _ change middle kept⟩

end SchemaTypes
