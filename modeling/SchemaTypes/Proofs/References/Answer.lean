/-
This file says how the events of a journal follow from the events before them. A pointer is answered
from the registrations of its key, by a reference to itself, or by the node of its target.
-/
import SchemaTypes.Proofs.Declarations.Recorded

namespace SchemaTypes

open Build

/-- The keys of the pointers that are being resolved. -/
def openKeys (journal : List Event) : List String :=
  (openPointers journal).map fun entry => entry.1.pointerKey entry.2

/-- The node that was registered last under a key. -/
def registered? (journal : List Event) (key : String) : Option NodeId :=
  (registrations journal).lookup (.key key)

/-- The standing node of a key is the one registered last. -/
theorem stands_key_iff {journal : List Event} {key : String} {node : NodeId} :
    Stands journal (.key key) node ↔ registered? journal key = some node :=
  stands_iff_lookup journal (.key key) node

/-- A key that is registered stays so, with this node or another. -/
theorem registered?_append {later before : List Event} {key : String} {node : NodeId}
    (registered : registered? before key = some node) :
    ∃ last, registered? (later ++ before) key = some last := by
  obtain ⟨newer, older, located, -⟩ := List.lookup_eq_some_iff.mp registered
  have member : (Slot.key key, node) ∈ registrations (later ++ before) := by
    rw [registrations_append, located]
    simp
  cases found : registered? (later ++ before) key with
  | some last => exact ⟨last, rfl⟩
  | none =>
      have absent := List.lookup_eq_none_iff.mp found _ member
      simp at absent

/-- A key is registered as soon as something is declared under it. -/
theorem registered?_of_declared {journal : List Event} {origin : Origin} {key : String}
    {node : NodeId} (declared : .declared origin key node ∈ journal) :
    ∃ last, registered? journal key = some last := by
  obtain ⟨later, before, rfl⟩ := List.append_of_mem declared
  have registered : registered? (.declared origin key node :: before) key = some node := by
    simp [registered?, registrations, Event.registration?]
  exact registered?_append registered

/-- A pointer that is being resolved and was not before has been entered in between. -/
theorem entered_mem_of_open {entry : Frame × String} (later : List Event) {before : List Event}
    (now : entry ∈ openPointers (later ++ before)) (past : entry ∉ openPointers before) :
    .entered entry.1 entry.2 ∈ later := by
  induction later with
  | nil => exact absurd now past
  | cons event later inductionHypothesis =>
      cases event with
      | entered frame pointer =>
          rcases List.mem_cons.mp now with rfl | earlier
          · exact List.mem_cons_self
          · exact List.mem_cons_of_mem _ (inductionHypothesis earlier)
      | left => exact List.mem_cons_of_mem _ (inductionHypothesis (List.mem_of_mem_tail now))
      | _ => exact List.mem_cons_of_mem _ (inductionHypothesis now)

/-- How a reference has come to its node: from the last registration of its key, as a reference to
a pointer of its key that is being resolved, or by resolving its target without declaring it. -/
inductive Answer (forward : List (String × NodeId)) (before : List Event) (frame : Frame)
    (pointer : String) (target : Json) (node : NodeId) : Prop where
  | stored (registered : registered? before (frame.pointerKey pointer) = some node)
  | forward (missing : registered? before (frame.pointerKey pointer) = none)
      (awaited : frame.pointerKey pointer ∈ openKeys before)
      (handedOut : (frame.pointerKey pointer, node) ∈ forward)
      (fresh : ∀ other fragment, .visited other fragment (some node) ∉ before)
  | made (older : List Event)
      (resolved : before = .left :: .visited frame target (some node) :: older)
      (closed : (frame, pointer) ∉ openPointers before)
      (undeclared : ∀ first,
        .declared (.pointer frame pointer) (frame.pointerKey pointer) first ∉ before)

/-- What an event owes to the events before it. -/
def Event.Follows (forward : List (String × NodeId)) (before : List Event) : Event → Prop
  | .entered frame pointer =>
    registered? before (frame.pointerKey pointer) = none ∧
      frame.pointerKey pointer ∉ openKeys before
  | .declared (.pointer frame pointer) key node =>
    key = frame.pointerKey pointer ∧ ∃ target older,
      Pointer.lookup? frame.document (Pointer.segments pointer) = some target ∧
        before = .left :: .visited frame target (some node) :: older ∧
          (openPointers older).head? = some (frame, pointer)
  | .followed frame pointer (some node) =>
    ∀ target, Pointer.lookup? frame.document (Pointer.segments pointer) = some target →
      Answer forward before frame pointer target node
  | _ => True

/-- Every event of a journal follows from the events before it. -/
def Coherent (forward : List (String × NodeId)) : List Event → Prop
  | [] => True
  | event :: before => event.Follows forward before ∧ Coherent forward before

/-- An answer remains one when more references are handed out. -/
theorem Answer.mono {forward wider : List (String × NodeId)} {before : List Event} {frame : Frame}
    {pointer : String} {target : Json} {node : NodeId}
    (answer : Answer forward before frame pointer target node) (grown : forward ⊆ wider) :
    Answer wider before frame pointer target node := by
  cases answer with
  | stored registered => exact .stored registered
  | forward missing awaited handedOut fresh =>
      exact .forward missing awaited (grown handedOut) fresh
  | made older resolved closed undeclared => exact .made older resolved closed undeclared

/-- An event follows from those before it when more references are handed out. -/
theorem Event.Follows.mono {forward wider : List (String × NodeId)} {before : List Event}
    {event : Event} (follows : event.Follows forward before) (grown : forward ⊆ wider) :
    event.Follows wider before := by
  cases event with
  | followed frame pointer node =>
      cases node with
      | none => trivial
      | some node => exact fun target leads => (follows target leads).mono grown
  | declared origin key node => cases origin <;> exact follows
  | _ => exact follows

/-- A journal stays coherent when more references are handed out. -/
theorem Coherent.mono {forward wider : List (String × NodeId)} {journal : List Event}
    (coherent : Coherent forward journal) (grown : forward ⊆ wider) : Coherent wider journal := by
  induction journal with
  | nil => trivial
  | cons event before inductionHypothesis =>
      exact ⟨coherent.1.mono grown, inductionHypothesis coherent.2⟩

/-- No pointer is entered while another one of its key is being resolved. -/
theorem Coherent.nodup_openKeys {forward : List (String × NodeId)} {journal : List Event}
    (coherent : Coherent forward journal) : (openKeys journal).Nodup := by
  induction journal with
  | nil => exact List.nodup_nil
  | cons event before inductionHypothesis =>
      have distinct := inductionHypothesis coherent.2
      cases event with
      | entered frame pointer => exact List.nodup_cons.mpr ⟨coherent.1.2, distinct⟩
      | left =>
          rw [openKeys, openPointers, List.map_tail]
          exact distinct.tail
      | _ => exact distinct

/-- Every earlier part of a coherent journal is coherent. -/
theorem Coherent.of_append {forward : List (String × NodeId)} (later : List Event)
    {before : List Event} (coherent : Coherent forward (later ++ before)) :
    Coherent forward before := by
  induction later with
  | nil => exact coherent
  | cons _ _ inductionHypothesis => exact inductionHypothesis coherent.2

/-- Every event of a coherent journal follows from those before it. -/
theorem Coherent.follows {forward : List (String × NodeId)} (later : List Event)
    {before : List Event} {event : Event} (coherent : Coherent forward (later ++ event :: before)) :
    event.Follows forward before :=
  (coherent.of_append later).1

end SchemaTypes
