/-
This file reads the declarations of a compilation off the journal of its registrations. Main
statement: a registered node is written exactly once if it stands in a slot of its kind, and
otherwise not at all, so a node gets lost only where another one took its slots.
-/
import SchemaTypes.Proofs.Build.Finish

namespace SchemaTypes

open Build

/-- A place that holds one node at a time. -/
inductive Slot where
  | key (key : String)
  | enum (name : String)
deriving DecidableEq

def Slot.isEnum : Slot → Bool
  | .key _ => false
  | .enum _ => true

/-- The slot that an event fills, and the node that it puts there. -/
def Event.registration? : Event → Option (Slot × NodeId)
  | .declared _ key node => some (.key key, node)
  | .enumStored name _ node => some (.enum name, node)
  | _ => none

/-- All registrations of a journal, the latest one first. -/
def registrations (journal : List Event) : List (Slot × NodeId) :=
  journal.filterMap Event.registration?

/-- A node stands in a slot if no other node was registered there after it. -/
def Stands (journal : List Event) (slot : Slot) (node : NodeId) : Prop :=
  ∃ later earlier, registrations journal = later ++ (slot, node) :: earlier ∧
    ∀ entry ∈ later, entry.1 = slot → entry.2 = node

/-- What stands in a slot was registered there. -/
theorem Stands.registered {journal : List Event} {slot : Slot} {node : NodeId}
    (stands : Stands journal slot node) : (slot, node) ∈ registrations journal := by
  obtain ⟨later, earlier, located, -⟩ := stands
  simp [located]

/-- The node registered last is the one that stands. -/
theorem stands_iff_lookup (journal : List Event) (slot : Slot) (node : NodeId) :
    Stands journal slot node ↔ (registrations journal).lookup slot = some node := by
  constructor
  · rintro ⟨later, earlier, located, same⟩
    rw [located]
    clear located
    induction later with
    | nil => simp
    | cons entry rest inductionHypothesis =>
        rw [List.cons_append, List.lookup_cons]
        by_cases here : slot = entry.1
        · have value := same entry List.mem_cons_self here.symm
          simp [here, value]
        · have apart : (slot == entry.1) = false := by simpa using here
          rw [apart]
          exact inductionHypothesis fun other member => same other (List.mem_cons_of_mem _ member)
  · intro found
    obtain ⟨later, earlier, located, absent⟩ := List.lookup_eq_some_iff.mp found
    refine ⟨later, earlier, located, ?_⟩
    intro entry member same
    have apart := absent entry member
    simp [same] at apart

namespace Declarations

def record (event : Event) (declarations : Declarations) : Declarations :=
  match event with
  | .declared _ key node => declarations.declare key node
  | .enumStored name _ node => declarations.putEnum name node
  | _ => declarations

/-- The declarations that the registrations of a journal lead to. -/
def ofJournal (journal : List Event) : Declarations := journal.foldr record .empty

/-- No key and no name is held twice. -/
theorem distinct_ofJournal (journal : List Event) :
    (ofJournal journal).named.keys.Nodup ∧ (ofJournal journal).enums.keys.Nodup := by
  induction journal with
  | nil => simp [ofJournal, empty, Table.keys]
  | cons event journal inductionHypothesis =>
      obtain ⟨named, enums⟩ := inductionHypothesis
      cases event with
      | declared origin key node => exact ⟨Table.nodup_keys_put named key node, enums⟩
      | enumStored name generated node => exact ⟨named, Table.nodup_keys_put enums name node⟩
      | _ => exact ⟨named, enums⟩

/-- A key holds what was registered under it last. -/
theorem get?_ofJournal (journal : List Event) (key : String) :
    (ofJournal journal).get? key = (registrations journal).lookup (.key key) := by
  induction journal with
  | nil => rfl
  | cons event journal inductionHypothesis =>
      cases event with
      | declared origin other node =>
          refine (Table.get?_put other key node _).trans ?_
          simp only [registrations, List.filterMap_cons, Event.registration?, List.lookup_cons]
          by_cases same : other = key
          · simp [same]
          · have apart : (Slot.key key == Slot.key other) = false := by simpa using Ne.symm same
            rw [if_neg same, apart]
            exact inductionHypothesis
      | enumStored name generated node =>
          simp only [registrations, List.filterMap_cons, Event.registration?, List.lookup_cons]
          exact inductionHypothesis
      | _ => exact inductionHypothesis

/-- A name holds the enum that was stored under it last. -/
theorem getEnum?_ofJournal (journal : List Event) (name : String) :
    (ofJournal journal).enums.get? name = (registrations journal).lookup (.enum name) := by
  induction journal with
  | nil => rfl
  | cons event journal inductionHypothesis =>
      cases event with
      | declared origin key node =>
          simp only [registrations, List.filterMap_cons, Event.registration?, List.lookup_cons]
          exact inductionHypothesis
      | enumStored other generated node =>
          refine (Table.get?_put other name node _).trans ?_
          simp only [registrations, List.filterMap_cons, Event.registration?, List.lookup_cons]
          by_cases same : other = name
          · simp [same]
          · have apart : (Slot.enum name == Slot.enum other) = false := by simpa using Ne.symm same
            rw [if_neg same, apart]
            exact inductionHypothesis
      | _ => exact inductionHypothesis

/-- The nodes that keys hold are those that stand there. -/
theorem mem_named_ofJournal {journal : List Event} {node : NodeId} :
    node ∈ (ofJournal journal).named.values ↔ ∃ key, Stands journal (.key key) node := by
  simp only [Table.mem_values_iff (distinct_ofJournal journal).1, stands_iff_lookup,
    ← get?_ofJournal]
  rfl

/-- The enums that names hold are those that stand there. -/
theorem mem_enums_ofJournal {journal : List Event} {node : NodeId} :
    node ∈ (ofJournal journal).enums.values ↔ ∃ name, Stands journal (.enum name) node := by
  simp only [Table.mem_values_iff (distinct_ofJournal journal).2, stands_iff_lookup,
    ← getEnum?_ofJournal]

end Declarations
end SchemaTypes
