/-
This file says in which order nodes are written, whatever was registered before. Main statement:
after any history the nodes that enum slots hold come first, and in each of the two groups a node
stands where the oldest of the slots that hold it in the end stands.
-/
import Mathlib.Data.List.Induction
import SchemaTypes.Proofs.Declarations.Emission
import SchemaTypes.Proofs.Names.Identified

namespace SchemaTypes

/-- A node is declared under a key, which also names it, or it is stored as a named enum. -/
inductive Registration where
  | declare (key : String) (node : NodeId) (name : String)
  | putEnum (name : String) (node : NodeId)
deriving DecidableEq

def Registration.slot : Registration → Slot
  | .declare key _ _ => .key key
  | .putEnum name _ => .enum name

def Registration.node : Registration → NodeId
  | .declare _ node _ => node
  | .putEnum _ node => node

/-- Declarations, and the model whose nodes they hold. -/
structure Registry where
  declarations : Declarations
  model : Model

namespace Registry

def register (registry : Registry) : Registration → Registry
  | .declare key node name =>
    ⟨registry.declarations.declare key node, registry.model.setId node (some name)⟩
  | .putEnum name node => ⟨registry.declarations.putEnum name node, registry.model⟩

/-- What a history, whose oldest registration comes first, makes of empty declarations. -/
def ofHistory (model : Model) (history : List Registration) : Registry :=
  history.foldl register ⟨.empty, model⟩

def emissionOrder (registry : Registry) : List NodeId :=
  registry.declarations.emissionOrder registry.model

end Registry

section Histories

variable (history : List Registration)

/-- The last registration in a slot decides which node it holds. -/
def held? (slot : Slot) : Option NodeId :=
  (history.reverse.find? (·.slot = slot)).map Registration.node

/-- How many registrations there are before a slot is filled for the first time. -/
def created (slot : Slot) : Nat := history.findIdx (·.slot = slot)

/-- One of the slots that hold the first node is older than all that hold the second one. -/
def Precedes (isEnum : Bool) (first second : NodeId) : Prop :=
  ∃ slot : Slot, slot.isEnum = isEnum ∧ held? history slot = some first ∧
    ∀ other : Slot, other.isEnum = isEnum → held? history other = some second →
      created history slot < created history other

end Histories

/-- The last registration decides about its own slot only. -/
theorem held?_append (history : List Registration) (last : Registration) (slot : Slot) :
    held? (history ++ [last]) slot =
      if last.slot = slot then some last.node else held? history slot := by
  by_cases same : last.slot = slot <;> simp [held?, same]

/-- A slot stays as old as it is when something is registered after it. -/
theorem created_append (history : List Registration) (last : Registration) (slot : Slot) :
    created (history ++ [last]) slot =
      if slot ∈ history.map Registration.slot then created history slot
      else created [last] slot + history.length := by
  simp [created, List.findIdx_append]

/-- A slot was created in the course of a history if something was registered in it. -/
theorem created_lt_iff {history : List Registration} {slot : Slot} :
    created history slot < history.length ↔ slot ∈ history.map Registration.slot := by
  simp [created, List.findIdx_lt_length]

/-- The slot of one kind that has a name. -/
def Slot.ofName (isEnum : Bool) (name : String) : Slot :=
  if isEnum then .enum name else .key name

def Slot.name : Slot → String
  | .key text => text
  | .enum text => text

/-- A slot is given by its kind and its name. -/
theorem Slot.eq_ofName_iff {slot : Slot} {isEnum : Bool} {name : String} :
    slot = .ofName isEnum name ↔ slot.isEnum = isEnum ∧ slot.name = name := by
  cases slot <;> cases isEnum <;> simp [ofName, Slot.isEnum, Slot.name]

@[simp] theorem Slot.isEnum_ofName (isEnum : Bool) (name : String) :
    (Slot.ofName isEnum name).isEnum = isEnum := (eq_ofName_iff.mp rfl).1

namespace Declarations

/-- The table of one kind of slots. -/
def slots (declarations : Declarations) (isEnum : Bool) : Table NodeId :=
  if isEnum then declarations.enums else declarations.named

/-- Of the nodes that a table holds, one comes first that has the older key. -/
theorem firsts_pairwise {older : String → String → Prop} {table : Table NodeId}
    (ordered : table.keys.Pairwise older) :
    (firsts table.values).Pairwise fun first second =>
      ∃ key, (key, first) ∈ table ∧ ∀ other, (other, second) ∈ table → older key other := by
  induction table with
  | nil => exact List.Pairwise.nil
  | cons entry rest inductionHypothesis =>
      obtain ⟨oldest, restOrdered⟩ := List.pairwise_cons.mp ordered
      have later {node : NodeId} (apart : node ≠ entry.2) {key : String}
          (held : (key, node) ∈ entry :: rest) : (key, node) ∈ rest := by
        rcases List.mem_cons.mp held with same | inRest
        · exact absurd (congrArg Prod.snd same) apart
        · exact inRest
      refine List.pairwise_cons.mpr ⟨?_, ?_⟩
      · intro second member
        have apart : second ≠ entry.2 := by simpa using (List.mem_filter.mp member).2
        refine ⟨entry.1, List.mem_cons_self, fun other held => ?_⟩
        exact oldest other (List.mem_map.mpr ⟨_, later apart held, rfl⟩)
      · refine ((inductionHypothesis restOrdered).filter _).imp_of_mem ?_
        rintro first second - member ⟨key, held, older⟩
        have apart : second ≠ entry.2 := by simpa using (List.mem_filter.mp member).2
        exact ⟨key, List.mem_cons_of_mem _ held,
          fun other heldToo => older other (later apart heldToo)⟩

end Declarations

namespace Registry

variable (model : Model) (history : List Registration)

/-- Registrations are made one after the other. -/
theorem ofHistory_append (last : Registration) :
    ofHistory model (history ++ [last]) = (ofHistory model history).register last := by
  simp [ofHistory]

/-- A registration changes the table of its own kind only. -/
theorem slots_register (registry : Registry) (last : Registration) (isEnum : Bool) :
    (registry.register last).declarations.slots isEnum =
      if last.slot.isEnum = isEnum then
        (registry.declarations.slots isEnum).put last.slot.name last.node
      else registry.declarations.slots isEnum := by
  cases last <;> cases isEnum <;> rfl

/-- A table gives what was registered last. -/
theorem get?_slots (isEnum : Bool) (name : String) :
    ((ofHistory model history).declarations.slots isEnum).get? name =
      held? history (.ofName isEnum name) := by
  induction history using List.reverseRecOn with
  | nil => cases isEnum <;> rfl
  | append_singleton history last inductionHypothesis =>
      rw [ofHistory_append, slots_register, held?_append]
      by_cases kind : last.slot.isEnum = isEnum <;>
        simp [kind, Slot.eq_ofName_iff, Table.get?_put, inductionHypothesis]

/-- A table has the names that were registered. -/
theorem mem_keys_slots (isEnum : Bool) (name : String) :
    name ∈ ((ofHistory model history).declarations.slots isEnum).keys ↔
      .ofName isEnum name ∈ history.map Registration.slot := by
  rw [← Table.isSome_get?, get?_slots]
  simp [held?]

/-- A slot that is filled again keeps its place. -/
theorem keys_slots_pairwise (isEnum : Bool) :
    ((ofHistory model history).declarations.slots isEnum).keys.Pairwise fun first second =>
      created history (.ofName isEnum first) < created history (.ofName isEnum second) := by
  induction history using List.reverseRecOn with
  | nil => cases isEnum <;> exact List.Pairwise.nil
  | append_singleton history last inductionHypothesis =>
      have kept : ((ofHistory model history).declarations.slots isEnum).keys.Pairwise
          fun first second => created (history ++ [last]) (.ofName isEnum first) <
            created (history ++ [last]) (.ofName isEnum second) := by
        refine inductionHypothesis.imp_of_mem fun first second older => ?_
        rw [mem_keys_slots] at first second
        simpa [created_append, first, second] using older
      rw [ofHistory_append, slots_register]
      split
      · next kind =>
        rw [Table.keys_put]
        split
        · exact kept
        · next fresh =>
          refine List.pairwise_append.mpr ⟨kept, List.pairwise_singleton _ _, ?_⟩
          intro first old second new
          rw [List.mem_singleton.mp new]
          rw [mem_keys_slots] at old fresh
          rw [created_append, if_pos old, created_append, if_neg fresh]
          exact Nat.lt_of_lt_of_le (created_lt_iff.mpr old) (Nat.le_add_left _ _)
      · exact kept

/-- No name stands twice in a table. -/
theorem distinct_slots (isEnum : Bool) :
    ((ofHistory model history).declarations.slots isEnum).keys.Nodup :=
  (keys_slots_pairwise model history isEnum).imp fun older same => by simp [same] at older

/-- A table holds under each name what its slot holds. -/
theorem mem_slots_iff {isEnum : Bool} {name : String} {node : NodeId} :
    (name, node) ∈ (ofHistory model history).declarations.slots isEnum ↔
      held? history (.ofName isEnum name) = some node := by
  rw [Table.mem_iff_get? (distinct_slots model history isEnum), get?_slots]

/-- The nodes of a table are those that some slot holds. -/
theorem mem_values_slots_iff {isEnum : Bool} {node : NodeId} :
    node ∈ ((ofHistory model history).declarations.slots isEnum).values ↔
      ∃ name, held? history (.ofName isEnum name) = some node := by
  simp only [Table.values, List.mem_map, Prod.exists, exists_eq_right, mem_slots_iff]

/-- The nodes of one group stand in the order of their slots. -/
theorem firsts_slots_pairwise (isEnum : Bool) (shown : NodeId → Bool) :
    (Declarations.firsts
      (((ofHistory model history).declarations.slots isEnum).values.filter shown)).Pairwise
        (Precedes history isEnum) := by
  generalize table : (ofHistory model history).declarations.slots isEnum = slots
  have values : slots.values.filter shown = Table.values (slots.filter (shown ∘ Prod.snd)) := by
    rw [Table.values, List.filter_map]
    rfl
  have ordered : (Table.keys (slots.filter (shown ∘ Prod.snd))).Pairwise fun first second =>
      created history (.ofName isEnum first) < created history (.ofName isEnum second) :=
    (table ▸ keys_slots_pairwise model history isEnum).sublist (List.filter_sublist.map _)
  rw [values]
  refine (Declarations.firsts_pairwise ordered).imp_of_mem ?_
  rintro first second - member ⟨key, held, older⟩
  rw [Declarations.mem_firsts, ← values] at member
  have isShown : shown second = true := (List.mem_filter.mp member).2
  have holds := (List.mem_filter.mp held).1
  rw [← table, mem_slots_iff] at holds
  refine ⟨.ofName isEnum key, Slot.isEnum_ofName isEnum key, holds, ?_⟩
  intro other kind heldToo
  rw [Slot.eq_ofName_iff.mpr ⟨kind, rfl⟩] at heldToo ⊢
  refine older other.name (List.mem_filter.mpr ⟨?_, isShown⟩)
  rw [← table, mem_slots_iff]
  exact heldToo

/-- The order of the nodes falls into the two groups. -/
theorem exists_groups :
    ∃ enums others, (ofHistory model history).emissionOrder = enums ++ others ∧
      (∀ node, node ∈ enums ↔ ∃ name, held? history (.enum name) = some node) ∧
      (∀ node, node ∈ others ↔ (¬∃ name, held? history (.enum name) = some node) ∧
        (∃ key, held? history (.key key) = some node) ∧
          ((ofHistory model history).model.node node).shape.isNamedEnum = false) ∧
      enums.Pairwise (Precedes history true) ∧ others.Pairwise (Precedes history false) := by
  have inEnums (node : NodeId) : node ∈ (ofHistory model history).declarations.enums.values ↔
      ∃ name, held? history (.enum name) = some node :=
    @mem_values_slots_iff model history true node
  have inNamed (node : NodeId) : node ∈ (ofHistory model history).declarations.named.values ↔
      ∃ key, held? history (.key key) = some node :=
    @mem_values_slots_iff model history false node
  refine ⟨_, _, Declarations.firsts_append _ _, ?_, ?_, ?_, ?_⟩
  · intro node
    rw [Declarations.mem_firsts, inEnums]
  · intro node
    simp only [List.mem_filter, Declarations.mem_firsts, inNamed, decide_eq_true_eq, inEnums,
      Bool.not_eq_true']
    exact and_comm
  · have all := firsts_slots_pairwise model history true fun _ => true
    rw [List.filter_eq_self.mpr (by simp)] at all
    exact all
  · exact (firsts_slots_pairwise model history false fun node =>
      !((ofHistory model history).model.node node).shape.isNamedEnum).filter _

/-- Another key for a declared node makes no difference. -/
theorem emissionOrder_alias {registry : Registry} {key : String} {node : NodeId}
    (declared : registry.declarations.isDeclared node = true)
    (fresh : registry.declarations.get? key = none) (name : String) :
    (registry.register (.declare key node name)).emissionOrder = registry.emissionOrder := by
  have absent : key ∉ registry.declarations.named.keys := by
    rw [← Table.isSome_get?]
    change ¬(registry.declarations.get? key).isSome = true
    simp [fresh]
  simp only [emissionOrder, register, Declarations.emissionOrder, Declarations.declare,
    Model.shape_setId, Table.put_of_fresh absent, Table.values, List.map_append, List.map_cons,
    List.map_nil, List.filter_append, ← List.append_assoc]
  cases kind : (registry.model.node node).shape.isNamedEnum with
  | true => simp [kind]
  | false =>
      simp only [List.filter_cons, kind, Bool.not_false, ↓reduceIte, List.filter_nil]
      refine Declarations.firsts_append_of_mem (List.mem_append.mpr ?_)
      rcases Declarations.isDeclared_iff.mp declared with inNamed | inEnums
      · exact .inr (List.mem_filter.mpr ⟨inNamed, by simp [kind]⟩)
      · exact .inl inEnums

end Registry

namespace Compilation

/-- Exactly the named enums are stored as enums, so no other node comes before them. -/
theorem exists_enums_first {context : Context} {document : Json} {sourcePath : Option Path}
    {compilation : Compilation} (built : build context document sourcePath = .ok compilation) :
    ∃ enums others, compilation.emissionOrder = enums ++ others ∧
      (∀ node ∈ enums, (compilation.model.node node).shape.isNamedEnum = true) ∧
      ∀ node ∈ others, (compilation.model.node node).shape.isNamedEnum = false := by
  refine ⟨_, _, Declarations.firsts_append _ _, ?_, ?_⟩
  · intro node member
    rw [Declarations.mem_firsts, declarations_eq_ofJournal built,
      Declarations.mem_enums_ofJournal] at member
    obtain ⟨name, stands⟩ := member
    exact isNamedEnum_of_registered built stands.registered
  · intro node member
    have inNamed := Declarations.mem_firsts.mp (List.mem_filter.mp member).1
    simpa using (List.mem_filter.mp inNamed).2

/-- After any history of registrations every node is written at most once. First come the nodes that
enum slots hold and then the others that hold slots and are no named enums, and in both groups the
nodes stand as the oldest slots do that hold them in the end. Another key for a declared node
changes nothing. In the outcome of a compilation all named enums come before all other nodes. -/
theorem emissionOrder_ordered (model : Model) (history : List Registration) :
    let registry := Registry.ofHistory model history
    registry.emissionOrder.Nodup ∧
    (∃ enums others, registry.emissionOrder = enums ++ others ∧
      (∀ node, node ∈ enums ↔ ∃ name, held? history (.enum name) = some node) ∧
      (∀ node, node ∈ others ↔ (¬∃ name, held? history (.enum name) = some node) ∧
        (∃ key, held? history (.key key) = some node) ∧
          (registry.model.node node).shape.isNamedEnum = false) ∧
      enums.Pairwise (Precedes history true) ∧ others.Pairwise (Precedes history false)) ∧
    (∀ key node name, registry.declarations.isDeclared node = true →
      registry.declarations.get? key = none →
        (registry.register (.declare key node name)).emissionOrder = registry.emissionOrder) ∧
    ∀ context document sourcePath compilation,
      build context document sourcePath = .ok compilation →
        ∃ enums others, compilation.emissionOrder = enums ++ others ∧
          (∀ node ∈ enums, (compilation.model.node node).shape.isNamedEnum = true) ∧
          ∀ node ∈ others, (compilation.model.node node).shape.isNamedEnum = false :=
  ⟨Declarations.nodup_firsts _, Registry.exists_groups model history,
    fun _ _ name declared fresh => Registry.emissionOrder_alias declared fresh name,
    fun _ _ _ _ built => exists_enums_first built⟩

/-- A text and a named enum. -/
def textAndEnum : Model := (Model.empty.add (.primitive .string)).add (.namedEnum [])

/-- The slot of the text passes to another node and back, and the enum is stored last. -/
def exchanges : List Registration :=
  [.declare "Name" 0 "Name", .declare "Name" 1 "Name", .putEnum "Color" 1,
    .declare "Name" 0 "Name"]

/-- A property that is a named enum. -/
def coloredShape : Json :=
  .object [("properties", .object [
    ("label", .object [("title", .string "Label"), ("type", .string "string")]),
    ("color", .object [("enum", .array [.string "r"]), ("tsEnumNames", .array [.string "Red"])])])]

/-- A node that gets its slot back stands where the slot was filled first, behind the enum. -/
theorem emissionOrder_ordered_exchanges :
    let registry := Registry.ofHistory textAndEnum exchanges
    registry.emissionOrder = [1, 0] ∧
      (registry.register (.declare "definitions/color" 1 "color")).emissionOrder = [1, 0] ∧
      ∃ compilation, build ⟨{}, .ofFiles []⟩ coloredShape none = .ok compilation ∧
        compilation.emissionOrder = [1, 0, 3] ∧
        ∃ enums others, compilation.emissionOrder = enums ++ others ∧
          (∀ node ∈ enums, (compilation.model.node node).shape.isNamedEnum = true) ∧
          ∀ node ∈ others, (compilation.model.node node).shape.isNamedEnum = false := by
  obtain ⟨-, -, aliased, ordered⟩ := emissionOrder_ordered textAndEnum exchanges
  obtain ⟨compilation, built, checked⟩ := exists_ok
    (show (build ⟨{}, .ofFiles []⟩ coloredShape none).toOption.any (fun compilation => decide
      (compilation.emissionOrder = [1, 0, 3])) = true by decide +kernel)
  have order : (Registry.ofHistory textAndEnum exchanges).emissionOrder = [1, 0] := by decide
  have same := aliased "definitions/color" 1 "color" (by decide) (by decide)
  exact ⟨order, same.trans order, compilation, built, of_decide_eq_true checked,
    ordered _ _ _ compilation built⟩

end Compilation

end SchemaTypes
