/-
This file reads the texts of nodes back. Main statement: the text of a tree of nodes without names
can be read, and it is read as the type of the tree if and only if no union is one of several
members of an intersection.
-/
import Mathlib.Data.Finset.Card
import Mathlib.Data.Finset.Range
import SchemaTypes.Proofs.Precedence.Grouping
import SchemaTypes.TypeScript.Unfolding

namespace SchemaTypes

open TypeScript

namespace TypeScript

def TypeExpr.isNull : TypeExpr → Bool
  | .keyword (.primitive .null) => true
  | _ => false

mutual

/-- A type without those members of intersections that are null. -/
def TypeExpr.bare : TypeExpr → TypeExpr
  | .array element => .array element.bare
  | .union members => .union (bareMembers members)
  | .intersection members => .intersection ((bareMembers members).filter (!·.isNull))
  | other => other

def bareMembers : List TypeExpr → List TypeExpr
  | [] => []
  | member :: members => member.bare :: bareMembers members

end

theorem bareMembers_eq_map (members : List TypeExpr) :
    bareMembers members = members.map TypeExpr.bare := by
  induction members with
  | nil => rfl
  | cons member members inductionHypothesis =>
      rw [bareMembers, inductionHypothesis, List.map_cons]

/-- Members are smaller than the type that they are put together to. -/
theorem Connective.sizeOf_lt_type (connective : Connective) {member : TypeExpr}
    {members : List TypeExpr} (listed : member ∈ members) :
    sizeOf member < sizeOf (connective.type members) := by
  have part := List.sizeOf_lt_of_mem listed
  cases connective with
  | union =>
      rw [type, TypeExpr.union.sizeOf_spec]
      omega
  | intersection =>
      rw [type, TypeExpr.intersection.sizeOf_spec]
      omega

end TypeScript

namespace Model

/-- The type of a tree of nodes without names, in which unions have members and intersections have
members other than null. -/
inductive Spans (model : Model) : NodeId → TypeExpr → Prop where
  | any {id : NodeId} (unnamed : (model.node id).id = none) (shape : (model.node id).shape = .any) :
      Spans model id (.keyword .any)
  | primitive {id : NodeId} {kind : Primitive} (unnamed : (model.node id).id = none)
      (shape : (model.node id).shape = .primitive kind) :
      Spans model id (.keyword (.primitive kind))
  | array {id element : NodeId} {type : TypeExpr} (unnamed : (model.node id).id = none)
      (shape : (model.node id).shape = .array element) (inside : Spans model element type) :
      Spans model id (.array type)
  | union {id : NodeId} {members : List NodeId} {child : NodeId → TypeExpr}
      (unnamed : (model.node id).id = none) (shape : (model.node id).shape = .union members)
      (nonempty : members ≠ []) (inside : ∀ member ∈ members, Spans model member (child member)) :
      Spans model id (.union (members.map child))
  | intersection {id : NodeId} {members : List NodeId} {child : NodeId → TypeExpr}
      (unnamed : (model.node id).id = none)
      (shape : (model.node id).shape = .intersection members)
      (notNull : ∃ member ∈ members, (model.node member).isNull = false)
      (inside : ∀ member ∈ members, Spans model member (child member)) :
      Spans model id (.intersection (members.map child))

variable {model : Model} {id : NodeId} {type other : TypeExpr}

/-- A node is the root of one tree only. -/
theorem Spans.unique (spans : model.Spans id type) (again : model.Spans id other) :
    type = other := by
  induction spans generalizing other with
  | any unnamed shape => cases again <;> simp_all
  | primitive unnamed shape => cases again <;> simp_all
  | array unnamed shape inside inductionHypothesis =>
      cases again with
      | array _ same insideAgain =>
          obtain rfl := Shape.array.inj (shape.symm.trans same)
          rw [inductionHypothesis insideAgain]
      | _ => simp_all
  | union unnamed shape nonempty inside inductionHypothesis =>
      cases again with
      | union _ same _ insideAgain =>
          obtain rfl := Shape.union.inj (shape.symm.trans same)
          rw [List.map_congr_left fun member listed =>
            inductionHypothesis member listed (insideAgain member listed)]
      | _ => simp_all
  | intersection unnamed shape notNull inside inductionHypothesis =>
      cases again with
      | intersection _ same _ insideAgain =>
          obtain rfl := Shape.intersection.inj (shape.symm.trans same)
          rw [List.map_congr_left fun member listed =>
            inductionHypothesis member listed (insideAgain member listed)]
      | _ => simp_all

/-- A type is null exactly if its node is. -/
theorem Spans.isNull (spans : model.Spans id type) :
    type.bare.isNull = (model.node id).isNull := by
  rw [Node.isNull]
  cases spans with
  | @primitive _ kind _ shape =>
      rw [shape]
      cases kind <;> rfl
  | any _ shape | array _ shape | union _ shape | intersection _ shape =>
      rw [shape]
      rfl

/-- The members of an intersection that are written. -/
theorem bareMembers_intersection {members : List NodeId} {child : NodeId → TypeExpr}
    (inside : ∀ member ∈ members, model.Spans member (child member)) :
    (bareMembers (members.map child)).filter (!·.isNull) =
      (members.filter fun member => !(model.node member).isNull).map
        fun member => (child member).bare := by
  rw [bareMembers_eq_map, List.map_map, List.filter_map]
  refine congrArg _ (List.filter_congr fun member listed => ?_)
  exact congrArg _ (inside member listed).isNull

open Classical in
/-- The nodes whose trees are no larger than a type. -/
noncomputable def within (model : Model) (type : TypeExpr) : Finset NodeId :=
  (Finset.range model.size).filter fun id => ∃ own, model.Spans id own ∧ sizeOf own ≤ sizeOf type

open Classical in
/-- A node is within a type if it stands for one that is no larger. -/
theorem mem_within : id ∈ model.within type ↔
    id < model.size ∧ ∃ own, model.Spans id own ∧ sizeOf own ≤ sizeOf type := by
  rw [within, Finset.mem_filter, Finset.mem_range]

/-- No more nodes are within a type than the model has. -/
theorem card_within_le : (model.within type).card ≤ model.size := by
  simpa using Finset.card_le_card fun id (listed : id ∈ model.within type) =>
    Finset.mem_range.mpr (mem_within.mp listed).1

/-- The root of a tree is among the nodes for the tree and not among those for its parts. -/
theorem Spans.card_within_lt (spans : model.Spans id type)
    (constrained : (model.node id).shape ≠ .any) (smaller : sizeOf other < sizeOf type) :
    (model.within other).card < (model.within type).card := by
  refine Finset.card_lt_card (Finset.ssubset_iff_subset_ne.mpr ⟨fun node listed => ?_, ?_⟩)
  · obtain ⟨known, own, ownSpans, le⟩ := mem_within.mp listed
    exact mem_within.mpr ⟨known, own, ownSpans, Nat.le_of_lt (Nat.lt_of_le_of_lt le smaller)⟩
  · intro same
    have listed : id ∈ model.within type :=
      mem_within.mpr ⟨lt_size_of_shape constrained, type, spans, Nat.le_refl _⟩
    rw [← same] at listed
    obtain ⟨-, own, ownSpans, le⟩ := mem_within.mp listed
    rw [ownSpans.unique spans] at le
    exact Nat.not_lt_of_le le smaller

/-- Fuel for a tree leaves enough for its parts. -/
theorem Spans.exists_less (spans : model.Spans id type)
    (constrained : (model.node id).shape ≠ .any) (smaller : sizeOf other < sizeOf type) {fuel : Nat}
    (enough : (model.within type).card ≤ fuel) :
    ∃ less, fuel = less + 1 ∧ (model.within other).card ≤ less := by
  have fewer := Nat.lt_of_lt_of_le (spans.card_within_lt constrained smaller) enough
  obtain ⟨less, rfl⟩ := Nat.exists_eq_succ_of_ne_zero (Nat.ne_zero_of_lt fewer)
  exact ⟨less, rfl, Nat.le_of_lt_succ fewer⟩

/-- No more fuel is needed for a tree than there are nodes whose trees are no larger. -/
theorem Spans.inlineType_eq (spans : model.Spans id type) {fuel : Nat}
    (enough : (model.within type).card ≤ fuel) : model.inlineType (fuel + 1) id = type.bare := by
  induction spans generalizing fuel with
  | any unnamed shape | primitive unnamed shape =>
      rw [inlineType, unnamed, shape]
      rfl
  | @array id element type unnamed shape inside inductionHypothesis =>
      obtain ⟨less, rfl, left⟩ := (Spans.array unnamed shape inside).exists_less (by simp [shape])
        (show sizeOf type < sizeOf (TypeExpr.array type) by simp) enough
      rw [inlineType, unnamed, shape, TypeExpr.bare, ← inductionHypothesis left]
      rfl
  | @union id members child unnamed shape nonempty inside inductionHypothesis =>
      have written : ∀ member ∈ members, model.inlineType fuel member = (child member).bare := by
        intro member listed
        have part : child member ∈ members.map child := List.mem_map_of_mem listed
        obtain ⟨less, rfl, left⟩ := (Spans.union unnamed shape nonempty inside).exists_less
          (by simp [shape]) (Connective.union.sizeOf_lt_type part) enough
        exact inductionHypothesis member listed left
      rw [inlineType, unnamed, shape, TypeExpr.bare, bareMembers_eq_map, List.map_map]
      exact congrArg TypeExpr.union (List.map_congr_left written)
  | @intersection id members child unnamed shape notNull inside inductionHypothesis =>
      have written : ∀ member ∈ members, model.inlineType fuel member = (child member).bare := by
        intro member listed
        have part : child member ∈ members.map child := List.mem_map_of_mem listed
        obtain ⟨less, rfl, left⟩ := (Spans.intersection unnamed shape notNull inside).exists_less
          (by simp [shape]) (Connective.intersection.sizeOf_lt_type part) enough
        exact inductionHypothesis member listed left
      rw [inlineType, unnamed, shape, TypeExpr.bare, bareMembers_intersection inside]
      exact congrArg TypeExpr.intersection
        (List.map_congr_left fun member kept => written member (List.mem_filter.mp kept).1)

/-- The type of a tree is written without the null members of its intersections. -/
theorem Spans.typeOf_eq (spans : model.Spans id type) : model.typeOf id = type.bare :=
  spans.inlineType_eq card_within_le

/-- What is written of a tree has members everywhere. -/
theorem Spans.filled (spans : model.Spans id type) : type.bare.Filled := by
  induction spans with
  | any => exact .keyword _
  | primitive => exact .keyword _
  | array _ _ _ inductionHypothesis => exact .array inductionHypothesis
  | @union _ members child _ _ nonempty inside inductionHypothesis =>
      rw [TypeExpr.bare, bareMembers_eq_map]
      refine .joined .union (by simpa using nonempty) ?_
      simpa using inductionHypothesis
  | @intersection _ members child _ _ notNull inside inductionHypothesis =>
      rw [TypeExpr.bare, bareMembers_intersection inside]
      refine .joined .intersection ?_ ?_
      · obtain ⟨member, listed, written⟩ := notNull
        have kept : member ∈ members.filter fun member => !(model.node member).isNull :=
          List.mem_filter.mpr ⟨listed, by simpa using written⟩
        exact List.ne_nil_of_mem (List.mem_map_of_mem kept)
      · rw [List.forall_mem_map]
        exact fun member kept => inductionHypothesis member (List.mem_filter.mp kept).1

/-- The text of a tree of nodes without names can be read. Up to flattening, it is read as the type
of the tree if and only if no union is one of several members of an intersection. -/
theorem read_typeOf_iff (spans : model.Spans id type) (semicolons : Bool) :
    ∃ read, read? ((model.typeOf id).text semicolons) = some read ∧
      (read.flat = type.bare.flat ↔ type.bare.Grouped) := by
  have filled := spans.filled
  refine ⟨type.bare.products.type, ?_, ?_⟩
  · rw [spans.typeOf_eq]
    exact (filled.reads semicolons).read?
  · rw [filled.plain.flat.flat_eq]
    exact filled.products_type_iff

/-- A union of strings and numbers, an intersection with an array of it, and one with the union. -/
def unionFactor : Model :=
  ⟨#[⟨.primitive .string, none, none⟩, ⟨.primitive .number, none, none⟩,
    ⟨.union [0, 1], none, none⟩, ⟨.primitive .null, none, none⟩, ⟨.primitive .boolean, none, none⟩,
    ⟨.array 2, none, none⟩, ⟨.intersection [5, 3, 4], none, none⟩,
    ⟨.intersection [2, 4], none, none⟩]⟩

def stringOrNumber : TypeExpr :=
  .union [.keyword (.primitive .string), .keyword (.primitive .number)]

/-- The union of the model is one of strings and numbers. -/
theorem unionFactor_spans : unionFactor.Spans 2 stringOrNumber := by
  refine @Spans.union _ 2 [0, 1]
    (fun | 0 => .keyword (.primitive .string) | _ => .keyword (.primitive .number)) rfl rfl ?_ ?_
  · exact List.cons_ne_nil _ _
  · exact List.forall_mem_cons.mpr ⟨.primitive rfl rfl,
      List.forall_mem_singleton.mpr (.primitive rfl rfl)⟩

/-- An array of a union is read back from its text, since the union is put into parentheses. -/
theorem read_typeOf_iff_arrayFactor :
    unionFactor.Spans 6 (.intersection
      [.array stringOrNumber, .keyword (.primitive .null), .keyword (.primitive .boolean)]) ∧
      ∃ read, read? ((unionFactor.typeOf 6).text false) = some read ∧
        read.flat = .intersection [.array stringOrNumber, .keyword (.primitive .boolean)] := by
  have spans := @Spans.intersection unionFactor 6 [5, 3, 4]
    (fun
      | 5 => .array stringOrNumber
      | 3 => .keyword (.primitive .null)
      | _ => .keyword (.primitive .boolean)) rfl rfl ⟨5, by decide, by decide⟩
    (List.forall_mem_cons.mpr ⟨.array rfl rfl unionFactor_spans, List.forall_mem_cons.mpr
      ⟨.primitive rfl rfl, List.forall_mem_singleton.mpr (.primitive rfl rfl)⟩⟩)
  obtain ⟨read, isRead, same⟩ := read_typeOf_iff spans false
  have grouped : (TypeExpr.intersection
      [.array stringOrNumber, .keyword (.primitive .boolean)]).Grouped := by
    refine .intersection ?_ fun _ => ?_
    · exact List.forall_mem_cons.mpr
        ⟨.array (.union (List.forall_mem_cons.mpr ⟨.keyword _,
          List.forall_mem_singleton.mpr (.keyword _)⟩)),
        List.forall_mem_singleton.mpr (.keyword _)⟩
    · exact List.forall_mem_cons.mpr ⟨rfl, List.forall_mem_singleton.mpr rfl⟩
  exact ⟨spans, read, isRead, same.mpr grouped⟩

/-- Without parentheses around the union, the second alternative takes the factor. -/
theorem unionFactor_misread :
    unionFactor.Spans 7 (.intersection [stringOrNumber, .keyword (.primitive .boolean)]) ∧
      (unionFactor.typeOf 7).text false = "string | number & boolean" ∧
      ∃ read, read? "string | number & boolean" = some read ∧
        read.flat ≠ (TypeExpr.intersection
          [stringOrNumber, .keyword (.primitive .boolean)]).bare.flat := by
  have spans := @Spans.intersection unionFactor 7 [2, 4]
    (fun | 2 => stringOrNumber | _ => .keyword (.primitive .boolean)) rfl rfl
    ⟨2, by decide, by decide⟩ (List.forall_mem_cons.mpr ⟨unionFactor_spans,
      List.forall_mem_singleton.mpr (.primitive rfl rfl)⟩)
  exact ⟨spans, by decide, _, rfl, fun same => TypeExpr.noConfusion same⟩

end Model
end SchemaTypes
