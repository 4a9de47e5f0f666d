/-
This file compares what texts are read as with the types that they were written for. Main statement:
up to flattening, a text is read as its type if and only if no union is one of several members of an
intersection.
-/
import Mathlib.Algebra.Order.BigOperators.Group.List
import Mathlib.Algebra.Order.Ring.Nat
import SchemaTypes.Proofs.Precedence.Flattening
import SchemaTypes.Proofs.Precedence.Reading

namespace SchemaTypes.TypeScript

/-- In such a type, a union is a member of an intersection only where it is the only one. -/
inductive TypeExpr.Grouped : TypeExpr → Prop where
  | keyword (word : Keyword) : Grouped (.keyword word)
  | array {element : TypeExpr} (inside : Grouped element) : Grouped (.array element)
  | union {members : List TypeExpr} (inside : ∀ member ∈ members, Grouped member) :
      Grouped (.union members)
  | intersection {members : List TypeExpr} (inside : ∀ member ∈ members, Grouped member)
      (apart : 1 < members.length → ∀ member ∈ members,
        Connective.union.joins member.flat = false) : Grouped (.intersection members)

section

variable {α β γ : Type} {items : List α}

/-- Shorter parts make up a shorter list. -/
theorem length_flatMap_le {first : α → List β} {second : α → List γ}
    (le : ∀ item ∈ items, (first item).length ≤ (second item).length) :
    (items.flatMap first).length ≤ (items.flatMap second).length := by
  rw [List.length_flatMap, List.length_flatMap]
  exact List.sum_le_sum le

/-- A list of parts that are not empty has no fewer items than there are parts. -/
theorem length_le_flatMap {parts : α → List β}
    (positive : ∀ item ∈ items, 0 < (parts item).length) :
    items.length ≤ (items.flatMap parts).length := by
  have le : ∀ item ∈ items, [item].length ≤ (parts item).length := positive
  simpa using length_flatMap_le le

/-- Where no part of one list is longer than that of another, equal lists have equal parts. -/
theorem flatMap_eq_iff {first second : α → List β}
    (le : ∀ item ∈ items, (first item).length ≤ (second item).length) :
    items.flatMap first = items.flatMap second ↔ ∀ item ∈ items, first item = second item := by
  refine ⟨fun same => ?_, List.flatMap_congr⟩
  induction items with
  | nil => exact fun _ listed => nomatch listed
  | cons item items inductionHypothesis =>
      obtain ⟨leOwn, leLater⟩ := List.forall_mem_cons.mp le
      have leRest := length_flatMap_le leLater
      rw [List.flatMap_cons, List.flatMap_cons] at same
      have lengths := congrArg List.length same
      rw [List.length_append, List.length_append] at lengths
      obtain ⟨own, rest⟩ := List.append_inj same (by omega)
      exact List.forall_mem_cons.mpr ⟨own, inductionHypothesis leLater rest⟩

end

namespace Products

/-- Joining keeps the factors and their order. -/
theorem flatten_join (first second : Products) :
    (first.join second).flatten = first.flatten ++ second.flatten := by
  fun_induction join first second <;> simp_all

/-- Joining makes one product of the two in the middle. -/
theorem length_join {first second : Products} (firstNonempty : first ≠ [])
    (secondNonempty : second ≠ []) :
    (first.join second).length + 1 = first.length + second.length := by
  fun_induction join first second <;> simp_all <;> omega

/-- Every factor is flat, and neither a union nor an intersection. -/
def Plain (products : Products) : Prop :=
  ∀ factor ∈ products.flatten, factor.Flat ∧ ∀ connective : Connective,
    connective.joins factor = false

variable {products : Products}

/-- A product of plain factors is flat and no union. -/
theorem Plain.alternative (plain : products.Plain) :
    ∀ factors ∈ products, (Connective.intersection.of factors).Flat ∧
      Connective.union.joins (Connective.intersection.of factors) = false := by
  intro factors listed
  have inside : ∀ factor ∈ factors, factor.Flat ∧ ∀ connective : Connective,
      connective.joins factor = false :=
    fun factor part => plain factor (List.mem_flatten_of_mem listed part)
  refine ⟨.of (fun factor part => (inside factor part).1)
    fun factor part => (inside factor part).2 _, ?_⟩
  fun_cases Connective.of .intersection factors with
  | case1 factor => exact (inside factor List.mem_cons_self).2 _
  | case2 => rfl

/-- What a text is read as is flat. -/
theorem Plain.flat (plain : products.Plain) : products.type.Flat :=
  .of (List.forall_mem_map.mpr fun factors listed => (plain.alternative factors listed).1)
    (List.forall_mem_map.mpr fun factors listed => (plain.alternative factors listed).2)

end Products

namespace Connective

/-- Combining keeps the factors and their order. -/
theorem flatten_combine (connective : Connective) (products : List Products) :
    (connective.combine products).flatten = products.flatMap List.flatten := by
  cases connective with
  | union =>
      rw [combine, List.flatMap_def]
      induction products with
      | nil => rfl
      | cons first later inductionHypothesis =>
          simp [inductionHypothesis]
  | intersection =>
      induction products with
      | nil => rfl
      | cons first later inductionHypothesis =>
          rw [combine, List.foldr_cons, Products.flatten_join, List.flatMap_cons,
            ← inductionHypothesis, combine]

/-- An intersection is read as one product exactly if each of its members is. -/
theorem length_combine_eq_one {products : List Products} (nonempty : ∀ own ∈ products, own ≠ []) :
    (intersection.combine products).length = 1 ↔ ∀ own ∈ products, own.length = 1 := by
  induction products with
  | nil => simp [combine]
  | cons first later inductionHypothesis =>
      obtain ⟨own, rest⟩ := List.forall_mem_cons.mp nonempty
      have restCombined : intersection.combine later ≠ [] := by
        cases later with
        | nil => exact List.cons_ne_nil _ _
        | cons next later => exact Products.join_ne_nil (rest next List.mem_cons_self)
      have length := Products.length_join own restCombined
      have ownPositive := List.length_pos_iff.mpr own
      have restPositive := List.length_pos_iff.mpr restCombined
      rw [List.forall_mem_cons, ← inductionHypothesis rest, combine, List.foldr_cons]
      simp only [combine] at length restPositive ⊢
      omega

end Connective

namespace TypeExpr.Filled

variable {type : TypeExpr}

/-- A type with members everywhere is read as something. -/
theorem products_ne_nil (filled : type.Filled) : type.products ≠ [] :=
  (filled.reads true).nonempty

/-- Flattening brings a type with members everywhere into its form. -/
theorem isFlat (filled : type.Filled) : type.flat.Flat := by
  induction filled with
  | keyword word => exact .keyword word
  | array inside inductionHypothesis => exact .array inductionHypothesis
  | alone connective inside inductionHypothesis =>
      rw [connective.flat_singleton inductionHypothesis]
      exact inductionHypothesis
  | several connective several inside inductionHypothesis =>
      rw [connective.flat_type]
      have apart := connective.apart_of_flat inductionHypothesis
      exact .of (fun part listed => (apart part listed).1) fun part listed => (apart part listed).2

/-- What a type is read as has plain factors, since arrays and keywords are no unions. -/
theorem plain (filled : type.Filled) : type.products.Plain := by
  induction filled with
  | keyword word =>
      intro factor listed
      obtain rfl : factor = .keyword word := by simpa [products] using listed
      exact ⟨.keyword word, fun connective => by cases connective <;> rfl⟩
  | @array element inside inductionHypothesis =>
      intro factor listed
      obtain rfl : factor = .array element.products.type := by simpa [products] using listed
      exact ⟨.array inductionHypothesis.flat, fun connective => by cases connective <;> rfl⟩
  | alone connective inside inductionHypothesis =>
      rw [connective.products_singleton inside.products_ne_nil]
      exact inductionHypothesis
  | several connective several inside inductionHypothesis =>
      intro factor listed
      rw [connective.products_type, connective.flatten_combine, List.flatMap_map] at listed
      obtain ⟨member, isMember, isFactor⟩ := List.mem_flatMap.mp listed
      exact inductionHypothesis member isMember factor isFactor

/-- Flattening leaves no union and no intersection without members. -/
theorem length_parts_pos (filled : type.Filled) (connective : Connective) :
    0 < (connective.parts type.flat).length := by
  induction filled generalizing connective with
  | keyword word => cases connective <;> exact Nat.zero_lt_one
  | array inside => cases connective <;> exact Nat.zero_lt_one
  | alone own inside inductionHypothesis =>
      rw [own.flat_singleton inside.isFlat]
      exact inductionHypothesis connective
  | @several own members several inside inductionHypothesis =>
      have more := Nat.lt_of_lt_of_le several
        (length_le_flatMap fun member listed => inductionHypothesis member listed own)
      by_cases same : own = connective
      · subst same
        rw [own.parts_flat_type fun member listed => (inside member listed).isFlat]
        exact Nat.zero_lt_of_lt more
      · rw [own.flat_type, Connective.of_eq_type (Nat.ne_of_gt more)]
        cases own <;> cases connective <;> first | exact Nat.zero_lt_one | exact absurd rfl same

variable {members : List TypeExpr}

/-- Several members that are flattened are still several. -/
theorem one_lt_length_parts (several : 1 < members.length)
    (inside : ∀ member ∈ members, Filled member) (connective : Connective) :
    1 < (members.flatMap fun member => connective.parts member.flat).length :=
  Nat.lt_of_lt_of_le several
    (length_le_flatMap fun member listed => (inside member listed).length_parts_pos connective)

/-- Several members stay several when they are flattened. -/
theorem flat_several (several : 1 < members.length)
    (inside : ∀ member ∈ members, Filled member) (connective : Connective) :
    (connective.type members).flat =
      connective.type (members.flatMap fun member => connective.parts member.flat) := by
  rw [connective.flat_type,
    Connective.of_eq_type (Nat.ne_of_gt (one_lt_length_parts several inside connective))]

/-- A text is read as no fewer alternatives than its type has. -/
theorem length_parts_le (filled : type.Filled) :
    (Connective.union.parts type.flat).length ≤ type.products.length := by
  induction filled with
  | keyword word => exact Nat.le_refl 1
  | array inside => exact Nat.le_refl 1
  | alone connective inside inductionHypothesis =>
      rw [connective.flat_singleton inside.isFlat,
        connective.products_singleton inside.products_ne_nil]
      exact inductionHypothesis
  | @several connective members several inside inductionHypothesis =>
      cases connective with
      | union =>
          rw [Connective.parts_flat_type fun member listed => (inside member listed).isFlat,
            Connective.products_type, Connective.combine, ← List.flatMap_def]
          exact length_flatMap_le inductionHypothesis
      | intersection =>
          rw [flat_several several inside]
          have filled := Filled.several .intersection several inside
          exact List.length_pos_iff.mpr filled.products_ne_nil

/-- Side by side, the members of an intersection are one product only if each of them is. -/
theorem length_products_eq_one (inside : ∀ member ∈ members, Filled member) :
    (Connective.intersection.type members).products.length = 1 ↔
      ∀ member ∈ members, member.products.length = 1 := by
  rw [Connective.products_type, Connective.length_combine_eq_one, List.forall_mem_map]
  exact List.forall_mem_map.mpr fun member listed => (inside member listed).products_ne_nil

/-- A text that is read as one product is read as its factors. -/
theorem length_factors (filled : type.Filled) (single : type.products.length = 1) :
    (Connective.intersection.parts type.flat).length = type.products.flatten.length := by
  induction filled with
  | keyword word => rfl
  | array inside => rfl
  | alone connective inside inductionHypothesis =>
      rw [connective.flat_singleton inside.isFlat]
      rw [connective.products_singleton inside.products_ne_nil] at single ⊢
      exact inductionHypothesis single
  | @several connective members several inside inductionHypothesis =>
      cases connective with
      | union =>
          have le := (Filled.several .union several inside).length_parts_le
          rw [Connective.parts_flat_type fun member listed => (inside member listed).isFlat] at le
          have more := one_lt_length_parts several inside .union
          omega
      | intersection =>
          have singles := (length_products_eq_one inside).mp single
          rw [Connective.parts_flat_type fun member listed => (inside member listed).isFlat,
            Connective.products_type, Connective.flatten_combine, List.flatMap_map]
          refine Nat.le_antisymm (length_flatMap_le fun member listed => ?_)
            (length_flatMap_le fun member listed => ?_)
          · exact (inductionHypothesis member listed (singles member listed)).le
          · exact (inductionHypothesis member listed (singles member listed)).ge

/-- A type that is read as one product is no union when it is flattened. -/
theorem parts_union (filled : type.Filled) (single : type.products.length = 1) :
    Connective.union.joins type.flat = false := by
  obtain apart | ⟨members, same, several, -⟩ := filled.isFlat.cases_joins .union
  · exact apart
  · have le := filled.length_parts_le
    have positive := filled.length_parts_pos .union
    rw [same, Connective.parts_type] at le positive
    omega

/-- Compared are the alternatives that a text is read as and those that its type has. -/
theorem alternatives_eq_iff (filled : type.Filled) :
    type.products.map Connective.intersection.of = Connective.union.parts type.flat ↔
      type.products.type = type.flat := by
  constructor
  · intro same
    rw [Products.type, same, filled.isFlat.of_parts]
  · intro same
    rw [← same, Products.type, Connective.parts_of]
    exact List.forall_mem_map.mpr fun factors listed => (filled.plain.alternative factors listed).2

end TypeExpr.Filled

/-- The members of a union may be unions themselves. -/
theorem TypeExpr.grouped_union_iff {members : List TypeExpr} :
    (TypeExpr.union members).Grouped ↔ ∀ member ∈ members, member.Grouped := by
  refine ⟨fun grouped => ?_, .union⟩
  cases grouped with
  | union inside => exact inside

/-- Several members of an intersection may not be unions. -/
theorem TypeExpr.grouped_intersection_iff {members : List TypeExpr} :
    (TypeExpr.intersection members).Grouped ↔
      (∀ member ∈ members, member.Grouped) ∧ (1 < members.length → ∀ member ∈ members,
        Connective.union.joins member.flat = false) := by
  refine ⟨fun grouped => ?_, fun ⟨inside, apart⟩ => .intersection inside apart⟩
  cases grouped with
  | intersection inside apart => exact ⟨inside, apart⟩

/-- A single member is grouped as if it stood alone. -/
theorem TypeExpr.grouped_singleton (connective : Connective) {member : TypeExpr} :
    (connective.type [member]).Grouped ↔ member.Grouped := by
  cases connective with
  | union => simp [Connective.type, grouped_union_iff]
  | intersection => simp [Connective.type, grouped_intersection_iff]

namespace TypeExpr.Filled

/-- The products of members that are read as one product each. -/
theorem products_intersection {members : List TypeExpr}
    (inside : ∀ member ∈ members, Filled member)
    (singles : ∀ member ∈ members, member.products.length = 1) :
    (Connective.intersection.type members).products =
      [members.flatMap fun member => member.products.flatten] := by
  obtain ⟨factors, same⟩ := List.length_eq_one_iff.mp ((length_products_eq_one inside).mpr singles)
  have flattened := congrArg List.flatten same
  rw [Connective.products_type, Connective.flatten_combine, List.flatMap_map,
    List.flatten_singleton] at flattened
  rw [same, ← flattened]

/-- A text that is read as one product is read as its type if the factors are the same. -/
theorem factors_eq_iff {type : TypeExpr} (filled : type.Filled)
    (single : type.products.length = 1) :
    type.products.flatten = Connective.intersection.parts type.flat ↔
      type.products.type = type.flat := by
  obtain ⟨factors, same⟩ := List.length_eq_one_iff.mp single
  have apart : ∀ factor ∈ factors, Connective.intersection.joins factor = false :=
    fun factor listed => (filled.plain factor (by simpa [same] using listed)).2 _
  have type_eq : type.products.type = Connective.intersection.of factors := by
    rw [same]
    rfl
  rw [type_eq, same, List.flatten_singleton]
  constructor
  · intro equal
    rw [equal, filled.isFlat.of_parts]
  · intro equal
    rw [← equal, Connective.parts_of apart]

/-- The text of an intersection of several members is read as its type if and only if the texts of
all members are and none of them is a union. -/
theorem intersection_iff {members : List TypeExpr} (many : 1 < members.length)
    (inside : ∀ member ∈ members, Filled member) :
    (Connective.intersection.type members).products.type =
        (Connective.intersection.type members).flat ↔
      ∀ member ∈ members, member.products.type = member.flat ∧
        Connective.union.joins member.flat = false := by
  have filled := several .intersection many inside
  constructor
  -- The whole is one alternative, so every member is one, whose factors are found by their number.
  · intro same
    have alternatives := filled.alternatives_eq_iff.mpr same
    rw [flat_several many inside] at alternatives
    have single : (Connective.intersection.type members).products.length = 1 := by
      simpa [Connective.parts, Connective.type] using congrArg List.length alternatives
    have singles := (length_products_eq_one inside).mp single
    have factors := (filled.factors_eq_iff single).mpr same
    rw [products_intersection inside singles, List.flatten_singleton,
      Connective.parts_flat_type fun member listed => (inside member listed).isFlat] at factors
    have parts := (flatMap_eq_iff fun member listed =>
      ((inside member listed).length_factors (singles member listed)).ge).mp factors
    exact fun member listed =>
      ⟨((inside member listed).factors_eq_iff (singles member listed)).mp (parts member listed),
        (inside member listed).parts_union (singles member listed)⟩
  · intro each
    have singles : ∀ member ∈ members, member.products.length = 1 := fun member listed => by
      obtain ⟨same, apart⟩ := each member listed
      have alternatives := (inside member listed).alternatives_eq_iff.mpr same
      rw [Connective.parts_of_not apart] at alternatives
      simpa using congrArg List.length alternatives
    refine (filled.factors_eq_iff ((length_products_eq_one inside).mpr singles)).mp ?_
    rw [products_intersection inside singles, List.flatten_singleton,
      Connective.parts_flat_type fun member listed => (inside member listed).isFlat]
    exact List.flatMap_congr fun member listed =>
      ((inside member listed).factors_eq_iff (singles member listed)).mpr (each member listed).1

/-- The text of a union is read as its type if and only if the texts of all members are. -/
theorem union_iff {members : List TypeExpr} (many : 1 < members.length)
    (inside : ∀ member ∈ members, Filled member) :
    (Connective.union.type members).products.type = (Connective.union.type members).flat ↔
      ∀ member ∈ members, member.products.type = member.flat := by
  rw [← (several .union many inside).alternatives_eq_iff,
    Connective.parts_flat_type fun member listed => (inside member listed).isFlat,
    Connective.products_type, Connective.combine, ← List.flatMap_def, List.map_flatMap, eq_comm,
    flatMap_eq_iff fun member listed => by
      rw [List.length_map]
      exact (inside member listed).length_parts_le]
  exact forall₂_congr fun member listed =>
    eq_comm.trans (inside member listed).alternatives_eq_iff

/-- Up to flattening, a text is read as its type if and only if the type is grouped. -/
theorem products_type_iff {type : TypeExpr} (filled : type.Filled) :
    type.products.type = type.flat ↔ type.Grouped := by
  induction filled with
  | keyword word => exact ⟨fun _ => .keyword word, fun _ => rfl⟩
  | @array element inside inductionHypothesis =>
      have same : (TypeExpr.array element).products.type = .array element.products.type := rfl
      rw [same, TypeExpr.flat, TypeExpr.array.injEq, inductionHypothesis]
      refine ⟨.array, fun grouped => ?_⟩
      cases grouped with
      | array inside => exact inside
  | @alone connective member inside inductionHypothesis =>
      rw [connective.flat_singleton inside.isFlat,
        connective.products_singleton inside.products_ne_nil, grouped_singleton]
      exact inductionHypothesis
  | @several connective members many inside inductionHypothesis =>
      cases connective with
      | union =>
          rw [union_iff many inside, Connective.type, grouped_union_iff]
          exact forall₂_congr inductionHypothesis
      | intersection =>
          rw [intersection_iff many inside, Connective.type, grouped_intersection_iff,
            forall₂_and, imp_iff_right many]
          exact and_congr_left' (forall₂_congr inductionHypothesis)

end TypeExpr.Filled

end SchemaTypes.TypeScript
