/-
This file says where the output has nothing in the place of a type. Main statement: a place is blank
exactly if its name has no letters and digits, if nothing that a union or an intersection joins is
written, or if the only thing that is written of it is blank.
-/
import SchemaTypes.Proofs.Build.Sound
import SchemaTypes.Proofs.Meaning.Junctions
import SchemaTypes.Proofs.Meaning.Reading
import SchemaTypes.Proofs.Names.Referred
import SchemaTypes.Proofs.Names.Usable
import SchemaTypes.Proofs.Output.Hanging
import SchemaTypes.Proofs.Output.Literals

namespace SchemaTypes

open TypeScript

namespace Identifier

open Unicode

/-- A name without letters and digits. -/
def IsWordless (name : String) : Prop :=
  ∀ character ∈ name.toList, isAlphanumeric character = false

/-- A name makes nothing only if it has no letters and digits. -/
theorem ofName_eq_empty {name : String} : ofName name = "" ↔ IsWordless name := by
  have nothing : IsWordless name ↔ name.toList.filter isAlphanumeric = [] := by
    simp [IsWordless, List.filter_eq_nil_iff]
  rw [nothing]
  rcases ofName_begins name with ⟨none, empty⟩ | ⟨character, start, some, -, begins⟩
  · exact iff_of_true empty none
  · refine iff_of_false (fun empty => ?_) fun none => ?_
    · rw [empty] at begins
      cases begins
    · rw [none] at some
      cases some

end Identifier

/-- The types that stand in a declaration: that of an alias, and the parts of types. -/
inductive TypeScript.Declaration.Holds (declaration : Declaration) : TypeExpr → Prop where
  | whole {type : TypeExpr} (defines : declaration.definition = .alias type) :
      Holds declaration type
  | property {type part : TypeExpr} (defines : declaration.definition = .interface type)
      (inside : part ∈ type.parts) : Holds declaration part
  | part {type part : TypeExpr} (holds : Holds declaration type) (inside : part ∈ type.parts) :
      Holds declaration part

/-- A place where a type is written: what a declaration defines, or where a type uses a node. -/
inductive Place where
  | body (node : NodeId)
  | use (node : NodeId)
deriving DecidableEq, Repr

namespace Model

def typeAt (model : Model) : Place → TypeExpr
  | .body node => model.definedType node
  | .use node => model.typeOf node

variable {model : Model} {child : NodeId → TypeExpr} {shape : Shape}

/-- The type that is declared for a node is the one that it defines. -/
theorem type_of_definition {node : NodeId} {type : TypeExpr}
    (defines : (model.declaration node).definition.type? = some type) :
    type = model.definedType node := by
  have noEnum : (model.node node).shape.isNamedEnum = false := by
    cases shape : (model.node node).shape with
    | namedEnum members =>
        rw [definition_eq_enum.mpr shape] at defines
        cases defines
    | _ => rfl
  exact Option.some.inj (defines.symm.trans (type?_declaration noEnum))

theorem type_of_alias {node : NodeId} {type : TypeExpr}
    (defines : (model.declaration node).definition = .alias type) :
    type = model.definedType node :=
  type_of_definition (congrArg Definition.type? defines)

theorem type_of_interface {node : NodeId} {type : TypeExpr}
    (defines : (model.declaration node).definition = .interface type) :
    type = model.definedType node :=
  type_of_definition (congrArg Definition.type? defines)

/-- Nothing is written for a shape if its name is empty, if nothing that it joins is written, or if
nothing is written for the only one that is. -/
theorem text_shapeType_eq_empty (noEnum : shape.isNamedEnum = false) (semicolons : Bool) :
    (model.shapeType child shape).text semicolons = "" ↔
      shape = .reference "" ∨ shape.junction? ≠ none ∧ (model.written shape = [] ∨
        ∃ member, model.written shape = [member] ∧ (child member).text semicolons = "") := by
  have joined {separator : String} (visible : separator ≠ "") (members : List NodeId) :
      String.intercalate separator (memberTexts semicolons (members.map child)) = "" ↔
        members = [] ∨ ∃ member, members = [member] ∧ (child member).text semicolons = "" := by
    rw [memberTexts_eq_map, Text.intercalate_eq_empty visible, List.map_map, List.map_eq_nil_iff,
      List.map_eq_singleton_iff]
    rfl
  cases shape with
  | any => simp [shapeType, TypeExpr.text, Keyword.text, Shape.junction?]
  | primitive kind =>
      cases kind <;> simp [shapeType, TypeExpr.text, Keyword.text, Shape.junction?]
  | literal value =>
      simp [shapeType, TypeExpr.text, Shape.junction?, Json.compact_ne_empty]
  | array element =>
      simp only [shapeType, TypeExpr.text, arrayText, Shape.junction?]
      split <;> simp
  | union members =>
      simpa [shapeType, TypeExpr.text, Shape.junction?, written, Shape.children] using
        joined (by decide) members
  | intersection members =>
      simpa [shapeType, TypeExpr.text, Shape.junction?, written] using
        joined (by decide) (members.filter fun member => !(model.node member).isNull)
  | reference name => simp [shapeType, TypeExpr.text, Shape.junction?]
  | namedEnum members => cases noEnum
  | interface properties => simp [shapeType, TypeExpr.text, objectText, Shape.junction?]

end Model

namespace Compilation

/-- The places of types in the output. Where a node with a name is used, only its name is there. -/
inductive Contains (compilation : Compilation) : Place → Prop where
  | defined {node : NodeId} {type : TypeExpr} (emitted : node ∈ compilation.emissionOrder)
      (defines : (compilation.model.declaration node).definition = .alias type) :
      Contains compilation (.body node)
  | part {node child : NodeId} (emitted : node ∈ compilation.emissionOrder)
      (written : child ∈ compilation.model.written (compilation.model.node node).shape) :
      Contains compilation (.use child)
  | inside {node child : NodeId} (reached : Contains compilation (.use node))
      (unnamed : (compilation.model.node node).id = none)
      (written : child ∈ compilation.model.written (compilation.model.node node).shape) :
      Contains compilation (.use child)

/-- Why nothing is written at a place. -/
inductive Blank (compilation : Compilation) : Place → Prop where
  | named {node : NodeId} {name : String} (named : (compilation.model.node node).id = some name)
      (wordless : Identifier.IsWordless name) : Blank compilation (.use node)
  | unnamed {node : NodeId} (unnamed : (compilation.model.node node).id = none)
      (blank : Blank compilation (.body node)) : Blank compilation (.use node)
  | reference {node : NodeId} {name : String}
      (shape : (compilation.model.node node).shape = .reference (Identifier.ofName name))
      (wordless : Identifier.IsWordless name) : Blank compilation (.body node)
  /-- An enum, a list of types or an `anyOf` that lists nothing. -/
  | memberless {node : NodeId} {frame : Frame} {fragment : Json}
      (visited : .visited frame fragment (some node) ∈ compilation.journal)
      (outlined : fragment.outline? = some ⟨.union, []⟩) : Blank compilation (.body node)
  /-- An `allOf` that lists nothing but null. -/
  | nulls {node : NodeId} {frame : Frame} {fragment : Json} {parts : List Part}
      (visited : .visited frame fragment (some node) ∈ compilation.journal)
      (outlined : fragment.outline? = some ⟨.intersection, parts⟩)
      (nulls : ∀ member ∈ (compilation.model.node node).shape.children,
        (compilation.model.node member).isNull = true) : Blank compilation (.body node)
  | single {node member : NodeId} {frame : Frame} {fragment : Json} {outline : Outline}
      (visited : .visited frame fragment (some node) ∈ compilation.journal)
      (outlined : fragment.outline? = some outline) (joins : outline.head.joins = true)
      (only : compilation.model.written (compilation.model.node node).shape = [member])
      (blank : Blank compilation (.use member)) : Blank compilation (.body node)

variable {context : Context} {document : Json} {sourcePath : Option Path}
  {compilation : Compilation}

/-- In the end all children still come before their nodes. -/
theorem grounded (built : build context document sourcePath = .ok compilation) :
    compilation.model.Grounded := by
  obtain ⟨last, passage, known, same⟩ := exists_run built
  have sound : (compilation.declared last).Sound :=
    (passage.run.keeps Progress.Sound.step (.start _)).declare .name _ _ known
  rw [model, same]
  exact (bindReferences_sound sound _ _).grounded

/-- A child of a node is in the model. -/
theorem child_known (built : build context document sourcePath = .ok compilation)
    {node child : NodeId} (part : child ∈ (compilation.model.node node).shape.children) :
    child < compilation.model.size := by
  refine Nat.lt_trans (grounded built node child part) (Model.lt_size_of_shape fun any => ?_)
  rw [any] at part
  cases part

/-- Named enums have names in the end as well. -/
theorem enumsNamed (built : build context document sourcePath = .ok compilation) :
    compilation.progress.EnumsNamed := by
  obtain ⟨last, passage, known, same⟩ := exists_run built
  have recorded : (compilation.declared last).Recorded :=
    (passage.run.keeps Progress.Recorded.step (.start _)).declare ..
  have enums : (compilation.declared last).EnumsNamed :=
    (passage.run.keeps Progress.EnumsNamed.step (.start _)).setId _ _
  intro node isEnum
  rw [same] at isEnum ⊢
  rw [bindReferences_isNamedEnum recorded] at isEnum
  rw [bindReferences_id]
  exact enums node isEnum

/-- What joins members was made of a fragment that says so. -/
theorem exists_junction (built : build context document sourcePath = .ok compilation)
    {node : NodeId} (joins : (compilation.model.node node).shape.junction? ≠ none) :
    ∃ frame fragment outline, .visited frame fragment (some node) ∈ compilation.journal ∧
      fragment.outline? = some outline ∧ outline.head.joins = true ∧
      (compilation.model.node node).shape.junction? =
        some ⟨outline.head, outline.parts.length⟩ := by
  obtain ⟨top, junction⟩ := Option.ne_none_iff_exists'.mp joins
  obtain ⟨frame, fragment, visited, made⟩ := (junction?_iff built node top).mp junction
  obtain ⟨outline, found, rfl⟩ := Option.map_eq_some_iff.mp made
  obtain ⟨outlined, isJunction⟩ := Option.filter_eq_some_iff.mp found
  exact ⟨frame, fragment, outline, visited, outlined, isJunction, junction⟩

/-- A node that was made of a fragment that joins members joins as many. -/
theorem junction?_of_visited (built : build context document sourcePath = .ok compilation)
    {node : NodeId} {frame : Frame} {fragment : Json} {outline : Outline}
    (visited : .visited frame fragment (some node) ∈ compilation.journal)
    (outlined : fragment.outline? = some outline) (joins : outline.head.joins = true) :
    (compilation.model.node node).shape.junction? = some ⟨outline.head, outline.parts.length⟩ :=
  (junction?_iff built node _).mpr
    ⟨frame, fragment, visited, Json.junction?_of_outline? outlined joins⟩

/-- Where nothing is written of what a node joins, its fragment lists nothing or only null. -/
theorem Blank.of_nothing (built : build context document sourcePath = .ok compilation)
    {node : NodeId} (joins : (compilation.model.node node).shape.junction? ≠ none)
    (nothing : compilation.model.written (compilation.model.node node).shape = []) :
    compilation.Blank (.body node) := by
  obtain ⟨frame, fragment, ⟨head, parts⟩, visited, outlined, -, junction⟩ :=
    exists_junction built joins
  cases shape : (compilation.model.node node).shape with
  | union members =>
      rw [shape] at nothing junction
      obtain rfl : members = [] := nothing
      obtain ⟨rfl, length⟩ := Top.mk.inj (Option.some.inj junction)
      obtain rfl : parts = [] := List.eq_nil_of_length_eq_zero length.symm
      exact .memberless visited outlined
  | intersection members =>
      rw [shape] at nothing junction
      obtain ⟨rfl, -⟩ := Top.mk.inj (Option.some.inj junction)
      refine .nulls visited outlined fun member inside => ?_
      rw [shape] at inside
      simpa using List.filter_eq_nil_iff.mp nothing member inside
  | _ =>
      rw [shape] at joins
      exact absurd rfl joins

/-- What a fragment lists that is not null is written of its node. -/
theorem written_eq_nil (built : build context document sourcePath = .ok compilation)
    {node : NodeId} {frame : Frame} {fragment : Json} {outline : Outline}
    (visited : .visited frame fragment (some node) ∈ compilation.journal)
    (outlined : fragment.outline? = some outline)
    (nothing : outline = ⟨.union, []⟩ ∨ outline.head = .intersection ∧
      ∀ member ∈ (compilation.model.node node).shape.children,
        (compilation.model.node member).isNull = true) :
    compilation.model.written (compilation.model.node node).shape = [] := by
  rcases nothing with rfl | ⟨intersection, nulls⟩
  · have junction := junction?_of_visited built visited outlined rfl
    cases shape : (compilation.model.node node).shape with
    | union members =>
        rw [shape] at junction
        exact List.eq_nil_of_length_eq_zero (Top.mk.inj (Option.some.inj junction)).2
    | _ =>
        rw [shape] at junction
        cases junction
  · have joins : outline.head.joins = true := by rw [intersection]; rfl
    have junction := junction?_of_visited built visited outlined joins
    cases shape : (compilation.model.node node).shape with
    | intersection members =>
        rw [shape] at nulls
        exact List.filter_eq_nil_iff.mpr fun member inside => by simpa using nulls member inside
    | union members =>
        rw [shape, intersection] at junction
        cases junction
    | _ =>
        rw [shape] at junction
        cases junction

/-- What a node defines is blank if a reason is found at the node or at its only member. -/
theorem blank_body_iff (built : build context document sourcePath = .ok compilation)
    {semicolons : Bool} {node : NodeId}
    (noEnum : (compilation.model.node node).shape.isNamedEnum = false)
    (inner : ∀ member ∈ compilation.model.written (compilation.model.node node).shape,
      ((compilation.model.typeOf member).text semicolons = "" ↔
        compilation.Blank (.use member))) :
    (compilation.model.definedType node).text semicolons = "" ↔
      compilation.Blank (.body node) := by
  rw [Model.definedType, Model.text_shapeType_eq_empty noEnum]
  constructor
  · rintro (reference | ⟨joins, nothing | ⟨member, only, empty⟩⟩)
    · obtain ⟨name, same⟩ := refersByName built node "" reference
      exact .reference (reference.trans (congrArg Shape.reference same))
        (Identifier.ofName_eq_empty.mp same.symm)
    · exact .of_nothing built joins nothing
    · obtain ⟨frame, fragment, outline, visited, outlined, isJunction, -⟩ :=
        exists_junction built joins
      have inside := List.mem_singleton_self member
      rw [← only] at inside
      exact .single visited outlined isJunction only ((inner member inside).mp empty)
  · have joins {frame : Frame} {fragment : Json} {outline : Outline}
        (visited : .visited frame fragment (some node) ∈ compilation.journal)
        (outlined : fragment.outline? = some outline) (isJunction : outline.head.joins = true) :
        (compilation.model.node node).shape.junction? ≠ none := by
      rw [junction?_of_visited built visited outlined isJunction]
      exact nofun
    intro blank
    cases blank with
    | reference shape wordless =>
        exact .inl (shape.trans (congrArg Shape.reference
          (Identifier.ofName_eq_empty.mpr wordless)))
    | memberless visited outlined =>
        exact .inr ⟨joins visited outlined rfl,
          .inl (written_eq_nil built visited outlined (.inl rfl))⟩
    | nulls visited outlined nulls =>
        exact .inr ⟨joins visited outlined rfl,
          .inl (written_eq_nil built visited outlined (.inr ⟨rfl, nulls⟩))⟩
    | @single _ member _ _ _ visited outlined isJunction only blank =>
        have inside := List.mem_singleton_self member
        rw [← only] at inside
        exact .inr ⟨joins visited outlined isJunction,
          .inr ⟨member, only, (inner member inside).mpr blank⟩⟩

/-- Where a node is used, its name decides if it has one, and else what it defines. -/
theorem blank_use_iff (built : build context document sourcePath = .ok compilation)
    {semicolons : Bool} {node : NodeId} (known : node < compilation.model.size)
    (body : (compilation.model.node node).shape.isNamedEnum = false →
      ((compilation.model.definedType node).text semicolons = "" ↔
        compilation.Blank (.body node))) :
    (compilation.model.typeOf node).text semicolons = "" ↔ compilation.Blank (.use node) := by
  rw [Model.typeOf_eq (grounded built) known]
  cases named : (compilation.model.node node).id with
  | some name =>
      rw [TypeExpr.text, Identifier.ofName_eq_empty]
      constructor
      · exact .named named
      · intro blank
        cases blank with
        | named other wordless =>
            obtain rfl := Option.some.inj (named.symm.trans other)
            exact wordless
        | unnamed unnamed => cases named.symm.trans unnamed
  | none =>
      have noEnum : (compilation.model.node node).shape.isNamedEnum = false := by
        refine Bool.eq_false_iff.mpr fun isEnum => ?_
        exact enumsNamed built node isEnum named
      rw [body noEnum]
      constructor
      · exact .unnamed named
      · intro blank
        cases blank with
        | named other => cases named.symm.trans other
        | unnamed _ blank => exact blank

/-- Children come before their nodes, so what is written of a node is judged before the node is. -/
theorem blank_node_iff (built : build context document sourcePath = .ok compilation)
    (semicolons : Bool) (node : NodeId) :
    ((compilation.model.node node).shape.isNamedEnum = false →
      ((compilation.model.definedType node).text semicolons = "" ↔
        compilation.Blank (.body node))) ∧
    (node < compilation.model.size →
      ((compilation.model.typeOf node).text semicolons = "" ↔
        compilation.Blank (.use node))) := by
  induction node using Nat.strong_induction_on with
  | h node inductionHypothesis =>
      have body (noEnum : (compilation.model.node node).shape.isNamedEnum = false) :
          (compilation.model.definedType node).text semicolons = "" ↔
            compilation.Blank (.body node) := by
        refine blank_body_iff built noEnum fun member inside => ?_
        have child := Model.written_subset inside
        exact (inductionHypothesis member (grounded built node member child)).2
          (child_known built child)
      exact ⟨body, fun known => blank_use_iff built known body⟩

/-- The nodes at the places of the output are in the model. -/
theorem Contains.known (built : build context document sourcePath = .ok compilation)
    {node : NodeId} (reached : compilation.Contains (.use node)) :
    node < compilation.model.size := by
  cases reached with
  | part _ written => exact child_known built (Model.written_subset written)
  | inside _ _ written => exact child_known built (Model.written_subset written)

/-- The parts of what a node defines are the types of its children that are written. -/
theorem mem_parts_definedType {node : NodeId} {part : TypeExpr} :
    part ∈ (compilation.model.definedType node).parts ↔
      ∃ child ∈ compilation.model.written (compilation.model.node node).shape,
        compilation.model.typeOf child = part := by
  rw [Model.definedType, Model.parts_shapeType, List.mem_map]

/-- Every type that stands in a declaration stands in a place. -/
theorem exists_place (built : build context document sourcePath = .ok compilation)
    {declaration : Declaration} (listed : declaration ∈ compilation.output) {type : TypeExpr}
    (holds : declaration.Holds type) :
    ∃ place, compilation.Contains place ∧ compilation.model.typeAt place = type := by
  obtain ⟨node, emitted, rfl⟩ := List.mem_map.mp listed
  induction holds with
  | whole defines =>
      exact ⟨.body node, .defined emitted defines, (Model.type_of_alias defines).symm⟩
  | property defines inside =>
      rw [Model.type_of_interface defines] at inside
      obtain ⟨child, written, same⟩ := mem_parts_definedType.mp inside
      exact ⟨.use child, .part emitted written, same⟩
  | part _ inside inductionHypothesis =>
      obtain ⟨place, reached, rfl⟩ := inductionHypothesis
      cases place with
      | body other =>
          obtain ⟨child, written, same⟩ := mem_parts_definedType.mp inside
          cases reached with
          | defined emitted _ => exact ⟨.use child, .part emitted written, same⟩
      | use other =>
          rw [Model.typeAt, Model.typeOf_eq (grounded built) (reached.known built)] at inside
          cases named : (compilation.model.node other).id with
          | some name =>
              rw [named] at inside
              cases inside
          | none =>
              rw [named] at inside
              obtain ⟨child, written, same⟩ := mem_parts_definedType.mp inside
              exact ⟨.use child, .inside reached named written, same⟩

/-- In every place stands a type of a declaration. -/
theorem exists_holds (built : build context document sourcePath = .ok compilation)
    {place : Place} (reached : compilation.Contains place) :
    ∃ declaration ∈ compilation.output, declaration.Holds (compilation.model.typeAt place) := by
  have declared {node : NodeId} (emitted : node ∈ compilation.emissionOrder) :
      compilation.model.declaration node ∈ compilation.output := List.mem_map_of_mem emitted
  induction reached with
  | defined emitted defines =>
      refine ⟨_, declared emitted, ?_⟩
      rw [Model.typeAt, ← Model.type_of_alias defines]
      exact .whole defines
  | @part node child emitted written =>
      have inside : compilation.model.typeOf child ∈
          (compilation.model.definedType node).parts :=
        mem_parts_definedType.mpr ⟨child, written, rfl⟩
      refine ⟨_, declared emitted, ?_⟩
      cases defines : (compilation.model.declaration node).definition with
      | enum members =>
          rw [Model.definition_eq_enum.mp defines] at written
          cases written
      | interface type =>
          rw [← Model.type_of_interface defines] at inside
          exact .property defines inside
      | «alias» type =>
          rw [← Model.type_of_alias defines] at inside
          exact .part (.whole defines) inside
  | @inside node child reached unnamed written inductionHypothesis =>
      obtain ⟨declaration, listed, holds⟩ := inductionHypothesis
      refine ⟨declaration, listed, .part holds ?_⟩
      rw [Model.typeAt, Model.typeOf_eq (grounded built) (reached.known built), unnamed]
      exact mem_parts_definedType.mpr ⟨child, written, rfl⟩

/-- The places are those of the types in the declarations. -/
theorem holds_iff (built : build context document sourcePath = .ok compilation)
    {type : TypeExpr} :
    (∃ declaration ∈ compilation.output, declaration.Holds type) ↔
      ∃ place, compilation.Contains place ∧ compilation.model.typeAt place = type := by
  constructor
  · rintro ⟨declaration, listed, holds⟩
    exact exists_place built listed holds
  · rintro ⟨place, reached, rfl⟩
    exact exists_holds built reached

/-- The places are those of the types in the declarations, and of every place it is known why
nothing is written there, if nothing is. -/
theorem blank_iff (built : build context document sourcePath = .ok compilation) {place : Place}
    (reached : compilation.Contains place) :
    (∀ type, (∃ declaration ∈ compilation.output, declaration.Holds type) ↔
      ∃ place, compilation.Contains place ∧ compilation.model.typeAt place = type) ∧
    ((compilation.model.typeAt place).text compilation.settings.endPropertyWithSemicolon = "" ↔
      compilation.Blank place) := by
  refine ⟨fun _ => holds_iff built, ?_⟩
  cases place with
  | body node =>
      cases reached with
      | defined emitted defines =>
          refine (blank_node_iff built _ node).1 (Bool.eq_false_iff.mpr fun isEnum => ?_)
          cases shape : (compilation.model.node node).shape with
          | namedEnum members => cases (Model.definition_eq_enum.mpr shape).symm.trans defines
          | _ =>
              rw [shape] at isEnum
              cases isEnum
  | use node => exact (blank_node_iff built _ node).2 (reached.known built)

/-- A union of one member, which is an intersection of null only, next to a property whose title has
no letters and one that is written. -/
def hollow : Json :=
  .object [
    ("properties", .object [
      ("a", .object [("anyOf", .array [
        .object [("allOf", .array [.object [("type", .string "null")]])]])]),
      ("b", .object [("title", .string "-"), ("type", .string "string")]),
      ("c", .object [("type", .string "string")])]),
    ("additionalProperties", .bool false)]

/-- A union of nothing and a title without letters are blank, and the text beside them is not. -/
theorem blank_iff_hollow :
    ∃ compilation, build ⟨{}, .ofFiles []⟩ hollow none = .ok compilation ∧
      compilation.Contains (.use 2) ∧ compilation.Blank (.use 2) ∧
      compilation.Contains (.use 3) ∧ compilation.Blank (.use 3) ∧
      compilation.Contains (.use 4) ∧ ¬compilation.Blank (.use 4) := by
  obtain ⟨compilation, built, checked⟩ := exists_ok
    (show (build ⟨{}, .ofFiles []⟩ hollow none).toOption.any (fun compilation => decide
      (5 ∈ compilation.emissionOrder ∧
        compilation.model.written (compilation.model.node 5).shape = [2, 3, 4] ∧
        (compilation.model.typeOf 2).text compilation.settings.endPropertyWithSemicolon = "" ∧
        (compilation.model.typeOf 3).text compilation.settings.endPropertyWithSemicolon = "" ∧
        (compilation.model.typeOf 4).text compilation.settings.endPropertyWithSemicolon ≠ "")) =
          true by
      decide +kernel)
  obtain ⟨emitted, written, union, untitled, text⟩ := of_decide_eq_true checked
  have property {node : NodeId} (listed : node ∈ [2, 3, 4]) : compilation.Contains (.use node) :=
    .part emitted (written ▸ listed)
  refine ⟨compilation, built, property (by decide), ?_, property (by decide), ?_,
    property (by decide), ?_⟩
  · exact (blank_iff built (property (by decide))).2.mp union
  · exact (blank_iff built (property (by decide))).2.mp untitled
  · exact fun blank => text ((blank_iff built (property (by decide))).2.mpr blank)

/-- The only member is null, and an intersection does without it. -/
def nullOnly : Json := .object [("allOf", .array [.object [("type", .string "null")]])]

/-- Nothing is written for the type that is declared. -/
theorem nullOnly_blank :
    ∃ compilation, build ⟨{}, .ofFiles []⟩ nullOnly none = .ok compilation ∧
      compilation.Contains (.body 1) ∧
      (compilation.model.typeAt (.body 1)).text
        compilation.settings.endPropertyWithSemicolon = "" ∧
      compilation.text = "export type Interface1 = ;" := by
  obtain ⟨compilation, built, checked⟩ := exists_ok
    (show (build ⟨{}, .ofFiles []⟩ nullOnly none).toOption.any (fun compilation => decide
      (1 ∈ compilation.emissionOrder ∧
        (compilation.model.node 1).shape = .intersection [0] ∧
        (compilation.model.typeAt (.body 1)).text
          compilation.settings.endPropertyWithSemicolon = "" ∧
        compilation.text = "export type Interface1 = ;")) = true by
      decide +kernel)
  obtain ⟨emitted, shape, empty, text⟩ := of_decide_eq_true checked
  have defines : (compilation.model.declaration 1).definition =
      .alias (compilation.model.definedType 1) := by
    simp only [Model.declaration, shape]
  exact ⟨compilation, built, .defined emitted defines, empty, text⟩

end Compilation
end SchemaTypes
