/-
This file reads types off the nodes of a compilation. Main statement: as long as every printed name
is declared first for the node that it stands for, the output is read like the nodes.
-/
import SchemaTypes.Proofs.Build.Sound
import SchemaTypes.Proofs.Meaning.Made
import SchemaTypes.Proofs.Meaning.Reading

namespace SchemaTypes

open TypeScript

namespace Compilation

/-- A reference names a node. -/
def Refers (compilation : Compilation) (rootKey : String) (node target : NodeId) : Prop :=
  compilation.Leads rootKey (.reference node) target

/-- Every printed name is declared first for the node that it stands for, and so is the id of the
root. Where a member of an intersection is null, the member is that node and no reference to it. -/
structure Clear (compilation : Compilation) (rootKey : String) : Prop where
  root : compilation.first? (Identifier.ofName compilation.id) = some compilation.root
  printed : ∀ owner ∈ compilation.emissionOrder, ∀ mention name target,
    compilation.model.Prints owner mention name → compilation.Leads rootKey mention target →
    compilation.first? name = some target
  members : ∀ node members member target,
    (compilation.model.node node).shape = .intersection members → member ∈ members →
    Relation.TransGen (compilation.Refers rootKey) member target →
    (compilation.model.node target).isNull = false

/-- Without references all that matters is that named nodes are declared first under their names. -/
theorem Clear.of_unreferred {compilation : Compilation} {rootKey : String}
    (forward : compilation.progress.forward = []) (files : compilation.progress.files = [])
    (root : compilation.first? (Identifier.ofName compilation.id) = some compilation.root)
    (named : ∀ node < compilation.model.size, ∀ id ∈ (compilation.model.node node).id,
      compilation.first? (Identifier.ofName id) = some node) : compilation.Clear rootKey := by
  have unreferred {node target : NodeId}
      (leads : compilation.Leads rootKey (.reference node) target) : False := by
    cases leads with
    | root handedOut => simp [forward] at handedOut
    | key _ handedOut => simp [forward] at handedOut
    | file remembered => simp [files] at remembered
  refine ⟨root, ?_, ?_⟩
  · intro owner emitted mention name target printed leads
    clear emitted
    induction printed with
    | reference shape => exact (unreferred leads).elim
    | @name node child id part isNamed =>
        obtain rfl : child = target := by
          cases leads
          rfl
        refine named child (Nat.lt_of_not_le fun beyond => ?_) id isNamed
        simp [Model.node, Array.getElem?_eq_none beyond] at isNamed
    | inside _ _ _ inductionHypothesis => exact inductionHypothesis leads
  · intro node members member target shape inside leads
    obtain ⟨next, refers, -⟩ := Relation.TransGen.head'_iff.mp leads
    exact (unreferred refers).elim

/-- What is known of the nodes of a successful compilation. -/
structure Sourced (compilation : Compilation) (loader : Loader) (root : Frame) : Prop where
  grounded : compilation.model.Grounded
  named : ∀ node, (compilation.model.node node).shape.isNamedEnum = true →
    (compilation.model.node node).id ≠ none
  made : ∀ frame fragment node, .visited frame fragment (some node) ∈ compilation.journal →
    compilation.Made loader root frame fragment node
  root : .visited root root.document (some compilation.root) ∈ compilation.journal

/-- The nodes of a compilation with unambiguous keys stand for their fragments. -/
theorem sourced {context : Context} {document : Json} {sourcePath : Option Path}
    {compilation : Compilation} (built : build context document sourcePath = .ok compilation)
    (unambiguous : Unambiguous context.loader (rootFrame document sourcePath)) :
    compilation.Sourced context.loader (rootFrame document sourcePath) := by
  obtain ⟨last, concluded⟩ := exists_concluded built unambiguous
  have run := concluded.surveyed.run
  have known := concluded.surveyed.traced.visited _ _ _ concluded.visited
  have recorded : (compilation.declared last).Recorded := concluded.surveyed.recorded.declare ..
  have sound : (compilation.declared last).Sound :=
    (run.keeps Progress.Sound.step (.start _)).declare .name _ _ known
  have enums : (compilation.declared last).EnumsNamed :=
    (run.keeps Progress.EnumsNamed.step (.start _)).setId _ _
  refine ⟨?_, ?_, fun _ _ _ => concluded.made_of_visited unambiguous,
    concluded.journal_subset concluded.visited⟩
  · rw [model, concluded.progress]
    exact (bindReferences_sound sound _ _).grounded
  · intro node isEnum
    rw [model, concluded.progress] at isEnum ⊢
    have id := @bindReferences_id (compilation.declared last)
      (rootFrame document sourcePath).ownKey compilation.root node
    have same := bindReferences_isNamedEnum recorded (rootFrame document sourcePath).ownKey
      compilation.root node
    rw [Progress.node] at id same
    rw [id]
    exact enums node (same ▸ isEnum)

/-- What is read at a place of a node, whether the node is named or not. -/
inductive NodeReads (compilation : Compilation) : NodeId → List Nat → Top → Prop where
  | head {node : NodeId} {head : Head}
      (top : (compilation.model.node node).shape.head? = some head) :
      NodeReads compilation node []
        ⟨head, (compilation.model.written (compilation.model.node node).shape).length⟩
  | part {node child : NodeId} {number : Nat} {place : List Nat} {top : Top}
      (inside : (compilation.model.written (compilation.model.node node).shape)[number]? =
        some child)
      (read : NodeReads compilation child place top) :
      NodeReads compilation node (number :: place) top
  | reference {node target : NodeId} {name : String} {place : List Nat} {top : Top}
      (shape : (compilation.model.node node).shape = .reference name)
      (first : compilation.first? name = some target)
      (read : NodeReads compilation target place top) : NodeReads compilation node place top

/-- A node whose body belongs to a declaration, and which is declared first under its name. -/
structure Shown (compilation : Compilation) (node : NodeId) : Prop where
  printed : ∃ owner ∈ compilation.emissionOrder, ∀ mention name,
    compilation.model.Prints node mention name → compilation.model.Prints owner mention name
  named : ∀ id, (compilation.model.node node).id = some id →
    compilation.first? (Identifier.ofName id) = some node

/-- A node is written by a name that is declared for it, or by what its declaration defines. -/
def Written (compilation : Compilation) (node : NodeId) (type : TypeExpr) : Prop :=
  (∃ text, type = .name text ∧ compilation.first? text = some node) ∨
    (compilation.model.node node).shape.isNamedEnum = false ∧
      type = compilation.model.definedType node

variable {compilation : Compilation} {loader : Loader} {root : Frame} {rootKey : String}
  {node child target : NodeId} {type : TypeExpr} {text : String}

/-- A node that is declared first under a name shows what it prints. -/
theorem Shown.of_first? (first : compilation.first? text = some node) :
    compilation.Shown node := by
  refine ⟨⟨node, List.mem_of_find?_eq_some first, fun _ _ printed => printed⟩, ?_⟩
  intro id named
  have bears := List.find?_some first
  simp only [Model.declaredName, named, decide_eq_true_eq] at bears
  rw [bears]
  exact first

/-- The parts of a node are shown with it. -/
theorem Shown.inside (clear : compilation.Clear rootKey) (shown : compilation.Shown node)
    (part : child ∈ (compilation.model.node node).shape.children) : compilation.Shown child := by
  obtain ⟨owner, emitted, prints⟩ := shown.printed
  cases named : (compilation.model.node child).id with
  | some id =>
      exact .of_first? (clear.printed owner emitted _ _ _ (prints _ _ (.name part named))
        (.name child))
  | none =>
      refine ⟨⟨owner, emitted, fun _ _ printed => prints _ _ (.inside part named printed)⟩, ?_⟩
      intro id other
      cases named.symm.trans other

/-- A reference that is shown is read as the node that it names. -/
theorem Shown.reference (clear : compilation.Clear rootKey) (shown : compilation.Shown node)
    (shape : (compilation.model.node node).shape = .reference text)
    (leads : compilation.Leads rootKey (.reference node) target) :
    compilation.first? text = some target := by
  obtain ⟨owner, emitted, prints⟩ := shown.printed
  exact clear.printed owner emitted _ _ _ (prints _ _ (.reference shape)) leads

/-- A node whose declaration defines a type is no named enum. -/
theorem isNamedEnum_of_type? (defines :
    (compilation.model.declaration node).definition.type? = some type) :
    (compilation.model.node node).shape.isNamedEnum = false := by
  cases shape : (compilation.model.node node).shape with
  | namedEnum members =>
      rw [Model.definition_eq_enum.mpr shape] at defines
      cases defines
  | _ => rfl

theorem isNamedEnum_eq_false
    (noEnum : ∀ members, (compilation.model.node node).shape ≠ .namedEnum members) :
    (compilation.model.node node).shape.isNamedEnum = false := by
  cases shape : (compilation.model.node node).shape with
  | namedEnum members => exact absurd shape (noEnum members)
  | _ => rfl

/-- The first declaration of a name that is an alias or an interface. -/
theorem first?_of_declared {declaration : Declaration}
    (found : compilation.output.find? (·.name = text) = some declaration)
    (defines : declaration.definition.type? = some type) :
    ∃ node, compilation.first? text = some node ∧
      (compilation.model.node node).shape.isNamedEnum = false ∧
      type = compilation.model.definedType node := by
  rw [find?_output] at found
  obtain ⟨node, first, rfl⟩ := Option.map_eq_some_iff.mp found
  have noEnum := isNamedEnum_of_type? defines
  rw [Model.type?_declaration noEnum] at defines
  exact ⟨node, first, noEnum, (Option.some.inj defines).symm⟩

/-- A name that is declared as an enum first belongs to a named enum. -/
theorem first?_of_enum {declaration : Declaration} {members : List EnumMember}
    (found : compilation.output.find? (·.name = text) = some declaration)
    (defines : declaration.definition = .enum members) :
    ∃ node, compilation.first? text = some node ∧
      (compilation.model.node node).shape = .namedEnum members := by
  rw [find?_output] at found
  obtain ⟨node, first, rfl⟩ := Option.map_eq_some_iff.mp found
  exact ⟨node, first, Model.definition_eq_enum.mp defines⟩

/-- A named enum is read as its members. -/
theorem nodeReads_enum {members : List EnumMember}
    (shape : (compilation.model.node node).shape = .namedEnum members) :
    compilation.NodeReads node [] ⟨.enum members, 0⟩ := by
  have top : (compilation.model.node node).shape.head? = some (.enum members) := by
    rw [shape]
    rfl
  have read := NodeReads.head top
  rw [shape] at read
  exact read

/-- Where a node stands in a type, it is written in one of the two ways. -/
theorem Sourced.written_typeOf (sourced : compilation.Sourced loader root)
    (shown : compilation.Shown node) (known : node < compilation.model.size) :
    compilation.Written node (compilation.model.typeOf node) := by
  rw [Model.typeOf_eq sourced.grounded known]
  cases named : (compilation.model.node node).id with
  | some id => exact .inl ⟨_, rfl, shown.named id named⟩
  | none =>
      refine .inr ⟨?_, rfl⟩
      rw [← Bool.not_eq_true]
      exact fun isEnum => sourced.named node isEnum named

/-- The children of a node are in the model. -/
theorem Sourced.child_known (sourced : compilation.Sourced loader root)
    (part : child ∈ (compilation.model.node node).shape.children) :
    child < compilation.model.size := by
  refine Nat.lt_trans (sourced.grounded node child part) (Model.lt_size_of_shape fun any => ?_)
  rw [any] at part
  cases part

/-- The numbers of the parts of a defined type are those of the written children. -/
theorem getElem?_parts {number : Nat} :
    (compilation.model.definedType node).parts[number]? =
      ((compilation.model.written (compilation.model.node node).shape)[number]?).map
        compilation.model.typeOf := by
  rw [Model.definedType, Model.parts_shapeType, List.getElem?_map]

/-- What is read off the output can be read off the nodes. -/
theorem nodeReads_of_reads (sourced : compilation.Sourced loader root)
    (clear : compilation.Clear rootKey) {place : List Nat} {top : Top}
    (read : Reads compilation.output type place top) :
    ∀ {node : NodeId}, compilation.Shown node → compilation.Written node type →
      compilation.NodeReads node place top := by
  induction read with
  | head own =>
      intro node shown written
      rcases written with ⟨text, rfl, -⟩ | ⟨noEnum, rfl⟩
      · cases own
      · have read := NodeReads.head (Model.head?_of_shapeType own)
        rw [Model.definedType, Model.parts_shapeType, List.length_map]
        exact read
  | part inside read inductionHypothesis =>
      intro node shown written
      rcases written with ⟨text, rfl, -⟩ | ⟨noEnum, rfl⟩
      · cases inside
      · rw [getElem?_parts] at inside
        obtain ⟨child, listed, rfl⟩ := Option.map_eq_some_iff.mp inside
        have part := Model.written_subset (List.mem_of_getElem? listed)
        have shownChild := shown.inside clear part
        exact .part listed (inductionHypothesis shownChild
          (sourced.written_typeOf shownChild (sourced.child_known part)))
  | declared found defines read inductionHypothesis =>
      intro node shown written
      obtain ⟨target, first, noEnumTarget, rfl⟩ := first?_of_declared found defines
      have onward := inductionHypothesis (.of_first? first) (.inr ⟨noEnumTarget, rfl⟩)
      rcases written with ⟨text, same, firstToo⟩ | ⟨noEnum, same⟩
      · obtain rfl := TypeExpr.name.inj same
        obtain rfl := Option.some.inj (first.symm.trans firstToo)
        exact onward
      · exact .reference (Model.reference_of_shapeType noEnum same.symm) first onward
  | enum found defines =>
      intro node shown written
      obtain ⟨target, first, shape⟩ := first?_of_enum found defines
      rcases written with ⟨text, same, firstToo⟩ | ⟨noEnum, same⟩
      · obtain rfl := TypeExpr.name.inj same
        obtain rfl := Option.some.inj (first.symm.trans firstToo)
        exact nodeReads_enum shape
      · exact .reference (Model.reference_of_shapeType noEnum same.symm) first
          (nodeReads_enum shape)

/-- What the definition of a node is read as, its name is read as. -/
theorem reads_of_definition {place : List Nat} {top : Top}
    (noEnum : (compilation.model.node node).shape.isNamedEnum = false)
    (read : Reads compilation.output (compilation.model.definedType node) place top)
    (written : compilation.Written node type) : Reads compilation.output type place top := by
  rcases written with ⟨text, rfl, first⟩ | ⟨-, rfl⟩
  · refine .declared ?_ (Model.type?_declaration noEnum) read
    rw [find?_output, first]
    rfl
  · exact read

/-- What can be read off the nodes is read off the output. -/
theorem reads_of_nodeReads (sourced : compilation.Sourced loader root)
    (clear : compilation.Clear rootKey) {place : List Nat} {top : Top}
    (read : compilation.NodeReads node place top) :
    ∀ {type : TypeExpr}, compilation.Shown node → compilation.Written node type →
      Reads compilation.output type place top := by
  induction read with
  | @head node head own =>
      intro type shown written
      cases shape : (compilation.model.node node).shape with
      | namedEnum members =>
          rw [shape] at own
          obtain rfl := Option.some.inj own
          rcases written with ⟨text, rfl, first⟩ | ⟨noEnum, -⟩
          · refine .enum ?_ (Model.definition_eq_enum.mpr shape)
            rw [find?_output, first]
            rfl
          · rw [shape] at noEnum
            cases noEnum
      | _ =>
          have noEnum : (compilation.model.node node).shape.isNamedEnum = false := by
            rw [shape]
            rfl
          have defined : (compilation.model.definedType node).head? = some head :=
            Model.head?_shapeType own noEnum
          have read := @Reads.head compilation.output _ _ defined
          rw [Model.definedType, Model.parts_shapeType, List.length_map, shape] at read
          refine reads_of_definition noEnum ?_ written
          rw [Model.definedType, shape]
          exact read
  | @part node child number place top listed read inductionHypothesis =>
      intro type shown written
      have part := Model.written_subset (List.mem_of_getElem? listed)
      have shownChild := shown.inside clear part
      have noEnum := isNamedEnum_eq_false fun members shape => by
        rw [shape] at part
        cases part
      refine reads_of_definition noEnum (.part ?_ (inductionHypothesis shownChild
        (sourced.written_typeOf shownChild (sourced.child_known part)))) written
      rw [getElem?_parts, listed]
      rfl
  | @reference node target name place top shape first read inductionHypothesis =>
      intro type shown written
      have noEnum : (compilation.model.node node).shape.isNamedEnum = false := by
        rw [shape]
        rfl
      refine reads_of_definition noEnum ?_ written
      rw [Model.definedType, shape]
      exact inductionHypothesis (.of_first? first) (.inl ⟨name, rfl, first⟩)

/-- What is read first of a name that is declared for a node with a head. -/
theorem reads_top_iff {head : Head} {top : Top} (first : compilation.first? text = some node)
    (own : (compilation.model.node node).shape.head? = some head)
    (noEnum : (compilation.model.node node).shape.isNamedEnum = false) :
    Reads compilation.output (.name text) [] top ↔
      top = ⟨head, (compilation.model.written (compilation.model.node node).shape).length⟩ := by
  have defined : (compilation.model.definedType node).head? = some head :=
    Model.head?_shapeType own noEnum
  have parts : (compilation.model.definedType node).parts.length =
      (compilation.model.written (compilation.model.node node).shape).length := by
    rw [Model.definedType, Model.parts_shapeType, List.length_map]
  constructor
  · intro read
    cases read with
    | head none => cases none
    | declared found defines read =>
        obtain ⟨other, firstToo, -, rfl⟩ := first?_of_declared found defines
        obtain rfl := Option.some.inj (first.symm.trans firstToo)
        rw [← parts]
        generalize compilation.model.definedType node = type at defined read
        cases read with
        | head ownToo => rw [Option.some.inj (defined.symm.trans ownToo)]
        | declared => cases defined
        | enum => cases defined
    | enum found defines =>
        obtain ⟨other, firstToo, shape⟩ := first?_of_enum found defines
        obtain rfl := Option.some.inj (first.symm.trans firstToo)
        rw [shape] at noEnum
        cases noEnum
  · rintro rfl
    rw [← parts]
    exact reads_of_definition noEnum (.head defined) (.inl ⟨text, rfl, first⟩)

/-- The output is read like the nodes, from the root onward. -/
theorem rootReads_iff (sourced : compilation.Sourced loader root)
    (clear : compilation.Clear rootKey) {place : List Nat} {top : Top} :
    compilation.RootReads place top ↔ compilation.NodeReads compilation.root place top := by
  have shown := Shown.of_first? clear.root
  have written : compilation.Written compilation.root
      (.name (Identifier.ofName compilation.id)) := .inl ⟨_, rfl, clear.root⟩
  exact ⟨fun read => nodeReads_of_reads sourced clear read shown written,
    fun read => reads_of_nodeReads sourced clear read shown written⟩

end Compilation
end SchemaTypes
