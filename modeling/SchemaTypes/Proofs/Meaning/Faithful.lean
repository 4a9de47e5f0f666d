/-
This file compares what is read off the nodes of a compilation with what its schema means. Main
statement: the output of a compilation whose names are clear is read as its schema means.
-/
import SchemaTypes.Proofs.Meaning.Rendering

namespace SchemaTypes

namespace Compilation

variable {compilation : Compilation} {loader : Loader} {root frame : Frame} {fragment : Json}
  {part : Part} {node : NodeId} {place : List Nat} {top : Top}

/-- How a node stands for a part in the end. -/
def PartMade (compilation : Compilation) (loader : Loader) (root frame : Frame) :
    Part → NodeId → Prop
  | .leaf head, node => (compilation.model.node node).shape.head? = some head ∧
    (compilation.model.node node).shape.children = []
  | .fragment value, node => compilation.Made loader root frame value node

/-- A part that was drawn on the way stands in the end. -/
theorem Sourced.partMade (sourced : compilation.Sourced loader root)
    (drawn : PartDrawn compilation.progress compilation.journal frame part node) :
    compilation.PartMade loader root frame part node := by
  cases part with
  | leaf head => exact drawn.2
  | fragment value => exact sourced.made _ _ _ drawn

/-- A node is null if its head is. -/
theorem isNull_iff : (compilation.model.node node).isNull = true ↔
    (compilation.model.node node).shape.head? = some (.primitive .null) := by
  unfold Node.isNull
  cases (compilation.model.node node).shape <;> simp [Shape.head?]

/-- The node of a null fragment is null, or it is a reference that leads to such a node. -/
theorem Sourced.leads_to_null (sourced : compilation.Sourced loader root)
    (null : Null loader root frame fragment) :
    ∀ {node : NodeId}, compilation.Made loader root frame fragment node →
      ∃ target, Relation.ReflTransGen (compilation.Refers root.ownKey) node target ∧
        (compilation.model.node target).isNull = true := by
  induction null with
  | own null =>
      intro node made
      exact ⟨node, .refl, isNull_iff.mpr (made.drawn_of_outline null).head⟩
  | follow follows _ inductionHypothesis =>
      intro node made
      rcases made.of_follows follows with same | ⟨name, named, shape, leads, visited⟩
      · exact inductionHypothesis same
      · obtain ⟨target, onward, isNull⟩ := inductionHypothesis (sourced.made _ _ _ visited)
        exact ⟨target, .head leads onward, isNull⟩

/-- A fragment whose node is null means null. -/
theorem null_of_isNull (made : compilation.Made loader root frame fragment node)
    (isNull : (compilation.model.node node).isNull = true) : Null loader root frame fragment := by
  rw [isNull_iff] at isNull
  induction made with
  | @drawn frame fragment outline node outlined drawn =>
      have head := Option.some.inj (drawn.head.symm.trans isNull)
      have parts := drawn.parts
      have childless : (compilation.progress.node node).shape.children = [] := by
        rw [Compilation.model, ← Progress.node] at isNull
        cases shape : (compilation.progress.node node).shape <;>
          simp_all [Shape.head?, Shape.children]
      rw [childless, List.forall₂_nil_right_iff] at parts
      refine .own (outlined.trans ?_)
      rw [Outline.leaf, ← head, ← parts]
  | lost lost any =>
      rw [any] at isNull
      cases isNull
  | follow follows _ inductionHypothesis => exact .follow follows (inductionHypothesis isNull)
  | reference follows shape =>
      rw [shape] at isNull
      cases isNull

/-- A member of an intersection is left out exactly if it is null. -/
theorem Sourced.part_isNull_iff (sourced : compilation.Sourced loader root)
    (clear : compilation.Clear root.ownKey) {members : List NodeId} {member : NodeId}
    (shape : (compilation.model.node node).shape = .intersection members)
    (inside : member ∈ members)
    (drawn : PartDrawn compilation.progress compilation.journal frame part member) :
    part.IsNull loader root frame ↔ (compilation.model.node member).isNull = true := by
  cases part with
  | leaf head =>
      have top : (compilation.model.node member).shape.head? = some head := drawn.2.1
      rw [isNull_iff, top, Option.some.injEq]
      rfl
  | fragment value =>
      have made := sourced.made _ _ _ drawn
      constructor
      · intro null
        obtain ⟨target, leads, isNull⟩ := sourced.leads_to_null null made
        rcases Relation.reflTransGen_iff_eq_or_transGen.mp leads with rfl | onward
        · exact isNull
        · rw [clear.members _ _ _ _ shape inside onward] at isNull
          cases isNull
      · exact null_of_isNull made

/-- Related lists stay related when both are filtered alike. -/
theorem forall₂_filter {α β : Type} {relation : α → β → Prop} {keep : α → Bool} {keepToo : β → Bool}
    {lefts : List α} {rights : List β} (related : List.Forall₂ relation lefts rights)
    (agree : ∀ left right, right ∈ rights → relation left right → keep left = keepToo right) :
    List.Forall₂ relation (lefts.filter keep) (rights.filter keepToo) := by
  induction related with
  | nil => exact .nil
  | @cons left right lefts rights here _ inductionHypothesis =>
      have others := inductionHypothesis fun first second inside =>
        agree first second (List.mem_cons_of_mem _ inside)
      have same := agree left right List.mem_cons_self here
      cases kept : keep left with
      | true =>
          rw [List.filter_cons_of_pos kept, List.filter_cons_of_pos (same ▸ kept)]
          exact .cons here others
      | false =>
          rw [List.filter_cons_of_neg (by simp [kept]),
            List.filter_cons_of_neg (by simp [← same, kept])]
          exact others

/-- The parts that count are those that are written. -/
theorem Sourced.kept_written (sourced : compilation.Sourced loader root)
    (clear : compilation.Clear root.ownKey) {outline : Outline}
    (drawn : Drawn compilation.progress compilation.journal frame outline node) :
    List.Forall₂ (PartDrawn compilation.progress compilation.journal frame)
      (outline.kept loader root frame)
      (compilation.model.written (compilation.model.node node).shape) := by
  have head : (compilation.model.node node).shape.head? = some outline.head := drawn.head
  have parts : List.Forall₂ (PartDrawn compilation.progress compilation.journal frame)
      outline.parts (compilation.model.node node).shape.children := drawn.parts
  unfold Outline.kept
  cases shape : (compilation.model.node node).shape with
  | intersection members =>
      rw [shape] at head parts
      rw [if_pos (Option.some.inj head).symm]
      refine forall₂_filter parts fun part member inside here => ?_
      have null := sourced.part_isNull_iff clear shape inside here
      by_cases isNull : part.IsNull loader root frame
      · simp [isNull, null.mp isNull]
      · have other := isNull
        rw [null] at other
        simp [isNull, other]
  | _ =>
      rw [shape] at head parts
      rw [if_neg fun same => by rw [same] at head; cases head]
      exact parts

/-- What stands at the same place of the other list. -/
theorem exists_getElem? {α β : Type} {relation : α → β → Prop} {lefts : List α} {rights : List β}
    (related : List.Forall₂ relation lefts rights) {number : Nat} {left : α}
    (listed : lefts[number]? = some left) :
    ∃ right, rights[number]? = some right ∧ relation left right := by
  obtain ⟨length, holds⟩ := List.forall₂_iff_get.mp related
  obtain ⟨inside, rfl⟩ := List.getElem?_eq_some_iff.mp listed
  have insideToo : number < rights.length := Nat.lt_of_lt_of_eq inside length
  exact ⟨rights[number], List.getElem?_eq_getElem insideToo, holds number inside insideToo⟩

section Meanings

variable (sourced : compilation.Sourced loader root) (clear : compilation.Clear root.ownKey)

include sourced clear

/-- A fragment means at its top what its node has there. -/
theorem means_head {head : Head} (made : compilation.Made loader root frame fragment node)
    (own : (compilation.model.node node).shape.head? = some head) :
    Means loader root frame (.fragment fragment) []
      ⟨head, (compilation.model.written (compilation.model.node node).shape).length⟩ := by
  induction made with
  | drawn outlined drawn =>
      have same : head = _ := Option.some.inj (own.symm.trans drawn.head)
      rw [same, ← (sourced.kept_written clear drawn).length_eq]
      exact .head outlined
  | lost lost any =>
      rw [any] at own ⊢
      obtain rfl := Option.some.inj own
      exact .lost lost
  | follow follows _ inductionHypothesis => exact .follow follows (inductionHypothesis own)
  | reference follows shape =>
      rw [shape] at own
      cases own

/-- A fragment means in a part what the child of its node means. -/
theorem means_part {child : NodeId} {number : Nat}
    (made : compilation.Made loader root frame fragment node)
    (listed : (compilation.model.written (compilation.model.node node).shape)[number]? =
      some child)
    (inner : ∀ frame part, compilation.PartMade loader root frame part child →
      Means loader root frame part place top) :
    Means loader root frame (.fragment fragment) (number :: place) top := by
  induction made with
  | drawn outlined drawn =>
      obtain ⟨part, kept, here⟩ := exists_getElem? (sourced.kept_written clear drawn).flip listed
      exact .part outlined kept (inner _ _ (sourced.partMade here))
  | lost lost any =>
      rw [any] at listed
      cases listed
  | follow follows _ inductionHypothesis => exact .follow follows (inductionHypothesis listed)
  | reference follows shape =>
      rw [shape] at listed
      cases listed

/-- A fragment that is made a reference means what the referred node means. -/
theorem means_reference {target : NodeId} {name : String}
    (made : compilation.Made loader root frame fragment node)
    (shape : (compilation.model.node node).shape = .reference name)
    (first : compilation.first? name = some target) (shown : compilation.Shown node)
    (inner : ∀ frame part, compilation.PartMade loader root frame part target →
      Means loader root frame part place top) :
    Means loader root frame (.fragment fragment) place top := by
  induction made with
  | @drawn frame fragment outline node outlined drawn =>
      have head : (compilation.model.node node).shape.head? = some outline.head := drawn.head
      rw [shape] at head
      cases head
  | lost lost any => cases any.symm.trans shape
  | follow follows _ inductionHypothesis =>
      exact .follow follows (inductionHypothesis shape shown)
  | reference follows shapeToo leads visited =>
      obtain rfl := Shape.reference.inj (shape.symm.trans shapeToo)
      obtain rfl := Option.some.inj (first.symm.trans (shown.reference clear shape leads))
      exact .follow follows (inner _ (.fragment _) (sourced.made _ _ _ visited))

/-- What is read at a place of a node is what its part of the schema means there. -/
theorem means_of_nodeReads (read : compilation.NodeReads node place top) :
    ∀ {frame : Frame} {part : Part}, compilation.Shown node →
      compilation.PartMade loader root frame part node →
      Means loader root frame part place top := by
  induction read with
  | head own =>
      intro frame part shown made
      cases part with
      | leaf other =>
          obtain rfl := Option.some.inj (own.symm.trans made.1)
          have written : compilation.model.written _ = [] :=
            List.subset_nil.mp (made.2 ▸ Model.written_subset)
          rw [written]
          exact .leaf
      | fragment value => exact means_head sourced clear made own
  | part listed read inductionHypothesis =>
      intro frame part shown made
      have inside := Model.written_subset (List.mem_of_getElem? listed)
      cases part with
      | leaf head =>
          rw [made.2] at inside
          cases inside
      | fragment value =>
          exact means_part sourced clear made listed fun _ _ =>
            inductionHypothesis (shown.inside clear inside)
  | reference shape first read inductionHypothesis =>
      intro frame part shown made
      cases part with
      | leaf head =>
          have own := made.1
          rw [shape] at own
          cases own
      | fragment value =>
          exact means_reference sourced clear made shape first shown fun _ _ =>
            inductionHypothesis (.of_first? first)

/-- What a part of the schema means at a place is read there off its node. -/
theorem nodeReads_of_means (means : Means loader root frame part place top) :
    ∀ {node : NodeId}, compilation.Shown node →
      compilation.PartMade loader root frame part node → compilation.NodeReads node place top := by
  induction means with
  | leaf =>
      intro node shown made
      have written : compilation.model.written (compilation.model.node node).shape = [] :=
        List.subset_nil.mp (made.2 ▸ Model.written_subset)
      have read := NodeReads.head made.1
      rw [written] at read
      exact read
  | lost lost =>
      intro node shown made
      have any := Made.any_of_lost made lost
      have read := @NodeReads.head compilation node .any (by rw [any]; rfl)
      rw [any] at read
      exact read
  | follow follows _ inductionHypothesis =>
      intro node shown made
      rcases Made.of_follows made follows with same | ⟨name, named, shape, leads, visited⟩
      · exact inductionHypothesis shown same
      · have first := shown.reference clear shape leads
        exact .reference shape first
          (inductionHypothesis (.of_first? first) (sourced.made _ _ _ visited))
  | head outlined =>
      intro node shown made
      have drawn := Made.drawn_of_outline made outlined
      rw [(sourced.kept_written clear drawn).length_eq]
      exact .head drawn.head
  | part outlined kept _ inductionHypothesis =>
      intro node shown made
      have drawn := Made.drawn_of_outline made outlined
      obtain ⟨child, listed, here⟩ := exists_getElem? (sourced.kept_written clear drawn) kept
      have inside := Model.written_subset (List.mem_of_getElem? listed)
      exact .part listed (inductionHypothesis (shown.inside clear inside) (sourced.partMade here))

/-- The output is read as its schema means, at every place. -/
theorem rootReads_iff_means :
    compilation.RootReads place top ↔
      Means loader root root (.fragment root.document) place top := by
  rw [rootReads_iff sourced clear]
  have shown := Shown.of_first? clear.root
  have made : compilation.PartMade loader root root (.fragment root.document) compilation.root :=
    sourced.made _ _ _ sourced.root
  exact ⟨fun read => means_of_nodeReads sourced clear read shown made,
    fun means => nodeReads_of_means sourced clear means shown made⟩

end Meanings
end Compilation
end SchemaTypes
