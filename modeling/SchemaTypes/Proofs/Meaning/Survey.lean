/-
This file shows that every kind of fragment but a reference gets a node with the outline of the
fragment, whose parts were made of the parts of the fragment.
-/
import SchemaTypes.Proofs.Meaning.Chronicle

namespace SchemaTypes.Build

variable {context : Context} {root frame : Frame} {resolve : Resolver}

/-- What is known of a fragment when its node is made and before it gets its title. -/
structure Answered (context : Context) (root : Frame) (before built : Progress) (fragment : Json)
    (node : NodeId) : Prop where
  passage : Passage context before built
  known : node < built.model.size
  surveyed : built.Surveyed context root
  explained : Explained context.loader root built built.journal before.frame fragment node
  covered : ∀ file, fragment.target? = some (.file file) →
    built.Covers (before.frame.filePath file)

/-- A resolver finds a node for every reachable fragment, and the journal tells why. -/
def Surveys (context : Context) (root : Frame) (resolve : Resolver) : Prop :=
  ∀ fragment site before node after, before.Surveyed context root →
    Reachable context.loader root before.frame fragment →
    resolve fragment site before = .ok node after →
    ∃ built, Answered context root before built fragment node ∧
      after = completed fragment site node built

/-- A successful step in a document leads on, and something is known of its result. -/
def Brings {α : Type} (context : Context) (root frame : Frame) (act : Build α)
    (good : Progress → α → Prop) : Prop :=
  ∀ before value after, before.Surveyed context root → before.frame = frame →
    act before = .ok value after →
    Passage context before after ∧ after.Surveyed context root ∧ good after value

/-- A title of a reachable fragment reads like no key, so the survey stands. -/
theorem adoptName_surveyed {progress : Progress} (surveyed : progress.Surveyed context root)
    {fragment : Json} (reachable : Reachable context.loader root frame fragment)
    (property : Option String) {node : NodeId} (known : node < progress.model.size) :
    (adoptName fragment ⟨property, false⟩ node progress).Surveyed context root := by
  unfold adoptName
  split
  · next unnamed =>
    cases named : fragment.declaredName? with
    | none => exact surveyed
    | some name =>
        have change : Transition context progress (progress.declare .name name node name) :=
          .named progress node name known (Option.isNone_iff_eq_none.mp unnamed)
        exact surveyed.note (.single change) rfl ⟨frame, fragment, reachable, named⟩ rfl rfl
          (by simp)
  · exact surveyed

/-- Descriptions are not surveyed. -/
theorem adoptDescription_surveyed {progress : Progress} (surveyed : progress.Surveyed context root)
    (fragment : Json) {node : NodeId} (known : node < progress.model.size) :
    (adoptDescription fragment node progress).Surveyed context root := by
  unfold adoptDescription
  split
  · next undescribed =>
    have change : Transition context progress
        (progress.setDescription node (fragment.textField? "description")) :=
      .described progress node _ known (Option.isNone_iff_eq_none.mp undescribed)
    exact surveyed.grow (.single change) rfl rfl rfl
  · exact surveyed

/-- The visit of a fragment is told when its node is completed. -/
theorem Answered.visit {before built last : Progress} {fragment : Json} {node : NodeId}
    (answered : Answered context root before built fragment node)
    (reachable : Reachable context.loader root before.frame fragment)
    (surveyed : last.Surveyed context root) (onward : Passage context built last)
    (files : last.files = built.files) :
    Passage context before (last.note (.visited before.frame fragment (some node))) ∧
      (last.note (.visited before.frame fragment (some node))).Surveyed context root := by
  have passage := answered.passage.trans onward
  have known := Nat.lt_of_lt_of_le answered.known onward.run.size_le
  have change : Transition context last
      (last.note (.visited before.frame fragment (some node))) := by
    rw [← passage.frame]
    exact .visited last fragment node known
  refine ⟨passage.step change rfl rfl rfl rfl, ?_⟩
  have explained := answered.explained.mono onward.run.kept onward.run.journal_suffix.subset
    onward.opened answered.known
  refine surveyed.extend (.single change) ⟨⟨reachable, known, ?_⟩, ?_⟩ rfl rfl ?_
  · exact explained.mono (Run.kept (.single change)) (List.Subset.refl _) rfl known
  · exact surveyed.told.mono (Run.kept (.single change))
  · intro other part made file member refers
    rcases List.mem_cons.mp member with same | earlier
    · cases same
      refine .inr ?_
      have covers := answered.covered file refers
      unfold Progress.Covers Progress.frames at covers ⊢
      rw [files, onward.frame, onward.outer]
      exact covers
    · exact .inl earlier

theorem adoptName_files (fragment : Json) (site : Site) (node : NodeId) (progress : Progress) :
    (adoptName fragment site node progress).files = progress.files := by
  unfold adoptName
  split
  · cases fragment.declaredName? with
    | none => rfl
    | some name =>
        dsimp only
        split <;> rfl
  · rfl

theorem adoptDescription_files (fragment : Json) (node : NodeId) (progress : Progress) :
    (adoptDescription fragment node progress).files = progress.files := by
  unfold adoptDescription
  split <;> rfl

/-- A fragment inside a document is visited last when it is resolved. -/
theorem Surveys.inner (surveys : Surveys context root resolve) {fragment : Json}
    {property : Option String} {before after : Progress} {node : NodeId}
    (surveyed : before.Surveyed context root)
    (reachable : Reachable context.loader root before.frame fragment)
    (resolved : resolve fragment ⟨property, false⟩ before = .ok node after) :
    Passage context before after ∧ after.Surveyed context root ∧ node < after.model.size ∧
      after.journal.head? = some (.visited before.frame fragment (some node)) := by
  obtain ⟨built, answered, rfl⟩ := surveys _ _ _ _ _ surveyed reachable resolved
  have named := adoptName_passage context fragment property node built answered.known
  have knownNamed := Nat.lt_of_lt_of_le answered.known named.run.size_le
  have described := adoptDescription_passage context fragment node _ knownNamed
  have knownDescribed := Nat.lt_of_lt_of_le knownNamed described.run.size_le
  obtain ⟨passage, visited⟩ := answered.visit reachable
    (adoptDescription_surveyed
      (adoptName_surveyed answered.surveyed reachable property answered.known) fragment knownNamed)
    (named.trans described) (by rw [adoptDescription_files, adoptName_files])
  unfold completed
  rw [answered.passage.frame]
  exact ⟨passage, visited, knownDescribed, rfl⟩

/-- Resolving a fragment brings the node of a part. -/
theorem Surveys.brings (surveys : Surveys context root resolve) {value : Json}
    (reachable : Reachable context.loader root frame value) (property : Option String) :
    Brings context root frame (resolve value ⟨property, false⟩) fun after node =>
      PartDrawn after after.journal frame (.fragment value) node := by
  rintro before node after surveyed rfl resolved
  obtain ⟨passage, visited, -, head⟩ := surveys.inner surveyed reachable resolved
  exact ⟨passage, visited, List.mem_of_mem_head? (Option.mem_def.mpr head)⟩

/-- A new leaf is a part by itself. -/
theorem leaf_brings (context : Context) (root frame : Frame) {shape : Shape} {head : Head}
    (top : shape.head? = some head) (noEnum : shape.isNamedEnum = false)
    (children : shape.children = []) :
    Brings context root frame (allocate shape) fun after node =>
      PartDrawn after after.journal frame (.leaf head) node := by
  rintro before node after surveyed - allocated
  have noReference : ∀ name, shape ≠ .reference name := by
    rintro name rfl
    cases top
  simp only [allocate_apply, EStateM.Result.ok.injEq] at allocated
  obtain ⟨rfl, rfl⟩ := allocated
  have change : Transition context before (before.add shape) :=
    .allocated before shape noEnum noReference (by simp [children])
  refine ⟨(Passage.refl before).step change rfl rfl rfl rfl,
    surveyed.grow (.single change) rfl rfl rfl, by simp [Progress.add], ?_, ?_⟩ <;>
    simp [Progress.node, Progress.add, top, children]

/-- Parts that are taken one after the other are all there in the end. -/
theorem each_brings {α β : Type} {act : α → Build β} {good : α → Progress → β → Prop}
    {members : List α}
    (mono : ∀ member before after value, Passage context before after → good member before value →
      good member after value)
    (part : ∀ member ∈ members, Brings context root frame (act member) (good member)) :
    Brings context root frame (each act members) fun after values =>
      List.Forall₂ (fun member value => good member after value) members values := by
  induction members with
  | nil =>
      rintro before values after surveyed - taken
      simp only [each, pure_apply, EStateM.Result.ok.injEq] at taken
      obtain ⟨rfl, rfl⟩ := taken
      exact ⟨.refl before, surveyed, .nil⟩
  | cons member members inductionHypothesis =>
      intro before values after surveyed here taken
      simp only [each, bind_eq_ok, pure_apply, EStateM.Result.ok.injEq] at taken
      obtain ⟨value, middle, firstTaken, rest, last, restTaken, rfl, rfl⟩ := taken
      obtain ⟨passage, onward, first⟩ :=
        part member List.mem_cons_self _ _ _ surveyed here firstTaken
      obtain ⟨restPassage, final, others⟩ := inductionHypothesis
        (fun later inside => part later (List.mem_cons_of_mem _ inside)) _ _ _ onward
        (passage.frame.trans here) restTaken
      exact ⟨passage.trans restPassage, final, .cons (mono _ _ _ _ restPassage first) others⟩

theorem each_map {α β γ : Type} (act : β → Build γ) (change : α → β) (members : List α) :
    each act (members.map change) = each (fun member => act (change member)) members := by
  induction members with
  | nil => rfl
  | cons member members inductionHypothesis => rw [List.map_cons, each, inductionHypothesis, each]

/-- A part that was drawn stays drawn when a run comes back. -/
theorem partDrawn_mono (part : Part) {before after : Progress} (node : NodeId)
    (passage : Passage context before after)
    (drawn : PartDrawn before before.journal frame part node) :
    PartDrawn after after.journal frame part node :=
  drawn.mono passage.run.kept passage.run.journal_suffix.subset

/-- A node is added behind the nodes of the parts of its outline. -/
theorem allocate_answered {before middle built : Progress} {fragment : Json} {outline : Outline}
    {shape : Shape} {node : NodeId} (passage : Passage context before middle)
    (surveyed : middle.Surveyed context root) (outlined : fragment.outline? = some outline)
    (allocated : allocate shape middle = .ok node built)
    (noEnum : shape.isNamedEnum = false) (top : shape.head? = some outline.head)
    (parts : List.Forall₂ (PartDrawn middle middle.journal before.frame) outline.parts
      shape.children) :
    Answered context root before built fragment node := by
  have noReference : ∀ name, shape ≠ .reference name := by
    rintro name rfl
    cases top
  simp only [allocate_apply, EStateM.Result.ok.injEq] at allocated
  obtain ⟨rfl, rfl⟩ := allocated
  have change : Transition context middle (middle.add shape) :=
    .allocated middle shape noEnum noReference (surveyed.known_of_parts parts)
  refine ⟨passage.step change rfl rfl rfl rfl, by simp [Progress.add],
    surveyed.grow (.single change) rfl rfl rfl, .drawn outlined ⟨?_, ?_⟩, ?_⟩
  · simp [Progress.node, Progress.add, top]
  · have same : ((middle.add shape).node middle.model.size).shape = shape := by
      simp [Progress.node, Progress.add]
    rw [same]
    exact parts.imp fun part child drawn =>
      drawn.mono (Run.kept (.single change)) (List.Subset.refl _)
  · intro file refers
    rw [Json.target?_eq_none outlined] at refers
    cases refers

/-- The fragments of a list bring its parts in their order. -/
theorem fragments_brings (surveys : Surveys context root resolve) {values : List Json}
    (reachable : ∀ value ∈ values, Reachable context.loader root frame value) :
    Brings context root frame (each (resolve · .inner) values) fun after nodes =>
      List.Forall₂ (PartDrawn after after.journal frame) (values.map .fragment) nodes := by
  intro before nodes after surveyed here taken
  obtain ⟨passage, onward, drawn⟩ := each_brings
    (fun value _ _ node passage => partDrawn_mono (.fragment value) node passage)
    (fun value inside => surveys.brings (reachable value inside) none) _ _ _ surveyed here taken
  exact ⟨passage, onward, List.forall₂_map_left_iff.mpr drawn⟩

section Builders

variable {fragment : Json} {before built : Progress} {node : NodeId}

/-- A type without parts. -/
theorem leaf_answered (surveyed : before.Surveyed context root) {shape : Shape} {head : Head}
    (outlined : fragment.outline? = some (.leaf head)) (noEnum : shape.isNamedEnum = false)
    (top : shape.head? = some head) (children : shape.children = [])
    (allocated : allocate shape before = .ok node built) :
    Answered context root before built fragment node :=
  allocate_answered (.refl before) surveyed outlined allocated noEnum top
    (by rw [children]; exact .nil)

/-- An enum has its values as parts. -/
theorem buildEnum_answered (surveyed : before.Surveyed context root)
    (outlined : fragment.outline? = (fragment.itemsField? "enum").map fun values =>
      ⟨.union, values.map (.leaf <| .literal ·)⟩)
    (done : buildEnum fragment before = .ok node built) :
    Answered context root before built fragment node := by
  cases values : fragment.itemsField? "enum" with
  | none => simp [buildEnum, values] at done
  | some values =>
      simp only [buildEnum, values, bind_eq_ok] at done
      obtain ⟨nodes, middle, literals, allocated⟩ := done
      have literal (value : Json) : Brings context root before.frame (allocate (.literal value))
          fun after node =>
            PartDrawn after after.journal before.frame (.leaf (.literal value)) node :=
        leaf_brings context root before.frame rfl rfl rfl
      obtain ⟨passage, onward, drawn⟩ := each_brings
        (fun value _ _ node passage => partDrawn_mono (.leaf (.literal value)) node passage)
        (fun value _ => literal value) _ _ _ surveyed rfl literals
      exact allocate_answered passage onward (outlined.trans (by rw [values]; rfl)) allocated rfl
        rfl (List.forall₂_map_left_iff.mpr drawn)

/-- A named enum has its members at its top. -/
theorem buildNamedEnum_answered (surveyed : before.Surveyed context root)
    (outlined : fragment.outline? = fragment.enumOutline?) {property : Option String}
    (done : buildNamedEnum fragment property before = .ok node built) :
    Answered context root before built fragment node := by
  cases values : fragment.itemsField? "enum" with
  | none => simp [buildNamedEnum, values] at done
  | some enumValues =>
      cases names : fragment.itemsField? "tsEnumNames" with
      | none => simp [buildNamedEnum, values, names] at done
      | some enumNames =>
          simp only [buildNamedEnum, values, names] at done
          split at done
          · simp [bind_eq_ok] at done
          · next length =>
            cases found : enumMembers? enumNames enumValues with
            | none => simp [found] at done
            | some members =>
                have leaf : fragment.outline? = some (.leaf (.enum members)) := by
                  simp only [outlined, Json.enumOutline?, values, names, found]
                  exact if_pos (not_not.mp length)
                simp only [found, get_bind, bind_eq_ok, allocate_apply, modify_bind, pure_apply,
                  EStateM.Result.ok.injEq] at done
                obtain ⟨made, middle, ⟨rfl, rfl⟩, rfl, rfl⟩ := done
                have change : Transition context before _ :=
                  .enumStored before members (enumName? fragment property)
                refine ⟨(Passage.refl before).step change rfl rfl rfl rfl,
                  by simp [Progress.putEnum, Progress.add],
                  surveyed.note (.single change) rfl trivial rfl rfl (by simp),
                  .drawn leaf ⟨?_, ?_⟩, ?_⟩
                · simp [Progress.node, Progress.putEnum, Progress.add, Shape.head?, Outline.leaf]
                · simp [Progress.node, Progress.putEnum, Progress.add, Shape.children, Outline.leaf]
                · intro file refers
                  rw [Json.target?_eq_none leaf] at refers
                  cases refers

/-- An array has its items as its only part. -/
theorem buildArray_answered (surveys : Surveys context root resolve)
    (surveyed : before.Surveyed context root)
    (reachable : Reachable context.loader root before.frame fragment) {items : Option Json}
    (outlined : fragment.outline? = some ⟨.array, [items.elim (.leaf .any) .fragment]⟩)
    (done : buildArray resolve items before = .ok node built) :
    Answered context root before built fragment node := by
  cases items with
  | none =>
      simp only [buildArray, bind_eq_ok] at done
      obtain ⟨element, middle, leaf, allocated⟩ := done
      obtain ⟨passage, onward, drawn⟩ :=
        leaf_brings context root before.frame rfl rfl rfl _ _ _ surveyed rfl leaf
      exact allocate_answered passage onward outlined allocated rfl rfl (.cons drawn .nil)
  | some value =>
      simp only [buildArray, bind_eq_ok] at done
      obtain ⟨element, middle, resolved, allocated⟩ := done
      obtain ⟨passage, onward, drawn⟩ := surveys.brings
        (reachable.part outlined List.mem_cons_self) none _ _ _ surveyed rfl resolved
      exact allocate_answered passage onward outlined allocated rfl rfl (.cons drawn .nil)

/-- The members of a union or of an intersection. -/
theorem members_answered (surveys : Surveys context root resolve)
    (surveyed : before.Surveyed context root)
    (reachable : Reachable context.loader root before.frame fragment) {values : List Json}
    {make : List NodeId → Shape} {head : Head}
    (outlined : fragment.outline? = some ⟨head, values.map .fragment⟩)
    (noEnum : ∀ nodes, (make nodes).isNamedEnum = false)
    (top : ∀ nodes, (make nodes).head? = some head)
    (children : ∀ nodes, (make nodes).children = nodes)
    (done : (do
      let nodes ← each (resolve · .inner) values
      allocate (make nodes)) before = .ok node built) :
    Answered context root before built fragment node := by
  obtain ⟨nodes, middle, resolved, allocated⟩ := bind_eq_ok.mp done
  obtain ⟨passage, onward, drawn⟩ := fragments_brings surveys
    (fun value inside => reachable.part outlined (List.mem_map_of_mem inside)) _ _ _ surveyed rfl
    resolved
  exact allocate_answered passage onward outlined allocated (noEnum nodes) (top nodes)
    (by rw [children]; exact drawn)

/-- A property goes with its name and with the node of its part. -/
def Listed (progress : Progress) (frame : Frame) (entry : (String × Bool) × Part)
    (property : Property) : Prop :=
  (property.name, property.required) = entry.1 ∧
    PartDrawn progress progress.journal frame entry.2 property.type

/-- A property that is listed stays listed when a run comes back. -/
theorem listed_mono (entry : (String × Bool) × Part) {before after : Progress}
    {property : Property} (passage : Passage context before after)
    (listed : Listed before frame entry property) : Listed after frame entry property :=
  ⟨listed.1, partDrawn_mono entry.2 property.type passage listed.2⟩

/-- The properties of an interface bring its parts with their names. -/
theorem properties_brings (surveys : Surveys context root resolve)
    (reachable : ∀ entry ∈ fragment.listedParts, ∀ value, entry.2 = .fragment value →
      Reachable context.loader root frame value) :
    Brings context root frame (resolveProperties resolve (requiredNames fragment)
      ((fragment.fieldsField? "properties").getD [])) fun after properties =>
        List.Forall₂ (Listed after frame) fragment.listedParts properties := by
  intro before properties after surveyed here taken
  have entry (field : String × Json)
      (inside : field ∈ (fragment.fieldsField? "properties").getD []) :
      ((field.1, decide (field.1 ∈ requiredNames fragment)), Part.fragment field.2) ∈
        fragment.listedParts :=
    List.mem_map_of_mem inside
  let good (field : String × Json) (progress : Progress) (property : Property) : Prop :=
    Listed progress frame
      ((field.1, decide (field.1 ∈ requiredNames fragment)), .fragment field.2) property
  have keeps (field : String × Json) (first second : Progress) (property : Property)
      (passage : Passage context first second) (listed : good field first property) :
      good field second property := listed_mono _ passage listed
  obtain ⟨passage, onward, listed⟩ := each_brings keeps (by
    rintro ⟨name, value⟩ inside state property last onward same built
    simp only [bind_eq_ok, pure_apply, EStateM.Result.ok.injEq] at built
    obtain ⟨type, middle, resolved, rfl, rfl⟩ := built
    obtain ⟨passage, visited, drawn⟩ := surveys.brings
      (reachable _ (entry _ inside) value rfl) (some name) _ _ _ onward same resolved
    exact ⟨passage, visited, rfl, drawn⟩) _ _ _ surveyed here taken
  exact ⟨passage, onward, List.forall₂_map_left_iff.mpr listed⟩

/-- The parts of an interface are those of its properties. -/
theorem interface_answered {middle : Progress} (passage : Passage context before middle)
    (surveyed : middle.Surveyed context root) {entries : List ((String × Bool) × Part)}
    {properties : List Property} (outlined : fragment.outline? = some (.interface entries))
    (listed : List.Forall₂ (Listed middle before.frame) entries properties)
    (allocated : allocate (.interface properties) middle = .ok node built) :
    Answered context root before built fragment node := by
  refine allocate_answered passage surveyed outlined allocated rfl ?_ ?_
  · refine congrArg (fun names => some (Head.interface names)) ?_
    have same : List.Forall₂ (· = ·)
        (properties.map fun property => (property.name, property.required))
        (entries.map Prod.fst) :=
      List.forall₂_map_left_iff.mpr (List.forall₂_map_right_iff.mpr
        (listed.flip.imp fun property entry here => here.1))
    rw [List.forall₂_eq_eq_eq] at same
    exact same
  · exact List.forall₂_map_left_iff.mpr (List.forall₂_map_right_iff.mpr
      (listed.imp fun entry property here => here.2))

/-- All other properties have one type, which is resolved after those of the listed ones. -/
theorem indexed_answered {middle : Progress} (passage : Passage context before middle)
    (surveyed : middle.Surveyed context root) {entries : List ((String × Bool) × Part)}
    {properties : List Property} {act : Build NodeId} {part : Part}
    (outlined : fragment.outline? =
      some (.interface (entries ++ [((indexSignature, true), part)])))
    (listed : List.Forall₂ (Listed middle before.frame) entries properties)
    (brings : Brings context root before.frame act fun after node =>
      PartDrawn after after.journal before.frame part node)
    (done : (do
      let type ← act
      allocate (.interface (properties ++ [(⟨indexSignature, true, type⟩ : Property)]))) middle =
        .ok node built) : Answered context root before built fragment node := by
  obtain ⟨type, last, made, allocated⟩ := bind_eq_ok.mp done
  obtain ⟨further, onward, drawn⟩ := brings _ _ _ surveyed passage.frame made
  refine interface_answered (passage.trans further) onward outlined ?_ allocated
  exact List.rel_append (listed.imp fun entry property => listed_mono entry further)
    (.cons ⟨rfl, drawn⟩ .nil)

/-- An interface has its properties as parts, and the type of all others where it has one. -/
theorem buildInterface_answered (surveys : Surveys context root resolve)
    (surveyed : before.Surveyed context root)
    (reachable : Reachable context.loader root before.frame fragment)
    (outlined : fragment.outline? = some fragment.interfaceOutline)
    (done : buildInterface resolve fragment before = .ok node built) :
    Answered context root before built fragment node := by
  simp only [buildInterface, bind_eq_ok] at done
  obtain ⟨properties, middle, resolved, done⟩ := done
  obtain ⟨passage, onward, listed⟩ := properties_brings surveys
    (fun entry inside value same =>
      reachable.part outlined (same ▸ Json.mem_interfaceOutline inside)) _ _ _ surveyed rfl resolved
  have empty : properties.isEmpty = fragment.listedParts.isEmpty := by
    revert listed
    generalize fragment.listedParts = entries
    rintro (_ | _) <;> rfl
  have closed (same : fragment.interfaceOutline = .interface fragment.listedParts)
      (allocated : allocate (.interface properties) middle = .ok node built) :
      Answered context root before built fragment node :=
    interface_answered passage onward (outlined.trans (congrArg some same)) listed allocated
  have indexed {act : Build NodeId} {part : Part}
      (brings : Brings context root before.frame act fun after node =>
        PartDrawn after after.journal before.frame part node)
      (same : fragment.interfaceOutline =
        .interface (fragment.listedParts ++ [((indexSignature, true), part)]))
      (made : (do
        let type ← act
        allocate (.interface (properties ++ [(⟨indexSignature, true, type⟩ : Property)]))) middle =
          .ok node built) : Answered context root before built fragment node :=
    indexed_answered passage onward (outlined.trans (congrArg some same)) listed brings made
  have leaf {shape : Shape} {head : Head} (same : fragment.interfaceOutline = .leaf head)
      (noEnum : shape.isNamedEnum = false) (top : shape.head? = some head)
      (children : shape.children = []) (allocated : allocate shape middle = .ok node built) :
      Answered context root before built fragment node :=
    allocate_answered passage onward (outlined.trans (congrArg some same)) allocated noEnum top
      (by rw [children]; exact .nil)
  have anyBrings : Brings context root before.frame (allocate .any) fun after node =>
      PartDrawn after after.journal before.frame (.leaf .any) node :=
    leaf_brings context root before.frame rfl rfl rfl
  cases additional : fragment.get? "additionalProperties" with
  | none =>
      simp only [additional] at done
      split at done
      · next none =>
        split at done
        · next default =>
          exact leaf (by simp [Json.interfaceOutline, additional, ← empty, none, default]) rfl rfl
            rfl done
        · next default =>
          exact leaf (by simp [Json.interfaceOutline, additional, ← empty, none, default]) rfl rfl
            rfl done
      · next some =>
        exact indexed anyBrings (by simp [Json.interfaceOutline, additional, ← empty, some]) done
  | some value =>
      cases value with
      | object fields =>
          simp only [additional] at done
          have same : fragment.interfaceOutline = .interface (fragment.listedParts ++
              [((indexSignature, true), .fragment (.object fields))]) := by
            simp [Json.interfaceOutline, additional]
          have inside : Part.fragment (.object fields) ∈ fragment.interfaceOutline.parts := by
            rw [same]
            simp [Outline.interface]
          exact indexed (surveys.brings (reachable.part outlined inside) none) same done
      | bool allowed =>
          cases allowed with
          | true =>
              simp only [additional] at done
              split at done
              · next none =>
                exact leaf (by simp [Json.interfaceOutline, additional, ← empty, none]) rfl rfl rfl
                  done
              · next some =>
                exact indexed anyBrings (by simp [Json.interfaceOutline, additional, ← empty, some])
                  done
          | false =>
              simp only [additional] at done
              exact closed (by simp [Json.interfaceOutline, additional]) done
      | _ =>
          simp only [additional] at done
          exact closed (by simp [Json.interfaceOutline, additional]) done

end Builders

end SchemaTypes.Build
