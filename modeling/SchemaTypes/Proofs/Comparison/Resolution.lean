/-
This file shows that two compilations with one loader, whose settings agree on what is declared,
resolve every fragment alike: names lead to no key, to no branch and to no error.
-/
import SchemaTypes.Proofs.Comparison.Match

namespace SchemaTypes

/-- Two contexts read the same files and declare the same targets; if names are compared as well,
they also name them alike. -/
structure Context.Agrees (names : Prop) (context other : Context) : Prop where
  loader : other.loader = context.loader
  declaring : other.settings.declareReferenced = context.settings.declareReferenced
  naming : names →
    other.settings.useFullReferencePathAsName = context.settings.useFullReferencePathAsName

namespace Build

variable {names : Prop} {context other : Context} {left right : Resolver}
  {first second : Progress}

/-- The literals of an enum are the same on both sides. -/
theorem buildEnum_match (context : Context) (twin : Twin names first second) (fragment : Json) :
    Match names (buildEnum fragment) (buildEnum fragment) first second := by
  unfold buildEnum
  split
  · exact .throw twin _
  · refine Match.bind (.each (fun value _ _ _ twin => .leaf twin rfl) twin) ?_
    intro members middle last made twins
    have literal (value : Json) := allocate_yields context (.literal value) rfl (by simp) rfl
    exact .allocate twins (each_yields literal twin.sound.toScoped made).2

/-- A named enum fails before it changes anything, or it is added and stored under its name. -/
theorem buildNamedEnum_cases (fragment : Json) (property : Option String) :
    (∃ error, ∀ progress, buildNamedEnum fragment property progress = .error error progress) ∨
    ∃ members, ∀ progress : Progress, buildNamedEnum fragment property progress =
      .ok progress.model.size ((progress.add (.namedEnum members)).putEnum
        ((enumName? fragment property).getD
          (generatedEnumName progress.declarations.enumCount))
        (enumName? fragment property).isNone progress.model.size) := by
  cases values : fragment.itemsField? "enum" with
  | none => exact .inl ⟨.enumNotArray fragment, fun progress => by simp [buildNamedEnum, values]⟩
  | some enumValues =>
      cases names : fragment.itemsField? "tsEnumNames" with
      | none =>
          exact .inl ⟨.enumNamesNotText, fun progress => by simp [buildNamedEnum, values, names]⟩
      | some enumNames =>
          simp only [buildNamedEnum, values, names]
          split
          · exact .inl ⟨_, fun progress => rfl⟩
          · cases enumMembers? enumNames enumValues with
            | none => exact .inl ⟨_, fun progress => rfl⟩
            | some members => exact .inr ⟨members, fun progress => rfl⟩

/-- A named enum is stored under the same name on both sides, since its number counts enums. -/
theorem buildNamedEnum_match (twin : Twin names first second) (fragment : Json)
    (property : Option String) :
    Match names (buildNamedEnum fragment property) (buildNamedEnum fragment property)
      first second := by
  rcases buildNamedEnum_cases fragment property with ⟨error, fails⟩ | ⟨members, stores⟩
  · exact .error (fails first) (fails second) twin
  · have added := @Twin.add names first second twin (.namedEnum members) _
      (by simp [Shape.children]) rfl fun _ => rfl
    have declarations : second.declarations = first.declarations := by
      cases twin
      rfl
    have doneToo := stores second
    rw [declarations, twin.similar.size] at doneToo
    exact .ok (stores first) doneToo (added.putEnum _ _ (by simp [Progress.add]))

/-- Both sides read the same file. -/
theorem readDocument_match (agrees : context.Agrees names other) (twin : Twin names first second)
    (path : Path) :
    Match names (readDocument context.loader path) (readDocument other.loader path)
      first second := by
  rw [agrees.loader]
  refine Match.modify_bind ?_
  have noted := twin.note (.read path)
  cases context.loader.read path with
  | error source => exact .throw noted _
  | ok text =>
      dsimp only
      cases Json.parse text with
      | error source => exact .throw noted _
      | ok document => exact .pure noted document

/-- Whether a target is declared does not depend on names. -/
theorem needsDeclaration_eq (agrees : context.Agrees names other)
    (twin : Twin names first second) (key : String) (node : NodeId) :
    second.needsDeclaration other.settings key node =
      first.needsDeclaration context.settings key node := by
  have simple := (twin.similar.nodes node).isSimple_eq
  cases twin
  simp only [Progress.needsDeclaration, agrees.declaring]
  rw [Progress.node, Progress.node, simple]

/-- Where names are compared, a pointer gives the same one on both sides. -/
theorem pointerName_eq (agrees : context.Agrees names other) (pointer : String) (same : names) :
    pointerName other.settings pointer = pointerName context.settings pointer := by
  simp only [pointerName, agrees.naming same]

/-- A finished pointer is declared on both sides or on none. -/
theorem finishPointer_twin (agrees : context.Agrees names other) (twin : Twin names first second)
    (frame : Frame) (pointer : String) {node : NodeId} (known : node < first.model.size) :
    Twin names (finishPointer context.settings frame pointer node first)
      (finishPointer other.settings frame pointer node second) := by
  simp only [finishPointer, needsDeclaration_eq agrees twin]
  split
  · exact (twin.release _).declare _ _ known (pointerName_eq agrees pointer)
  · exact twin.release _

/-- A declared file may show different names, as its node does. -/
theorem declareFile_twin (twin : Twin names first second) (path : Path) {node : NodeId}
    (known : node < first.model.size) :
    Twin names (declareFile path node first) (declareFile path node second) := by
  have named (same : names) :
      fileName path (second.node node) = fileName path (first.node node) := by
    rw [twin.eq same]
  have size := twin.similar.size
  simp only [declareFile, size]
  have declared := twin.declare (.file path) path.text known named
  have added := @Twin.add names _ _ declared (.reference (fileName path (first.node node)))
    (.reference (fileName path (second.node node))) (by simp [Shape.children]) rfl
    fun same => congrArg Shape.reference (named same)
  exact added.remember path (by simp [Progress.add, Progress.declare])

/-- A file that is not declared loses its name on both sides. -/
theorem inlineFile_twin (twin : Twin names first second) (path : Path) {node : NodeId}
    (known : node < first.model.size) :
    Twin names (inlineFile path node first) (inlineFile path node second) := by
  have declarations : second.declarations = first.declarations := by
    cases twin
    rfl
  simp only [inlineFile, declarations]
  split
  · exact twin.remember path known
  · exact (twin.setId node rfl fun _ => rfl).remember path
      (by simpa [Progress.setId] using known)

/-- A file is finished the same way on both sides. -/
theorem finishFile_match (agrees : context.Agrees names other) (twin : Twin names first second)
    (path : Path) {node : NodeId} (known : node < first.model.size) :
    Match names (finishFile context.settings path node) (finishFile other.settings path node)
      first second := by
  have released := twin.release path.text
  have needed := needsDeclaration_eq agrees twin path.text node
  cases needs : first.needsDeclaration context.settings path.text node with
  | true =>
      rw [needs] at needed
      have done : finishFile context.settings path node first =
          .ok first.model.size (declareFile path node (first.release path.text)) := by
        simp [finishFile, needs]
      have doneToo : finishFile other.settings path node second =
          .ok first.model.size (declareFile path node (second.release path.text)) := by
        simp [finishFile, needed, twin.similar.size]
      exact .ok done doneToo (declareFile_twin released path known)
  | false =>
      rw [needs] at needed
      have done : finishFile context.settings path node first =
          .ok node (inlineFile path node (first.release path.text)) := by
        simp [finishFile, needs]
      have doneToo : finishFile other.settings path node second =
          .ok node (inlineFile path node (second.release path.text)) := by
        simp [finishFile, needed]
      exact .ok done doneToo (inlineFile_twin released path known)

/-- Titles and ids are taken from the fragment, which is the same. -/
theorem adoptName_twin (twin : Twin names first second) (fragment : Json) (site : Site)
    {node : NodeId} (known : node < first.model.size) :
    Twin names (adoptName fragment site node first) (adoptName fragment site node second) := by
  have unnamed : (second.node node).id.isNone = (first.node node).id.isNone :=
    (twin.similar.nodes node).isNone_eq
  unfold adoptName
  by_cases bare : (first.node node).id.isNone = true
  · rw [if_pos bare, if_pos (unnamed.trans bare)]
    cases fragment.declaredName? with
    | none => exact twin
    | some name =>
        dsimp only
        split
        · exact twin.setId node rfl fun _ => rfl
        · exact twin.declare .name name known fun _ => rfl
  · rw [if_neg bare, if_neg (unnamed ▸ bare)]
    exact twin

/-- A description is taken on both sides or on none. -/
theorem adoptDescription_twin (twin : Twin names first second) (fragment : Json) (node : NodeId) :
    Twin names (adoptDescription fragment node first) (adoptDescription fragment node second) := by
  have described : (second.node node).description = (first.node node).description :=
    (twin.similar.nodes node).description
  unfold adoptDescription
  rw [described]
  split
  · exact twin.setDescription node _
  · exact twin

section Resolvers

variable (agrees : context.Agrees names other) (lawful : Lawful context left)
  (matching : Matches names left right)

include matching

/-- Arrays match when their items do. -/
theorem buildArray_match (lawful : Lawful context left) (twin : Twin names first second)
    (items : Option Json) :
    Match names (buildArray left items) (buildArray right items) first second := by
  unfold buildArray
  cases items with
  | none =>
      refine (Match.leaf twin rfl).bind fun element middle last made twins => ?_
      have yields := allocate_yields context .any rfl (by simp) rfl
      refine .allocate twins ?_
      simpa [Shape.children] using (yields _ _ _ twin.sound.toScoped made).2
  | some items =>
      refine (matching items .inner _ _ twin).bind fun element middle last made twins => ?_
      refine .allocate twins ?_
      simpa [Shape.children] using (lawful.yields items none _ _ _ twin.sound.toScoped made).2

/-- The members under a keyword are resolved to the same nodes. -/
theorem resolveMembers_match (twin : Twin names first second) (fragment : Json)
    (keyword : String) :
    Match names (resolveMembers left fragment keyword) (resolveMembers right fragment keyword)
      first second :=
  .each (fun member _ _ _ twin => matching member .inner _ _ twin) twin

/-- The properties are resolved to the same nodes. -/
theorem resolveProperties_match (twin : Twin names first second) (required : List String)
    (fields : List (String × Json)) :
    Match names (resolveProperties left required fields) (resolveProperties right required fields)
      first second :=
  .each (fun _ _ _ _ twin => (matching _ _ _ _ twin).bind fun _ _ _ _ twin => .pure twin _) twin

include lawful

/-- Lists of types match when each type does. -/
theorem buildTypeUnion_match (twin : Twin names first second) (types : List Json) :
    Match names (buildTypeUnion left types) (buildTypeUnion right types) first second := by
  refine Match.bind (.each (fun type _ _ _ twin => matching _ .inner _ _ twin) twin) ?_
  intro members middle last made twins
  exact .allocate twins
    (each_yields (fun type => lawful.yields _ none) twin.sound.toScoped made).2

/-- The members of a union or of an intersection are resolved one after the other. -/
theorem members_match (twin : Twin names first second) (fragment : Json) (keyword : String)
    {make : List NodeId → Shape} (children : ∀ nodes, (make nodes).children = nodes) :
    Match names (resolveMembers left fragment keyword >>= fun nodes => allocate (make nodes))
      (resolveMembers right fragment keyword >>= fun nodes => allocate (make nodes))
      first second := by
  refine (resolveMembers_match matching twin fragment keyword).bind ?_
  intro nodes middle last made twins
  refine .allocate twins ?_
  rw [children]
  exact (resolveMembers_passage lawful twin.sound.toScoped made).2

/-- Interfaces match when their properties do. -/
theorem buildInterface_match (twin : Twin names first second) (fragment : Json) :
    Match names (buildInterface left fragment) (buildInterface right fragment) first second := by
  unfold buildInterface
  refine (resolveProperties_match matching twin _ _).bind ?_
  intro properties middle last made twins
  obtain ⟨passage, known⟩ := resolveProperties_passage lawful twin.sound.toScoped made
  have closed : Match names (allocate (.interface properties)) (allocate (.interface properties))
      middle last :=
    .allocate twins (by simpa [Shape.children] using known)
  have indexed {act act' : Build NodeId} (yields : Yields context act)
      (same : Match names act act' middle last) :
      Match names (do
          let type ← act
          allocate (.interface (properties ++ [(⟨indexSignature, true, type⟩ : Property)])))
        (do
          let type ← act'
          allocate (.interface (properties ++ [(⟨indexSignature, true, type⟩ : Property)])))
        middle last := by
    refine same.bind fun type done doneToo typed twinned => ?_
    obtain ⟨onward, typeKnown⟩ := yields _ _ _ twins.sound.toScoped typed
    refine .allocate twinned ?_
    intro child part
    simp only [Shape.children, List.map_append, List.map_cons, List.map_nil, List.mem_append,
      List.mem_map, List.mem_singleton] at part
    rcases part with ⟨property, member, rfl⟩ | rfl
    · exact Nat.lt_of_lt_of_le (known property member) onward.run.size_le
    · exact typeKnown
  have anyYields := allocate_yields context .any rfl (by simp) rfl
  cases additional : fragment.get? "additionalProperties" with
  | none =>
      dsimp only
      split
      · split
        · exact .leaf twins rfl
        · exact .leaf twins rfl
      · exact indexed anyYields (.leaf twins rfl)
  | some value =>
      cases value with
      | object fields => exact indexed (lawful.yields _ none) (matching _ .inner _ _ twins)
      | bool allowed =>
          cases allowed with
          | true =>
              dsimp only
              split
              · exact .leaf twins rfl
              · exact indexed anyYields (.leaf twins rfl)
          | false => exact closed
      | _ => exact closed

include agrees

/-- A pointer is answered alike, with other names at most. -/
theorem followPointer_match (twin : Twin names first second) (pointer : String) :
    Match names (followPointer context.settings left pointer)
      (followPointer other.settings right pointer) first second := by
  have resolved : Match names (resolvePointer context.settings left pointer)
      (resolvePointer other.settings right pointer) first second := by
    obtain ⟨model, sound, similar, exact⟩ := id twin
    refine Match.get_bind ?_
    dsimp only
    cases first.declarations.get? (first.frame.pointerKey pointer) with
    | some node => exact .pure twin node
    | none =>
        dsimp only
        split
        · exact .forwardReference twin _ (pointerName_eq agrees pointer)
        · cases found : Pointer.lookup? first.frame.document (Pointer.segments pointer) with
          | none => exact .leaf twin rfl
          | some target =>
              refine Match.bind (.between (matching target .inner _ _ (twin.enter _ _))
                fun twin => twin.leave _) ?_
              intro node middle last made twins
              simp only [whilePending, between_eq_ok] at made
              obtain ⟨done, targetResolved, rfl⟩ := made
              have entered := (twin.enter first.frame pointer).sound.toScoped
              exact .modify_bind (.pure (finishPointer_twin agrees twins _ _
                (lawful.inner entered targetResolved).2.1) node)
  obtain ⟨model, sound, similar, exact⟩ := id twin
  exact Match.get_bind resolved.noting

/-- A file is answered alike, with other names at most. -/
theorem followFile_match (twin : Twin names first second) (reference : String)
    (property : Option String) :
    Match names (followFile context left reference property)
      (followFile other right reference property) first second := by
  have resolved (path : Path) :
      Match names (resolvePath context left path property)
        (resolvePath other right path property) first second := by
    obtain ⟨model, sound, similar, exact⟩ := id twin
    refine Match.get_bind ?_
    dsimp only
    split
    · exact .pure twin _
    · split
      · exact .forwardReference twin _ fun _ => rfl
      · refine (readDocument_match agrees twin path).bind fun document middle last read twins => ?_
        refine Match.bind (.between (matching document _ _ _ (twins.push _))
          fun twin => twin.pop) ?_
        intro node after afterToo made closed
        simp only [inFrame, between_eq_ok] at made
        obtain ⟨inner, documentResolved, rfl⟩ := made
        obtain ⟨built, passage, known, rfl⟩ := lawful _ _ _ _ _
          (twins.push (fileFrame path document)).sound.toScoped documentResolved
        refine finishFile_match agrees closed path ?_
        rw [Progress.model_pop]
        obtain ⟨described, -, inside, same | ⟨name, same⟩⟩ :=
          completed_document context document property node built known
        · rw [same]
          exact inside
        · rw [same]
          exact Nat.lt_of_lt_of_eq inside (Model.size_setId ..).symm
  unfold followFile
  split
  · exact Match.bind (.throw twin _) fun _ _ _ failed _ => by simp at failed
  · obtain ⟨model, sound, similar, exact⟩ := id twin
    exact Match.get_bind (resolved _).noting

/-- References are answered alike whatever they lead to. -/
theorem buildReference_match (twin : Twin names first second) (fragment : Json)
    (property : Option String) :
    Match names (buildReference context left fragment property)
      (buildReference other right fragment property) first second := by
  unfold buildReference
  split
  · unfold follow
    split
    · obtain ⟨model, sound, similar, exact⟩ := id twin
      exact Match.get_bind (.forwardReference twin _ fun _ => rfl)
    · exact followPointer_match agrees lawful matching twin _
    · exact followFile_match agrees lawful matching twin _ property
  · exact .leaf twin rfl

/-- A fragment is built alike whatever its rule is. -/
theorem buildNode_match (twin : Twin names first second) (fragment : Json)
    (property : Option String) :
    Match names (buildNode context left fragment property)
      (buildNode other right fragment property) first second := by
  unfold buildNode
  cases Rule.classify fragment with
  | typedArray => exact buildArray_match matching lawful twin _
  | namedEnum => exact buildNamedEnum_match twin fragment property
  | enum => exact buildEnum_match context twin fragment
  | namedSchema => exact buildInterface_match lawful matching twin fragment
  | anonymousSchema => exact buildInterface_match lawful matching twin fragment
  | allOf => exact members_match lawful matching twin fragment "allOf" fun _ => rfl
  | anyOf => exact members_match lawful matching twin fragment "anyOf" fun _ => rfl
  | reference => exact buildReference_match agrees lawful matching twin fragment property
  | array => exact buildArray_match matching lawful twin none
  | union => exact buildTypeUnion_match lawful matching twin _
  | _ => exact .leaf twin rfl

/-- Two resolvers that match below a fragment match at the fragment. -/
theorem resolveBy_matches : Matches names (resolveBy context left) (resolveBy other right) := by
  intro fragment site first second twin
  obtain ⟨model, sound, similar, exact⟩ := id twin
  refine Match.get_bind (Match.noting ?_)
  refine (buildNode_match agrees lawful matching twin fragment site.property).bind ?_
  intro node middle last made twins
  have known :=
    (buildNode_yields lawful fragment site.property _ _ _ twin.sound.toScoped made).2
  have adopted := adoptName_twin twins fragment site known
  exact .modify_bind (.modify_bind (.pure (adoptDescription_twin adopted fragment node) node))

end Resolvers

/-- Under one budget, every fragment is resolved alike on both sides. -/
theorem resolveFragment_matches (agrees : context.Agrees names other) (budget : Nat) :
    Matches names (resolveFragment context budget) (resolveFragment other budget) := by
  induction budget with
  | zero => exact fun _ _ _ _ twin => .throw twin _
  | succ budget inductionHypothesis =>
      exact resolveBy_matches agrees (resolveFragment_lawful context budget) inductionHypothesis

end Build
end SchemaTypes
