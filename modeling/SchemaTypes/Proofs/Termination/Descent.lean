/-
This file shows that two resolvers that agree on the parts of a fragment and on the targets of its
references agree on the fragment.
-/
import SchemaTypes.Proofs.Termination.Agreement
import SchemaTypes.Proofs.Termination.Extent
import SchemaTypes.Proofs.Path.NormalForm

namespace SchemaTypes.Build

/-- Two resolvers agree wherever a fragment leads: to its parts, and to the targets of its
references as far as they are not being resolved already. -/
structure AgreeOnward (context : Context) (left right : Resolver) (fragment : Json)
    (before : Progress) : Prop where
  part : ∀ (part : Json) (property : Option String) (state : Progress), part.Below fragment →
    Alike before state → Agree (left part ⟨property, false⟩) (right part ⟨property, false⟩) state
  pointer : ∀ (reference pointer : String) (target : Json), reference ∈ fragment.texts →
    Target.ofReference reference = .pointer pointer →
    before.frame.pointerKey pointer ∉ before.pending →
    Pointer.lookup? before.frame.document (Pointer.segments pointer) = some target →
    Agree (left target .inner) (right target .inner) (before.enter before.frame pointer)
  file : ∀ (path : Path) (text : String) (document : Json) (property : Option String),
    path.normalize = path → (∀ frame ∈ before.frames, frame.key ≠ some path.text) →
    context.loader.read path = .ok text → Json.parse text = .ok document →
    Agree (left document ⟨property, true⟩) (right document ⟨property, true⟩)
      ((before.note (.read path)).push (fileFrame path document))

theorem buildEnum_agree (context : Context) (fragment : Json) {before : Progress}
    (within : before.Scoped) : Agree (buildEnum fragment) (buildEnum fragment) before := by
  unfold buildEnum
  split
  · exact .throw (by simp) before
  · refine Agree.bind ?_ fun members middle _ => .allocate _ middle
    exact .each context id (fun value => allocate_yields context (.literal value) rfl (by simp) rfl)
      (fun value _ state _ => .allocate _ state) (.refl within)

theorem buildNamedEnum_agree (fragment : Json) (property : Option String) (before : Progress) :
    Agree (buildNamedEnum fragment property) (buildNamedEnum fragment property) before := by
  refine ⟨rfl, ?_⟩
  intro after exhausted
  unfold buildNamedEnum at exhausted
  cases values : fragment.itemsField? "enum" with
  | none => simp [values] at exhausted
  | some enumValues =>
      cases names : fragment.itemsField? "tsEnumNames" with
      | none => simp [values, names] at exhausted
      | some enumNames =>
          simp only [values, names] at exhausted
          split at exhausted
          · simp [bind_eq_error] at exhausted
          · cases found : enumMembers? enumNames enumValues with
            | none => simp [found] at exhausted
            | some members =>
                simp only [found, get_bind, bind_eq_error, allocate_apply, modify_bind,
                  pure_apply] at exhausted
                simp at exhausted

theorem readDocument_agree (loader : Loader) (path : Path) (before : Progress) :
    Agree (readDocument loader path) (readDocument loader path) before := by
  unfold readDocument
  apply Agree.modify_bind
  cases loader.read path with
  | error source => exact .throw (by simp) _
  | ok text =>
      dsimp only
      cases Json.parse text with
      | error source => exact .throw (by simp) _
      | ok document => exact .pure document _

section Builders

variable {context : Context} {left right : Resolver} {fragment : Json} {before : Progress}
  (lawful : Lawful context left) (onward : AgreeOnward context left right fragment before)

include onward

/-- Arrays agree, since their elements lie below them. -/
theorem buildArray_agree (within : before.Scoped) :
    Agree (buildArray left (fragment.get? "items")) (buildArray right (fragment.get? "items"))
      before := by
  unfold buildArray
  cases found : fragment.get? "items" with
  | none =>
      refine Agree.bind ?_ fun element middle _ => .allocate _ middle
      exact .allocate .any before
  | some items =>
      refine Agree.bind ?_ fun element middle _ => .allocate _ middle
      exact onward.part items none before (Json.get?_below found) (.refl within)

/-- A pointer agrees, since its target does unless it is being resolved already. -/
theorem followPointer_agree {reference pointer : String} (mentioned : reference ∈ fragment.texts)
    (points : Target.ofReference reference = .pointer pointer) :
    Agree (followPointer context.settings left pointer)
      (followPointer context.settings right pointer) before := by
  have resolved : Agree (resolvePointer context.settings left pointer)
      (resolvePointer context.settings right pointer) before := by
    unfold resolvePointer
    apply Agree.get_bind
    dsimp only
    cases before.declarations.get? (before.frame.pointerKey pointer) with
    | some node => exact .pure node before
    | none =>
        dsimp only
        split
        · exact .forwardReference _ _ before
        · next fresh =>
          cases found : Pointer.lookup? before.frame.document (Pointer.segments pointer) with
          | none => exact .allocate .any before
          | some target =>
              refine Agree.bind (.between ?_) fun node middle _ => (Agree.pure node _).modify_bind
              exact onward.pointer reference pointer target mentioned points fresh found
  exact resolved.noting.get_bind

/-- A reference to a file agrees, since its document does unless it is being resolved already. -/
theorem followFile_agree (reference : String) (property : Option String) :
    Agree (followFile context left reference property)
      (followFile context right reference property) before := by
  unfold followFile
  split
  · exact Agree.bind (.throw (by simp) before) fun _ _ failed => by simp at failed
  · have resolved (path : Path) (normal : path.normalize = path) :
        Agree (resolvePath context left path property) (resolvePath context right path property)
          before := by
      unfold resolvePath
      apply Agree.get_bind
      split
      · exact .pure _ before
      · split
        · exact .forwardReference _ _ before
        · next unopened =>
          have fresh : ∀ frame ∈ before.frames, frame.key ≠ some path.text := by
            intro frame opened
            simpa using List.find?_eq_none.mp unopened frame (List.mem_reverse.mpr opened)
          refine (readDocument_agree context.loader path before).bind ?_
          intro document middle read
          obtain ⟨text, served, parsed, rfl⟩ := readDocument_eq_ok.mp read
          refine Agree.bind (.between ?_) fun node last _ => ?_
          · exact onward.file path text document property normal fresh served parsed
          · refine ⟨rfl, ?_⟩
            intro after exhausted
            unfold finishFile at exhausted
            split at exhausted <;> cases exhausted
    exact (resolved _ (Path.normalize_normalize
      (before.frame.directory.join (Path.ofString reference)))).noting.get_bind

theorem buildReference_agree (property : Option String) :
    Agree (buildReference context left fragment property)
      (buildReference context right fragment property) before := by
  unfold buildReference
  split
  · next reference field =>
    unfold follow
    split
    · exact (Agree.forwardReference _ _ before).get_bind
    · next pointer points =>
      exact followPointer_agree onward (Json.textField?_mem_texts field) points
    · exact followFile_agree onward _ property
  · exact .allocate .any before

include lawful

theorem resolveMembers_agree (keyword : String) {state : Progress} (alike : Alike before state) :
    Agree (resolveMembers left fragment keyword) (resolveMembers right fragment keyword) state := by
  unfold resolveMembers
  refine .each context id (fun member => lawful.yields member none) ?_ alike
  intro member inside state alike
  cases found : fragment.itemsField? keyword with
  | none => simp [found] at inside
  | some items =>
      rw [found] at inside
      exact onward.part member none state (Json.itemsField?_below found inside) alike

theorem buildTypeUnion_agree (within : before.Scoped) :
    let types := ((Rule.schemaType? fragment).bind Json.items?).getD []
    Agree (buildTypeUnion left types) (buildTypeUnion right types) before := by
  intro types
  unfold buildTypeUnion
  refine Agree.bind ?_ fun members middle _ => .allocate _ middle
  refine .each context id (fun type => lawful.yields _ none) ?_ (.refl within)
  intro type inside state alike
  cases several : (Rule.schemaType? fragment).bind Json.items? with
  | none => simp [types, several] at inside
  | some items =>
      simp only [types, several, Option.getD_some] at inside
      exact onward.part _ none state (Rule.typeFragment_below several inside) alike

theorem resolveProperties_agree (required : List String) {state : Progress}
    (alike : Alike before state) :
    let fields := (fragment.fieldsField? "properties").getD []
    Agree (resolveProperties left required fields) (resolveProperties right required fields)
      state := by
  intro fields
  unfold resolveProperties
  refine .each context Property.type ?_ ?_ alike
  · rintro ⟨name, part⟩ state property after within built
    simp only [bind_eq_ok, pure_apply, EStateM.Result.ok.injEq] at built
    obtain ⟨type, last, resolved, rfl, rfl⟩ := built
    exact lawful.yields part (some name) _ _ _ within resolved
  · rintro ⟨name, part⟩ inside state alike
    cases found : fragment.fieldsField? "properties" with
    | none => simp [fields, found] at inside
    | some content =>
        simp only [fields, found, Option.getD_some] at inside
        refine Agree.bind ?_ fun type middle _ => .pure _ middle
        exact onward.part part (some name) state (Json.fieldsField?_below found inside) alike

theorem buildInterface_agree (within : before.Scoped) :
    Agree (buildInterface left fragment) (buildInterface right fragment) before := by
  unfold buildInterface
  refine (resolveProperties_agree lawful onward _ (.refl within)).bind ?_
  intro properties middle resolved
  have passage := (resolveProperties_passage lawful within resolved).1
  have indexed {act other : Build NodeId} (agree : Agree act other middle) :
      Agree (do
          let type ← act
          allocate (.interface (properties ++ [(⟨indexSignature, true, type⟩ : Property)])))
        (do
          let type ← other
          allocate (.interface (properties ++ [(⟨indexSignature, true, type⟩ : Property)])))
        middle :=
    agree.bind fun type last _ => .allocate _ last
  cases additional : fragment.get? "additionalProperties" with
  | none =>
      dsimp only
      split
      · split
        · exact .allocate _ middle
        · exact .allocate _ middle
      · exact indexed (.allocate .any middle)
  | some value =>
      cases value with
      | object fields =>
          exact indexed (onward.part _ none middle (Json.get?_below additional)
            ((Alike.refl within).onward passage))
      | bool allowed =>
          cases allowed with
          | true =>
              dsimp only
              split
              · exact .allocate _ middle
              · exact indexed (.allocate .any middle)
          | false => exact .allocate _ middle
      | _ => exact .allocate _ middle

/-- Nodes agree whatever rule builds them. -/
theorem buildNode_agree (property : Option String) (within : before.Scoped) :
    Agree (buildNode context left fragment property) (buildNode context right fragment property)
      before := by
  have members (keyword : String) {make : List NodeId → Shape} :
      Agree (resolveMembers left fragment keyword >>= fun nodes => allocate (make nodes))
        (resolveMembers right fragment keyword >>= fun nodes => allocate (make nodes)) before :=
    (resolveMembers_agree lawful onward keyword (.refl within)).bind fun _ middle _ =>
      .allocate _ middle
  unfold buildNode
  cases Rule.classify fragment with
  | typedArray => exact buildArray_agree onward within
  | namedEnum => exact buildNamedEnum_agree fragment property before
  | enum => exact buildEnum_agree context fragment within
  | namedSchema => exact buildInterface_agree lawful onward within
  | anonymousSchema => exact buildInterface_agree lawful onward within
  | allOf => exact members "allOf"
  | anyOf => exact members "anyOf"
  | reference => exact buildReference_agree onward property
  | array =>
      exact Agree.bind (.allocate .any before) fun element middle _ => .allocate _ middle
  | union => exact buildTypeUnion_agree lawful onward within
  | _ => exact .allocate _ before

/-- Where two resolvers agree on all that a fragment leads to, they agree on the fragment. -/
theorem resolveBy_agree (site : Site) (within : before.Scoped) :
    Agree (resolveBy context left fragment site) (resolveBy context right fragment site)
      before := by
  have built := buildNode_agree lawful onward site.property within
  unfold resolveBy
  exact (built.bind fun node middle _ =>
    (Agree.pure node _).modify_bind.modify_bind).noting.get_bind

end Builders

end SchemaTypes.Build
