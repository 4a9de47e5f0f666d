/-
This file shows that every kind of fragment but a reference is resolved by a run of transitions.
-/
import SchemaTypes.Proofs.Build.Lawful

namespace SchemaTypes.Build

variable {context : Context} {resolve : Resolver}

/-- An interface takes its properties and at most one more, which stands for all other names. -/
theorem interface_passage {before middle after : Progress} {node : NodeId}
    {properties : List Property} {indexed : Build NodeId} (within : before.Scoped)
    (passage : Passage context before middle)
    (known : ∀ property ∈ properties, property.type < middle.model.size)
    (yields : Yields context indexed)
    (built : (do
      let type ← indexed
      allocate (.interface (properties ++ [(⟨indexSignature, true, type⟩ : Property)]))) middle =
        .ok node after) :
    Passage context before after ∧ node < after.model.size := by
  rw [bind_eq_ok] at built
  obtain ⟨type, last, typeBuilt, allocated⟩ := built
  obtain ⟨onward, typeKnown⟩ := yields _ _ _ (passage.within within) typeBuilt
  refine allocate_passage (passage.trans onward) allocated rfl (by simp) ?_
  intro child isChild
  simp only [Shape.children, List.map_append, List.map_cons, List.map_nil, List.mem_append,
    List.mem_map, List.mem_singleton] at isChild
  rcases isChild with ⟨property, member, rfl⟩ | rfl
  · exact Nat.lt_of_lt_of_le (known property member) onward.run.size_le
  · exact typeKnown

/-- An enum only adds nodes, first its values and then their union. -/
theorem buildEnum_yields (context : Context) (fragment : Json) :
    Yields context (buildEnum fragment) := by
  intro before node after within built
  cases values : fragment.itemsField? "enum" with
  | none => simp [buildEnum, values] at built
  | some values =>
      simp only [buildEnum, values, bind_eq_ok] at built
      obtain ⟨members, middle, allocatedMembers, allocated⟩ := built
      obtain ⟨passage, known⟩ :=
        each_yields (fun value => allocate_yields context (.literal value) rfl (by simp) rfl)
          within allocatedMembers
      exact allocate_passage passage allocated rfl (by simp) known

/-- A named enum is one node that is stored under its name. -/
theorem buildNamedEnum_yields (context : Context) (fragment : Json) (property : Option String) :
    Yields context (buildNamedEnum fragment property) := by
  intro before node after within built
  cases values : fragment.itemsField? "enum" with
  | none => simp [buildNamedEnum, values] at built
  | some enumValues =>
      cases names : fragment.itemsField? "tsEnumNames" with
      | none => simp [buildNamedEnum, values, names] at built
      | some enumNames =>
          simp only [buildNamedEnum, values, names] at built
          split at built
          · simp [bind_eq_ok] at built
          · cases found : enumMembers? enumNames enumValues with
            | none => simp [found] at built
            | some members =>
                simp only [found, get_bind, bind_eq_ok, allocate_apply, modify_bind, pure_apply,
                  EStateM.Result.ok.injEq] at built
                obtain ⟨made, middle, ⟨rfl, rfl⟩, rfl, rfl⟩ := built
                exact ⟨(Passage.refl before).step (.enumStored before members _) rfl rfl rfl rfl,
                  by simp [Progress.putEnum, Progress.add]⟩

section Builders

variable (lawful : Lawful context resolve)

include lawful

/-- Resolving the members under a keyword comes back with nodes of the model. -/
theorem resolveMembers_passage {fragment : Json} {keyword : String} {before after : Progress}
    {nodes : List NodeId} (within : before.Scoped)
    (resolved : resolveMembers resolve fragment keyword before = .ok nodes after) :
    Passage context before after ∧ ∀ node ∈ nodes, node < after.model.size :=
  each_yields (fun member => lawful.yields member none) within resolved

/-- An array comes back whether its items are resolved or are of any type. -/
theorem buildArray_yields (items : Option Json) : Yields context (buildArray resolve items) := by
  intro before node after within built
  cases items with
  | some items =>
      simp only [buildArray, bind_eq_ok] at built
      obtain ⟨element, middle, resolved, allocated⟩ := built
      obtain ⟨passage, known⟩ := lawful.yields items none _ _ _ within resolved
      exact allocate_passage passage allocated rfl (by simp) (by simpa [Shape.children] using known)
  | none =>
      simp only [buildArray, bind_eq_ok] at built
      obtain ⟨element, middle, allocatedAny, allocated⟩ := built
      obtain ⟨passage, known⟩ :=
        allocate_yields context .any rfl (by simp) rfl _ _ _ within allocatedAny
      exact allocate_passage passage allocated rfl (by simp) (by simpa [Shape.children] using known)

/-- A list of types comes back after each of them was resolved alone. -/
theorem buildTypeUnion_yields (types : List Json) :
    Yields context (buildTypeUnion resolve types) := by
  intro before node after within built
  simp only [buildTypeUnion, bind_eq_ok] at built
  obtain ⟨members, middle, resolved, allocated⟩ := built
  obtain ⟨passage, known⟩ := each_yields (fun type => lawful.yields _ none) within resolved
  exact allocate_passage passage allocated rfl (by simp) known

/-- Resolving the properties of an object comes back with nodes of the model. -/
theorem resolveProperties_passage {required : List String} {fields : List (String × Json)}
    {before after : Progress} {properties : List Property} (within : before.Scoped)
    (resolved : resolveProperties resolve required fields before = .ok properties after) :
    Passage context before after ∧ ∀ property ∈ properties, property.type < after.model.size := by
  refine each_passage Property.type ?_ fields before properties after within resolved
  rintro ⟨name, fragment⟩ before property after within built
  simp only [bind_eq_ok, pure_apply, EStateM.Result.ok.injEq] at built
  obtain ⟨type, last, resolved, rfl, rfl⟩ := built
  exact lawful.yields fragment (some name) _ _ _ within resolved

/-- An interface comes back after its properties and the type of all others. -/
theorem buildInterface_yields (fragment : Json) :
    Yields context (buildInterface resolve fragment) := by
  intro before node after within built
  simp only [buildInterface, bind_eq_ok] at built
  obtain ⟨properties, middle, resolved, built⟩ := built
  obtain ⟨passage, known⟩ := resolveProperties_passage lawful within resolved
  have anyYields := allocate_yields context .any rfl (by simp) rfl
  have nullYields := allocate_yields context (.primitive .null) rfl (by simp) rfl
  have leaf : ∀ {act : Build NodeId}, Yields context act → act middle = .ok node after →
      Passage context before after ∧ node < after.model.size := by
    intro act yields done
    obtain ⟨onward, nodeKnown⟩ := yields _ _ _ (passage.within within) done
    exact ⟨passage.trans onward, nodeKnown⟩
  cases additional : fragment.get? "additionalProperties" with
  | none =>
      simp only [additional] at built
      split at built
      · split at built
        · exact leaf nullYields built
        · exact leaf anyYields built
      · exact interface_passage within passage known anyYields built
  | some value =>
      have closed : allocate (.interface properties) middle = .ok node after →
          Passage context before after ∧ node < after.model.size :=
        fun allocated =>
          allocate_passage passage allocated rfl (by simp) (by simpa [Shape.children] using known)
      cases value with
      | object additionalFields =>
          simp only [additional] at built
          exact interface_passage within passage known (lawful.yields _ none) built
      | bool allowed =>
          cases allowed with
          | true =>
              simp only [additional] at built
              split at built
              · exact leaf anyYields built
              · exact interface_passage within passage known anyYields built
          | false =>
              simp only [additional] at built
              exact closed built
      | _ =>
          simp only [additional] at built
          exact closed built

end Builders

end SchemaTypes.Build
