/-
This file compares the steps of two compilations that face each other. Main statement: fragments in
which one description differs are built in the same way if this is so for their parts and for their
references.
-/
import SchemaTypes.Proofs.Build.Documents
import SchemaTypes.Proofs.Remarks.Facing
import SchemaTypes.Proofs.Meaning.Survey

namespace SchemaTypes.Build

open Json

variable {α β γ : Type}

/-- Where a step succeeds, another one succeeds as well and with the same value. -/
def Mirrors (good : Progress → Progress → Prop) (left right : Build α) (first second : Progress) :
    Prop :=
  ∀ value after, left first = .ok value after →
    ∃ last, right second = .ok value last ∧ good after last

namespace Mirrors

variable {good mid : Progress → Progress → Prop} {left right : Build α} {first second : Progress}

theorem pure (level : good first second) (value : α) :
    Mirrors good (Pure.pure value) (Pure.pure value) first second := by
  rintro _ _ ⟨⟩
  exact ⟨second, rfl, level⟩

/-- Nothing is said of steps that fail. -/
theorem throw (error : CompileError) (right : Build α) :
    Mirrors good (MonadExcept.throw error) right first second := by
  rintro _ _ ⟨⟩

/-- Mirrored steps can be taken one after another. -/
theorem bind {next other : α → Build β} (begun : Mirrors mid left right first second)
    (onward : ∀ value middle last, left first = .ok value middle → mid middle last →
      Mirrors good (next value) (other value) middle last) :
    Mirrors good (left >>= next) (right >>= other) first second := by
  intro value after done
  obtain ⟨first, middle, begins, ends⟩ := bind_eq_ok.mp done
  obtain ⟨last, begins', level⟩ := begun first middle begins
  obtain ⟨final, ends', level'⟩ := onward first middle last begins level value after ends
  exact ⟨final, bind_eq_ok.mpr ⟨first, last, begins', ends'⟩, level'⟩

theorem get_bind {next other : Progress → Build β}
    (onward : Mirrors good (next first) (other second) first second) :
    Mirrors good (get >>= next) (get >>= other) first second := onward

theorem modify_bind {change change' : Progress → Progress} {next other : PUnit → Build β}
    (onward : Mirrors good (next ⟨⟩) (other ⟨⟩) (change first) (change' second)) :
    Mirrors good (modify change >>= next) (modify change' >>= other) first second := onward

/-- Mirrored steps are mirrored with what is noted behind them. -/
theorem noting {event event' : Option NodeId → Event} {left right : Build NodeId}
    (mirrors : Mirrors mid left right first second)
    (onward : ∀ node after last, mid after last →
      good (after.note (event (some node))) (last.note (event' (some node)))) :
    Mirrors good (Build.noting event left) (Build.noting event' right) first second := by
  intro node after done
  obtain ⟨middle, made, rfl⟩ := noting_eq_ok.mp done
  obtain ⟨last, made', level⟩ := mirrors node middle made
  exact ⟨_, noting_eq_ok.mpr ⟨last, made', rfl⟩, onward node middle last level⟩

theorem between {enter enter' leave leave' : Progress → Progress}
    (mirrors : Mirrors mid left right (enter first) (enter' second))
    (onward : ∀ after last, mid after last → good (leave after) (leave' last)) :
    Mirrors good (Build.between enter leave left) (Build.between enter' leave' right)
      first second := by
  intro value after done
  obtain ⟨middle, made, rfl⟩ := between_eq_ok.mp done
  obtain ⟨last, made', level⟩ := mirrors value middle made
  exact ⟨_, between_eq_ok.mpr ⟨last, made', rfl⟩, onward middle last level⟩

/-- Members that stand at the same places of two lists are compared. -/
theorem each {act : α → Build γ} {act' : β → Build γ} {members : List α} {members' : List β}
    (paired : List.Forall₂ (fun member member' => ∀ first second, good first second →
      Mirrors good (act member) (act' member') first second) members members') :
    ∀ {first second : Progress}, good first second →
      Mirrors good (Build.each act members) (Build.each act' members') first second := by
  induction paired with
  | nil => exact fun level => .pure level []
  | cons here _ inductionHypothesis =>
      intro first second level
      refine (here first second level).bind fun value middle last _ level => ?_
      exact (inductionHypothesis level).bind fun values _ _ _ level => .pure level _

end Mirrors

section Builders

variable {old new : Json} {frames frames' : List Frame} {fragment fragment' : Json}
  {left right : Resolver} {first second : Progress}

theorem allocate_mirrors (facing : Facing old new frames frames' first second) (shape : Shape) :
    Mirrors (Facing old new frames frames') (allocate shape) (allocate shape) first second := by
  rintro _ _ ⟨⟩
  refine ⟨second.add shape, ?_, facing.add shape⟩
  rw [allocate_apply, facing.size]

theorem forwardReference_mirrors (facing : Facing old new frames frames' first second)
    (key name : String) :
    Mirrors (Facing old new frames frames') (forwardReference key name) (forwardReference key name)
      first second := by
  rintro _ _ ⟨⟩
  refine ⟨second.refer key name, ?_, facing.refer key name⟩
  rw [forwardReference_apply, facing.size]

/-- An enum is built of its members only. -/
theorem buildEnum_mirrors (facing : Facing old new frames frames' first second)
    (same : fragment'.get? "enum" = fragment.get? "enum") :
    Mirrors (Facing old new frames frames') (buildEnum fragment) (buildEnum fragment')
      first second := by
  have values : fragment'.itemsField? "enum" = fragment.itemsField? "enum" := by
    rw [itemsField?, itemsField?, same]
  unfold buildEnum
  rw [values]
  cases fragment.itemsField? "enum" with
  | none => exact .throw _ _
  | some values =>
      have literals : Mirrors (Facing old new frames frames')
          (each (fun value => allocate (.literal value)) values)
          (each (fun value => allocate (.literal value)) values) first second :=
        .each (List.forall₂_same.mpr fun value _ _ _ facing => allocate_mirrors facing _) facing
      exact literals.bind fun _ _ _ _ facing => allocate_mirrors facing _

/-- A named enum has the same name and members with another description. -/
theorem buildNamedEnum_mirrors (redescribed : Redescribed old new)
    (replaced : Replaced old new fragment fragment')
    (facing : Facing old new frames frames' first second)
    (same : fragment'.get? "enum" = fragment.get? "enum") (property : Option String) :
    Mirrors (Facing old new frames frames') (buildNamedEnum fragment property)
      (buildNamedEnum fragment' property) first second := by
  have values : fragment'.itemsField? "enum" = fragment.itemsField? "enum" := by
    rw [itemsField?, itemsField?, same]
  have names := replaced.itemsField? redescribed (show "tsEnumNames" ≠ "description" by decide)
  unfold buildNamedEnum
  rw [values, replaced.enumName? redescribed]
  generalize fragment.itemsField? "tsEnumNames" = names, fragment'.itemsField? "tsEnumNames" =
    names' at names ⊢
  cases fragment.itemsField? "enum" with
  | none => exact .throw _ _
  | some values =>
      cases names with
      | none => exact .throw _ _
      | @some names names' related =>
          dsimp only
          rw [← related.length_eq, Replaced.enumMembers?_eq redescribed related]
          by_cases length : names.length = values.length
          · simp only [length, ne_eq, not_true_eq_false, ↓reduceIte]
            cases enumMembers? names values with
            | none => exact .throw _ _
            | some members =>
                refine .get_bind ?_
                rw [facing.declarations]
                refine (allocate_mirrors facing _).bind fun _ _ _ _ facing => ?_
                exact .modify_bind (.pure (facing.putEnum _ _ _) _)
          · simp only [length, ne_eq, not_false_eq_true, ↓reduceIte]
            rintro _ _ ⟨⟩

section Parts

variable (redescribed : Redescribed old new) (replaced : Replaced old new fragment fragment')
  (facing : Facing old new frames frames' first second)
  (parts : ∀ {outline outline' : Outline} {part part' : Json}, fragment.outline? = some outline →
    fragment'.outline? = some outline' →
    (.fragment part, .fragment part') ∈ outline.parts.zip outline'.parts →
    Replaced old new part part' → ∀ property first second,
    Facing old new frames frames' first second →
    Mirrors (Facing old new frames frames') (left part ⟨property, false⟩)
      (right part' ⟨property, false⟩) first second)

include facing parts

theorem members_mirror {values values' : List Json} {head head' : Head}
    (outlined : fragment.outline? = some ⟨head, values.map .fragment⟩)
    (outlined' : fragment'.outline? = some ⟨head', values'.map .fragment⟩)
    (related : List.Forall₂ (Replaced old new) values values') (make : List NodeId → Shape) :
    Mirrors (Facing old new frames frames')
      (do
        let nodes ← each (left · .inner) values
        allocate (make nodes))
      (do
        let nodes ← each (right · .inner) values'
        allocate (make nodes)) first second := by
  obtain ⟨length, within⟩ := List.forall₂_iff_zip.mp related
  have paired : List.Forall₂ (fun value value' => ∀ first second,
      Facing old new frames frames' first second → Mirrors (Facing old new frames frames')
        (left value .inner) (right value' .inner) first second) values values' :=
    List.forall₂_iff_zip.mpr ⟨length, fun inside =>
      parts outlined outlined' (zip_fragments inside) (within inside) none⟩
  exact (Mirrors.each paired facing).bind fun _ _ _ _ facing => allocate_mirrors facing _

theorem buildArray_mirrors {items items' : Option Json}
    (related : Option.Rel (Replaced old new) items items')
    (outlined : fragment.outline? = some ⟨.array, [items.elim (.leaf .any) .fragment]⟩)
    (outlined' : fragment'.outline? = some ⟨.array, [items'.elim (.leaf .any) .fragment]⟩) :
    Mirrors (Facing old new frames frames') (buildArray left items) (buildArray right items')
      first second := by
  unfold buildArray
  cases related with
  | none =>
      exact (allocate_mirrors facing _).bind fun _ _ _ _ facing => allocate_mirrors facing _
  | some within =>
      have element := parts outlined outlined' List.mem_cons_self within none first second facing
      exact element.bind fun _ _ _ _ facing => allocate_mirrors facing _

theorem resolveProperties_mirror
    (related : List.Forall₂ (FieldReplaced old new) ((fragment.fieldsField? "properties").getD [])
      ((fragment'.fieldsField? "properties").getD []))
    (outlined : fragment.outline? = some fragment.interfaceOutline)
    (outlined' : fragment'.outline? = some fragment'.interfaceOutline) (required : List String) :
    Mirrors (Facing old new frames frames')
      (resolveProperties left required ((fragment.fieldsField? "properties").getD []))
      (resolveProperties right required ((fragment'.fieldsField? "properties").getD []))
      first second := by
  obtain ⟨length, within⟩ := List.forall₂_iff_zip.mp related
  obtain ⟨rest, listed, -⟩ := interfaceOutline_parts fragment
  obtain ⟨rest', listed', -⟩ := interfaceOutline_parts fragment'
  refine Mirrors.each (List.forall₂_iff_zip.mpr ⟨length, ?_⟩) facing
  intro field field' inside first second facing
  have entry : (Part.fragment field.2, Part.fragment field'.2) ∈
      fragment.interfaceOutline.parts.zip fragment'.interfaceOutline.parts := by
    rw [listed, listed', List.zip_append (by simp [length]), List.zip_map]
    exact List.mem_append_left _ (List.mem_map.mpr ⟨_, inside, rfl⟩)
  have name := (within inside).name
  have type := parts outlined outlined' entry (within inside).value (some field.1) _ _ facing
  dsimp only
  rw [name]
  exact type.bind fun _ _ _ _ facing => .pure facing _

include redescribed replaced

theorem buildInterface_mirrors
    (apart : ¬(fragment.get? "properties" = some old ∧ fragment'.get? "properties" = some new))
    (outlined : fragment.outline? = some fragment.interfaceOutline)
    (outlined' : fragment'.outline? = some fragment'.interfaceOutline) :
    Mirrors (Facing old new frames frames') (buildInterface left fragment)
      (buildInterface right fragment') first second := by
  have related := replaced.properties redescribed apart
  have additional := replaced.get? redescribed
    (show "additionalProperties" ≠ "description" by decide)
  have default : (fragment'.get? "default").isSome = (fragment.get? "default").isSome := by
    have found := replaced.get? redescribed (show "default" ≠ "description" by decide)
    generalize fragment.get? "default" = one, fragment'.get? "default" = other at found ⊢
    cases found <;> rfl
  unfold buildInterface
  dsimp only
  rw [replaced.requiredNames redescribed, default]
  have listed := resolveProperties_mirror facing parts related outlined outlined'
    (requiredNames fragment)
  refine listed.bind fun properties middle last _ facing => ?_
  have indexed {act act' : Build NodeId}
      (mirrors : Mirrors (Facing old new frames frames') act act' middle last) :
      Mirrors (Facing old new frames frames')
        (do
          let type ← act
          allocate (.interface (properties ++ [(⟨indexSignature, true, type⟩ : Property)])))
        (do
          let type ← act'
          allocate (.interface (properties ++ [(⟨indexSignature, true, type⟩ : Property)])))
        middle last :=
    mirrors.bind fun _ _ _ _ facing => allocate_mirrors facing _
  have closed := allocate_mirrors facing (.interface properties)
  have any := indexed (allocate_mirrors facing .any)
  generalize given : fragment.get? "additionalProperties" = one,
    given' : fragment'.get? "additionalProperties" = other at additional ⊢
  cases additional with
  | none =>
      dsimp only
      split
      · split
        · exact allocate_mirrors facing _
        · exact allocate_mirrors facing _
      · exact any
  | @some value value' within =>
      cases value with
      | object fields =>
          obtain ⟨others, rfl⟩ := within.isObject redescribed rfl
          obtain ⟨rest, parted, last⟩ := interfaceOutline_parts fragment
          obtain ⟨rest', parted', last'⟩ := interfaceOutline_parts fragment'
          refine indexed (parts outlined outlined' ?_ within none _ _ facing)
          rw [parted, parted', last _ given, last' _ given', List.zip_append (by
            simp [related.length_eq])]
          exact List.mem_append_right _ List.mem_cons_self
      | bool allowed =>
          cases within with
          | here => cases redescribed
          | same =>
              cases allowed with
              | false => exact closed
              | true =>
                  dsimp only
                  split
                  · exact allocate_mirrors facing _
                  · exact any
      | array items =>
          cases within with
          | here => cases redescribed
          | same => exact closed
          | item => exact closed
      | _ =>
          cases within with
          | here => cases redescribed
          | same => exact closed

theorem buildTypeUnion_mirrors (union : Rule.classify fragment = .union)
    (union' : Rule.classify fragment' = .union) :
    Mirrors (Facing old new frames frames')
      (buildTypeUnion left (((Rule.schemaType? fragment).bind items?).getD []))
      (buildTypeUnion right (((Rule.schemaType? fragment').bind items?).getD [])) first second := by
  have types := forall₂_getD (rel_bind (replaced.schemaType? redescribed) fun _ _ within =>
    within.items? redescribed)
  have fragments : List.Forall₂ (Replaced old new)
      ((((Rule.schemaType? fragment).bind items?).getD []).map fun type =>
        .object [("type", type)])
      ((((Rule.schemaType? fragment').bind items?).getD []).map fun type =>
        .object [("type", type)]) := by
    rw [List.forall₂_map_left_iff, List.forall₂_map_right_iff]
    exact types.imp fun _ _ within => @Replaced.field _ _ [] [] _ _ _ within
  have outlined (part : Json) (rule : Rule.classify part = .union) :
      part.outline? = some ⟨.union, ((((Rule.schemaType? part).bind items?).getD []).map
        fun type => .object [("type", type)]).map .fragment⟩ := by
    simp [outline?, rule]
  simp only [buildTypeUnion]
  rw [← each_map (left · .inner) fun type => .object [("type", type)],
    ← each_map (right · .inner) fun type => .object [("type", type)]]
  exact members_mirror facing parts (outlined _ union) (outlined _ union') fragments _

/-- Fragments that stand for the same are built in the same way if this is so for their parts. -/
theorem buildNode_mirrors {settings : Settings} {loader loader' : Loader}
    (literal : Rule.classify fragment = .literal → fragment' = fragment)
    (enum : Rule.classify fragment = .enum ∨ Rule.classify fragment = .namedEnum →
      fragment'.get? "enum" = fragment.get? "enum")
    (properties : Rule.classify fragment = .namedSchema ∨
      Rule.classify fragment = .anonymousSchema →
      ¬(fragment.get? "properties" = some old ∧ fragment'.get? "properties" = some new))
    (property : Option String)
    (reference : Rule.classify fragment = .reference → Mirrors (Facing old new frames frames')
      (buildReference ⟨settings, loader⟩ left fragment property)
      (buildReference ⟨settings, loader'⟩ right fragment' property) first second) :
    Mirrors (Facing old new frames frames') (buildNode ⟨settings, loader⟩ left fragment property)
      (buildNode ⟨settings, loader'⟩ right fragment' property) first second := by
  have kind := replaced.classify_eq redescribed
  unfold buildNode
  rw [kind]
  cases rule : Rule.classify fragment with
  | typedArray =>
      exact buildArray_mirrors facing parts
        (replaced.get? redescribed (show "items" ≠ "description" by decide))
        (by simp [outline?, rule]) (by simp [outline?, kind, rule])
  | namedEnum =>
      exact buildNamedEnum_mirrors redescribed replaced facing (enum (.inr rule)) property
  | enum => exact buildEnum_mirrors facing (enum (.inl rule))
  | namedSchema =>
      exact buildInterface_mirrors redescribed replaced facing parts (properties (.inl rule))
        (by simp [outline?, rule]) (by simp [outline?, kind, rule])
  | anonymousSchema =>
      exact buildInterface_mirrors redescribed replaced facing parts (properties (.inr rule))
        (by simp [outline?, rule]) (by simp [outline?, kind, rule])
  | allOf =>
      have outlined : fragment.outline? = some ⟨.intersection, fragment.memberParts "allOf"⟩ := by
        simp [outline?, rule]
      have outlined' : fragment'.outline? =
          some ⟨.intersection, fragment'.memberParts "allOf"⟩ := by
        simp [outline?, kind, rule]
      exact members_mirror facing parts outlined outlined'
        (forall₂_getD (replaced.itemsField? redescribed (by decide))) _
  | anyOf =>
      have outlined : fragment.outline? = some ⟨.union, fragment.memberParts "anyOf"⟩ := by
        simp [outline?, rule]
      have outlined' : fragment'.outline? = some ⟨.union, fragment'.memberParts "anyOf"⟩ := by
        simp [outline?, kind, rule]
      exact members_mirror facing parts outlined outlined'
        (forall₂_getD (replaced.itemsField? redescribed (by decide))) _
  | reference => exact reference rule
  | array =>
      exact buildArray_mirrors facing parts .none (by simp [outline?, rule])
        (by simp [outline?, kind, rule])
  | union =>
      exact buildTypeUnion_mirrors redescribed replaced facing parts rule (kind.trans rule)
  | literal =>
      rw [literal rule]
      exact allocate_mirrors facing _
  | _ => exact allocate_mirrors facing _

end Parts
end Builders

end SchemaTypes.Build
