/-
This file compares JSON values that differ in the description of one object inside of them. Main
statement: such values are classified alike, and what a pointer leads to differs at most in that
object again unless the pointer leads to the description.
-/
import Mathlib.Data.List.Forall2
import SchemaTypes.Proofs.Meaning.Outline

namespace SchemaTypes

open Build

namespace Json

/-- An object with another description, or with one more or one less; the other fields are the
same. -/
inductive Redescribed : Json → Json → Prop where
  | intro {fields others : List (String × Json)}
      (same : others.filter (·.1 ≠ "description") = fields.filter (·.1 ≠ "description")) :
      Redescribed (.object fields) (.object others)

/-- A value in which another one is replaced at one place, or at none. -/
inductive Replaced (old new : Json) : Json → Json → Prop where
  | same (value : Json) : Replaced old new value value
  | here : Replaced old new old new
  | item {before after : List Json} {value other : Json} (within : Replaced old new value other) :
      Replaced old new (.array (before ++ value :: after)) (.array (before ++ other :: after))
  | field {before after : List (String × Json)} {key : String} {value other : Json}
      (within : Replaced old new value other) :
      Replaced old new (.object (before ++ (key, value) :: after))
        (.object (before ++ (key, other) :: after))

/-- Two fields of one name. -/
structure FieldReplaced (old new : Json) (entry other : String × Json) : Prop where
  name : other.1 = entry.1
  value : Replaced old new entry.2 other.2

variable {old new value other : Json} {key : String}

instance : Std.Refl (Replaced old new) := ⟨.same⟩

instance : Std.Refl (FieldReplaced old new) := ⟨fun entry => ⟨rfl, .same entry.2⟩⟩

instance {α : Type} {relation : α → α → Prop} [Std.Refl relation] :
    Std.Refl (List.Forall₂ relation) := ⟨List.forall₂_refl⟩

theorem lookup_filter {fields : List (String × Json)} (plain : key ≠ "description") :
    (fields.filter (·.1 ≠ "description")).lookup key = fields.lookup key := by
  induction fields with
  | nil => rfl
  | cons entry rest inductionHypothesis =>
      obtain ⟨name, value⟩ := entry
      by_cases described : name = "description"
      · have apart : (key == name) = false := by simpa [described] using plain
        rw [List.filter_cons_of_neg (by simpa using described), inductionHypothesis,
          List.lookup_cons, apart]
      · rw [List.filter_cons_of_pos (by simpa using described), List.lookup_cons,
          List.lookup_cons, inductionHypothesis]

/-- Another description changes no other field. -/
theorem Redescribed.get?_eq (redescribed : Redescribed old new) (plain : key ≠ "description") :
    new.get? key = old.get? key := by
  obtain ⟨same⟩ := redescribed
  change List.lookup key _ = List.lookup key _
  rw [← lookup_filter plain, same, lookup_filter plain]

theorem forall₂_between {α : Type} {relation : α → α → Prop} [Std.Refl relation] {left right : α}
    (related : relation left right) (before after : List α) :
    List.Forall₂ relation (before ++ left :: after) (before ++ right :: after) :=
  List.rel_append (List.forall₂_refl before) (.cons related (List.forall₂_refl after))

/-- Fields of the same names are looked up alike. -/
theorem rel_lookup {fields others : List (String × Json)}
    (replaced : List.Forall₂ (FieldReplaced old new) fields others) (key : String) :
    Option.Rel (Replaced old new) (fields.lookup key) (others.lookup key) := by
  induction replaced with
  | nil => exact .none
  | @cons entry other _ _ first _ inductionHypothesis =>
      obtain ⟨name, value⟩ := entry
      obtain ⟨_, changed⟩ := other
      obtain ⟨rfl, within⟩ := first
      rw [List.lookup_cons, List.lookup_cons]
      dsimp only
      split
      · exact .some within
      · exact inductionHypothesis

theorem rel_getElem? {items others : List Json}
    (replaced : List.Forall₂ (Replaced old new) items others) (index : Nat) :
    Option.Rel (Replaced old new) items[index]? others[index]? := by
  induction replaced generalizing index with
  | nil => exact .none
  | cons first _ inductionHypothesis =>
      cases index with
      | zero => exact .some first
      | succ index => exact inductionHypothesis index

theorem rel_same {α : Type} {relation : α → α → Prop} [Std.Refl relation] (value : Option α) :
    Option.Rel relation value value := by
  cases value with
  | none => exact .none
  | some value => exact .some (Std.Refl.refl value)

theorem rel_bind {α β : Type} {relation : α → α → Prop} {next : β → β → Prop}
    {value other : Option α} {left right : α → Option β} (related : Option.Rel relation value other)
    (onward : ∀ first second, relation first second → Option.Rel next (left first) (right second)) :
    Option.Rel next (value.bind left) (other.bind right) := by
  cases related with
  | none => exact .none
  | some within => exact onward _ _ within

theorem bind_eq_of_rel {α β : Type} {relation : α → α → Prop} {value other : Option α}
    {read : α → Option β} (related : Option.Rel relation value other)
    (same : ∀ first second, relation first second → read second = read first) :
    other.bind read = value.bind read := by
  cases related with
  | none => rfl
  | some within => exact same _ _ within

theorem forall₂_getD {α : Type} {relation : α → α → Prop} {values others : Option (List α)}
    (related : Option.Rel (List.Forall₂ relation) values others) :
    List.Forall₂ relation (values.getD []) (others.getD []) := by
  cases related with
  | none => exact .nil
  | some members => exact members

namespace Replaced

section Reading

variable (redescribed : Redescribed old new) (replaced : Replaced old new value other)

include redescribed replaced

/-- What an object has in a field is the same, or something is replaced in it. Only the replaced
object itself may have another description. -/
theorem get? (plain : key ≠ "description") :
    Option.Rel (Replaced old new) (value.get? key) (other.get? key) := by
  cases replaced with
  | same => exact rel_same _
  | here =>
      rw [redescribed.get?_eq plain]
      exact rel_same _
  | item => exact .none
  | field within => exact rel_lookup (forall₂_between ⟨rfl, within⟩ _ _) key

/-- The text of a value is the same, since an object is no text. -/
theorem text? : other.text? = value.text? := by
  cases replaced with
  | here =>
      obtain ⟨_⟩ := redescribed
      rfl
  | _ => rfl

theorem items? : Option.Rel (List.Forall₂ (Replaced old new)) value.items? other.items? := by
  cases replaced with
  | same => exact rel_same _
  | here =>
      obtain ⟨_⟩ := redescribed
      exact .none
  | item within => exact .some (forall₂_between within _ _)
  | field => exact .none

omit redescribed in
/-- The fields of any other object differ at most within their values. -/
theorem fields? (apart : ¬(value = old ∧ other = new)) :
    Option.Rel (List.Forall₂ (FieldReplaced old new)) value.fields? other.fields? := by
  cases replaced with
  | same => exact rel_same _
  | here => exact absurd ⟨rfl, rfl⟩ apart
  | item => exact .none
  | field within => exact .some (forall₂_between ⟨rfl, within⟩ _ _)

theorem isObject {fields : List (String × Json)} (object : value = .object fields) :
    ∃ others, other = .object others := by
  cases replaced with
  | same => exact ⟨fields, object⟩
  | here =>
      obtain ⟨_⟩ := redescribed
      exact ⟨_, rfl⟩
  | item => cases object
  | field => exact ⟨_, rfl⟩

theorem textField? (plain : key ≠ "description") :
    other.textField? key = value.textField? key :=
  bind_eq_of_rel (replaced.get? redescribed plain) fun _ _ within => within.text? redescribed

/-- The description of any other object is the same. -/
theorem description? (apart : ¬(value = old ∧ other = new)) :
    other.textField? "description" = value.textField? "description" := by
  have found : Option.Rel (Replaced old new) (value.get? "description")
      (other.get? "description") := by
    cases replaced with
    | same => exact rel_same _
    | here => exact absurd ⟨rfl, rfl⟩ apart
    | item => exact .none
    | field within => exact rel_lookup (forall₂_between ⟨rfl, within⟩ _ _) _
  exact bind_eq_of_rel found fun _ _ within => within.text? redescribed

theorem itemsField? (plain : key ≠ "description") :
    Option.Rel (List.Forall₂ (Replaced old new)) (value.itemsField? key) (other.itemsField? key) :=
  rel_bind (replaced.get? redescribed plain) fun _ _ within => within.items? redescribed

/-- Something may be replaced in the properties, unless they are the replaced object itself. -/
theorem properties
    (apart : ¬(value.get? "properties" = some old ∧ other.get? "properties" = some new)) :
    List.Forall₂ (FieldReplaced old new) ((value.fieldsField? "properties").getD [])
      ((other.fieldsField? "properties").getD []) := by
  refine forall₂_getD ?_
  unfold fieldsField?
  have found := replaced.get? redescribed (show "properties" ≠ "description" by decide)
  revert apart
  generalize value.get? "properties" = first at found ⊢
  generalize other.get? "properties" = second at found ⊢
  intro apart
  cases found with
  | none => exact .none
  | some within => exact within.fields? (by simpa using apart)

/-- The name that a fragment declares does not depend on descriptions. -/
theorem declaredName? : other.declaredName? = value.declaredName? := by
  rw [Json.declaredName?, Json.declaredName?, replaced.textField? redescribed (by decide),
    replaced.textField? redescribed (by decide)]

theorem enumName? (property : Option String) :
    Build.enumName? other property = Build.enumName? value property := by
  rw [Build.enumName?, Build.enumName?, replaced.textField? redescribed (by decide)]

theorem requiredNames : Build.requiredNames other = Build.requiredNames value := by
  have texts {names others : List Json} (members : List.Forall₂ (Replaced old new) names others) :
      others.filterMap Json.text? = names.filterMap Json.text? := by
    induction members with
    | nil => rfl
    | cons first _ inductionHypothesis =>
        rw [List.filterMap_cons, List.filterMap_cons, first.text? redescribed, inductionHypothesis]
  exact texts (forall₂_getD (replaced.itemsField? redescribed (by decide)))

theorem has_eq (plain : key ≠ "description") : Rule.has other key = Rule.has value key := by
  have found := replaced.get? redescribed plain
  unfold Rule.has
  generalize value.get? key = first, other.get? key = second at found ⊢
  cases found with
  | none => rfl
  | some within =>
      cases within with
      | here =>
          obtain ⟨_⟩ := redescribed
          rfl
      | _ => rfl

theorem schemaType? :
    Option.Rel (Replaced old new) (Rule.schemaType? value) (Rule.schemaType? other) := by
  have found := replaced.get? redescribed (show "type" ≠ "description" by decide)
  unfold Rule.schemaType?
  generalize value.get? "type" = first, other.get? "type" = second at found ⊢
  cases found with
  | none => exact .none
  | some within =>
      cases within with
      | same => exact rel_same _
      | here =>
          obtain ⟨_⟩ := redescribed
          exact .some .here
      | @item before after _ _ inner =>
          rcases before with _ | ⟨first, _ | ⟨second, before⟩⟩
          · cases after with
            | nil => exact .some inner
            | cons last after => exact .some (@item _ _ [] _ _ _ inner)
          · exact .some (@item _ _ [first] _ _ _ inner)
          · exact .some (@item _ _ (first :: second :: before) _ _ _ inner)
      | field inner => exact .some (.field inner)

/-- A type that is a text is the same text, and a list of types is a list again. -/
theorem type_eq :
    (Rule.schemaType? other = some (.string "array") ↔
      Rule.schemaType? value = some (.string "array")) ∧
    Rule.ofType? (Rule.schemaType? other) = Rule.ofType? (Rule.schemaType? value) := by
  have found := replaced.schemaType? redescribed
  generalize Rule.schemaType? value = first, Rule.schemaType? other = second at found ⊢
  cases found with
  | none => exact ⟨.rfl, rfl⟩
  | some within =>
      cases within with
      | same => exact ⟨.rfl, rfl⟩
      | here =>
          obtain ⟨_⟩ := redescribed
          exact ⟨by simp, rfl⟩
      | _ => exact ⟨by simp, rfl⟩

/-- What a type stands for does not depend on descriptions. -/
theorem ofValue_eq : Rule.ofValue other = Rule.ofValue value := by
  cases replaced with
  | here =>
      obtain ⟨_⟩ := redescribed
      rfl
  | _ => rfl

/-- No rule depends on a description. -/
theorem classify_eq : Rule.classify other = Rule.classify value := by
  obtain ⟨keyword, type⟩ := replaced.type_eq redescribed
  have has {key : String} (plain : key ≠ "description") := replaced.has_eq redescribed plain
  simp only [Rule.classify, keyword, has (show "items" ≠ "description" by decide),
    has (show "enum" ≠ "description" by decide), has (show "tsEnumNames" ≠ "description" by decide),
    has (show "properties" ≠ "description" by decide),
    has (show "additionalProperties" ≠ "description" by decide),
    has (show "allOf" ≠ "description" by decide), has (show "anyOf" ≠ "description" by decide),
    has (show "$ref" ≠ "description" by decide), type,
    replaced.ofValue_eq redescribed]

end Reading

/-- The members of a named enum do not depend on descriptions. -/
theorem enumMembers?_eq (redescribed : Redescribed old new) {names others : List Json}
    (replaced : List.Forall₂ (Replaced old new) names others) (values : List Json) :
    enumMembers? others values = enumMembers? names values := by
  induction replaced generalizing values with
  | nil => rfl
  | @cons name other names others first _ inductionHypothesis =>
      cases values with
      | nil =>
          cases name <;> cases other <;> rfl
      | cons value values =>
          have text := first.text? redescribed
          cases name <;> cases other <;>
            simp_all [enumMembers?, Json.text?]

end Replaced

/-- Two walks by one pointer meet the replaced object and go on to its description. -/
inductive Passes (old new : Json) : Json → Json → List String → Prop where
  | here {rest : List String} : Passes old new old new ("description" :: rest)
  | step {value other part changed : Json} {segment : String} {rest : List String}
      (found : Pointer.step? value segment = some part)
      (foundToo : Pointer.step? other segment = some changed)
      (passes : Passes old new part changed rest) : Passes old new value other (segment :: rest)

/-- A pointer goes on to the description only through a segment of that name. -/
theorem Passes.mem {segments : List String} (passes : Passes old new value other segments) :
    "description" ∈ segments := by
  induction passes with
  | here => exact List.mem_cons_self
  | step _ _ _ inductionHypothesis => exact List.mem_cons_of_mem _ inductionHypothesis

namespace Replaced

/-- One step of a pointer leads to values that differ at most in the description. -/
theorem step? (replaced : Replaced old new value other) (redescribed : Redescribed old new)
    (segment : String) (apart : ¬(value = old ∧ other = new ∧ segment = "description")) :
    Option.Rel (Replaced old new) (Pointer.step? value segment) (Pointer.step? other segment) := by
  cases replaced with
  | same => exact rel_same _
  | here =>
      have found := here.get? redescribed (show segment ≠ "description" from fun same =>
        apart ⟨rfl, rfl, same⟩)
      obtain ⟨_⟩ := redescribed
      exact found
  | @item before after _ _ within =>
      change Option.Rel _ ((Pointer.index? segment).bind _) ((Pointer.index? segment).bind _)
      cases Pointer.index? segment with
      | none => exact .none
      | some index => exact rel_getElem? (forall₂_between within before after) index
  | field within => exact rel_lookup (forall₂_between ⟨rfl, within⟩ _ _) segment

/-- A pointer that does not lead to the description finds the same, or it finds nothing in both
documents. -/
theorem lookup? (redescribed : Redescribed old new) {segments : List String} :
    ∀ {value other : Json}, Replaced old new value other → ¬Passes old new value other segments →
      Option.Rel (Replaced old new) (Pointer.lookup? value segments)
        (Pointer.lookup? other segments) := by
  induction segments with
  | nil => exact fun replaced _ => .some replaced
  | cons segment segments inductionHypothesis =>
      intro value other replaced apart
      have found := replaced.step? redescribed segment (by
        rintro ⟨rfl, rfl, rfl⟩
        exact apart .here)
      change Option.Rel _ ((Pointer.step? value segment).bind (Pointer.lookup? · segments))
        ((Pointer.step? other segment).bind (Pointer.lookup? · segments))
      generalize first : Pointer.step? value segment = part,
        second : Pointer.step? other segment = changed at found ⊢
      cases found with
      | none => exact .none
      | some within =>
          exact inductionHypothesis within fun passes => apart (.step first second passes)

end Replaced
end Json
end SchemaTypes
