/-
This file says where in a document the fragments of a schema stand. Main statement: every fragment
that a compilation can come to stands in the document of its frame, or it is put together for one of
several types and refers to nothing.
-/
import SchemaTypes.Proofs.Meaning.Reachable
import SchemaTypes.Proofs.Termination.Extent

namespace SchemaTypes

open Build

namespace Json

/-- A value inside a document, or the document itself. -/
inductive Inside : Json → Json → Prop where
  | whole (value : Json) : Inside value value
  | item {part item : Json} {items : List Json} (member : item ∈ items)
      (inside : Inside part item) : Inside part (.array items)
  | field {part value : Json} {key : String} {fields : List (String × Json)}
      (member : (key, value) ∈ fields) (inside : Inside part value) : Inside part (.object fields)

/-- What stands in a part of a document stands in the document. -/
theorem Inside.trans {part middle whole : Json} (first : part.Inside middle)
    (second : middle.Inside whole) : part.Inside whole := by
  induction second with
  | whole => exact first
  | item member _ inductionHypothesis => exact .item member (inductionHypothesis)
  | field member _ inductionHypothesis => exact .field member (inductionHypothesis)

variable {value part fragment : Json} {key : String}

theorem inside_bool_iff {content : Bool} : part.Inside (.bool content) ↔ part = .bool content := by
  constructor
  · rintro ⟨⟩
    rfl
  · rintro rfl
    exact .whole _

theorem inside_string_iff {text : String} : part.Inside (.string text) ↔ part = .string text := by
  constructor
  · rintro ⟨⟩
    rfl
  · rintro rfl
    exact .whole _

/-- Apart from the list itself, its items have all that stands in it. -/
theorem inside_array_iff {items : List Json} :
    part.Inside (.array items) ↔ part = .array items ∨ ∃ item ∈ items, part.Inside item := by
  constructor
  · rintro (_ | ⟨member, inside⟩)
    · exact .inl rfl
    · exact .inr ⟨_, member, inside⟩
  · rintro (rfl | ⟨item, member, inside⟩)
    · exact .whole _
    · exact .item member inside

/-- Apart from the object itself, its values have all that stands in it. -/
theorem inside_object_iff {fields : List (String × Json)} :
    part.Inside (.object fields) ↔
      part = .object fields ∨ ∃ field ∈ fields, part.Inside field.2 := by
  constructor
  · rintro (_ | _ | ⟨member, inside⟩)
    · exact .inl rfl
    · exact .inr ⟨_, member, inside⟩
  · rintro (rfl | ⟨field, member, inside⟩)
    · exact .whole _
    · exact .field member inside

/-- The value of a keyword stands in the fragment. -/
theorem get?_inside (found : value.get? key = some part) : part.Inside value := by
  cases value with
  | object fields => exact .field (mem_of_lookup found) (.whole part)
  | _ => cases found

/-- The items of a list stand in it. -/
theorem items?_inside {items : List Json} (list : value.items? = some items)
    (member : part ∈ items) : part.Inside value := by
  cases value with
  | array content =>
      obtain rfl : content = items := Option.some.inj list
      exact .item member (.whole part)
  | _ => cases list

/-- The values of an object stand in it. -/
theorem fields?_inside {name : String} {fields : List (String × Json)}
    (object : value.fields? = some fields) (member : (name, part) ∈ fields) :
    part.Inside value := by
  cases value with
  | object content =>
      obtain rfl : content = fields := Option.some.inj object
      exact .field member (.whole part)
  | _ => cases object

/-- The type of a fragment stands in it, even where it is taken out of a list. -/
theorem schemaType?_inside {type : Json} (found : Rule.schemaType? fragment = some type) :
    type.Inside fragment := by
  unfold Rule.schemaType? at found
  split at found
  · next only field =>
    obtain rfl := Option.some.inj found
    exact (Inside.item (by simp) (.whole only)).trans (get?_inside field)
  · exact get?_inside found

/-- The fragments that the node of a fragment is made of: they stand inside of it, or they are put
together for its types. -/
inductive PartOf (fragment : Json) : Json → Prop where
  | items {part : Json} (found : fragment.get? "items" = some part) : PartOf fragment part
  | additional {part : Json} (found : fragment.get? "additionalProperties" = some part) :
      PartOf fragment part
  | member {keyword : String} {members : List Json} {part : Json}
      (either : keyword = "allOf" ∨ keyword = "anyOf")
      (found : fragment.itemsField? keyword = some members) (present : part ∈ members) :
      PartOf fragment part
  | property {name : String} {fields : List (String × Json)} {part : Json}
      (found : fragment.fieldsField? "properties" = some fields)
      (present : (name, part) ∈ fields) : PartOf fragment part
  | type {types : List Json} {type : Json}
      (several : (Rule.schemaType? fragment).bind Json.items? = some types)
      (present : type ∈ types) : PartOf fragment (.object [("type", type)])

/-- The fragments that the rule of a fragment looks into; all of them stand in the fragment. -/
inductive DescendsTo (fragment : Json) : Json → Prop where
  | items {part : Json} (rule : Rule.classify fragment = .typedArray)
      (found : fragment.get? "items" = some part) : DescendsTo fragment part
  | property {name : String} {fields : List (String × Json)} {part : Json}
      (rule : Rule.classify fragment = .namedSchema ∨ Rule.classify fragment = .anonymousSchema)
      (found : fragment.fieldsField? "properties" = some fields)
      (present : (name, part) ∈ fields) : DescendsTo fragment part
  | additional {fields : List (String × Json)}
      (rule : Rule.classify fragment = .namedSchema ∨ Rule.classify fragment = .anonymousSchema)
      (found : fragment.get? "additionalProperties" = some (.object fields)) :
      DescendsTo fragment (.object fields)
  | allOf {members : List Json} {part : Json} (rule : Rule.classify fragment = .allOf)
      (found : fragment.itemsField? "allOf" = some members) (present : part ∈ members) :
      DescendsTo fragment part
  | anyOf {members : List Json} {part : Json} (rule : Rule.classify fragment = .anyOf)
      (found : fragment.itemsField? "anyOf" = some members) (present : part ∈ members) :
      DescendsTo fragment part

/-- The parts under a keyword that lists fragments are these fragments. -/
theorem exists_members (inside : .fragment part ∈ fragment.memberParts key) :
    ∃ members, fragment.itemsField? key = some members ∧ part ∈ members := by
  cases found : fragment.itemsField? key with
  | none => simp [memberParts, found] at inside
  | some items => exact ⟨items, rfl, by simpa [memberParts, found] using inside⟩

/-- The parts of an interface are the properties that it lists. -/
theorem descendsTo_listed
    (rule : Rule.classify fragment = .namedSchema ∨ Rule.classify fragment = .anonymousSchema)
    {entry : (String × Bool) × Part} (listed : entry ∈ fragment.listedParts)
    (same : entry.2 = .fragment part) : fragment.DescendsTo part := by
  obtain ⟨⟨name, value⟩, present, rfl⟩ := List.mem_map.mp listed
  obtain rfl : value = part := by simpa using same
  cases found : fragment.fieldsField? "properties" with
  | none => simp [found] at present
  | some fields => exact .property rule found (by simpa [found] using present)

/-- The parts of an interface are its properties and the type of all others. -/
theorem descendsTo_interface
    (rule : Rule.classify fragment = .namedSchema ∨ Rule.classify fragment = .anonymousSchema)
    (inside : .fragment part ∈ fragment.interfaceOutline.parts) : fragment.DescendsTo part := by
  have indexed {last : Part} (apart : ∀ value, last = .fragment value → fragment.DescendsTo value)
      (inside : .fragment part ∈
        (Outline.interface (fragment.listedParts ++ [((indexSignature, true), last)])).parts) :
      fragment.DescendsTo part := by
    obtain ⟨entry, member, same⟩ := List.mem_map.mp inside
    rcases List.mem_append.mp member with listed | only
    · exact descendsTo_listed rule listed same
    · obtain rfl := List.mem_singleton.mp only
      exact apart part same
  unfold interfaceOutline at inside
  split at inside
  · next additional found =>
    refine indexed ?_ inside
    rintro value same
    cases same
    exact .additional rule found
  · split at inside
    · split at inside <;> cases inside
    · exact indexed (fun value same => by cases same) inside
  · split at inside
    · cases inside
    · exact indexed (fun value same => by cases same) inside
  · obtain ⟨entry, listed, same⟩ := List.mem_map.mp inside
    exact descendsTo_listed rule listed same

/-- The parts of a fragment stand in it, or they are put together for its types. -/
theorem descendsTo_or_type {outline : Outline} (outlined : fragment.outline? = some outline)
    (inside : .fragment part ∈ outline.parts) :
    fragment.DescendsTo part ∨ ∃ types type,
      (Rule.schemaType? fragment).bind Json.items? = some types ∧ type ∈ types ∧
        part = .object [("type", type)] := by
  unfold outline? at outlined
  cases rule : Rule.classify fragment with
  | typedArray =>
      rw [rule] at outlined
      obtain rfl := Option.some.inj outlined
      have same := List.mem_singleton.mp inside
      cases items : fragment.get? "items" with
      | none => simp [items] at same
      | some value =>
          obtain rfl : part = value := by simpa [items] using same
          exact .inl (.items rule items)
  | namedEnum =>
      rw [rule] at outlined
      change fragment.enumOutline? = some outline at outlined
      unfold enumOutline? at outlined
      split at outlined
      · split at outlined
        · obtain ⟨members, -, rfl⟩ := Option.map_eq_some_iff.mp outlined
          cases inside
        · cases outlined
      · cases outlined
  | enum =>
      rw [rule] at outlined
      obtain ⟨values, -, rfl⟩ := Option.map_eq_some_iff.mp outlined
      simp at inside
  | namedSchema =>
      rw [rule] at outlined
      obtain rfl := Option.some.inj outlined
      exact .inl (descendsTo_interface (.inl rule) inside)
  | anonymousSchema =>
      rw [rule] at outlined
      obtain rfl := Option.some.inj outlined
      exact .inl (descendsTo_interface (.inr rule) inside)
  | allOf =>
      rw [rule] at outlined
      obtain rfl := Option.some.inj outlined
      obtain ⟨members, found, present⟩ := exists_members inside
      exact .inl (.allOf rule found present)
  | anyOf =>
      rw [rule] at outlined
      obtain rfl := Option.some.inj outlined
      obtain ⟨members, found, present⟩ := exists_members inside
      exact .inl (.anyOf rule found present)
  | reference =>
      rw [rule] at outlined
      cases outlined
  | array =>
      rw [rule] at outlined
      obtain rfl := Option.some.inj outlined
      cases List.mem_singleton.mp inside
  | union =>
      rw [rule] at outlined
      obtain rfl := Option.some.inj outlined
      obtain ⟨type, present, same⟩ := List.mem_map.mp inside
      obtain rfl := Part.fragment.inj same
      cases several : (Rule.schemaType? fragment).bind items? with
      | none => simp [several] at present
      | some types =>
          exact .inr ⟨types, type, rfl, by simpa [several] using present, rfl⟩
  | _ =>
      rw [rule] at outlined
      obtain rfl := Option.some.inj outlined
      cases inside

/-- What a rule looks into becomes a part. -/
theorem DescendsTo.partOf (descends : fragment.DescendsTo part) : fragment.PartOf part := by
  cases descends with
  | items _ found => exact .items found
  | property _ found present => exact .property found present
  | additional _ found => exact .additional found
  | allOf _ found present => exact .member (.inl rfl) found present
  | anyOf _ found present => exact .member (.inr rfl) found present

/-- What a rule looks into stands in the fragment. -/
theorem DescendsTo.inside (descends : fragment.DescendsTo part) : part.Inside fragment := by
  cases descends with
  | items _ found => exact get?_inside found
  | property _ found present =>
      obtain ⟨object, field, isObject⟩ := Option.bind_eq_some_iff.mp found
      exact (fields?_inside isObject present).trans (get?_inside field)
  | additional _ found => exact get?_inside found
  | allOf _ found present =>
      obtain ⟨list, field, isList⟩ := Option.bind_eq_some_iff.mp found
      exact (items?_inside isList present).trans (get?_inside field)
  | anyOf _ found present =>
      obtain ⟨list, field, isList⟩ := Option.bind_eq_some_iff.mp found
      exact (items?_inside isList present).trans (get?_inside field)

/-- The fragments of an outline are parts of its fragment. -/
theorem partOf_of_mem {outline : Outline} (outlined : fragment.outline? = some outline)
    (inside : .fragment part ∈ outline.parts) : fragment.PartOf part := by
  rcases descendsTo_or_type outlined inside with descends | ⟨types, type, several, present, rfl⟩
  · exact descends.partOf
  · exact .type several present

/-- A part is smaller than its fragment, and it has no texts of its own. -/
theorem PartOf.below (of : fragment.PartOf part) : part.Below fragment := by
  cases of with
  | items found => exact get?_below found
  | additional found => exact get?_below found
  | member either found present => exact itemsField?_below found present
  | property found present => exact fieldsField?_below found present
  | type several present => exact Rule.typeFragment_below several present

/-- A fragment stands in a document, or it is put together for a type that stands there. -/
inductive Written (document : Json) : Json → Prop where
  | inside {fragment : Json} (inside : fragment.Inside document) : Written document fragment
  | type {type : Json} (inside : type.Inside document) :
      Written document (.object [("type", type)])

/-- A part stands in its fragment, or it is put together for a type that does. -/
theorem PartOf.written (of : fragment.PartOf part) : fragment.Written part := by
  cases of with
  | items found => exact .inside (get?_inside found)
  | additional found => exact .inside (get?_inside found)
  | member either found present =>
      obtain ⟨list, field, isList⟩ := Option.bind_eq_some_iff.mp found
      exact .inside ((items?_inside isList present).trans (get?_inside field))
  | property found present =>
      obtain ⟨object, field, isObject⟩ := Option.bind_eq_some_iff.mp found
      exact .inside ((fields?_inside isObject present).trans (get?_inside field))
  | type several present =>
      obtain ⟨list, type, isList⟩ := Option.bind_eq_some_iff.mp several
      exact .type ((items?_inside isList present).trans (schemaType?_inside type))

/-- A fragment that has only a type is made of fragments that have only a type. -/
theorem PartOf.of_type {type : Json} (of : (Json.object [("type", type)]).PartOf part) :
    ∃ inner, part = .object [("type", inner)] ∧ inner.Inside type := by
  generalize whole : Json.object [("type", type)] = fragment at of
  cases of with
  | items found => subst whole; cases found
  | additional found => subst whole; cases found
  | member either found present => subst whole; rcases either with rfl | rfl <;> cases found
  | property found present => subst whole; cases found
  | @type types inner several present =>
      subst whole
      obtain ⟨list, found, isList⟩ := Option.bind_eq_some_iff.mp several
      refine ⟨inner, rfl, (items?_inside isList present).trans ?_⟩
      have field : (Json.object [("type", type)]).get? "type" = some type := rfl
      unfold Rule.schemaType? at found
      rw [field] at found
      split at found
      · next only same =>
        obtain rfl := Option.some.inj same
        obtain rfl := Option.some.inj found
        exact .item (by simp) (.whole only)
      · obtain rfl := Option.some.inj found
        exact .whole type

/-- A part of what is written in a document is written there too. -/
theorem Written.onward {document : Json} (written : document.Written fragment)
    (of : fragment.PartOf part) : document.Written part := by
  cases written with
  | inside inside =>
      cases of.written with
      | inside within => exact .inside (within.trans inside)
      | type within => exact .type (within.trans inside)
  | type inside =>
      obtain ⟨inner, rfl, within⟩ := of.of_type
      exact .type (within.trans inside)

/-- Only keywords make an enum or a reference of a fragment, and neither its type nor its value. -/
theorem ofType?_getD_ne (type : Option Json) (fragment : Json) {rule : Rule}
    (other : rule = .enum ∨ rule = .namedEnum ∨ rule = .reference) :
    (Rule.ofType? type).getD (Rule.ofValue fragment) ≠ rule := by
  have valued : Rule.ofValue fragment ≠ rule := by
    unfold Rule.ofValue
    rcases other with rfl | rfl | rfl <;> split <;> (try split) <;> simp
  have named : Rule.ofType? type ≠ some rule := by
    unfold Rule.ofType? Rule.ofTypeName?
    rcases other with rfl | rfl | rfl <;> split <;> (try split) <;> simp
  cases found : Rule.ofType? type with
  | none => exact valued
  | some rule => exact fun same => named (found.trans (congrArg some same))

/-- A fragment that is put together for a type is no enum and refers to nothing. -/
theorem classify_type_ne (type : Json) {rule : Rule}
    (other : rule = .enum ∨ rule = .namedEnum ∨ rule = .reference) :
    Rule.classify (.object [("type", type)]) ≠ rule := by
  have absent (key : String) (other : (key == "type") = false) :
      Rule.has (.object [("type", type)]) key = false := by
    simp [Rule.has, get?, List.lookup_cons, other, Rule.isPresent]
  simp only [Rule.classify, absent "items" rfl, absent "enum" rfl, absent "tsEnumNames" rfl,
    absent "properties" rfl, absent "additionalProperties" rfl, absent "allOf" rfl,
    absent "anyOf" rfl, absent "$ref" rfl, Bool.false_eq_true, and_false, or_false,
    ↓reduceIte]
  exact ofType?_getD_ne _ _ other

/-- What is put together for a type refers to nothing. -/
theorem classify_type_ne_reference (type : Json) :
    Rule.classify (.object [("type", type)]) ≠ .reference :=
  classify_type_ne type (.inr (.inr rfl))

/-- A fragment is a reference only if it has the keyword for it. -/
theorem has_of_reference (reference : Rule.classify fragment = .reference) :
    Rule.has fragment "$ref" = true := by
  cases present : Rule.has fragment "$ref" with
  | true => rfl
  | false =>
      simp only [Rule.classify, present, Bool.false_eq_true, ↓reduceIte] at reference
      repeat
        split at reference
        · cases reference
      exact absurd reference (ofType?_getD_ne _ _ (.inr (.inr rfl)))

end Json

/-- A step of a pointer leads to a value inside. -/
theorem Pointer.step?_inside {value part : Json} {segment : String}
    (found : Pointer.step? value segment = some part) : part.Inside value := by
  cases value with
  | object fields => exact .field (Json.mem_of_lookup found) (.whole part)
  | array items =>
      obtain ⟨index, -, here⟩ := Option.bind_eq_some_iff.mp found
      exact .item (List.mem_of_getElem? here) (.whole part)
  | _ => cases found

/-- The target of a pointer stands in the document. -/
theorem Pointer.lookup?_inside {document target : Json} {segments : List String}
    (found : Pointer.lookup? document segments = some target) : target.Inside document := by
  induction segments generalizing document with
  | nil =>
      obtain rfl : document = target := Option.some.inj found
      exact .whole document
  | cons segment segments inductionHypothesis =>
      simp only [Pointer.lookup?, List.foldlM_cons, Option.bind_eq_bind] at found
      obtain ⟨part, here, onward⟩ := Option.bind_eq_some_iff.mp found
      exact (inductionHypothesis onward).trans (Pointer.step?_inside here)

/-- What a compilation can come to is written in the document of its frame: parts stay in it, and so
do the targets of pointers, and a file that is referred to is a document of its own. -/
theorem Reachable.written {loader : Loader} {root frame : Frame} {fragment : Json}
    (reachable : Reachable loader root frame fragment) : frame.document.Written fragment := by
  induction reachable with
  | root => exact .inside (.whole _)
  | part _ outlined inside inductionHypothesis =>
      exact inductionHypothesis.onward (Json.partOf_of_mem outlined inside)
  | follow _ follows _ =>
      cases follows with
      | document => exact .inside (.whole _)
      | pointer refers leads => exact .inside (Pointer.lookup?_inside leads)
      | root => exact .inside (.whole _)
      | file => exact .inside (.whole _)

end SchemaTypes
