/-
This file bounds the parts of a JSON value: they are smaller than the value, and they have no texts
that the value does not have.
-/
import SchemaTypes.Schema.Pointer
import SchemaTypes.Schema.Rule

namespace SchemaTypes
namespace Json

mutual

/-- All texts in a value; the keys of its objects are not among them. -/
def texts : Json → List String
  | .string text => [text]
  | .array items => textsItems items
  | .object fields => textsFields fields
  | _ => []

def textsItems : List Json → List String
  | [] => []
  | item :: items => item.texts ++ textsItems items

def textsFields : List (String × Json) → List String
  | [] => []
  | (_, value) :: fields => value.texts ++ textsFields fields

end

theorem size_pos (value : Json) : 0 < value.size := by
  cases value <;> simp only [size] <;> omega

mutual

/-- A value has no more texts than its size says. -/
theorem length_texts_le (value : Json) : value.texts.length ≤ value.size := by
  cases value with
  | array items =>
      have inside := length_textsItems_le items
      simp only [texts, size]
      omega
  | object fields =>
      have inside := length_textsFields_le fields
      simp only [texts, size]
      omega
  | _ => simp [texts, size]

theorem length_textsItems_le (items : List Json) : (textsItems items).length ≤ sizeItems items := by
  cases items with
  | nil => simp [textsItems]
  | cons item items =>
      have first := length_texts_le item
      have rest := length_textsItems_le items
      simp only [textsItems, sizeItems, List.length_append]
      omega

theorem length_textsFields_le (fields : List (String × Json)) :
    (textsFields fields).length ≤ sizeFields fields := by
  cases fields with
  | nil => simp [textsFields]
  | cons field fields =>
      have first := length_texts_le field.2
      have rest := length_textsFields_le fields
      simp only [textsFields, sizeFields, List.length_append]
      omega

end

/-- A value that is no greater than another one and has no text that the other one lacks. -/
structure Within (part whole : Json) : Prop where
  size : part.size ≤ whole.size
  texts : part.texts ⊆ whole.texts

/-- A value inside another one. -/
structure Below (part whole : Json) : Prop where
  size : part.size < whole.size
  texts : part.texts ⊆ whole.texts

theorem Within.refl (value : Json) : value.Within value := ⟨Nat.le_refl _, fun _ => id⟩

theorem Within.trans {part middle whole : Json} (first : part.Within middle)
    (second : middle.Within whole) : part.Within whole :=
  ⟨Nat.le_trans first.size second.size, List.Subset.trans first.texts second.texts⟩

theorem Below.within {part whole : Json} (below : part.Below whole) : part.Within whole :=
  ⟨Nat.le_of_lt below.size, below.texts⟩

theorem Below.trans {part middle whole : Json} (first : part.Below middle)
    (second : middle.Below whole) : part.Below whole :=
  ⟨Nat.lt_trans first.size second.size, List.Subset.trans first.texts second.texts⟩

theorem size_le_sizeItems {item : Json} {items : List Json} (member : item ∈ items) :
    item.size ≤ sizeItems items := by
  induction items with
  | nil => cases member
  | cons first items inductionHypothesis =>
      rw [sizeItems]
      rcases List.mem_cons.mp member with rfl | later
      · omega
      · have rest := inductionHypothesis later
        omega

theorem texts_subset_textsItems {item : Json} {items : List Json} (member : item ∈ items) :
    item.texts ⊆ textsItems items := by
  induction items with
  | nil => cases member
  | cons first items inductionHypothesis =>
      rw [textsItems]
      rcases List.mem_cons.mp member with rfl | later
      · exact List.subset_append_left _ _
      · exact List.Subset.trans (inductionHypothesis later) (List.subset_append_right _ _)

theorem size_le_sizeFields {key : String} {value : Json} {fields : List (String × Json)}
    (member : (key, value) ∈ fields) : value.size ≤ sizeFields fields := by
  induction fields with
  | nil => cases member
  | cons first fields inductionHypothesis =>
      rw [sizeFields]
      rcases List.mem_cons.mp member with rfl | later
      · exact Nat.le_add_right _ _
      · have rest := inductionHypothesis later
        omega

theorem texts_subset_textsFields {key : String} {value : Json} {fields : List (String × Json)}
    (member : (key, value) ∈ fields) : value.texts ⊆ textsFields fields := by
  induction fields with
  | nil => cases member
  | cons first fields inductionHypothesis =>
      rw [textsFields]
      rcases List.mem_cons.mp member with rfl | later
      · exact List.subset_append_left _ _
      · exact List.Subset.trans (inductionHypothesis later) (List.subset_append_right _ _)

/-- An item lies below its array. -/
theorem below_array {item : Json} {items : List Json} (member : item ∈ items) :
    item.Below (.array items) := by
  refine ⟨?_, texts_subset_textsItems member⟩
  have inside := size_le_sizeItems member
  simp only [size]
  omega

/-- The value of a field lies below its object. -/
theorem below_object {key : String} {value : Json} {fields : List (String × Json)}
    (member : (key, value) ∈ fields) : value.Below (.object fields) := by
  refine ⟨?_, texts_subset_textsFields member⟩
  have inside := size_le_sizeFields member
  simp only [size]
  omega

theorem mem_of_lookup {key : String} {value : Json} {fields : List (String × Json)}
    (found : fields.lookup key = some value) : (key, value) ∈ fields := by
  obtain ⟨before, after, rfl, -⟩ := List.lookup_eq_some_iff.mp found
  simp

/-- What a field is read as lies below its object. -/
theorem get?_below {key : String} {value part : Json} (found : value.get? key = some part) :
    part.Below value := by
  cases value with
  | object fields => exact below_object (mem_of_lookup found)
  | _ => cases found

theorem itemsField?_below {key : String} {value item : Json} {items : List Json}
    (found : value.itemsField? key = some items) (member : item ∈ items) : item.Below value := by
  obtain ⟨list, isField, isList⟩ := Option.bind_eq_some_iff.mp found
  cases list with
  | array content =>
      obtain rfl : content = items := Option.some.inj isList
      exact (below_array member).trans (get?_below isField)
  | _ => cases isList

theorem fieldsField?_below {key name : String} {value part : Json}
    {fields : List (String × Json)} (found : value.fieldsField? key = some fields)
    (member : (name, part) ∈ fields) : part.Below value := by
  obtain ⟨object, isField, isObject⟩ := Option.bind_eq_some_iff.mp found
  cases object with
  | object content =>
      obtain rfl : content = fields := Option.some.inj isObject
      exact (below_object member).trans (get?_below isField)
  | _ => cases isObject

theorem textField?_mem_texts {key : String} {value : Json} {text : String}
    (found : value.textField? key = some text) : text ∈ value.texts := by
  obtain ⟨field, isField, isText⟩ := Option.bind_eq_some_iff.mp found
  cases field with
  | string content =>
      obtain rfl : content = text := Option.some.inj isText
      exact (get?_below isField).texts (by simp [texts])
  | _ => cases isText

end Json

/-- The fragment that stands for one of several types is smaller than the list of all of them. -/
theorem Rule.typeFragment_below {fragment type : Json} {types : List Json}
    (several : (Rule.schemaType? fragment).bind Json.items? = some types) (member : type ∈ types) :
    (Json.object [("type", type)]).Below fragment := by
  have inside {list : Json} (isList : list.items? = some types) (below : list.Below fragment) :
      (Json.object [("type", type)]).Below fragment := by
    cases list with
    | array content =>
        obtain rfl : content = types := Option.some.inj isList
        have part := Json.below_array member
        have size := part.size
        have whole := below.size
        refine ⟨?_, ?_⟩
        · simp only [Json.size, Json.sizeFields] at size whole ⊢
          omega
        · simpa [Json.texts, Json.textsFields] using List.Subset.trans part.texts below.texts
    | _ => cases isList
  obtain ⟨list, isType, isList⟩ := Option.bind_eq_some_iff.mp several
  unfold schemaType? at isType
  split at isType
  · next only field =>
    obtain rfl := Option.some.inj isType
    exact inside isList ((Json.below_array (by simp)).trans (Json.get?_below field))
  · exact inside isList (Json.get?_below isType)

/-- One step of a pointer leads below a value. -/
theorem Pointer.step?_below {value part : Json} {segment : String}
    (found : Pointer.step? value segment = some part) : part.Below value := by
  cases value with
  | object fields => exact Json.below_object (Json.mem_of_lookup found)
  | array items =>
      obtain ⟨index, -, here⟩ := Option.bind_eq_some_iff.mp found
      exact Json.below_array (List.mem_of_getElem? here)
  | _ => cases found

/-- A pointer leads into its document. -/
theorem Pointer.lookup?_within {document target : Json} {segments : List String}
    (found : Pointer.lookup? document segments = some target) : target.Within document := by
  induction segments generalizing document with
  | nil =>
      obtain rfl : document = target := Option.some.inj found
      exact .refl document
  | cons segment segments inductionHypothesis =>
      simp only [Pointer.lookup?, List.foldlM_cons, Option.bind_eq_bind] at found
      obtain ⟨part, here, onward⟩ := Option.bind_eq_some_iff.mp found
      exact (inductionHypothesis onward).trans (Pointer.step?_below here).within

end SchemaTypes
