/-
This file compares two fragments that have all keywords in common but the spelling of their type.
Main statement: a type in a list of its own stands for itself, so a fragment is resolved to the same
node, or fails alike, whether its type is in such a list or not.
-/
import SchemaTypes.Compilation.Fragment
import SchemaTypes.Proofs.Build.Finish

namespace SchemaTypes

/-- Two objects that differ at most in the spelling of their type. -/
structure Json.Respelled (value other : Json) : Prop where
  object : ∃ fields, value = .object fields
  otherObject : ∃ fields, other = .object fields
  get?_eq : ∀ key, key ≠ "type" → other.get? key = value.get? key
  type_eq : Rule.schemaType? other = Rule.schemaType? value

namespace Json.Respelled

/-- The spelling of the type is not seen under any other key. -/
theorem lookup_respell {first second : Json} {key : String} (apart : key ≠ "type")
    (earlier later : List (String × Json)) :
    (earlier ++ ("type", second) :: later).lookup key =
      (earlier ++ ("type", first) :: later).lookup key := by
  have other : (key == "type") = false := by simpa using apart
  simp [List.lookup_append, List.lookup_cons, other]

/-- A type that is no list may as well be the only member of one. -/
theorem of_single (earlier later : List (String × Json)) {type : Json}
    (noList : type.items? = none) :
    Respelled (.object (earlier ++ ("type", .array [type]) :: later))
      (.object (earlier ++ ("type", type) :: later)) where
  object := ⟨_, rfl⟩
  otherObject := ⟨_, rfl⟩
  get?_eq key apart := lookup_respell apart earlier later
  type_eq := by
    simp only [Rule.schemaType?, Json.get?, List.lookup_append]
    cases earlier.lookup "type" with
    | some found => rfl
    | none => cases type <;> simp_all [Json.items?]

variable {value other : Json} {key : String} (respelled : Respelled value other)

include respelled

/-- A keyword other than the type is there in both fragments or in none. -/
theorem has_eq (apart : key ≠ "type") : Rule.has other key = Rule.has value key := by
  rw [Rule.has, Rule.has, respelled.get?_eq key apart]

theorem textField?_eq (apart : key ≠ "type") : other.textField? key = value.textField? key := by
  rw [Json.textField?, Json.textField?, respelled.get?_eq key apart]

theorem itemsField?_eq (apart : key ≠ "type") : other.itemsField? key = value.itemsField? key := by
  rw [Json.itemsField?, Json.itemsField?, respelled.get?_eq key apart]

theorem fieldsField?_eq (apart : key ≠ "type") :
    other.fieldsField? key = value.fieldsField? key := by
  rw [Json.fieldsField?, Json.fieldsField?, respelled.get?_eq key apart]

/-- Both fragments have one title or id. -/
theorem declaredName?_eq : other.declaredName? = value.declaredName? := by
  rw [Json.declaredName?, Json.declaredName?, respelled.textField?_eq (by decide),
    respelled.textField?_eq (by decide)]

/-- The rule of a fragment looks at its type alone, and not at how it is spelled. -/
theorem classify_eq : Rule.classify other = Rule.classify value := by
  obtain ⟨fields, rfl⟩ := respelled.object
  obtain ⟨others, rfl⟩ := respelled.otherObject
  simp (disch := decide) only [Rule.classify, respelled.type_eq, respelled.has_eq, Rule.ofValue]

/-- An object is no literal, whatever its type is called. -/
theorem classify_ne_literal : Rule.classify value ≠ .literal := by
  obtain ⟨fields, rfl⟩ := respelled.object
  have named (type : Option Json) : Rule.ofType? type ≠ some .literal := by
    unfold Rule.ofType? Rule.ofTypeName?
    split <;> (try split) <;> simp
  intro literal
  simp only [Rule.classify] at literal
  repeat
    split at literal
    · cases literal
  cases found : Rule.ofType? (Rule.schemaType? (.object fields)) with
  | none =>
      rw [found] at literal
      cases literal
  | some rule =>
      rw [found] at literal
      exact named _ (found.trans (congrArg some literal))

end Json.Respelled

/-- Two errors that differ at most in the fragment that they show. -/
inductive CompileError.Alike : CompileError → CompileError → Prop where
  | refl (error : CompileError) : Alike error error
  | enumLengthMismatch (rule other : Json) :
      Alike (.enumLengthMismatch rule) (.enumLengthMismatch other)
  | enumNotArray (rule other : Json) : Alike (.enumNotArray rule) (.enumNotArray other)

namespace Build

variable {context : Context} {resolve : Resolver} {value other : Json} {before : Progress}

/-- Two steps come to the same node and the same progress, or their errors are alike. -/
inductive ResultsAlike : (left right : EStateM.Result CompileError Progress NodeId) → Prop where
  | ok (node : NodeId) (after : Progress) : ResultsAlike (.ok node after) (.ok node after)
  | error {error other : CompileError} (alike : error.Alike other) (after : Progress) :
      ResultsAlike (.error error after) (.error other after)

/-- A result is like itself. -/
theorem ResultsAlike.refl (result : EStateM.Result CompileError Progress NodeId) :
    ResultsAlike result result := by
  cases result with
  | ok node after => exact .ok node after
  | error error after => exact .error (.refl error) after

section Builders

variable (respelled : value.Respelled other)

include respelled

/-- An enum is built of the same values, and its error shows the fragment that failed. -/
theorem buildEnum_respelled (before : Progress) :
    ResultsAlike (buildEnum value before) (buildEnum other before) := by
  unfold buildEnum
  rw [respelled.itemsField?_eq (by decide)]
  cases value.itemsField? "enum" with
  | none => exact .error (.enumNotArray value other) before
  | some values => exact .refl _

/-- A named enum is built of the same names and values, and its error shows the fragment that
failed. -/
theorem buildNamedEnum_respelled (property : Option String) (before : Progress) :
    ResultsAlike (buildNamedEnum value property before) (buildNamedEnum other property before) := by
  have name : enumName? other property = enumName? value property := by
    rw [enumName?, enumName?, respelled.textField?_eq (by decide)]
  unfold buildNamedEnum
  rw [respelled.itemsField?_eq (by decide), respelled.itemsField?_eq (by decide), name]
  cases value.itemsField? "enum" with
  | none => exact .error (.enumNotArray value other) before
  | some values =>
      cases value.itemsField? "tsEnumNames" with
      | none => exact .refl _
      | some names =>
          by_cases lengths : names.length = values.length
          · simp only [lengths, ne_eq, not_true_eq_false, ↓reduceIte]
            exact .refl _
          · simp only [lengths, ne_eq, not_false_eq_true, ↓reduceIte]
            exact .error (.enumLengthMismatch value other) before

/-- An interface does not look at its type. -/
theorem buildInterface_respelled : buildInterface resolve other = buildInterface resolve value := by
  simp (disch := decide) only [buildInterface, requiredNames, respelled.itemsField?_eq,
    respelled.fieldsField?_eq, respelled.get?_eq]

/-- The nodes of both fragments are built alike. -/
theorem buildNode_respelled (property : Option String) (before : Progress) :
    ResultsAlike (buildNode context resolve value property before)
      (buildNode context resolve other property before) := by
  unfold buildNode
  rw [respelled.classify_eq]
  cases rule : Rule.classify value with
  | enum => exact buildEnum_respelled respelled before
  | namedEnum => exact buildNamedEnum_respelled respelled property before
  | typedArray =>
      rw [respelled.get?_eq _ (by decide)]
      exact .refl _
  | namedSchema =>
      rw [buildInterface_respelled respelled]
      exact .refl _
  | anonymousSchema =>
      rw [buildInterface_respelled respelled]
      exact .refl _
  | allOf =>
      simp only [resolveMembers, respelled.itemsField?_eq (show "allOf" ≠ "type" by decide)]
      exact .refl _
  | anyOf =>
      simp only [resolveMembers, respelled.itemsField?_eq (show "anyOf" ≠ "type" by decide)]
      exact .refl _
  | reference =>
      simp only [buildReference, respelled.textField?_eq (show "$ref" ≠ "type" by decide)]
      exact .refl _
  | union =>
      rw [respelled.type_eq]
      exact .refl _
  | literal => exact absurd rule respelled.classify_ne_literal
  | _ => exact .refl _

end Builders

/-- Both fragments leave the same node and the same progress behind, in which only the last entry of
the journal shows which of them it was, or their errors are alike. -/
theorem resolveBy_respelled (respelled : value.Respelled other) (site : Site) (before : Progress) :
    (∃ (node : NodeId) (last : Progress),
      resolveBy context resolve value site before =
        .ok node (last.note (.visited before.frame value (some node))) ∧
      resolveBy context resolve other site before =
        .ok node (last.note (.visited before.frame other (some node)))) ∨
    ∃ error otherError after last, resolveBy context resolve value site before = .error error after ∧
      resolveBy context resolve other site before = .error otherError last ∧
      error.Alike otherError := by
  have adopted (node : NodeId) (progress : Progress) :
      adoptDescription other node (adoptName other site node progress) =
        adoptDescription value node (adoptName value site node progress) := by
    unfold adoptDescription adoptName
    rw [respelled.declaredName?_eq, respelled.textField?_eq (by decide)]
  have built := @buildNode_respelled context resolve _ _ respelled site.property before
  generalize first : buildNode context resolve value site.property before = result,
    second : buildNode context resolve other site.property before = otherResult at built
  cases built with
  | ok node after =>
      refine .inl ⟨node, adoptDescription value node (adoptName value site node after), ?_, ?_⟩
      · simp only [resolveBy, get_bind, noting_eq_ok, bind_eq_ok, first, modify_bind, pure_apply]
        exact ⟨_, ⟨_, _, rfl, rfl⟩, rfl⟩
      · simp only [resolveBy, get_bind, noting_eq_ok, bind_eq_ok, second, modify_bind, pure_apply,
          ← adopted node after]
        exact ⟨_, ⟨_, _, rfl, rfl⟩, rfl⟩
  | @error error otherError alike after =>
      refine .inr ⟨error, otherError, after.note (.visited before.frame value none),
        after.note (.visited before.frame other none), ?_, ?_, alike⟩
      · simp only [resolveBy, get_bind, noting_eq_error, bind_eq_error]
        exact ⟨after, .inl first, rfl⟩
      · simp only [resolveBy, get_bind, noting_eq_error, bind_eq_error]
        exact ⟨after, .inl second, rfl⟩

/-- A type in a list of its own stands for itself: from any progress, wherever the keyword stands
and whatever stands beside it, the fragment has the same rule with the list and without it, and is
resolved to the same node and the same progress but for the fragment that the journal shows last, or
it fails with errors that differ at most in the fragment that they show. -/
theorem resolveFragment_single (context : Context) (budget : Nat)
    (earlier later : List (String × Json)) {type : Json} (noList : type.items? = none) (site : Site)
    (before : Progress) :
    let listed := Json.object (earlier ++ ("type", .array [type]) :: later)
    let plain := Json.object (earlier ++ ("type", type) :: later)
    Rule.classify listed = Rule.classify plain ∧
    ((∃ (node : NodeId) (last : Progress),
      resolveFragment context budget listed site before =
        .ok node (last.note (.visited before.frame listed (some node))) ∧
      resolveFragment context budget plain site before =
        .ok node (last.note (.visited before.frame plain (some node)))) ∨
    ∃ error other after last,
      resolveFragment context budget listed site before = .error error after ∧
      resolveFragment context budget plain site before = .error other last ∧
      error.Alike other) := by
  have respelled := Json.Respelled.of_single earlier later noList
  refine ⟨respelled.classify_eq.symm, ?_⟩
  cases budget with
  | zero => exact .inr ⟨.exhausted, .exhausted, before, before, rfl, rfl, .refl _⟩
  | succ budget => exact resolveBy_respelled respelled site before

/-- The items of an array count whether its type is in a list or not. -/
theorem resolveFragment_single_array :
    let keywords (type : Json) : Json := .object ([("title", .string "Names")] ++
      ("type", type) :: [("items", .object [("type", .string "string")])])
    let before := Progress.start (Compilation.rootFrame .null none)
    (Json.string "array").items? = none ∧
    Rule.classify (keywords (.array [.string "array"])) = Rule.classify (keywords (.string "array")) ∧
    ∃ last : Progress, (last.node 1).shape = .array 0 ∧
      resolveFragment ⟨{}, .ofFiles []⟩ 2 (keywords (.array [.string "array"])) .inner before =
        .ok 1 (last.note (.visited before.frame (keywords (.array [.string "array"])) (some 1))) ∧
      resolveFragment ⟨{}, .ofFiles []⟩ 2 (keywords (.string "array")) .inner before =
        .ok 1 (last.note (.visited before.frame (keywords (.string "array")) (some 1))) := by
  intro keywords before
  have evaluated : passes (fun node after => decide (node = 1 ∧ (after.node 1).shape = .array 0))
      (resolveFragment ⟨{}, .ofFiles []⟩ 2 (keywords (.string "array")) .inner before) = true := by
    decide +kernel
  obtain ⟨made, after, resolved, checked⟩ := exists_of_passes evaluated
  obtain ⟨rfl, shape⟩ := of_decide_eq_true checked
  obtain ⟨rule, ⟨node, last, listed, plain⟩ | ⟨_, _, _, _, _, failed, _⟩⟩ :=
    resolveFragment_single ⟨{}, .ofFiles []⟩ 2 [("title", .string "Names")]
      [("items", .object [("type", .string "string")])] (show (Json.string "array").items? = none
        from rfl) .inner before
  · obtain ⟨rfl, rfl⟩ := EStateM.Result.ok.inj (resolved.symm.trans plain)
    exact ⟨rfl, rule, last, shape, listed, plain⟩
  · cases resolved.symm.trans failed

end Build

end SchemaTypes
