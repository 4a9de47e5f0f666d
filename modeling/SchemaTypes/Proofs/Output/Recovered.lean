/-
This file recovers the properties of an interface from its text. Main statement: interfaces with the
same text have the same properties in the same order, if their names do not contain what separates
properties or marks an optional one.
-/
import SchemaTypes.Proofs.Names.Referred
import SchemaTypes.Proofs.Output.Blocks
import SchemaTypes.Proofs.Output.Comments

namespace SchemaTypes

open Text Unicode

namespace Text

/-- A text is cut at its first line break in one way only. -/
theorem line_unique {first second rest rest' : List Char} (oneLine : '\n' ∉ first)
    (oneLineToo : '\n' ∉ second) (same : first ++ '\n' :: rest = second ++ '\n' :: rest') :
    first = second ∧ rest = rest' := by
  induction first generalizing second with
  | nil =>
      cases second with
      | nil => exact ⟨rfl, (List.cons.inj same).2⟩
      | cons character second =>
          exact absurd ((List.cons.inj same).1 ▸ List.mem_cons_self) oneLineToo
  | cons character first inductionHypothesis =>
      cases second with
      | nil => exact absurd ((List.cons.inj same).1 ▸ List.mem_cons_self) oneLine
      | cons other second =>
          obtain ⟨rfl, rest⟩ := List.cons.inj same
          obtain ⟨rfl, rests⟩ := inductionHypothesis
            (fun member => oneLine (List.mem_cons_of_mem _ member))
            (fun member => oneLineToo (List.mem_cons_of_mem _ member)) rest
          exact ⟨rfl, rests⟩

/-- Indentation can be undone. -/
theorem flatMap_indentChar_injective {first second : List Char}
    (same : first.flatMap indentChar = second.flatMap indentChar) : first = second := by
  have begins (character : Char) :
      indentChar character = character :: (indentChar character).tail := by
    unfold indentChar
    split <;> simp_all
  induction first generalizing second with
  | nil =>
      cases second with
      | nil => rfl
      | cons other second =>
          rw [List.flatMap_cons, begins] at same
          cases same
  | cons character first inductionHypothesis =>
      cases second with
      | nil =>
          rw [List.flatMap_cons, begins] at same
          cases same
      | cons other second =>
          rw [List.flatMap_cons, List.flatMap_cons] at same
          have heads : character = other := by
            rw [begins character, begins other] at same
            exact (List.cons.inj same).1
          subst heads
          rw [inductionHypothesis (List.append_cancel_left same)]

/-- The lines of a text and the text make up each other. -/
theorem splitOn_injective {first second : List Char}
    (same : first.splitOn '\n' = second.splitOn '\n') : first = second := by
  rw [← @List.intercalate_splitOn _ first _ _ '\n', same, List.intercalate_splitOn]

end Text

namespace TypeScript

/-- What begins a line of a description within a comment over a property. -/
def lineStem : List Char := ['\n', ' ', ' ', ' ', '*', ' ']

/-- What stands behind the last one. -/
def lineEnd : List Char := ['\n', ' ', ' ', ' ', '*', '/', '\n', ' ', ' ']

theorem exists_feed (lines : List (List Char)) (rest : List Char) :
    ∃ behind, lines.flatMap (lineStem ++ ·) ++ (lineEnd ++ rest) = '\n' :: behind := by
  cases lines with
  | nil => exact ⟨_, rfl⟩
  | cons line lines => exact ⟨_, rfl⟩

/-- The lines of a comment can be told from the text behind it. -/
theorem lines_unique {lines lines' : List (List Char)} {rest rest' : List Char}
    (oneLine : ∀ line ∈ lines, '\n' ∉ line) (oneLineToo : ∀ line ∈ lines', '\n' ∉ line)
    (same : lines.flatMap (lineStem ++ ·) ++ (lineEnd ++ rest) =
      lines'.flatMap (lineStem ++ ·) ++ (lineEnd ++ rest')) : lines = lines' ∧ rest = rest' := by
  induction lines generalizing lines' with
  | nil =>
      cases lines' with
      | nil => exact ⟨rfl, List.append_cancel_left same⟩
      | cons line' lines' => simp [lineStem, lineEnd] at same
  | cons line lines inductionHypothesis =>
      cases lines' with
      | nil => simp [lineStem, lineEnd] at same
      | cons line' lines' =>
          obtain ⟨here, others⟩ := List.forall_mem_cons.mp oneLine
          obtain ⟨here', others'⟩ := List.forall_mem_cons.mp oneLineToo
          simp only [List.flatMap_cons, List.append_assoc] at same
          have behindStem := List.append_cancel_left same
          obtain ⟨behind, later⟩ := exists_feed lines rest
          obtain ⟨behind', later'⟩ := exists_feed lines' rest'
          rw [later, later'] at behindStem
          obtain ⟨rfl, behinds⟩ := line_unique here here' behindStem
          obtain ⟨rfl, rests⟩ := inductionHypothesis others others'
            (later.trans ((congrArg ('\n' :: ·) behinds).trans later'.symm))
          exact ⟨rfl, rests⟩

/-- The comment over a property has one line for each line of its description. -/
theorem Label.comment_toList {label : Label} {description : String}
    (described : label.description = some description) :
    label.comment.toList = commentOpening.toList ++
      ((description.toList.splitOn '\n').flatMap (lineStem ++ ·) ++ lineEnd) := by
  have text : label.comment = (Piece.comment 1 description).text ++ ("\n" ++ indentation) := by
    rw [Label.comment, described, Piece.text, ← String.append_assoc]
    rfl
  have stem : ("\n" ++ margin 1 ++ " * ").toList = lineStem := by decide
  have ending : ("\n" ++ margin 1 ++ " ").toList ++ ("*/".toList ++ ("\n" ++ indentation).toList) =
      lineEnd := by
    decide
  rw [text, text_comment, String.toList_append, String.toList_append, String.toList_append,
    commentBody_toList, stem, ← ending]
  simp only [List.append_assoc]

/-- A description can be read off its comment, and the comment ends in one place only. -/
theorem description_unique {label label' : Label} {description description' : String}
    (described : label.description = some description)
    (describedToo : label'.description = some description') {rest rest' : List Char}
    (same : label.comment.toList ++ rest = label'.comment.toList ++ rest') :
    description = description' ∧ rest = rest' := by
  rw [Label.comment_toList described, Label.comment_toList describedToo] at same
  simp only [List.append_assoc] at same
  obtain ⟨lines, rests⟩ := lines_unique (fun _ => newline_not_mem_of_mem_splitOn)
    (fun _ => newline_not_mem_of_mem_splitOn) (List.append_cancel_left same)
  exact ⟨String.toList_injective (splitOn_injective lines), rests⟩

/-- What stands before the colon of a property. -/
def Label.stem (label : Label) : List Char :=
  label.name.toList ++ if label.required then [] else ['?']

theorem Label.stem_oneLine {label : Label} (oneLine : OneLine label.name) : '\n' ∉ label.stem := by
  rw [stem, List.mem_append, not_or]
  refine ⟨oneLine, ?_⟩
  split <;> decide

/-- A required property with a name that ends in the mark of optional ones is written like one. -/
theorem Label.eq_of_stem {label label' : Label}
    (unmarked : label.required = true → label.name.toList.getLast? ≠ some '?')
    (unmarkedToo : label'.required = true → label'.name.toList.getLast? ≠ some '?')
    (descriptions : label.description = label'.description) (stems : label.stem = label'.stem) :
    label = label' := by
  obtain ⟨name, required, description⟩ := label
  obtain ⟨name', required', description'⟩ := label'
  obtain rfl : description = description' := descriptions
  cases required <;> cases required' <;>
    simp only [stem, List.append_nil, Bool.false_eq_true, ↓reduceIte] at stems
  · rw [String.toList_injective (List.append_cancel_right stems)]
  · exact absurd (by rw [← stems]; simp) (unmarkedToo rfl)
  · exact absurd (by rw [stems]; simp) (unmarked rfl)
  · rw [String.toList_injective stems]

/-- The line that opens a comment is no property. -/
theorem Label.stem_ne_comment {label label' : Label} {description : String}
    (oneLine : '\n' ∉ label.stem) (described : label'.description = some description)
    (rest rest' : List Char) :
    label.stem ++ (": ".toList ++ rest) ≠ label'.comment.toList ++ rest' := by
  obtain ⟨behind, feed⟩ := exists_feed (description.toList.splitOn '\n') rest'
  rw [Label.comment_toList described, List.append_assoc, List.append_assoc, feed,
    ← List.append_assoc]
  intro same
  have blank : ' ' ∈ label.stem ++ ": ".toList := List.mem_append_right _ (by decide)
  have noFeed : '\n' ∉ label.stem ++ ": ".toList := by
    rw [List.mem_append, not_or]
    exact ⟨oneLine, by decide⟩
  have opening : ' ' ∉ commentOpening.toList := by decide
  rcases List.append_eq_append_iff.mp same with ⟨more, whole, -⟩ | ⟨more, whole, later⟩
  · rw [whole] at opening
    exact opening (List.mem_append_left _ blank)
  · cases more with
    | nil =>
        rw [whole, List.append_nil] at blank
        exact opening blank
    | cons character more =>
        obtain ⟨rfl, -⟩ := List.cons.inj later
        rw [whole] at noFeed
        exact noFeed (List.mem_append_right _ List.mem_cons_self)

theorem Label.comment_of_undescribed {label : Label} (undescribed : label.description = none) :
    label.comment = "" := by
  rw [comment, undescribed]

/-- The description of a property is known from its text, and where its name begins. -/
theorem Label.description_known {label label' : Label} (oneLine : '\n' ∉ label.stem)
    (oneLineToo : '\n' ∉ label'.stem) {rest rest' : List Char}
    (same : label.comment.toList ++ (label.stem ++ (": ".toList ++ rest)) =
      label'.comment.toList ++ (label'.stem ++ (": ".toList ++ rest'))) :
    label.description = label'.description ∧
      label.stem ++ (": ".toList ++ rest) = label'.stem ++ (": ".toList ++ rest') := by
  cases described : label.description with
  | none =>
      rw [Label.comment_of_undescribed described] at same
      cases describedToo : label'.description with
      | none =>
          rw [Label.comment_of_undescribed describedToo] at same
          exact ⟨rfl, same⟩
      | some description' => exact absurd same (Label.stem_ne_comment oneLine describedToo _ _)
  | some description =>
      cases describedToo : label'.description with
      | none =>
          rw [Label.comment_of_undescribed describedToo] at same
          exact absurd same.symm (Label.stem_ne_comment oneLineToo described _ _)
      | some description' =>
          obtain ⟨rfl, later⟩ := description_unique described describedToo same
          exact ⟨rfl, later⟩

/-- The type of a property with its ending, in the column of the property. -/
def typeLines (semicolons : Bool) (type : TypeExpr) : List Char :=
  (indentRest (type.text semicolons) ++ propertyEnd semicolons).toList

/-- A property as it is written, with the line break behind it. -/
def propertyLines (semicolons : Bool) (property : Label × TypeExpr) (rest : List Char) :
    List Char :=
  (property.1.text ++ indentRest (property.2.text semicolons) ++ propertyEnd semicolons).toList ++
    '\n' :: rest

/-- A property is written in five parts: margin, comment, stem, colon and type. -/
theorem propertyLines_eq (semicolons : Bool) (label : Label) (type : TypeExpr) (rest : List Char) :
    propertyLines semicolons (label, type) rest = indentation.toList ++ (label.comment.toList ++
      (label.stem ++ (": ".toList ++ (typeLines semicolons type ++ '\n' :: rest)))) := by
  obtain ⟨name, required, description⟩ := label
  have optional : "?: ".toList = '?' :: ": ".toList := by decide
  cases required <;>
    simp [propertyLines, Label.text, Label.stem, typeLines, optional]

/-- A property whose name can be told from its marks, and whose type from what follows. -/
structure Legible (property : Label × TypeExpr) : Prop where
  oneLine : OneLine property.1.name
  unmarked : property.1.required = true → property.1.name.toList.getLast? ≠ some '?'
  wordlike : property.2.Wordlike
  labels : ∀ label ∈ property.2.outerLabels, OneLine label.name

namespace Legible

variable {property property' : Label × TypeExpr}

/-- The first line of a legible type is closed. -/
theorem typeLines_quoted (legible : Legible property) (semicolons : Bool) :
    Quoted (typeLines semicolons property.2) := by
  have ending : Quoted (propertyEnd semicolons).toList := by
    cases semicolons <;> exact .of_plain (by decide)
  have type := text_quoted semicolons property.2 legible.wordlike
  rw [typeLines, String.toList_append, indentRest, String.toList_ofList]
  refine Quoted.append ?_ ending
  rw [Quoted, Quotation.read_flatMap_indentChar]
  exact type

/-- The blocks of a legible type are closed. -/
theorem typeLines_closed (legible : Legible property) (semicolons : Bool) :
    Block.closed.read (typeLines semicolons property.2) = some .closed := by
  have type := text_whole semicolons property.2 legible.wordlike legible.labels
  rw [typeLines, String.toList_append, indentRest, String.toList_ofList, Block.read_append, type]
  cases semicolons <;> rfl

end Legible

/-- A property that can be read is known from the text that begins with it. -/
theorem property_unique {semicolons : Bool} {property property' : Label × TypeExpr}
    (legible : Legible property) (legibleToo : Legible property') {rest rest' : List Char}
    (same : propertyLines semicolons property rest = propertyLines semicolons property' rest') :
    property.1 = property'.1 ∧ property.2.text semicolons = property'.2.text semicolons ∧
      rest = rest' := by
  have oneLine := Label.stem_oneLine legible.oneLine
  have oneLineToo := Label.stem_oneLine legibleToo.oneLine
  have quoted := legible.typeLines_quoted semicolons
  have quotedToo := legibleToo.typeLines_quoted semicolons
  have closed := legible.typeLines_closed semicolons
  have closedToo := legibleToo.typeLines_closed semicolons
  have labels := @Label.eq_of_stem _ _ legible.unmarked legibleToo.unmarked
  obtain ⟨label, type⟩ := property
  obtain ⟨label', type'⟩ := property'
  rw [propertyLines_eq, propertyLines_eq] at same
  obtain ⟨descriptions, stemmed⟩ :=
    Label.description_known oneLine oneLineToo (List.append_cancel_left same)
  obtain ⟨stems, typed⟩ := quoted.stem_unique quotedToo oneLine oneLineToo stemmed
  obtain ⟨types, rests⟩ := Block.text_unique closed closedToo typed
  refine ⟨labels descriptions stems, ?_, rests⟩
  simp only [typeLines, String.toList_append, indentRest, String.toList_ofList] at types
  exact String.toList_injective (flatMap_indentChar_injective (List.append_cancel_right types))

/-- The properties of an object as they are written, each with a line break, and the last brace. -/
def objectLines (semicolons : Bool) : List (Label × TypeExpr) → List Char
  | [] => ['\x7d']
  | property :: properties => propertyLines semicolons property (objectLines semicolons properties)

/-- Objects with the same lines have the same properties, one by one. -/
theorem objectLines_unique {semicolons : Bool} {properties properties' : List (Label × TypeExpr)}
    (legible : ∀ property ∈ properties, Legible property)
    (legibleToo : ∀ property ∈ properties', Legible property)
    (same : objectLines semicolons properties = objectLines semicolons properties') :
    List.Forall₂ (fun property property' => property.1 = property'.1 ∧
      property.2.text semicolons = property'.2.text semicolons) properties properties' := by
  induction properties generalizing properties' with
  | nil =>
      cases properties' with
      | nil => exact .nil
      | cons property' properties' =>
          rw [objectLines, objectLines, propertyLines_eq] at same
          cases same
  | cons property properties inductionHypothesis =>
      cases properties' with
      | nil =>
          rw [objectLines, objectLines, propertyLines_eq] at same
          cases same
      | cons property' properties' =>
          obtain ⟨here, others⟩ := List.forall_mem_cons.mp legible
          obtain ⟨here', others'⟩ := List.forall_mem_cons.mp legibleToo
          obtain ⟨labels, types, rest⟩ := property_unique here here' same
          exact .cons ⟨labels, types⟩ (inductionHypothesis others others' rest)

theorem text_object_toList (semicolons : Bool) {properties : List (Label × TypeExpr)}
    (nonempty : properties ≠ []) :
    ((TypeExpr.object properties).text semicolons).toList =
      '\x7b' :: '\n' :: objectLines semicolons properties := by
  have lines : (String.intercalate "\n" (propertyTexts semicolons properties)).toList ++
      ['\n', '\x7d'] = objectLines semicolons properties := by
    induction properties with
    | nil => exact absurd rfl nonempty
    | cons property properties inductionHypothesis =>
        obtain ⟨label, type⟩ := property
        cases properties with
        | nil => rw [propertyTexts, propertyTexts, String.intercalate_singleton]; rfl
        | cons other properties =>
            have later := inductionHypothesis (List.cons_ne_nil _ _)
            rw [propertyTexts] at later ⊢
            rw [propertyTexts, String.intercalate_cons_cons, objectLines, ← later, propertyLines]
            simp
  rw [TypeExpr.text, objectText, String.toList_append, String.toList_append, ← lines]
  simp

/-- The line of the first property is not empty. -/
theorem text_object_ne_empty (semicolons : Bool) (property : Label × TypeExpr)
    (properties : List (Label × TypeExpr)) :
    (TypeExpr.object (property :: properties)).text semicolons ≠
      (TypeExpr.object []).text semicolons := by
  intro same
  have characters := congrArg String.toList same
  rw [text_object_toList semicolons (List.cons_ne_nil _ _), objectLines, propertyLines_eq]
    at characters
  simp [TypeExpr.text, objectText, propertyTexts, indentation] at characters

/-- Objects with the same text have the same properties, one by one. -/
theorem object_unique {semicolons : Bool} {properties properties' : List (Label × TypeExpr)}
    (legible : ∀ property ∈ properties, Legible property)
    (legibleToo : ∀ property ∈ properties', Legible property)
    (same : (TypeExpr.object properties).text semicolons =
      (TypeExpr.object properties').text semicolons) :
    List.Forall₂ (fun property property' => property.1 = property'.1 ∧
      property.2.text semicolons = property'.2.text semicolons) properties properties' := by
  cases properties with
  | nil =>
      cases properties' with
      | nil => exact .nil
      | cons property' properties' => exact absurd same.symm (text_object_ne_empty _ _ _)
  | cons property properties =>
      cases properties' with
      | nil => exact absurd same (text_object_ne_empty _ _ _)
      | cons property' properties' =>
          have characters := congrArg String.toList same
          rw [text_object_toList semicolons (List.cons_ne_nil _ _),
            text_object_toList semicolons (List.cons_ne_nil _ _)] at characters
          exact objectLines_unique legible legibleToo
            (List.cons.inj (List.cons.inj characters).2).2

end TypeScript

namespace Model

open TypeScript

variable {model : Model}

/-- The names in a type are names of types. -/
theorem inlineType_wordlike
    (refers : ∀ node name, (model.node node).shape = .reference name →
      ∃ text, name = Identifier.ofName text) (fuel : Nat) (node : NodeId) :
    (model.inlineType fuel node).Wordlike := by
  induction fuel generalizing node with
  | zero => exact nofun
  | succ fuel inductionHypothesis =>
      intro text member character inside
      rw [inlineType] at member
      cases named : (model.node node).id with
      | some id =>
          rw [named] at member
          rw [List.mem_singleton.mp member] at inside
          exact Identifier.isWordlike_of_mem_ofName inside
      | none =>
          rw [named] at member
          have nonempty : text ≠ "" := by
            rintro rfl
            cases inside
          rcases mem_names_shapeType nonempty member with shape | ⟨part, -, here⟩
          · obtain ⟨name, rfl⟩ := refers node text shape
            exact Identifier.isWordlike_of_mem_ofName inside
          · exact inductionHypothesis part text here character inside

end Model

namespace Compilation

open TypeScript

/-- Nothing in the names of the properties separates properties or marks an optional one. Names in
the types of properties matter only down to the first interface in them. -/
structure Legible (compilation : Compilation) (properties : List Property) : Prop where
  oneLine : ∀ property ∈ properties, OneLine property.name
  unmarked : ∀ property ∈ properties, property.required = true →
    property.name.toList.getLast? ≠ some '?'
  labels : ∀ property ∈ properties,
    ∀ label ∈ (compilation.model.typeOf property.type).outerLabels, OneLine label.name

variable {context context' : Context} {document document' : Json}
  {sourcePath sourcePath' : Option Path} {compilation compilation' : Compilation}

/-- Legible properties of a finished compilation are written legibly. -/
theorem Legible.property (built : build context document sourcePath = .ok compilation)
    {properties : List Property} (legible : compilation.Legible properties) :
    ∀ property ∈ properties.map fun property =>
        (compilation.model.label property, compilation.model.typeOf property.type),
      TypeScript.Legible property := by
  rw [List.forall_mem_map]
  intro property member
  exact ⟨legible.oneLine property member, legible.unmarked property member,
    Model.inlineType_wordlike (refersByName built) _ _, legible.labels property member⟩

/-- Interfaces with the same text have the same properties in the same order. -/
theorem interface_unique (built : build context document sourcePath = .ok compilation)
    (builtToo : build context' document' sourcePath' = .ok compilation') {node node' : NodeId}
    {properties properties' : List Property}
    (shape : (compilation.model.node node).shape = .interface properties)
    (shapeToo : (compilation'.model.node node').shape = .interface properties')
    (legible : compilation.Legible properties) (legibleToo : compilation'.Legible properties')
    (semicolons : Bool)
    (same : (compilation.model.definedType node).text semicolons =
      (compilation'.model.definedType node').text semicolons) :
    List.Forall₂ (fun property property' =>
        property.name = property'.name ∧ property.required = property'.required ∧
          (compilation.model.node property.type).description =
            (compilation'.model.node property'.type).description ∧
          (compilation.model.typeOf property.type).text semicolons =
            (compilation'.model.typeOf property'.type).text semicolons)
      properties properties' := by
  rw [Model.definedType, Model.definedType, shape, shapeToo] at same
  have related := object_unique (legible.property built) (legibleToo.property builtToo) same
  rw [List.forall₂_map_left_iff, List.forall₂_map_right_iff] at related
  refine related.imp fun property property' => ?_
  rintro ⟨labels, types⟩
  obtain ⟨names, required, descriptions⟩ := Label.mk.inj labels
  exact ⟨names, required, descriptions, types⟩

instance (compilation : Compilation) (properties : List Property) :
    Decidable (compilation.Legible properties) :=
  decidable_of_iff
    ((∀ property ∈ properties, OneLine property.name) ∧
      (∀ property ∈ properties, property.required = true →
        property.name.toList.getLast? ≠ some '?') ∧
      ∀ property ∈ properties,
        ∀ label ∈ (compilation.model.typeOf property.type).outerLabels, OneLine label.name)
    ⟨fun ⟨oneLine, unmarked, labels⟩ => ⟨oneLine, unmarked, labels⟩,
      fun ⟨oneLine, unmarked, labels⟩ => ⟨oneLine, unmarked, labels⟩⟩

/-- A name with a colon, a description with the end of a comment, and a nested interface. -/
def trickyObject (title : String) (additional : Json) : Json :=
  .object [("title", .string title), ("additionalProperties", additional),
    ("required", .array [.string "at: b"]),
    ("properties", .object [
      ("at: b", .object [("type", .string "string"), ("description", .string "one\n */")]),
      ("c", .object [("properties", .object [("d", .object [("type", .string "number")])])])])]

/-- Two documents for one interface whose names and comments try to mislead a reader. -/
theorem interface_unique_trickyObject :
    ∃ compilation compilation' properties properties',
      build ⟨{}, .ofFiles []⟩ (trickyObject "First" (.bool true)) none = .ok compilation ∧
        build ⟨{}, .ofFiles []⟩ (trickyObject "Second" (.object [])) none = .ok compilation' ∧
        (compilation.model.node compilation.root).shape = .interface properties ∧
        (compilation'.model.node compilation'.root).shape = .interface properties' ∧
        compilation.Legible properties ∧ compilation'.Legible properties' ∧
        (compilation.model.definedType compilation.root).text true =
          (compilation'.model.definedType compilation'.root).text true ∧
        List.Forall₂ (fun property property' =>
            property.name = property'.name ∧ property.required = property'.required ∧
              (compilation.model.node property.type).description =
                (compilation'.model.node property'.type).description ∧
              (compilation.model.typeOf property.type).text true =
                (compilation'.model.typeOf property'.type).text true)
          properties properties' := by
  let properties : List Property := [⟨"at: b", true, 0⟩, ⟨"c", false, 3⟩, ⟨"[k: string]", true, 4⟩]
  let text := "\x7b\n  /**\n   * one\n   *  */\n   */\n  at: b: string;\n  c?: \x7b\n" ++
    "    d?: number;\n    [k: string]: any;\n  \x7d;\n  [k: string]: any;\n\x7d"
  let check (compilation : Compilation) : Bool :=
    decide ((compilation.model.node compilation.root).shape = .interface properties ∧
      compilation.Legible properties ∧
      (compilation.model.definedType compilation.root).text true = text)
  obtain ⟨compilation, built, checked⟩ := exists_ok
    (show (build ⟨{}, .ofFiles []⟩ (trickyObject "First" (.bool true)) none).toOption.any check =
      true by decide +kernel)
  obtain ⟨compilation', builtToo, checkedToo⟩ := exists_ok
    (show (build ⟨{}, .ofFiles []⟩ (trickyObject "Second" (.object [])) none).toOption.any check =
      true by decide +kernel)
  obtain ⟨shape, legible, written⟩ := of_decide_eq_true checked
  obtain ⟨shapeToo, legibleToo, writtenToo⟩ := of_decide_eq_true checkedToo
  have same := written.trans writtenToo.symm
  exact ⟨compilation, compilation', properties, properties, built, builtToo, shape, shapeToo,
    legible, legibleToo, same,
    interface_unique built builtToo shape shapeToo legible legibleToo true same⟩

/-- An object whose properties are all required and that has no others. -/
def closedObject (fields : List (String × Json)) : Json :=
  .object [("properties", .object fields), ("required", .array (fields.map (.string ·.1))),
    ("additionalProperties", .bool false)]

def stringField (name : String) : String × Json := (name, .object [("type", .string "string")])

/-- The interface that a document is compiled to has the given properties and text. -/
def Writes (document : Json) (properties : List Property) (text : String) : Prop :=
  ∃ compilation, build ⟨{}, .ofFiles []⟩ document none = .ok compilation ∧
    (compilation.model.node compilation.root).shape = .interface properties ∧
    (compilation.model.definedType compilation.root).text true = text

/-- A decided check of a build shows what is written. -/
theorem writes_of_check {document : Json} {properties : List Property} {text : String}
    (checked : (build ⟨{}, .ofFiles []⟩ document none).toOption.any (fun compilation =>
      decide ((compilation.model.node compilation.root).shape = .interface properties ∧
        (compilation.model.definedType compilation.root).text true = text)) = true) :
    Writes document properties text := by
  obtain ⟨compilation, built, checked⟩ := exists_ok checked
  exact ⟨compilation, built, of_decide_eq_true checked⟩

/-- A required name with the mark of optional ones, and line feeds in a name and in the name of a
property of a nested interface. -/
theorem interface_ambiguous :
    (Writes (closedObject [stringField "a?"]) [⟨"a?", true, 0⟩] "\x7b\n  a?: string;\n\x7d" ∧
      Writes (.object [("properties", .object [stringField "a"]),
        ("additionalProperties", .bool false)]) [⟨"a", false, 0⟩]
        "\x7b\n  a?: string;\n\x7d") ∧
    (Writes (closedObject [stringField "a: string;\n  b"]) [⟨"a: string;\n  b", true, 0⟩]
        "\x7b\n  a: string;\n  b: string;\n\x7d" ∧
      Writes (closedObject [stringField "a", stringField "b"]) [⟨"a", true, 0⟩, ⟨"b", true, 1⟩]
        "\x7b\n  a: string;\n  b: string;\n\x7d") ∧
    (Writes (closedObject [("x", closedObject [stringField "p: string;\n\x7d;\ny: \x7b\n  q"])])
        [⟨"x", true, 1⟩]
        "\x7b\n  x: \x7b\n    p: string;\n  \x7d;\n  y: \x7b\n    q: string;\n  \x7d;\n\x7d" ∧
      Writes (closedObject [("x", closedObject [stringField "p"]),
          ("y", closedObject [stringField "q"])])
        [⟨"x", true, 1⟩, ⟨"y", true, 3⟩]
        "\x7b\n  x: \x7b\n    p: string;\n  \x7d;\n  y: \x7b\n    q: string;\n  \x7d;\n\x7d") := by
  refine ⟨⟨?_, ?_⟩, ⟨?_, ?_⟩, ?_, ?_⟩
  all_goals exact writes_of_check (by decide +kernel)

end Compilation
end SchemaTypes
