/-
This file shows that types are written to the right of the column in which declarations begin. Main
statement: no line of a type but its first begins a declaration, however deep its parts are.
-/
import SchemaTypes.Proofs.Names.Spelling
import SchemaTypes.Proofs.Output.Literals
import SchemaTypes.TypeScript.Unfolding

namespace SchemaTypes

open Text

/-- A text on one line has no later line. -/
theorem Text.OneLine.hangs {text : String} (oneLine : OneLine text) : Hangs text.toList :=
  .of_not_mem oneLine

/-- What stands below a text on a line of its own: an indented part, or a bracket. -/
theorem Text.OneLine.hangsBelow {text : String} (oneLine : OneLine text) {start : Char}
    (begins : text.toList.head? = some start) (other : start ≠ 'e') : Hangs ("\n" ++ text).toList :=
  oneLine.hangs.onNextLine begins other

theorem Text.indentation_hangs : Hangs ("\n" ++ indentation).toList :=
  (show OneLine indentation by decide).hangsBelow rfl (by decide)

theorem Text.closing_hangs : Hangs ("\n" ++ "\x7d").toList :=
  (show OneLine "\x7d" by decide).hangsBelow rfl (by decide)

/-- The names that the parts of a shape have in the schema, which are written as they are. -/
def Shape.labels : Shape → List String
  | .namedEnum members => members.map EnumMember.identifier
  | .interface properties => properties.map Property.name
  | _ => []

namespace TypeScript

theorem memberTexts_eq_map (semicolons : Bool) (members : List TypeExpr) :
    memberTexts semicolons members = members.map (TypeExpr.text semicolons) := by
  induction members with
  | nil => rfl
  | cons member members inductionHypothesis => rw [memberTexts, inductionHypothesis, List.map_cons]

theorem propertyTexts_eq_map (semicolons : Bool) (properties : List (Label × TypeExpr)) :
    propertyTexts semicolons properties = properties.map fun property =>
      property.1.text ++ indentRest (property.2.text semicolons) ++ propertyEnd semicolons := by
  induction properties with
  | nil => rfl
  | cons property properties inductionHypothesis =>
      rw [propertyTexts, inductionHypothesis, List.map_cons]

/-- A line of a description cannot begin anything, since it follows the stem of the comment. -/
theorem commentLines_oneLine (description : String) :
    ∀ line ∈ commentLines description, OneLine line ∧ isExport line = false := by
  intro line member
  rcases List.mem_append.mp member with inside | last
  · rcases List.mem_cons.mp inside with rfl | inside
    · decide
    · obtain ⟨text, listed, rfl⟩ := List.mem_map.mp inside
      exact ⟨.append (by decide) (oneLine_of_mem_lines listed),
        by simp [isExport, exportWord, List.isPrefixOf]⟩
  · rw [List.mem_singleton.mp last]
    decide

/-- A comment before a declaration begins no declaration. -/
theorem exportLines_blockComment (description : Option String) (text : String) :
    exportLines (blockComment description ++ text) = exportLines text := by
  cases description with
  | none => exact congrArg exportLines String.empty_append
  | some description =>
      have comment : (commentLines description).flatMap exportLines = [] :=
        List.flatMap_eq_nil_iff.mpr fun line member =>
          exportLines_eq_nil (commentLines_oneLine description line member).1
            (commentLines_oneLine description line member).2
      rw [blockComment, exportLines_append, exportLines_intercalate, comment, List.nil_append]

/-- A property begins no declaration, whatever its description is. -/
theorem Label.text_hangs {label : Label} (oneLine : OneLine label.name) :
    Hangs label.text.toList := by
  have comment : Hangs label.comment.toList := by
    unfold Label.comment
    cases label.description with
    | none => exact .nil
    | some description =>
        dsimp only
        rw [String.append_assoc, String.toList_append]
        exact (Hangs.intercalate indentation_hangs fun line member =>
          (commentLines_oneLine description line member).1.hangs).append indentation_hangs
  have optional : OneLine (if label.required = true then ": " else "?: ") := by
    split <;> decide
  simp only [Label.text, String.toList_append]
  exact (((show OneLine indentation by decide).hangs.append comment).append oneLine.hangs).append
    optional.hangs

/-- The brackets of an array begin no line. -/
theorem arrayText_hangs {element : String} (hangs : Hangs element.toList) :
    Hangs (arrayText element).toList := by
  unfold arrayText
  split
  · simp only [String.toList_append]
    exact ((show OneLine "(" by decide).hangs.append hangs).append
      (show OneLine ")[]" by decide).hangs
  · rw [String.toList_append]
    exact hangs.append (show OneLine "[]" by decide).hangs

/-- Every property is written on lines of its own, the first of which is indented as well. -/
theorem exists_objectText {properties : List String}
    (each : ∀ property ∈ properties, Hangs property.toList ∧ property.toList.head? = some ' ') :
    ∃ rest, objectText properties = "\x7b" ++ rest ∧ Hangs rest.toList := by
  have text : objectText properties =
      "\x7b" ++ (("\n" ++ String.intercalate "\n" properties) ++ ("\n" ++ "\x7d")) := by
    change ("\x7b" ++ "\n") ++ String.intercalate "\n" properties ++ ("\n" ++ "\x7d") = _
    simp only [String.append_assoc]
  refine ⟨_, text, ?_⟩
  by_cases empty : properties = []
  · subst empty
    exact closing_hangs.onNextLine rfl (by decide)
  · have inside := Hangs.stacked empty fun property member =>
      (each property member).1.onNextLine (each property member).2 (by decide)
    rw [String.toList_append]
    exact inside.append closing_hangs

/-- The properties of an object are indented, so they begin no declaration. -/
theorem objectText_hangs {properties : List String}
    (each : ∀ property ∈ properties, Hangs property.toList ∧ property.toList.head? = some ' ') :
    Hangs (objectText properties).toList := by
  obtain ⟨rest, text, hangs⟩ := exists_objectText each
  rw [text, String.toList_append]
  exact (show OneLine "\x7b" by decide).hangs.append hangs

/-- A member of an enum stands on one line if its name does. -/
theorem memberText_oneLine {member : EnumMember} (oneLine : OneLine member.identifier) :
    OneLine (memberText member) := by
  unfold memberText
  split
  · exact oneLine
  · exact oneLine
  · exact (oneLine.append (by decide)).append (Json.compact_oneLine _)

end TypeScript

namespace Model

open TypeScript

variable {model : Model} {semicolons : Bool}

/-- The properties of an interface are written to the right of its own column, with all lines of
their types. -/
theorem propertyTexts_hang (child : NodeId → TypeExpr) {properties : List Property}
    (labels : ∀ property ∈ properties, OneLine property.name) :
    ∀ text ∈ propertyTexts semicolons
        (properties.map fun property => (model.label property, child property.type)),
      Hangs text.toList ∧ text.toList.head? = some ' ' := by
  rw [propertyTexts_eq_map, List.map_map, List.forall_mem_map]
  intro property member
  have ending : OneLine (propertyEnd semicolons) := by
    unfold propertyEnd
    split <;> decide
  have label : Hangs (model.label property).text.toList := Label.text_hangs (labels property member)
  simp only [Function.comp_apply, String.toList_append]
  refine ⟨(label.append (indentRest_hangs _)).append ending.hangs, ?_⟩
  simp [Label.text, indentation]

/-- The type of a shape hangs if its children do, and its names stand on one line each. -/
theorem shapeType_hangs {child : NodeId → TypeExpr} {shape : Shape}
    (children : ∀ node, Hangs ((child node).text semicolons).toList)
    (labels : ∀ label ∈ shape.labels, OneLine label)
    (refers : ∀ name, shape = .reference name → OneLine name) :
    Hangs ((model.shapeType child shape).text semicolons).toList := by
  have joined (members : List NodeId) {separator : String} (oneLine : OneLine separator) :
      Hangs (String.intercalate separator (memberTexts semicolons (members.map child))).toList := by
    rw [memberTexts_eq_map, List.map_map]
    exact .intercalate oneLine.hangs (List.forall_mem_map.mpr fun member _ => children member)
  cases shape with
  | any => exact (show OneLine "any" by decide).hangs
  | primitive kind =>
      have oneLine : ∀ kind, OneLine (Keyword.primitive kind).text := by
        rintro ⟨⟩ <;> decide
      exact (oneLine kind).hangs
  | literal value => exact (Json.compact_oneLine value).hangs
  | array element => exact arrayText_hangs (children element)
  | union members => exact joined members (by decide)
  | intersection members => exact joined _ (by decide)
  | reference name => exact (refers name rfl).hangs
  | namedEnum members => exact .nil
  | interface properties =>
      exact objectText_hangs (propertyTexts_hang child (List.forall_mem_map.mp labels))

/-- A type in another type is a name, or it is written like its shape. -/
theorem inlineType_hangs
    (labels : ∀ node, ∀ label ∈ (model.node node).shape.labels, OneLine label)
    (refers : ∀ node name, (model.node node).shape = .reference name → OneLine name)
    (fuel : Nat) (node : NodeId) : Hangs ((model.inlineType fuel node).text semicolons).toList := by
  induction fuel generalizing node with
  | zero => exact (show OneLine "any" by decide).hangs
  | succ fuel inductionHypothesis =>
      unfold inlineType
      split
      · exact .of_not_mem (Identifier.newline_not_mem_ofName _)
      · exact shapeType_hangs inductionHypothesis (labels node) (refers node)

end Model

/-- What a declaration of a node with this shape begins with. -/
def Shape.opening (settings : Settings) (name : String) : Shape → String
  | .namedEnum _ =>
    (if settings.useConstEnums then "export const enum " else "export enum ") ++ name ++ " \x7b"
  | .interface _ => "export interface " ++ name ++ " \x7b"
  | _ => "export type " ++ name ++ " = "

/-- Every declaration begins with a line that says so. -/
theorem Shape.opening_begins (settings : Settings) {name : String} (oneLine : OneLine name)
    (shape : Shape) :
    OneLine (shape.opening settings name) ∧ isExport (shape.opening settings name) = true := by
  have whole {words ending : String} (known : OneLine words ∧ isExport words = true)
      (closed : OneLine ending) :
      OneLine (words ++ name ++ ending) ∧ isExport (words ++ name ++ ending) = true :=
    ⟨(known.1.append oneLine).append closed, isExport_append (isExport_append known.2 _) _⟩
  cases shape with
  | namedEnum members => exact whole (by split <;> decide) (by decide)
  | interface properties => exact whole (by decide) (by decide)
  | _ => exact @whole "export type " _ (by decide) (by decide)

end SchemaTypes
