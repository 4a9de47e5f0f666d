/-
This file cuts the output back into its declarations. Main statement: the lines that begin
declarations are one for each node that is written, in the same order, and each line has the opening
of its node.
-/
import SchemaTypes.Proofs.Names.Printed
import SchemaTypes.Proofs.Names.Referred
import SchemaTypes.Proofs.Output.Hanging

namespace SchemaTypes

open Text TypeScript

namespace TypeScript.Declaration

variable (settings : Settings) (name : String)

/-- An enum begins with its opening, and what follows it hangs below. -/
theorem exists_definitionText_enum {members : List EnumMember}
    (labels : ∀ member ∈ members, OneLine member.identifier) :
    ∃ rest, definitionText settings name (.enum members) =
      (Shape.namedEnum members).opening settings name ++ rest ∧ Hangs rest.toList := by
  let body := String.intercalate (",\n" ++ indentation) (members.map memberText)
  have words : "export " ++ enumKeyword settings ++ " " =
      if settings.useConstEnums then "export const enum " else "export enum " := by
    unfold enumKeyword
    split <;> rfl
  refine ⟨("\n" ++ indentation) ++ body ++ ("\n" ++ "\x7d"), ?_, ?_⟩
  · change "export " ++ enumKeyword settings ++ " " ++ name ++ (" \x7b" ++ "\n") ++ indentation ++
      body ++ ("\n" ++ "\x7d") = _ ++ name ++ " \x7b" ++ _
    rw [words]
    simp only [String.append_assoc]
  · have between : Hangs (",\n" ++ indentation).toList := by
      change Hangs ("," ++ ("\n" ++ indentation)).toList
      rw [String.toList_append]
      exact (show OneLine "," by decide).hangs.append indentation_hangs
    have inside : Hangs body.toList :=
      .intercalate between (List.forall_mem_map.mpr fun member listed =>
        (memberText_oneLine (labels member listed)).hangs)
    rw [String.toList_append, String.toList_append]
    exact (indentation_hangs.append inside).append closing_hangs

/-- An interface begins with its opening, and its properties hang below. -/
theorem exists_definitionText_interface {properties : List (Label × TypeExpr)}
    (children : List Property)
    (each : ∀ text ∈ propertyTexts settings.endPropertyWithSemicolon properties,
      Hangs text.toList ∧ text.toList.head? = some ' ') :
    ∃ rest, definitionText settings name (.interface (.object properties)) =
      (Shape.interface children).opening settings name ++ rest ∧ Hangs rest.toList := by
  obtain ⟨rest, text, hangs⟩ := exists_objectText each
  refine ⟨rest, ?_, hangs⟩
  change "export interface " ++ name ++ " " ++ objectText _ =
    "export interface " ++ name ++ (" " ++ "\x7b") ++ rest
  rw [text]
  simp only [String.append_assoc]

/-- An alias begins with its opening, and its type hangs below. -/
theorem exists_definitionText_alias {type : TypeExpr}
    (hangs : Hangs (type.text settings.endPropertyWithSemicolon).toList) :
    ∃ rest, definitionText settings name (.alias type) =
      "export type " ++ name ++ " = " ++ rest ∧ Hangs rest.toList := by
  have ending : OneLine (if settings.endTypeWithSemicolon then ";" else "") := by
    split <;> decide
  refine ⟨_, String.append_assoc .., ?_⟩
  rw [String.toList_append]
  exact hangs.append ending.hangs

end TypeScript.Declaration

namespace Model

variable {model : Model}

/-- What is written for a node has the opening that its shape asks for, and the rest hangs. -/
theorem exists_definitionText
    (labels : ∀ node, ∀ label ∈ (model.node node).shape.labels, OneLine label)
    (refers : ∀ node name, (model.node node).shape = .reference name → OneLine name)
    (settings : Settings) (name : String) (node : NodeId) :
    ∃ rest, Declaration.definitionText settings name (model.declaration node).definition =
      (model.node node).shape.opening settings name ++ rest ∧ Hangs rest.toList := by
  have children (node : NodeId) :
      Hangs ((model.typeOf node).text settings.endPropertyWithSemicolon).toList :=
    inlineType_hangs labels refers _ node
  have type : Hangs ((model.shapeType model.typeOf (model.node node).shape).text
      settings.endPropertyWithSemicolon).toList :=
    shapeType_hangs children (labels node) (refers node)
  have own := labels node
  unfold declaration definedType
  dsimp only
  cases shape : (model.node node).shape with
  | namedEnum members =>
      rw [shape, Shape.labels, List.forall_mem_map] at own
      exact Declaration.exists_definitionText_enum settings name own
  | interface properties =>
      rw [shape, Shape.labels, List.forall_mem_map] at own
      exact Declaration.exists_definitionText_interface settings name properties
        (propertyTexts_hang model.typeOf own)
  | _ =>
      rw [shape] at type
      exact Declaration.exists_definitionText_alias settings name type

/-- Neither the comment before a definition nor the lines below its first begin a declaration. -/
theorem exportLines_declaration
    (labels : ∀ node, ∀ label ∈ (model.node node).shape.labels, OneLine label)
    (refers : ∀ node name, (model.node node).shape = .reference name → OneLine name)
    (settings : Settings) {node : NodeId} {id : String} (named : (model.node node).id = some id) :
    ∃ rest, exportLines ((model.declaration node).text settings) =
      [(model.node node).shape.opening settings (Identifier.ofName id) ++ rest] := by
  have name : (model.declaration node).name = Identifier.ofName id := by
    change model.declaredName node = _
    rw [declaredName, named]
  obtain ⟨rest, text, hangs⟩ :=
    exists_definitionText labels refers settings (Identifier.ofName id) node
  obtain ⟨oneLine, begins⟩ := Shape.opening_begins settings
    (Identifier.newline_not_mem_ofName id) (model.node node).shape
  rw [Declaration.text, exportLines_blockComment, name, text]
  exact exportLines_opening oneLine begins hangs

end Model

namespace Compilation

variable {context : Context} {document : Json} {sourcePath : Option Path}
  {compilation : Compilation}

/-- The lines that begin a declaration are one for each node that is written, in the same order, and
each line has the opening of its node, whatever the descriptions and the literals are. -/
theorem exportLines_text (built : build context document sourcePath = .ok compilation)
    (labels : ∀ node, ∀ label ∈ (compilation.model.node node).shape.labels, OneLine label) :
    List.Forall₂ (fun line node => ∃ id rest, (compilation.model.node node).id = some id ∧
        line = (compilation.model.node node).shape.opening context.settings
          (Identifier.ofName id) ++ rest)
      (exportLines compilation.text) compilation.emissionOrder := by
  have refers (node : NodeId) (name : String)
      (shape : (compilation.model.node node).shape = .reference name) : OneLine name := by
    obtain ⟨text, rfl⟩ := refersByName built node name shape
    exact Identifier.newline_not_mem_ofName text
  have settings : compilation.settings = context.settings := by
    unfold build at built
    split at built
    · cases built
    · cases built
      rfl
  have named : ∀ node ∈ compilation.emissionOrder,
      ∃ id, (compilation.model.node node).id = some id := fun node emitted =>
    exists_id built emitted
  rw [text, Declarations.text, exportLines_intercalate, settings]
  change List.Forall₂ _ ((compilation.emissionOrder.map _).flatMap _) _
  generalize compilation.emissionOrder = nodes at named ⊢
  induction nodes with
  | nil => exact .nil
  | cons node nodes inductionHypothesis =>
      obtain ⟨⟨id, here⟩, others⟩ := List.forall_mem_cons.mp named
      obtain ⟨rest, line⟩ := Model.exportLines_declaration labels refers context.settings here
      rw [List.map_cons, List.flatMap_cons, line]
      exact .cons ⟨id, rest, here, rfl⟩ (inductionHypothesis others)

/-- Descriptions, a title and literals that have lines of their own which look like declarations. -/
def deceptive : Json :=
  .object [
    ("title", .string "report\nexport"),
    ("description", .string "first\nexport type Fake = any"),
    ("properties", .object [
      ("kind", .object [
        ("enum", .array [.string "a\nexport ", .string "b"]),
        ("tsEnumNames", .array [.string "First", .string "Second"])]),
      ("rows", .object [
        ("type", .string "array"),
        ("items", .object [("properties", .object [
          ("text", .object [("description", .string "export \nexport enum Fake \x7b")])])])]),
      ("mark", .object [("$ref", .string "#/definitions/mark")])]),
    ("definitions", .object [("mark", .object [("enum", .array [.string "\nexport ", .null])])])]

/-- Three declarations whose descriptions and literals look like more of them. -/
theorem exportLines_text_deceptive :
    ∃ compilation, build ⟨{}, .ofFiles []⟩ deceptive none = .ok compilation ∧
      (∀ node, ∀ label ∈ (compilation.model.node node).shape.labels, OneLine label) ∧
      compilation.emissionOrder.map (fun node => (compilation.model.node node).id) =
        [some "kind", some "mark", some "report\nexport"] ∧
      (exportLines compilation.text).length = 3 ∧
      List.Forall₂ (fun line node => ∃ id rest, (compilation.model.node node).id = some id ∧
          line = (compilation.model.node node).shape.opening {} (Identifier.ofName id) ++ rest)
        (exportLines compilation.text) compilation.emissionOrder := by
  obtain ⟨compilation, built, evaluated⟩ := exists_ok
    (show (build ⟨{}, .ofFiles []⟩ deceptive none).toOption.any (fun compilation =>
      (compilation.model.nodes.all fun node =>
          decide (∀ label ∈ node.shape.labels, OneLine label)) &&
        decide (compilation.emissionOrder.map (fun node => (compilation.model.node node).id) =
          [some "kind", some "mark", some "report\nexport"])) = true by decide +kernel)
  obtain ⟨all, listed⟩ := Bool.and_eq_true_iff.mp evaluated
  have ids := of_decide_eq_true listed
  have labels (node : NodeId) :
      ∀ label ∈ (compilation.model.node node).shape.labels, OneLine label := by
    by_cases known : node < compilation.model.nodes.size
    · have here := of_decide_eq_true (Array.all_eq_true.mp all node known)
      simpa [Model.node, known] using here
    · rw [Model.shape_of_size_le (Nat.le_of_not_lt known)]
      intro label member
      cases member
  have openings := exportLines_text built labels
  have three : (exportLines compilation.text).length = 3 :=
    openings.length_eq.trans (by simpa using congrArg List.length ids)
  exact ⟨compilation, built, labels, ids, three, openings⟩

end Compilation
end SchemaTypes
