/-
This file cuts the output into its comments and the text between them. Main statements: the pieces
make up the output, and the comments among them are those of the descriptions, in the same order.
-/
import SchemaTypes.Compilation.Result
import SchemaTypes.Proofs.Output.Hanging

namespace SchemaTypes

open Text

/-- Texts are indented part by part. -/
theorem Text.indentRest_append (first second : String) :
    indentRest (first ++ second) = indentRest first ++ indentRest second := by
  rw [indentRest, String.toList_append, List.flatMap_append, String.ofList_append]
  rfl

theorem Text.flatMap_indentChar {text : List Char} (oneLine : '\n' ∉ text) :
    text.flatMap indentChar = text := by
  have same : text.flatMap indentChar = text.flatMap fun character => [character] :=
    List.flatMap_congr fun character member => if_neg (by rintro rfl; exact oneLine member)
  rw [same, List.flatMap_singleton']

theorem Text.indentRest_oneLine {text : String} (oneLine : OneLine text) :
    indentRest text = text := by
  rw [indentRest, flatMap_indentChar oneLine, String.ofList_toList]

namespace TypeScript

/-- A comment stands in as many blocks as its depth says. -/
inductive Piece where
  | code (text : String)
  | comment (depth : Nat) (description : String)
deriving DecidableEq, Repr

def margin (depth : Nat) : String := String.join (List.replicate depth indentation)

theorem margin_oneLine (depth : Nat) : OneLine (margin depth) := by
  rw [OneLine, margin, String.toList_join, List.mem_flatMap]
  rintro ⟨part, listed, broken⟩
  rw [List.eq_of_mem_replicate listed] at broken
  exact absurd broken (by decide)

/-- Lines that are joined in one column move to the next column together. -/
theorem indentRest_intercalate (depth : Nat) {lines : List String}
    (each : ∀ line ∈ lines, OneLine line) :
    indentRest (String.intercalate ("\n" ++ margin depth) lines) =
      String.intercalate ("\n" ++ margin (depth + 1)) lines := by
  have separator : indentRest ("\n" ++ margin depth) = "\n" ++ margin (depth + 1) := by
    rw [indentRest_append, indentRest_oneLine (margin_oneLine depth), margin, margin,
      List.replicate_succ, String.join_cons, ← String.append_assoc]
    rfl
  induction lines with
  | nil => rfl
  | cons line lines inductionHypothesis =>
      obtain ⟨here, others⟩ := List.forall_mem_cons.mp each
      cases lines with
      | nil => simpa using indentRest_oneLine here
      | cons other lines =>
          rw [String.intercalate_cons_cons, String.intercalate_cons_cons, indentRest_append,
            indentRest_append, indentRest_oneLine here, separator, inductionHypothesis others]

namespace Piece

def text : Piece → String
  | .code text => text
  | .comment depth description =>
    String.intercalate ("\n" ++ margin depth) (commentLines description)

def indent : Piece → Piece
  | .code text => .code (indentRest text)
  | .comment depth description => .comment (depth + 1) description

def description? : Piece → Option String
  | .code _ => none
  | .comment _ description => some description

/-- The lines of a comment move to the right together. -/
theorem text_indent (piece : Piece) : piece.indent.text = indentRest piece.text := by
  cases piece with
  | code text => rfl
  | comment depth description =>
      exact (indentRest_intercalate depth fun line member =>
        (commentLines_oneLine description line member).1).symm

end Piece

def joined (pieces : List Piece) : String := String.join (pieces.map Piece.text)

theorem joined_append (first second : List Piece) :
    joined (first ++ second) = joined first ++ joined second := by
  rw [joined, List.map_append, String.join_append]
  rfl

theorem joined_code (text : String) : joined [.code text] = text := by
  rw [joined, List.map_singleton, String.join_cons, String.join_nil, String.append_empty]
  rfl

theorem joined_nil : joined [] = "" := rfl

theorem joined_cons (piece : Piece) (pieces : List Piece) :
    joined (piece :: pieces) = piece.text ++ joined pieces := by
  rw [joined, List.map_cons, String.join_cons]
  rfl

/-- Pieces are indented one by one, and comments move by one block. -/
theorem joined_indent (pieces : List Piece) :
    joined (pieces.map Piece.indent) = indentRest (joined pieces) := by
  induction pieces with
  | nil => rfl
  | cons piece pieces inductionHypothesis =>
      rw [List.map_cons, joined_cons, joined_cons, indentRest_append, Piece.text_indent,
        inductionHypothesis]

/-- Pieces with a separator between one part and the next. -/
def between (separator : String) (parts : List (List Piece)) : List Piece :=
  List.intercalate [.code separator] parts

/-- Joined pieces have the separators of their parts. -/
theorem joined_between (separator : String) (parts : List (List Piece)) :
    joined (between separator parts) = String.intercalate separator (parts.map joined) := by
  induction parts with
  | nil => rfl
  | cons part parts inductionHypothesis =>
      cases parts with
      | nil => simp [between]
      | cons other parts =>
          rw [between, List.intercalate_cons_cons, joined_append, joined_append, List.map_cons,
            List.map_cons, String.intercalate_cons_cons]
          exact congrArg _ inductionHypothesis

def Label.pieces (label : Label) : List Piece :=
  [.code indentation] ++
    (match label.description with
    | none => []
    | some description => [.comment 1 description, .code ("\n" ++ indentation)]) ++
    [.code label.name, .code (if label.required then ": " else "?: ")]

mutual

def TypeExpr.pieces (semicolons : Bool) : TypeExpr → List Piece
  | .keyword word => [.code word.text]
  | .name text => [.code text]
  | .literal value => [.code value.compact]
  | .array element =>
    let text := (element.text semicolons).toList
    if '|' ∈ text ∨ '&' ∈ text then
      [.code "("] ++ element.pieces semicolons ++ [.code ")[]"]
    else element.pieces semicolons ++ [.code "[]"]
  | .union members => between " | " (memberPieces semicolons members)
  | .intersection members => between " & " (memberPieces semicolons members)
  | .object properties =>
    [.code "\x7b\n"] ++ between "\n" (propertyPieces semicolons properties) ++ [.code "\n\x7d"]

def memberPieces (semicolons : Bool) : List TypeExpr → List (List Piece)
  | [] => []
  | member :: members => member.pieces semicolons :: memberPieces semicolons members

def propertyPieces (semicolons : Bool) : List (Label × TypeExpr) → List (List Piece)
  | [] => []
  | (label, type) :: properties =>
    (label.pieces ++ (type.pieces semicolons).map Piece.indent ++
        [.code (propertyEnd semicolons)]) ::
      propertyPieces semicolons properties

end

mutual

/-- All labels in a type, from left to right. -/
def TypeExpr.labels : TypeExpr → List Label
  | .array element => element.labels
  | .union members => memberLabels members
  | .intersection members => memberLabels members
  | .object properties => propertyLabels properties
  | _ => []

def memberLabels : List TypeExpr → List Label
  | [] => []
  | member :: members => member.labels ++ memberLabels members

def propertyLabels : List (Label × TypeExpr) → List Label
  | [] => []
  | (label, type) :: properties => label :: type.labels ++ propertyLabels properties

end

/-- The pieces of a label make up its text. -/
theorem joined_label (label : Label) : joined label.pieces = label.text := by
  obtain ⟨name, required, description⟩ := label
  cases description with
  | none =>
      simp only [Label.pieces, Label.text, Label.comment, joined_append, joined_cons, joined_nil,
        Piece.text, String.append_assoc, String.append_empty]
  | some description =>
      have depth : margin 1 = indentation := by decide
      simp only [Label.pieces, Label.text, Label.comment, joined_append, joined_cons, joined_nil,
        Piece.text, depth, String.append_assoc, String.append_empty]

mutual

/-- The pieces of a type make up its text. -/
theorem joined_pieces (semicolons : Bool) (type : TypeExpr) :
    joined (type.pieces semicolons) = type.text semicolons := by
  cases type with
  | keyword word => rw [TypeExpr.pieces, TypeExpr.text, joined_code]
  | name text => rw [TypeExpr.pieces, TypeExpr.text, joined_code]
  | literal value => rw [TypeExpr.pieces, TypeExpr.text, joined_code]
  | array element =>
      have inside := joined_pieces semicolons element
      rw [TypeExpr.pieces, TypeExpr.text, arrayText]
      split <;> simp only [joined_append, joined_code, inside]
  | union members =>
      rw [TypeExpr.pieces, TypeExpr.text, joined_between, joined_memberPieces]
  | intersection members =>
      rw [TypeExpr.pieces, TypeExpr.text, joined_between, joined_memberPieces]
  | object properties =>
      rw [TypeExpr.pieces, TypeExpr.text, objectText, joined_append, joined_append,
        joined_between, joined_propertyPieces]
      rfl

/-- The pieces of members make up their texts. -/
theorem joined_memberPieces (semicolons : Bool) (members : List TypeExpr) :
    (memberPieces semicolons members).map joined = memberTexts semicolons members := by
  cases members with
  | nil => rfl
  | cons member members =>
      rw [memberPieces, memberTexts, List.map_cons, joined_pieces semicolons member,
        joined_memberPieces semicolons members]

/-- The pieces of properties make up their texts. -/
theorem joined_propertyPieces (semicolons : Bool) (properties : List (Label × TypeExpr)) :
    (propertyPieces semicolons properties).map joined = propertyTexts semicolons properties := by
  cases properties with
  | nil => rfl
  | cons property properties =>
      obtain ⟨label, type⟩ := property
      rw [propertyPieces, propertyTexts, List.map_cons, joined_propertyPieces semicolons properties,
        joined_append, joined_append, joined_indent, joined_label, joined_pieces semicolons type]
      rfl

end

/-- The descriptions that are written as comments. -/
def descriptions (pieces : List Piece) : List String := pieces.filterMap Piece.description?

theorem descriptions_append (first second : List Piece) :
    descriptions (first ++ second) = descriptions first ++ descriptions second :=
  List.filterMap_append

theorem descriptions_code (text : String) : descriptions [.code text] = [] := rfl

theorem descriptions_between (separator : String) (parts : List (List Piece)) :
    descriptions (between separator parts) = parts.flatMap descriptions := by
  induction parts with
  | nil => rfl
  | cons part parts inductionHypothesis =>
      cases parts with
      | nil => simp [between]
      | cons other parts =>
          rw [between, List.intercalate_cons_cons, descriptions_append, descriptions_append,
            List.flatMap_cons, ← inductionHypothesis, descriptions_code, List.append_nil, between]

/-- The margin of a comment does not change its description. -/
theorem descriptions_indent (pieces : List Piece) :
    descriptions (pieces.map Piece.indent) = descriptions pieces := by
  rw [descriptions, List.filterMap_map]
  refine List.filterMap_congr fun piece _ => ?_
  cases piece <;> rfl

/-- A label has its own comment and no other. -/
theorem descriptions_label (label : Label) :
    descriptions label.pieces = label.description.toList := by
  obtain ⟨name, required, description⟩ := label
  cases description <;> rfl

mutual

/-- A type is written with a comment for each of its labels that has a description. -/
theorem descriptions_pieces (semicolons : Bool) (type : TypeExpr) :
    descriptions (type.pieces semicolons) = type.labels.filterMap Label.description := by
  cases type with
  | keyword word => rfl
  | name text => rfl
  | literal value => rfl
  | array element =>
      have inside := descriptions_pieces semicolons element
      rw [TypeExpr.pieces, TypeExpr.labels, ← inside]
      split <;> simp only [descriptions_append, descriptions_code, List.nil_append, List.append_nil]
  | union members =>
      rw [TypeExpr.pieces, TypeExpr.labels, descriptions_between, descriptions_memberPieces]
  | intersection members =>
      rw [TypeExpr.pieces, TypeExpr.labels, descriptions_between, descriptions_memberPieces]
  | object properties =>
      rw [TypeExpr.pieces, TypeExpr.labels, descriptions_append, descriptions_append,
        descriptions_code, descriptions_code, List.nil_append, List.append_nil,
        descriptions_between, descriptions_propertyPieces]

/-- The comments in members are those of their labels, in order. -/
theorem descriptions_memberPieces (semicolons : Bool) (members : List TypeExpr) :
    (memberPieces semicolons members).flatMap descriptions =
      (memberLabels members).filterMap Label.description := by
  cases members with
  | nil => rfl
  | cons member members =>
      rw [memberPieces, memberLabels, List.flatMap_cons, List.filterMap_append,
        descriptions_pieces semicolons member, descriptions_memberPieces semicolons members]

/-- The comments of properties are those of their labels, in order. -/
theorem descriptions_propertyPieces (semicolons : Bool) (properties : List (Label × TypeExpr)) :
    (propertyPieces semicolons properties).flatMap descriptions =
      (propertyLabels properties).filterMap Label.description := by
  cases properties with
  | nil => rfl
  | cons property properties =>
      obtain ⟨label, type⟩ := property
      rw [propertyPieces, propertyLabels, List.flatMap_cons, List.filterMap_append,
        descriptions_propertyPieces semicolons properties, descriptions_append,
        descriptions_append, descriptions_label, descriptions_indent,
        descriptions_pieces semicolons type, descriptions_code, List.append_nil]
      cases description : label.description <;> simp [description]

end

def Definition.labels : Definition → List Label
  | .enum _ => []
  | .interface type => type.labels
  | .alias type => type.labels

namespace Declaration

def definitionPieces (settings : Settings) (name : String) : Definition → List Piece
  | .enum members => [.code (definitionText settings name (.enum members))]
  | .interface type =>
    [.code ("export interface " ++ name ++ " ")] ++
      type.pieces settings.endPropertyWithSemicolon
  | .alias type =>
    [.code ("export type " ++ name ++ " = ")] ++ type.pieces settings.endPropertyWithSemicolon ++
      [.code (if settings.endTypeWithSemicolon then ";" else "")]

def pieces (settings : Settings) (declaration : Declaration) : List Piece :=
  (match declaration.description with
    | none => []
    | some description => [.comment 0 description, .code "\n"]) ++
    definitionPieces settings declaration.name declaration.definition

/-- The descriptions of the declaration itself and of the properties in it. -/
def allDescriptions (declaration : Declaration) : List String :=
  declaration.description.toList ++ declaration.definition.labels.filterMap Label.description

/-- The pieces of a declaration make up its text. -/
theorem joined_pieces (settings : Settings) (declaration : Declaration) :
    joined (declaration.pieces settings) = declaration.text settings := by
  obtain ⟨description, name, definition⟩ := declaration
  have code : joined (definitionPieces settings name definition) =
      definitionText settings name definition := by
    rcases definition with members | type | type
    · exact joined_code _
    · rw [definitionPieces, joined_append, joined_code, TypeScript.joined_pieces]
      rfl
    · rw [definitionPieces, joined_append, joined_append, joined_code, joined_code,
        TypeScript.joined_pieces]
      rfl
  rw [pieces, text, joined_append, code]
  cases description with
  | none => rfl
  | some description =>
      have margin : "\n" ++ margin 0 = "\n" := by decide
      rw [joined_cons, joined_code, Piece.text, margin]
      rfl

/-- The comments of a declaration are its own and those of the properties in it. -/
theorem descriptions_pieces (settings : Settings) (declaration : Declaration) :
    descriptions (declaration.pieces settings) = declaration.allDescriptions := by
  obtain ⟨description, name, definition⟩ := declaration
  have code : descriptions (definitionPieces settings name definition) =
      definition.labels.filterMap Label.description := by
    rcases definition with members | type | type
    · rfl
    · exact TypeScript.descriptions_pieces _ type
    · rw [definitionPieces, descriptions_append, descriptions_append, descriptions_code,
        descriptions_code, List.nil_append, List.append_nil]
      exact TypeScript.descriptions_pieces _ type
  rw [pieces, allDescriptions, descriptions_append, code]
  cases description <;> rfl

end Declaration

end TypeScript

namespace Compilation

open TypeScript

def pieces (compilation : Compilation) : List Piece :=
  between "\n" (compilation.emissionOrder.map fun node =>
    (compilation.model.declaration node).pieces compilation.settings)

/-- The pieces of a compilation make up its output. -/
theorem joined_pieces (compilation : Compilation) :
    joined compilation.pieces = compilation.text := by
  rw [pieces, joined_between, List.map_map]
  exact congrArg _ (List.map_congr_left fun node _ => Declaration.joined_pieces _ _)

/-- There is one comment for every description that is printed. -/
theorem descriptions_pieces (compilation : Compilation) :
    descriptions compilation.pieces = compilation.emissionOrder.flatMap fun node =>
      (compilation.model.declaration node).allDescriptions := by
  rw [pieces, descriptions_between, List.flatMap_map]
  exact List.flatMap_congr fun node _ => Declaration.descriptions_pieces _ _

end Compilation
end SchemaTypes
