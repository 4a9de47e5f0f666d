/-
This file reads the comments of the output back. A comment ends where it can be closed for the first
time. Main statement: a comment is read as it was written if and only if its description does not
contain what closes a comment, however many lines it has and however deep it stands.
-/
import SchemaTypes.Proofs.Build.Finish
import SchemaTypes.Proofs.Output.Pieces

namespace SchemaTypes

open Text

namespace TypeScript

/-- What stands in a comment whose opening was read, and what stands behind the comment. -/
def readComment? : List Char → Option (List Char × List Char)
  | [] => none
  | '*' :: '/' :: rest => some ([], rest)
  | character :: rest =>
    (readComment? rest).map fun (inside, behind) => (character :: inside, behind)

/-- The text contains what closes a comment. -/
def Closes (text : List Char) : Prop := "*/".toList <:+: text

/-- A comment is closed at the beginning or later on. -/
theorem closes_cons_iff {character : Char} {text : List Char} :
    Closes (character :: text) ↔ (character = '*' ∧ text.head? = some '/') ∨ Closes text := by
  have begins : "*/".toList <+: character :: text ↔ character = '*' ∧ text.head? = some '/' := by
    cases text <;> simp [List.cons_prefix_cons, eq_comm]
  rw [Closes, List.infix_cons_iff, begins, Closes]

instance decidableCloses : (text : List Char) → Decidable (Closes text)
  | [] => .isFalse (by simp [Closes])
  | character :: text =>
    have := decidableCloses text
    decidable_of_iff ((character = '*' ∧ text.head? = some '/') ∨ Closes text)
      closes_cons_iff.symm

/-- A text is closed in one of its parts unless the closing is split between them. -/
theorem closes_append_iff {first second : List Char}
    (apart : first.getLast? = some '*' → second.head? ≠ some '/') :
    Closes (first ++ second) ↔ Closes first ∨ Closes second := by
  induction first with
  | nil => simp [Closes]
  | cons character first inductionHypothesis =>
      rw [List.cons_append, closes_cons_iff, closes_cons_iff, or_assoc]
      cases first with
      | nil =>
          have noStraddle : ¬ (character = '*' ∧ second.head? = some '/') := by
            rintro ⟨rfl, slash⟩
            exact apart rfl slash
          simp [noStraddle, Closes]
      | cons next first => rw [inductionHypothesis apart, List.cons_append, List.head?_cons]; rfl

/-- A comment is read up to where it is closed if nothing before closes it. -/
theorem readComment?_eq_some_iff (inside after : List Char) :
    readComment? (inside ++ "*/".toList ++ after) = some (inside, after) ↔ ¬ Closes inside := by
  induction inside with
  | nil => simp [readComment?, Closes]
  | cons character inside inductionHypothesis =>
      rw [List.cons_append, List.cons_append, closes_cons_iff, not_or, ← inductionHypothesis]
      by_cases early : character = '*' ∧ inside.head? = some '/'
      · obtain ⟨rfl, slash⟩ := early
        obtain ⟨rest, rfl⟩ := List.head?_eq_some_iff.mp slash
        simp [readComment?]
      · have noEarly (rest : List Char) :
            character = '*' → inside ++ "*/".toList ++ after = '/' :: rest → False := by
          rintro rfl equal
          cases inside with
          | nil => simp at equal
          | cons next inside => exact early ⟨rfl, congrArg some (List.cons.inj equal).1⟩
        rw [readComment?.eq_3 _ _ noEarly]
        cases readComment? (inside ++ "*/".toList ++ after) <;> simp [early, Prod.ext_iff]

/-- A stem that can take no part in closing a comment. -/
structure Inert (stem : List Char) : Prop where
  nonempty : stem ≠ []
  begins : stem.head? ≠ some '/'
  ends : stem.getLast? ≠ some '*'
  harmless : ¬ Closes stem

/-- Lines behind inert stems close only where one of the lines does. -/
theorem Inert.closes_flatMap_iff {stem : List Char} (inert : Inert stem)
    (lines : List (List Char)) :
    Closes (lines.flatMap (stem ++ ·)) ↔ ∃ line ∈ lines, Closes line := by
  induction lines with
  | nil => simp [Closes]
  | cons line lines inductionHypothesis =>
      have next : (lines.flatMap (stem ++ ·)).head? ≠ some '/' := by
        cases lines with
        | nil => simp
        | cons other lines =>
            rw [List.flatMap_cons, List.append_assoc, List.head?_append_of_ne_nil _ inert.nonempty]
            exact inert.begins
      rw [List.flatMap_cons, closes_append_iff fun _ => next,
        closes_append_iff fun star => absurd star inert.ends, inductionHypothesis]
      simp [inert.harmless]

/-- Lines behind stems are the first stem and all lines with stems between them. -/
theorem flatMap_stem {stem : List Char} {lines : List (List Char)} (nonempty : lines ≠ []) :
    lines.flatMap (stem ++ ·) = stem ++ List.intercalate stem lines := by
  induction lines with
  | nil => exact absurd rfl nonempty
  | cons line lines inductionHypothesis =>
      cases lines with
      | nil => simp
      | cons other lines =>
          rw [List.flatMap_cons, inductionHypothesis (List.cons_ne_nil _ _),
            List.intercalate_cons_cons, List.append_assoc, List.append_assoc]

/-- What closes a comment stands on one line. -/
theorem closes_iff_exists_line (text : List Char) :
    Closes text ↔ ∃ line ∈ text.splitOn '\n', Closes line := by
  have inert : Inert ['\n'] := ⟨by decide, by decide, by decide, by decide⟩
  have whole : (text.splitOn '\n').flatMap (['\n'] ++ ·) = '\n' :: text := by
    rw [flatMap_stem (List.splitOn_ne_nil '\n' text), List.intercalate_splitOn]
    rfl
  rw [← inert.closes_flatMap_iff, whole, closes_cons_iff]
  simp

/-- What stands between the opening of a comment and what closes it. -/
def commentBody (depth : Nat) (description : String) : String :=
  String.join ((lines description).map ("\n" ++ margin depth ++ " * " ++ ·)) ++
    ("\n" ++ margin depth ++ " ")

/-- Every line of a description stands behind a margin and a star. -/
theorem commentBody_toList (depth : Nat) (description : String) :
    (commentBody depth description).toList =
      (description.toList.splitOn '\n').flatMap (("\n" ++ margin depth ++ " * ").toList ++ ·) ++
        ("\n" ++ margin depth ++ " ").toList := by
  rw [commentBody, String.toList_append, String.toList_join, lines, pieces, List.map_map,
    List.flatMap_map]
  simp

/-- Joined texts are the first one and each later one behind the separator. -/
theorem intercalate_cons (separator first : String) (rest : List String) :
    String.intercalate separator (first :: rest) =
      first ++ String.join (rest.map (separator ++ ·)) := by
  induction rest generalizing first with
  | nil => simp
  | cons second rest inductionHypothesis =>
      rw [String.intercalate_cons_cons, inductionHypothesis, List.map_cons, String.join_cons,
        String.append_assoc, String.append_assoc]

/-- A comment is its opening, its body and its closing. -/
theorem text_comment (depth : Nat) (description : String) :
    (Piece.comment depth description).text =
      commentOpening ++ commentBody depth description ++ "*/" := by
  have closing : commentClosing = " " ++ "*/" := rfl
  rw [Piece.text, commentLines, List.cons_append, intercalate_cons, List.map_append,
    String.join_append, List.map_map, List.map_singleton, String.join_cons, String.join_nil,
    closing, commentBody]
  simp only [Function.comp_def, String.append_assoc, String.append_empty]

/-- Nothing closes without a slash. -/
theorem Closes.slash_mem {text : List Char} (closes : Closes text) : '/' ∈ text :=
  closes.subset (by decide)

/-- A margin has no slash. -/
theorem slash_not_mem_margin (depth : Nat) : '/' ∉ (margin depth).toList := by
  rw [margin, String.toList_join, List.mem_flatMap]
  rintro ⟨part, listed, slash⟩
  rw [List.eq_of_mem_replicate listed] at slash
  exact absurd slash (by decide)

/-- Only the lines of the description can close the comment before its end. -/
theorem closes_commentBody_iff (depth : Nat) (description : String) :
    Closes (commentBody depth description).toList ↔ Closes description.toList := by
  have noSlash := slash_not_mem_margin depth
  have inert : Inert ("\n" ++ margin depth ++ " * ").toList := by
    refine ⟨by simp, by simp, ?_, fun closes => ?_⟩
    · rw [String.toList_append, List.getLast?_append]
      simp
    · have slash := closes.slash_mem
      simp [noSlash] at slash
  have ending : ¬ Closes ("\n" ++ margin depth ++ " ").toList := by
    intro closes
    have slash := closes.slash_mem
    simp [noSlash] at slash
  rw [commentBody_toList, closes_append_iff fun _ => by simp, inert.closes_flatMap_iff,
    ← closes_iff_exists_line]
  simp only [ending, or_false]

end TypeScript

namespace Compilation

open TypeScript

variable {compilation : Compilation} {before after : List Piece} {depth : Nat}
  {description : String}

/-- The comments are those of the descriptions that are printed, and each of them is closed by its
own ending if and only if its description does not contain what closes a comment. -/
theorem comment_read_iff
    (located : compilation.pieces = before ++ .comment depth description :: after) :
    (descriptions compilation.pieces = compilation.emissionOrder.flatMap fun node =>
      (compilation.model.declaration node).allDescriptions) ∧
    ∃ body, (Piece.comment depth description).text = commentOpening ++ body ++ "*/" ∧
      compilation.text = joined before ++ commentOpening ++ (body ++ "*/" ++ joined after) ∧
      (readComment? (body ++ "*/" ++ joined after).toList =
          some (body.toList, (joined after).toList) ↔ ¬ Closes description.toList) := by
  refine ⟨descriptions_pieces compilation, commentBody depth description,
    text_comment depth description, ?_, ?_⟩
  · rw [← joined_pieces, located, joined_append, joined_cons, text_comment]
    simp only [String.append_assoc]
  · rw [String.toList_append, String.toList_append, readComment?_eq_some_iff,
      closes_commentBody_iff]

def nestedRemark : Json :=
  .object [("properties", .object [("point", .object [("properties", .object [
    ("x", .object [("type", .string "number"), ("description", .string "Left\n* / right")])])])])]

/-- A star and a slash that stand apart do not close the comment of a nested property. -/
theorem comment_read_iff_nestedRemark :
    ∃ compilation before after body,
      build ⟨{}, .ofFiles []⟩ nestedRemark none = .ok compilation ∧
        compilation.pieces = before ++ .comment 2 "Left\n* / right" :: after ∧
        (compilation.emissionOrder.flatMap fun node =>
          (compilation.model.declaration node).allDescriptions) =
            descriptions before ++ "Left\n* / right" :: descriptions after ∧
        compilation.text = joined before ++ "/**" ++ (body ++ "*/" ++ joined after) ∧
        readComment? (body ++ "*/" ++ joined after).toList =
          some (body.toList, (joined after).toList) := by
  obtain ⟨compilation, built, member⟩ := exists_ok
    (show (build ⟨{}, .ofFiles []⟩ nestedRemark none).toOption.any
      (fun compilation => decide (.comment 2 "Left\n* / right" ∈ compilation.pieces)) = true by
        decide +kernel)
  obtain ⟨before, after, located⟩ := List.append_of_mem (of_decide_eq_true member)
  obtain ⟨printed, body, -, text, read⟩ := comment_read_iff located
  rw [located, descriptions_append] at printed
  exact ⟨compilation, before, after, body, built, located, printed.symm, text,
    read.mpr (by decide)⟩

def closingRemark : Json :=
  .object [("properties", .object [
    ("a", .object [("type", .string "string"), ("description", .string "a */ b")])])]

/-- The comment is closed in the middle of its description, and the rest is read as code. -/
theorem closingRemark_escapes :
    ∃ compilation before after, build ⟨{}, .ofFiles []⟩ closingRemark none = .ok compilation ∧
      compilation.pieces = before ++ .comment 1 "a */ b" :: after ∧
      (Piece.comment 1 "a */ b").text = "/**" ++ "\n   * a */ b\n   " ++ "*/" ∧
      joined after = "\n  a?: string;\n  [k: string]: any;\n\x7d" ∧
      readComment? ("\n   * a */ b\n   " ++ "*/" ++ joined after).toList =
        some ("\n   * a ".toList, (" b\n   */" ++ joined after).toList) := by
  obtain ⟨compilation, built, checked⟩ := exists_ok
    (show (build ⟨{}, .ofFiles []⟩ closingRemark none).toOption.any
      (fun compilation => decide (compilation.pieces = compilation.pieces.take 3 ++
          .comment 1 "a */ b" :: compilation.pieces.drop 4 ∧
        joined (compilation.pieces.drop 4) =
          "\n  a?: string;\n  [k: string]: any;\n\x7d")) = true by
        decide +kernel)
  obtain ⟨located, behind⟩ := of_decide_eq_true checked
  refine ⟨compilation, _, _, built, located, by decide +kernel, behind, ?_⟩
  rw [behind]
  decide +kernel

end Compilation
end SchemaTypes
