/-
This file tells what the text of a type is read as. Main statement: the text of a union is read as
the products of its members, and that of an intersection as the same products, except that those on
the two sides of an ampersand are one.
-/
import SchemaTypes.Proofs.Output.Hanging
import SchemaTypes.Proofs.Precedence.Reader

namespace SchemaTypes.TypeScript

namespace Products

theorem join_ne_nil {first second : Products} (nonempty : first ≠ []) :
    first.join second ≠ [] := by
  fun_cases join first second <;> simp_all

/-- Only the last product goes on behind an operator. -/
theorem join_cons {first : Products} (nonempty : first ≠ []) (factors : List TypeExpr)
    (second : Products) : join (factors :: first) second = factors :: first.join second := by
  obtain ⟨product, products, rfl⟩ := List.exists_cons_of_ne_nil nonempty
  rfl

/-- Nothing is added by a text without factors. -/
theorem join_empty {products : Products} (nonempty : products ≠ []) :
    products.join [[]] = products := by
  induction products with
  | nil => exact absurd rfl nonempty
  | cons factors products inductionHypothesis =>
      cases products with
      | nil => simp [join]
      | cons => rw [join_cons (List.cons_ne_nil _ _), inductionHypothesis (List.cons_ne_nil _ _)]

/-- Nothing in front leaves products as they are. -/
theorem empty_join {products : Products} (nonempty : products ≠ []) :
    join [[]] products = products := by
  obtain ⟨factors, products, rfl⟩ := List.exists_cons_of_ne_nil nonempty
  rfl

/-- Later products do not matter to what is joined in front of them. -/
theorem join_append {second : Products} (nonempty : second ≠ []) (first third : Products) :
    first.join (second ++ third) = first.join second ++ third := by
  induction first with
  | nil => rfl
  | cons factors first inductionHypothesis =>
      cases first with
      | nil =>
          obtain ⟨next, second, rfl⟩ := List.exists_cons_of_ne_nil nonempty
          rfl
      | cons => simp only [join_cons (List.cons_ne_nil _ _), inductionHypothesis, List.cons_append]

/-- After a bar a new product begins. -/
theorem append_empty_join (first : Products) {second : Products} (nonempty : second ≠ []) :
    (first ++ [[]]).join second = first ++ second := by
  induction first with
  | nil => exact empty_join nonempty
  | cons factors first inductionHypothesis =>
      rw [List.cons_append, join_cons (by simp), inductionHypothesis, List.cons_append]

/-- Ampersands can be read from either side. -/
theorem join_assoc {first second : Products} (nonempty : second ≠ []) (third : Products) :
    (first.join second).join third = first.join (second.join third) := by
  induction first with
  | nil => rfl
  | cons factors first inductionHypothesis =>
      cases first with
      | nil =>
          obtain ⟨next, second, rfl⟩ := List.exists_cons_of_ne_nil nonempty
          cases second with
          | nil => cases third <;> simp [join]
          | cons => rfl
      | cons product products =>
          rw [join_cons (List.cons_ne_nil _ _), join_cons (List.cons_ne_nil _ _),
            ← inductionHypothesis, join_cons (join_ne_nil (List.cons_ne_nil _ _))]

/-- Brackets belong to the operand directly before them. -/
theorem bracketed_join {products : Products} (nonempty : products ≠ []) (last : TypeExpr) :
    (products.join [[last]]).bracketed = products.join [[.array last]] := by
  induction products with
  | nil => exact absurd rfl nonempty
  | cons factors products inductionHypothesis =>
      cases products with
      | nil => exact congrArg (fun changed => [changed]) (List.modifyLast_concat _ last factors)
      | cons product products =>
          have more : join (product :: products) [[last]] ≠ [] :=
            join_ne_nil (List.cons_ne_nil product products)
          rw [join_cons (List.cons_ne_nil _ _), join_cons (List.cons_ne_nil _ _),
            ← inductionHypothesis (List.cons_ne_nil _ _)]
          exact List.modifyLast_append_of_right_ne_nil _ [factors] _ more

end Products

/-- Wherever an operand is expected, a text is read as some products. -/
structure ReadAs (text : String) (products : Products) : Prop where
  nonempty : products ≠ []
  run : ∀ (outer : List Products) (group : Products), group ≠ [] →
    Reader.run ⟨outer, group, .operand⟩ (tokens text) =
      some ⟨outer, group.join products, .operator⟩

namespace ReadAs

variable {text before after : String} {products first second : Products}

/-- What a text is read as anywhere, it is read as by itself. -/
theorem read? (reads : ReadAs text products) : read? text = some products.type := by
  rw [TypeScript.read?, Reader.start, reads.run [] [[]] (List.cons_ne_nil _ _),
    Products.empty_join reads.nonempty]
  rfl

/-- A keyword is read as itself. -/
theorem keyword (word : Keyword) : ReadAs word.text [[.keyword word]] := by
  refine ⟨List.cons_ne_nil _ _, fun outer group _ => ?_⟩
  have letters : tokens word.text = [.word word.text] := by
    cases word with
    | any => decide
    | primitive kind => cases kind <;> decide
  have found : Keyword.all.find? (·.text = word.text) = some word := by
    cases word with
    | any => decide
    | primitive kind => cases kind <;> decide
  rw [letters]
  simp [Reader.run, Reader.step, found]

/-- A bar puts the products of its sides one after another. -/
theorem or (left : ReadAs before first) (right : ReadAs after second) :
    ReadAs (before ++ " | " ++ after) (first ++ second) := by
  refine ⟨by simp [left.nonempty], fun outer group nonempty => ?_⟩
  have leftRun := left.run outer group nonempty
  have rightRun := right.run outer (group.join first ++ [[]]) (by simp)
  simp only [Reader.run] at leftRun rightRun ⊢
  rw [tokens_or, List.foldlM_append, leftRun]
  simp only [Option.bind_eq_bind, Option.bind_some, List.foldlM_cons, Reader.step]
  rw [rightRun, Products.append_empty_join _ right.nonempty, Products.join_append left.nonempty]

/-- An ampersand makes one product of the two beside it. -/
theorem and (left : ReadAs before first) (right : ReadAs after second) :
    ReadAs (before ++ " & " ++ after) (first.join second) := by
  refine ⟨Products.join_ne_nil left.nonempty, fun outer group nonempty => ?_⟩
  have leftRun := left.run outer group nonempty
  have rightRun := right.run outer (group.join first) (Products.join_ne_nil nonempty)
  simp only [Reader.run] at leftRun rightRun ⊢
  rw [tokens_and, List.foldlM_append, leftRun]
  simp only [Option.bind_eq_bind, Option.bind_some, List.foldlM_cons, Reader.step]
  rw [rightRun, Products.join_assoc left.nonempty]

/-- Brackets make an array of a single operand. -/
theorem brackets {element : TypeExpr} (reads : ReadAs text [[element]]) :
    ReadAs (text ++ "[]") [[.array element]] := by
  refine ⟨List.cons_ne_nil _ _, fun outer group nonempty => ?_⟩
  have run := reads.run outer group nonempty
  simp only [Reader.run] at run ⊢
  rw [tokens_brackets, List.foldlM_append, run]
  simp [Reader.step, Products.bracketed_join nonempty]

/-- Parentheses make a single operand of what is in them. -/
theorem parentheses (reads : ReadAs text products) :
    ReadAs ("(" ++ text ++ ")") [[products.type]] := by
  refine ⟨List.cons_ne_nil _ _, fun outer group _ => ?_⟩
  have run := reads.run (group :: outer) [[]] (List.cons_ne_nil _ _)
  simp only [Reader.run] at run ⊢
  rw [tokens_parentheses, List.cons_append, List.foldlM_cons]
  simp only [Reader.step, Option.bind_eq_bind, Option.bind_some]
  rw [List.foldlM_append, run, Products.empty_join reads.nonempty]
  simp [Reader.step]

end ReadAs

namespace Connective

def separator : Connective → String
  | .union => " | "
  | .intersection => " & "

/-- What the texts of the members are read as when they stand side by side. -/
def combine : Connective → List Products → Products
  | .union, products => products.flatten
  | .intersection, products => products.foldr Products.join [[]]

end Connective

mutual

/-- What the text of a type is read as. Only below an array are products put into parentheses. -/
def TypeExpr.products : TypeExpr → Products
  | .array element => [[.array element.products.type]]
  | .union members => Connective.union.combine (memberProducts members)
  | .intersection members => Connective.intersection.combine (memberProducts members)
  | other => [[other]]

def memberProducts : List TypeExpr → List Products
  | [] => []
  | member :: members => member.products :: memberProducts members

end

theorem memberProducts_eq_map (members : List TypeExpr) :
    memberProducts members = members.map TypeExpr.products := by
  induction members with
  | nil => rfl
  | cons member members inductionHypothesis =>
      rw [memberProducts, inductionHypothesis, List.map_cons]

/-- A type of keywords, arrays, and unions and intersections that have members. -/
inductive TypeExpr.Filled : TypeExpr → Prop where
  | keyword (word : Keyword) : Filled (.keyword word)
  | array {element : TypeExpr} (inside : Filled element) : Filled (.array element)
  | alone (connective : Connective) {member : TypeExpr} (inside : Filled member) :
      Filled (connective.type [member])
  | several (connective : Connective) {members : List TypeExpr} (several : 1 < members.length)
      (inside : ∀ member ∈ members, Filled member) : Filled (connective.type members)

namespace Connective

/-- The text of a type is the texts of its members with the operator between them. -/
theorem text_type (connective : Connective) (semicolons : Bool) (members : List TypeExpr) :
    (connective.type members).text semicolons =
      String.intercalate connective.separator (members.map (TypeExpr.text semicolons)) := by
  cases connective <;> rw [type, TypeExpr.text, memberTexts_eq_map] <;> rfl

/-- A type is read as what its members are read as, combined. -/
theorem products_type (connective : Connective) (members : List TypeExpr) :
    (connective.type members).products =
      connective.combine (members.map TypeExpr.products) := by
  cases connective <;> rw [type, TypeExpr.products, memberProducts_eq_map]

/-- The operator of a single member is not written. -/
theorem text_singleton (connective : Connective) (semicolons : Bool) (member : TypeExpr) :
    (connective.type [member]).text semicolons = member.text semicolons := by
  rw [text_type, List.map_singleton, String.intercalate_singleton]

/-- A single member is read as if it stood alone. -/
theorem products_singleton (connective : Connective) {member : TypeExpr}
    (nonempty : member.products ≠ []) :
    (connective.type [member]).products = member.products := by
  rw [products_type, List.map_singleton]
  cases connective with
  | union => exact List.append_nil _
  | intersection => exact Products.join_empty nonempty

end Connective

/-- Members of any number can be put together, if there is one. -/
theorem TypeExpr.Filled.joined (connective : Connective) {members : List TypeExpr}
    (nonempty : members ≠ []) (inside : ∀ member ∈ members, Filled member) :
    Filled (connective.type members) := by
  match members, nonempty with
  | [member], _ => exact .alone connective (inside member List.mem_cons_self)
  | _ :: _ :: _, _ => exact .several connective (by simp) inside

/-- The products of members that are read side by side. -/
theorem ReadAs.joined (connective : Connective) {semicolons : Bool} {members : List TypeExpr}
    (nonempty : members ≠ [])
    (inside : ∀ member ∈ members, ReadAs (member.text semicolons) member.products) :
    ReadAs ((connective.type members).text semicolons) (connective.type members).products := by
  induction members with
  | nil => exact absurd rfl nonempty
  | cons member members inductionHypothesis =>
      have own := inside member List.mem_cons_self
      cases members with
      | nil =>
          rw [connective.text_singleton, connective.products_singleton own.nonempty]
          exact own
      | cons second later =>
          have rest := inductionHypothesis (List.cons_ne_nil _ _) fun other isLater =>
            inside other (List.mem_cons_of_mem _ isLater)
          rw [connective.text_type, connective.products_type] at rest ⊢
          simp only [List.map_cons, String.intercalate_cons_cons] at rest ⊢
          cases connective with
          | union => exact own.or rest
          | intersection => exact own.and rest

/-- A text without operators is read as one factor. -/
theorem TypeExpr.Filled.single {type : TypeExpr} (filled : type.Filled) {semicolons : Bool}
    (noBar : '|' ∉ (type.text semicolons).toList)
    (noAmpersand : '&' ∉ (type.text semicolons).toList) :
    type.products = [[type.products.type]] := by
  induction filled with
  | keyword word => rfl
  | array inside => rfl
  | alone connective inside inductionHypothesis =>
      rw [connective.text_singleton] at noBar noAmpersand
      have own := inductionHypothesis noBar noAmpersand
      rw [connective.products_singleton (own ▸ List.cons_ne_nil _ _)]
      exact own
  | @several connective members several =>
      rw [connective.text_type] at noBar noAmpersand
      match members, several with
      | first :: second :: later, _ =>
          cases connective with
          | union => simp [Connective.separator] at noBar
          | intersection => simp [Connective.separator] at noAmpersand

/-- The text of a type is read as its products wherever an operand is expected. -/
theorem TypeExpr.Filled.reads {type : TypeExpr} (filled : type.Filled) (semicolons : Bool) :
    ReadAs (type.text semicolons) type.products := by
  induction filled with
  | keyword word => exact .keyword word
  | @array element inside inductionHypothesis =>
      rw [text, arrayText, products]
      split
      · have parenthesised := inductionHypothesis.parentheses.brackets
        simpa [String.append_assoc] using parenthesised
      · next plain =>
          obtain ⟨noBar, noAmpersand⟩ := not_or.mp plain
          rw [inside.single noBar noAmpersand] at inductionHypothesis
          exact inductionHypothesis.brackets
  | alone connective inside inductionHypothesis =>
      exact .joined connective (List.cons_ne_nil _ _) (by simpa using inductionHypothesis)
  | several connective several inside inductionHypothesis =>
      exact .joined connective (List.length_pos_iff.mp (Nat.zero_lt_of_lt several))
        inductionHypothesis

end SchemaTypes.TypeScript
