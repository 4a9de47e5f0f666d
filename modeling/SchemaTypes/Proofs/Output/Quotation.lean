/-
This file follows the quotation marks on the first line of a type. Main statement: a colon with a
blank behind it stands between quotation marks there, so what is written before a type and its
colon is known from the whole line.
-/
import SchemaTypes.Proofs.Names.Letters
import SchemaTypes.Proofs.Names.Mentions
import SchemaTypes.Proofs.Output.Hanging

namespace SchemaTypes

open Text Unicode

/-- Where a reader of a line is; the later lines do not matter. -/
inductive Quotation where
  | outside
  /-- Outside of quotation marks and directly behind a colon. -/
  | colon
  | inside
  | escaped
  | ended
deriving DecidableEq

namespace Quotation

/-- No backslash and no colon with a blank behind it stands outside of quotation marks, and the line
does not end between them. -/
def next : Quotation → Char → Option Quotation
  | .ended, _ => some .ended
  | .escaped, _ => some .inside
  | .inside, character =>
    if character = '"' then some .outside
    else if character = '\\' then some .escaped
    else if character = '\n' then none
    else some .inside
  | state, character =>
    if character = '\n' then some .ended
    else if character = '"' then some .inside
    else if character = '\\' then none
    else if character = ':' then some .colon
    else if state = .colon ∧ character = ' ' then none
    else some .outside

def read (state : Quotation) (text : List Char) : Option Quotation := text.foldlM next state

/-- A line is read part by part. -/
theorem read_append (state : Quotation) (first second : List Char) :
    state.read (first ++ second) = (state.read first).bind (·.read second) :=
  List.foldlM_append

theorem read_cons (state : Quotation) (character : Char) (text : List Char) :
    state.read (character :: text) = (state.next character).bind (·.read text) :=
  List.foldlM_cons

/-- Behind the first line nothing matters. -/
theorem read_ended (text : List Char) : ended.read text = some .ended := by
  induction text with
  | nil => rfl
  | cons character text inductionHypothesis => exact inductionHypothesis

/-- The margins of later lines change nothing. -/
theorem read_flatMap_indentChar (state : Quotation) (text : List Char) :
    state.read (text.flatMap indentChar) = state.read text := by
  induction text generalizing state with
  | nil => rfl
  | cons character text inductionHypothesis =>
      have first : state.read (indentChar character) = state.next character := by
        by_cases feed : character = '\n'
        · subst feed
          cases state <;> rfl
        · rw [indentChar, if_neg feed, read_cons]
          exact Option.bind_fun_some _
      rw [List.flatMap_cons, read_append, first, read_cons]
      exact congrArg _ (funext inductionHypothesis)

/-- Two readers of the same text, one of them between quotation marks. -/
inductive Opposed : Quotation → Quotation → Prop where
  | outside : Opposed .outside .inside
  | colon : Opposed .colon .inside
  | inside : Opposed .inside .outside
  | insideColon : Opposed .inside .colon

/-- Only a quotation mark, a backslash or a line break leads a reader from outside of quotation
marks elsewhere. -/
theorem next_of_plain {state after : Quotation} {character : Char}
    (plain : state = .outside ∨ state = .colon) (feed : character ≠ '\n')
    (mark : character ≠ '"') (backslash : character ≠ '\\')
    (read : state.next character = some after) : after = .outside ∨ after = .colon := by
  have either : state.next character = if character = ':' then some .colon
      else if state = .colon ∧ character = ' ' then none else some .outside := by
    rcases plain with rfl | rfl <;> simp [next, feed, mark, backslash]
  rw [either] at read
  split at read
  · exact .inr (Option.some.inj read).symm
  · split at read
    · cases read
    · exact .inl (Option.some.inj read).symm

/-- Readers that disagree about quotation marks do so until one of them stops. -/
theorem Opposed.step {state other after : Quotation} {character : Char}
    (opposed : Opposed state other) (read : state.next character = some after) :
    other.next character = none ∨
      ∃ behind, other.next character = some behind ∧ Opposed after behind := by
  by_cases feed : character = '\n'
  · subst feed
    cases opposed with
    | outside => exact .inl rfl
    | colon => exact .inl rfl
    | inside => cases read
    | insideColon => cases read
  · by_cases mark : character = '"'
    · subst mark
      refine .inr ?_
      cases opposed <;> obtain rfl := Option.some.inj read
      · exact ⟨_, rfl, .inside⟩
      · exact ⟨_, rfl, .inside⟩
      · exact ⟨_, rfl, .outside⟩
      · exact ⟨_, rfl, .outside⟩
    · by_cases backslash : character = '\\'
      · subst backslash
        cases opposed with
        | outside => cases read
        | colon => cases read
        | inside => exact .inl rfl
        | insideColon => exact .inl rfl
      · have quoted : Quotation.inside.next character = some .inside := by
          simp [next, mark, backslash, feed]
        cases opposed with
        | outside =>
            rcases next_of_plain (.inl rfl) feed mark backslash read with rfl | rfl
            · exact .inr ⟨_, quoted, .outside⟩
            · exact .inr ⟨_, quoted, .colon⟩
        | colon =>
            rcases next_of_plain (.inr rfl) feed mark backslash read with rfl | rfl
            · exact .inr ⟨_, quoted, .outside⟩
            · exact .inr ⟨_, quoted, .colon⟩
        | inside | insideColon =>
            obtain rfl := Option.some.inj (quoted.symm.trans read)
            cases behind : next _ character with
            | none => exact .inl rfl
            | some behind =>
                rcases next_of_plain (by simp) feed mark backslash behind with rfl | rfl
                · exact .inr ⟨_, rfl, .inside⟩
                · exact .inr ⟨_, rfl, .insideColon⟩

/-- The line ends for one of the readers, and the other one is between quotation marks then. -/
theorem Opposed.read_eq_none {state other : Quotation} {text : List Char}
    (opposed : Opposed state other) (ended : state.read text = some .ended) (rest : List Char) :
    other.read (text ++ rest) = none := by
  induction text generalizing state other with
  | nil =>
      obtain rfl := Option.some.inj ended
      cases opposed
  | cons character text inductionHypothesis =>
      rw [read_cons] at ended
      rw [List.cons_append, read_cons]
      obtain ⟨after, stepped, ended⟩ := Option.bind_eq_some_iff.mp ended
      rcases opposed.step stepped with stuck | ⟨behind, stepped, opposed⟩
      · rw [stuck]
        rfl
      · rw [stepped]
        exact inductionHypothesis opposed ended

/-- The line goes on until there is a line break. -/
theorem next_ne_ended {state : Quotation} {character : Char} (started : state ≠ .ended)
    (feed : character ≠ '\n') : state.next character ≠ some .ended := by
  cases state with
  | ended => exact absurd rfl started
  | escaped => exact nofun
  | _ =>
      simp only [next, feed, ↓reduceIte]
      split_ifs <;> exact nofun

/-- A text on one line does not end the line. -/
theorem read_ne_ended {state : Quotation} {text : List Char} (started : state ≠ .ended)
    (oneLine : '\n' ∉ text) : state.read text ≠ some .ended := by
  induction text generalizing state with
  | nil => exact fun same => started (Option.some.inj same)
  | cons character text inductionHypothesis =>
      obtain ⟨feed, oneLine⟩ := List.ne_and_not_mem_of_not_mem_cons oneLine
      rw [read_cons]
      intro ended
      obtain ⟨after, stepped, ended⟩ := Option.bind_eq_some_iff.mp ended
      have going : after ≠ .ended := by
        rintro rfl
        exact next_ne_ended started feed.symm stepped
      exact inductionHypothesis going oneLine ended

end Quotation

/-- None of the marks is in the text. -/
def Lacks (marks : String) (text : List Char) : Prop :=
  ∀ character ∈ text, character ∉ marks.toList

instance (marks : String) (text : List Char) : Decidable (Lacks marks text) :=
  List.decidableBAll _ _

/-- The marks are of another kind than the characters of the text. -/
theorem Lacks.of_forall {kind : Char → Prop} [DecidablePred kind] {marks : String}
    {text : List Char} (each : ∀ character ∈ text, kind character)
    (others : marks.toList.all (fun mark => !decide (kind mark)) = true) : Lacks marks text := by
  intro character member marked
  have other := List.all_eq_true.mp others character marked
  simp [each character member] at other

/-- The first line of a text is closed, whether or not another one follows. -/
def Quoted (text : List Char) : Prop :=
  Quotation.outside.read text = some .outside ∨ Quotation.outside.read text = some .ended

namespace Quoted

variable {first second : List Char}

/-- Closed texts can be put side by side. -/
theorem append (left : Quoted first) (right : Quoted second) : Quoted (first ++ second) := by
  unfold Quoted at *
  rw [Quotation.read_append]
  rcases left with left | left
  · rw [left]
    exact right
  · rw [left]
    exact .inr (Quotation.read_ended second)

/-- A closed text and a line break end the line. -/
theorem read_line (quoted : Quoted first) (rest : List Char) :
    Quotation.outside.read (first ++ '\n' :: rest) = some .ended := by
  rw [Quotation.read_append]
  rcases quoted with read | read
  · rw [read]
    exact Quotation.read_ended rest
  · rw [read]
    exact Quotation.read_ended _

/-- A text cannot end in a colon, a blank and another text. -/
theorem ne_overlap (quoted : Quoted first) (quotedToo : Quoted second) {between : List Char}
    (oneLine : '\n' ∉ between) (rest rest' : List Char) :
    first ++ '\n' :: rest ≠ between ++ (": ".toList ++ (second ++ '\n' :: rest')) := by
  intro same
  have ended := quoted.read_line rest
  rw [same, Quotation.read_append] at ended
  obtain ⟨state, before, ended⟩ := Option.bind_eq_some_iff.mp ended
  have started : state ≠ .ended := by
    rintro rfl
    exact Quotation.read_ne_ended (by decide) oneLine before
  have behind : Quotation.inside.read (second ++ '\n' :: rest') = none := by
    have opposed := Quotation.Opposed.outside.read_eq_none (quotedToo.read_line []) rest'
    rwa [List.append_assoc] at opposed
  have colon : state.read ": ".toList = none ∨ state.read ": ".toList = some .inside := by
    cases state with
    | ended => exact absurd rfl started
    | outside => exact .inl rfl
    | colon => exact .inl rfl
    | inside => exact .inr rfl
    | escaped => exact .inr rfl
  rw [Quotation.read_append] at ended
  rcases colon with stuck | inside
  · rw [stuck] at ended
    cases ended
  · rw [inside] at ended
    exact Option.some_ne_none _ (ended.symm.trans behind)

/-- Of two closed texts behind colons, neither begins later than the other. -/
theorem eq_nil_of_overlap (quoted : Quoted first) (quotedToo : Quoted second)
    {between rest rest' : List Char} (oneLine : '\n' ∉ between)
    (same : ": ".toList ++ (first ++ '\n' :: rest) =
      between ++ (": ".toList ++ (second ++ '\n' :: rest'))) : between = [] := by
  match between with
  | [] => rfl
  | [character] => exact absurd (List.cons.inj (List.cons.inj same).2).1 (by decide)
  | character :: next :: between =>
      have shorter := (List.cons.inj (List.cons.inj same).2).2
      exact absurd shorter (quoted.ne_overlap quotedToo
        (fun broken => oneLine (List.mem_cons_of_mem _ (List.mem_cons_of_mem _ broken))) _ _)

/-- What stands before a type and the colon before it is known from the whole line. -/
theorem stem_unique (quoted : Quoted first) (quotedToo : Quoted second)
    {stem stem' rest rest' : List Char} (oneLine : '\n' ∉ stem) (oneLineToo : '\n' ∉ stem')
    (same : stem ++ (": ".toList ++ (first ++ '\n' :: rest)) =
      stem' ++ (": ".toList ++ (second ++ '\n' :: rest'))) :
    stem = stem' ∧ first ++ '\n' :: rest = second ++ '\n' :: rest' := by
  have stems : stem = stem' := by
    rcases List.append_eq_append_iff.mp same with ⟨between, rfl, overlap⟩ | ⟨between, rfl, overlap⟩
    · rw [List.mem_append, not_or] at oneLineToo
      rw [quoted.eq_nil_of_overlap quotedToo oneLineToo.2 overlap, List.append_nil]
    · rw [List.mem_append, not_or] at oneLine
      rw [quotedToo.eq_nil_of_overlap quoted oneLine.2 overlap, List.append_nil]
  subst stems
  exact ⟨rfl, List.append_cancel_left (List.append_cancel_left same)⟩

/-- Nothing in the text has a meaning of its own. -/
theorem of_plain (plain : Lacks "\n\"\\:" first) : Quoted first := by
  refine .inl ?_
  induction first with
  | nil => rfl
  | cons character first inductionHypothesis =>
      obtain ⟨here, others⟩ := List.forall_mem_cons.mp plain
      obtain ⟨feed, mark, backslash, colon⟩ :
          character ≠ '\n' ∧ character ≠ '"' ∧ character ≠ '\\' ∧ character ≠ ':' := by
        simpa using here
      have step : Quotation.outside.next character = some .outside := by
        simp [Quotation.next, feed, mark, backslash, colon]
      rw [Quotation.read_cons, step]
      exact inductionHypothesis others

/-- Closed texts can be listed with a closed separator. -/
theorem intercalate {separator : String} (joined : Quoted separator.toList) {texts : List String}
    (each : ∀ text ∈ texts, Quoted text.toList) :
    Quoted (String.intercalate separator texts).toList :=
  @intercalate_induction (fun text => Quoted text.toList) (.inl rfl)
    (fun left right => by rw [String.toList_append]; exact left.append right) _ joined _ each

end Quoted

/-- A text without blanks that keeps a reader outside of quotation marks in the end. -/
def Balanced (text : List Char) : Prop :=
  ∀ state, state = .outside ∨ state = .colon →
    ∃ after, Quotation.read state text = some after ∧ (after = .outside ∨ after = .colon)

namespace Balanced

variable {first second : List Char}

theorem nil : Balanced [] := fun state plain => ⟨state, rfl, plain⟩

/-- Balanced texts can be put side by side. -/
theorem append (left : Balanced first) (right : Balanced second) : Balanced (first ++ second) := by
  intro state plain
  obtain ⟨middle, before, plain⟩ := left state plain
  obtain ⟨after, behind, plain⟩ := right middle plain
  refine ⟨after, ?_, plain⟩
  rw [Quotation.read_append, before]
  exact behind

/-- Nothing in the text has a meaning of its own but for colons. -/
theorem of_plain (plain : Lacks "\n\"\\ " first) : Balanced first := by
  induction first with
  | nil => exact nil
  | cons character first inductionHypothesis =>
      obtain ⟨here, others⟩ := List.forall_mem_cons.mp plain
      obtain ⟨feed, mark, backslash, blank⟩ :
          character ≠ '\n' ∧ character ≠ '"' ∧ character ≠ '\\' ∧ character ≠ ' ' := by
        simpa using here
      intro state unquoted
      have step : state.next character =
          some (if character = ':' then .colon else .outside) := by
        rcases unquoted with rfl | rfl <;> simp [Quotation.next, feed, mark, backslash, blank] <;>
          split <;> rfl
      rw [Quotation.read_cons, step]
      exact inductionHypothesis others _ (by split <;> simp)

/-- Balanced texts can be listed with a balanced separator. -/
theorem intercalate {separator : String} (joined : Balanced separator.toList)
    {texts : List String} (each : ∀ text ∈ texts, Balanced text.toList) :
    Balanced (String.intercalate separator texts).toList :=
  @intercalate_induction (fun text => Balanced text.toList) nil
    (fun left right => by rw [String.toList_append]; exact left.append right) _ joined _ each

/-- A bracket behind a balanced text leaves the reader outside of quotation marks. -/
theorem quoted_closed (balanced : Balanced first) {bracket : Char}
    (plain : bracket ∉ "\n\"\\: ".toList) : Quoted (first ++ [bracket]) := by
  obtain ⟨after, before, unquoted⟩ := balanced .outside (.inl rfl)
  obtain ⟨feed, mark, backslash, colon, blank⟩ : bracket ≠ '\n' ∧ bracket ≠ '"' ∧
      bracket ≠ '\\' ∧ bracket ≠ ':' ∧ bracket ≠ ' ' := by
    simpa using plain
  refine .inl ?_
  rw [Quotation.read_append, before]
  rcases unquoted with rfl | rfl <;>
    simp [Quotation.read, Quotation.next, feed, mark, backslash, colon, blank]

end Balanced

namespace Json

/-- An escaped character does not end a quoted text. -/
theorem read_escapeChar (character : Char) :
    Quotation.inside.read (escapeChar character) = some .inside := by
  by_cases control : character.toNat < 32
  · have all : ∀ code < 32,
        Quotation.inside.read (escapeChar (Char.ofNat code)) = some .inside := by
      decide +kernel
    simpa using all character.toNat control
  · unfold escapeChar
    split
    · rfl
    · rfl
    · exact absurd (by decide) control
    · exact absurd (by decide) control
    · exact absurd (by decide) control
    · exact absurd (by decide) control
    · exact absurd (by decide) control
    · next mark backslash _ _ feed _ _ =>
        have step : Quotation.inside.next character = some .inside := by
          rw [Quotation.next, if_neg mark, if_neg backslash, if_neg feed]
        rw [if_neg control, Quotation.read_cons, step]
        rfl

/-- Whatever a text contains, nothing in it ends its quotation. -/
theorem read_quote (text : String) {state : Quotation}
    (plain : state = .outside ∨ state = .colon) :
    state.read (quote text).toList = some .outside := by
  have body (characters : List Char) :
      Quotation.inside.read (characters.flatMap escapeChar) = some .inside := by
    induction characters with
    | nil => rfl
    | cons character characters inductionHypothesis =>
        rw [List.flatMap_cons, Quotation.read_append, read_escapeChar]
        exact inductionHypothesis
  have opened : state.next '"' = some .inside := by
    rcases plain with rfl | rfl <;> rfl
  rw [quote, String.toList_ofList, List.cons_append, Quotation.read_cons, opened]
  change Quotation.inside.read _ = _
  rw [Quotation.read_append, body]
  rfl

/-- A quoted text is balanced, whatever it contains. -/
theorem quote_balanced (text : String) : Balanced (quote text).toList :=
  fun _ plain => ⟨.outside, read_quote text plain, .inl rfl⟩

/-- A number has no quotation marks. -/
theorem number_balanced (number : Json.Number) : Balanced number.text.toList :=
  .of_plain (.of_forall number.text_numerical (by decide))

theorem number_quoted (number : Json.Number) : Quoted number.text.toList :=
  .of_plain (.of_forall number.text_numerical (by decide))

mutual

/-- A value is balanced: its quotation marks open and close within it. -/
theorem compact_balanced : (value : Json) → Balanced value.compact.toList
  | .null => .of_plain (by decide)
  | .bool true => .of_plain (by decide)
  | .bool false => .of_plain (by decide)
  | .number value => number_balanced value
  | .string text => quote_balanced text
  | .array items => by
      rw [compact, String.toList_append, String.toList_append]
      exact ((Balanced.of_plain (by decide)).append
        (.intercalate (.of_plain (by decide)) (compactItems_balanced items))).append
        (.of_plain (by decide))
  | .object fields => by
      rw [compact, String.toList_append, String.toList_append]
      exact ((Balanced.of_plain (by decide)).append
        (.intercalate (.of_plain (by decide)) (compactFields_balanced fields))).append
        (.of_plain (by decide))

/-- The items of a list are balanced. -/
theorem compactItems_balanced :
    (items : List Json) → ∀ text ∈ compactItems items, Balanced text.toList
  | [] => nofun
  | item :: items => List.forall_mem_cons.mpr ⟨compact_balanced item, compactItems_balanced items⟩

/-- The fields of an object are balanced. -/
theorem compactFields_balanced :
    (fields : List (String × Json)) → ∀ text ∈ compactFields fields, Balanced text.toList
  | [] => nofun
  | (key, value) :: fields => List.forall_mem_cons.mpr ⟨by
      rw [String.toList_append, String.toList_append]
      exact ((quote_balanced key).append (.of_plain (by decide))).append (compact_balanced value),
    compactFields_balanced fields⟩

end

theorem compact_quoted (value : Json) : Quoted value.compact.toList := by
  cases value with
  | null => exact .inl rfl
  | bool truth => cases truth <;> exact .inl rfl
  | number value => exact number_quoted value
  | string text => exact .inl (read_quote text (.inl rfl))
  | array items =>
      rw [compact, String.toList_append, String.toList_append]
      exact ((Balanced.of_plain (by decide)).append
        (.intercalate (.of_plain (by decide)) (compactItems_balanced items))).quoted_closed
        (by decide)
  | object fields =>
      rw [compact, String.toList_append, String.toList_append]
      exact ((Balanced.of_plain (by decide)).append
        (.intercalate (.of_plain (by decide)) (compactFields_balanced fields))).quoted_closed
        (by decide)

end Json

namespace TypeScript

/-- The names in a type have no ASCII characters but letters and digits. -/
def TypeExpr.Wordlike (type : TypeExpr) : Prop :=
  ∀ text ∈ type.names, ∀ character ∈ text.toList, IsWordlike character

theorem Keyword.text_quoted (word : Keyword) : Quoted word.text.toList := by
  rcases word with _ | ⟨_ | _ | _ | _ | _⟩ <;> exact .of_plain (by decide)

/-- The brackets of an array leave its element closed. -/
theorem arrayText_quoted {element : String} (quoted : Quoted element.toList) :
    Quoted (arrayText element).toList := by
  unfold arrayText
  split
  · rw [String.toList_append, String.toList_append]
    exact (Quoted.append (.of_plain (by decide)) quoted).append (.of_plain (by decide))
  · rw [String.toList_append]
    exact quoted.append (.of_plain (by decide))

mutual

/-- An object ends the first line, so its properties do not matter. -/
theorem text_quoted (semicolons : Bool) :
    (type : TypeExpr) → type.Wordlike → Quoted (type.text semicolons).toList
  | .keyword word, _ => word.text_quoted
  | .name text, wordlike =>
      .of_plain (.of_forall (wordlike text (List.mem_singleton.mpr rfl)) (by decide))
  | .literal value, _ => value.compact_quoted
  | .array element, wordlike => arrayText_quoted (text_quoted semicolons element wordlike)
  | .union members, wordlike =>
      .intercalate (.of_plain (by decide)) (memberTexts_quoted semicolons members wordlike)
  | .intersection members, wordlike =>
      .intercalate (.of_plain (by decide)) (memberTexts_quoted semicolons members wordlike)
  | .object properties, _ => by
      rw [TypeExpr.text, objectText, String.append_assoc, String.toList_append]
      refine .inr ?_
      rw [Quotation.read_append]
      exact Quotation.read_ended _

/-- The members of a type are closed on their first lines. -/
theorem memberTexts_quoted (semicolons : Bool) :
    (members : List TypeExpr) →
      (∀ text ∈ memberNames members, ∀ character ∈ text.toList, IsWordlike character) →
      ∀ text ∈ memberTexts semicolons members, Quoted text.toList
  | [], _ => nofun
  | member :: members, wordlike => by
      rw [memberNames, List.forall_mem_append] at wordlike
      exact List.forall_mem_cons.mpr ⟨text_quoted semicolons member wordlike.1,
        memberTexts_quoted semicolons members wordlike.2⟩

end

end TypeScript
end SchemaTypes
