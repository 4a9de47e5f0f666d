/-
This file follows the blocks of a type over its lines. Main statement: the type of a property ends
at the first line break outside of its blocks, so what follows it on later lines is known.
-/
import SchemaTypes.Proofs.Output.Pieces
import SchemaTypes.Proofs.Output.Quotation

namespace SchemaTypes

open Text Unicode

/-- Where a reader of an indented type is. -/
inductive Block where
  | closed
  /-- Outside of blocks and directly behind a brace. -/
  | opened
  /-- In a block, in the margin of a line. -/
  | margin (column : Nat)
  | inside
deriving DecidableEq

namespace Block

/-- A line break opens a block behind a brace, and a brace in the third column closes it. -/
def next : Block → Char → Option Block
  | .margin column, character =>
    if character = '\n' then some (.margin 0)
    else if column < 2 then some (.margin (column + 1))
    else if character = '\x7d' then some .closed
    else some .inside
  | .inside, character => if character = '\n' then some (.margin 0) else some .inside
  | state, character =>
    if character = '\n' then if state = .opened then some (.margin 0) else none
    else if character = '\x7b' then some .opened
    else some .closed

def read (state : Block) (text : List Char) : Option Block := text.foldlM next state

/-- A text is read part by part. -/
theorem read_append (state : Block) (first second : List Char) :
    state.read (first ++ second) = (state.read first).bind (·.read second) :=
  List.foldlM_append

theorem read_cons (state : Block) (character : Char) (text : List Char) :
    state.read (character :: text) = (state.next character).bind (·.read text) :=
  List.foldlM_cons

/-- A text with closed blocks ends at a line break that no longer text with closed blocks has. -/
theorem eq_nil_of_read_append {text more rest rest' : List Char}
    (ended : closed.read text = some .closed) (endedToo : closed.read (text ++ more) = some .closed)
    (same : '\n' :: rest = more ++ '\n' :: rest') : more = [] := by
  cases more with
  | nil => rfl
  | cons character more =>
      obtain ⟨rfl, -⟩ := List.cons.inj same
      rw [read_append, ended] at endedToo
      cases endedToo

/-- Two texts with closed blocks that are followed by a line break end in the same place. -/
theorem text_unique {first second rest rest' : List Char}
    (ended : closed.read first = some .closed) (endedToo : closed.read second = some .closed)
    (same : first ++ '\n' :: rest = second ++ '\n' :: rest') : first = second ∧ rest = rest' := by
  have texts : first = second := by
    rcases List.append_eq_append_iff.mp same with ⟨more, rfl, behind⟩ | ⟨more, rfl, behind⟩
    · rw [eq_nil_of_read_append ended endedToo behind, List.append_nil]
    · rw [eq_nil_of_read_append endedToo ended behind, List.append_nil]
  subst texts
  exact ⟨rfl, (List.cons.inj (List.append_cancel_left same)).2⟩

/-- Without a line break a reader stays outside of blocks. -/
theorem exists_read_of_oneLine {text : List Char} (oneLine : '\n' ∉ text) {state : Block}
    (outside : state = .closed ∨ state = .opened) :
    ∃ after, state.read text = some after ∧ (after = .closed ∨ after = .opened) := by
  induction text generalizing state with
  | nil => exact ⟨state, rfl, outside⟩
  | cons character text inductionHypothesis =>
      obtain ⟨feed, oneLine⟩ := List.ne_and_not_mem_of_not_mem_cons oneLine
      have step : state.next character =
          some (if character = '\x7b' then .opened else .closed) := by
        rcases outside with rfl | rfl <;> simp [next, feed.symm] <;> split <;> rfl
      rw [read_cons, step]
      exact inductionHypothesis oneLine (by split <;> simp)

/-- Without a line break a reader stays in the block where it is. -/
theorem read_inside_of_oneLine {text : List Char} (oneLine : '\n' ∉ text) :
    inside.read text = some .inside := by
  induction text with
  | nil => rfl
  | cons character text inductionHypothesis =>
      obtain ⟨feed, oneLine⟩ := List.ne_and_not_mem_of_not_mem_cons oneLine
      have step : inside.next character = some .inside := by simp [next, feed.symm]
      rw [read_cons, step]
      exact inductionHypothesis oneLine

end Block

/-- All blocks of an indented text are closed, and no line begins outside of them. -/
def Whole (text : List Char) : Prop :=
  Block.closed.read (text.flatMap indentChar) = some .closed

namespace Whole

variable {first second : List Char}

/-- Texts whose blocks are closed can be put side by side. -/
theorem append (left : Whole first) (right : Whole second) : Whole (first ++ second) := by
  rw [Whole, List.flatMap_append, Block.read_append, left]
  exact right

/-- A single line opens no block if it does not end in a brace. -/
theorem of_oneLine (oneLine : '\n' ∉ first) (last : first.getLast? ≠ some '\x7b') :
    Whole first := by
  rw [Whole, flatMap_indentChar oneLine]
  rcases List.eq_nil_or_concat first with rfl | ⟨before, character, rfl⟩
  · rfl
  · rw [List.concat_eq_append, List.mem_append, not_or] at oneLine
    rw [List.concat_eq_append] at last ⊢
    obtain ⟨after, before, outside⟩ := Block.exists_read_of_oneLine oneLine.1 (.inl rfl)
    have feed : character ≠ '\n' := fun same => oneLine.2 (same ▸ List.mem_singleton.mpr rfl)
    have brace : character ≠ '\x7b' := by simpa using last
    rw [Block.read_append, before]
    rcases outside with rfl | rfl <;> simp [Block.read, Block.next, feed, brace]

/-- Texts whose blocks are closed can be listed with such a separator. -/
theorem intercalate {separator : String} (joined : Whole separator.toList) {texts : List String}
    (each : ∀ text ∈ texts, Whole text.toList) :
    Whole (String.intercalate separator texts).toList :=
  @intercalate_induction (fun text => Whole text.toList) rfl
    (fun left right => by rw [String.toList_append]; exact left.append right) _ joined _ each

end Whole

/-- A part of a line in a block, with what hangs below it deep enough. -/
def Nested (text : List Char) : Prop :=
  Block.inside.read (text.flatMap indentChar) = some .inside

namespace Nested

variable {first second : List Char}

/-- Parts of a line in a block can be put side by side. -/
theorem append (left : Nested first) (right : Nested second) : Nested (first ++ second) := by
  rw [Nested, List.flatMap_append, Block.read_append, left]
  exact right

/-- A text on one line hangs nothing into the block. -/
theorem of_oneLine (oneLine : '\n' ∉ first) : Nested first := by
  rw [Nested, flatMap_indentChar oneLine]
  exact Block.read_inside_of_oneLine oneLine

/-- An indented text hangs deep enough below its first line. -/
theorem indentRest (text : String) : Nested (indentRest text).toList := by
  rw [Text.indentRest, String.toList_ofList]
  induction text.toList with
  | nil => rfl
  | cons character rest inductionHypothesis =>
      rw [List.flatMap_cons]
      refine append ?_ inductionHypothesis
      by_cases feed : character = '\n'
      · subst feed
        rfl
      · rw [indentChar, if_neg feed]
        exact of_oneLine (by simpa using Ne.symm feed)

end Nested

namespace Json

/-- A value that is written on one line does not end in an opening brace. -/
theorem compact_last (value : Json) : value.compact.toList.getLast? ≠ some '\x7b' := by
  cases value with
  | null => decide
  | bool truth => cases truth <;> decide
  | number number =>
      intro last
      exact absurd (number.text_numerical _ (List.mem_of_getLast? last)) (by decide)
  | string text =>
      rw [compact, quote, String.toList_ofList, List.getLast?_append]
      simp
  | array items | object fields =>
      rw [compact, String.toList_append, List.getLast?_append]
      simp

/-- A value opens no block, whatever its texts contain. -/
theorem compact_whole (value : Json) : Whole value.compact.toList :=
  .of_oneLine value.compact_oneLine value.compact_last

end Json

namespace TypeScript

theorem Keyword.text_whole (word : Keyword) : Whole word.text.toList := by
  rcases word with _ | ⟨_ | _ | _ | _ | _⟩ <;> exact .of_oneLine (by decide) (by decide)

/-- An array opens no more blocks than its element. -/
theorem arrayText_whole {element : String} (whole : Whole element.toList) :
    Whole (arrayText element).toList := by
  unfold arrayText
  split
  · rw [String.toList_append, String.toList_append]
    exact (Whole.append (.of_oneLine (by decide) (by decide)) whole).append
      (.of_oneLine (by decide) (by decide))
  · rw [String.toList_append]
    exact whole.append (.of_oneLine (by decide) (by decide))

/-- The lines of a comment and the line break behind it, as they stand in a block. -/
theorem Label.comment_nested (label : Label) : Nested label.comment.toList := by
  unfold Label.comment
  cases label.description with
  | none => rfl
  | some description =>
      have lines := indentRest_intercalate 0 fun line member =>
        (commentLines_oneLine description line member).1
      have text : String.intercalate ("\n" ++ indentation) (commentLines description) ++ "\n" ++
          indentation =
          indentRest (String.intercalate ("\n" ++ margin 0) (commentLines description)) ++
            indentRest "\n" := by
        rw [lines, String.append_assoc]
        rfl
      dsimp only
      rw [text, String.toList_append]
      exact (Nested.indentRest _).append (Nested.indentRest _)

/-- A property begins behind the margin, and its later lines stay in the block. -/
theorem read_property (semicolons : Bool) {label : Label} (oneLine : OneLine label.name)
    (type : TypeExpr) :
    (Block.margin 2).read ((label.text ++ indentRest (type.text semicolons) ++
      propertyEnd semicolons).toList.flatMap indentChar) = some .inside := by
  have stem : Nested ((label.comment ++ label.name ++ if label.required then ": " else "?: ") ++
      indentRest (type.text semicolons) ++ propertyEnd semicolons).toList := by
    simp only [String.toList_append]
    have optional : OneLine (if label.required = true then ": " else "?: ") := by
      split <;> decide
    have ending : OneLine (propertyEnd semicolons) := by
      unfold propertyEnd
      split <;> decide
    exact ((((label.comment_nested).append (.of_oneLine oneLine)).append
      (.of_oneLine optional)).append (.indentRest _)).append (.of_oneLine ending)
  have text : label.text = indentation ++ (label.comment ++ label.name ++
      if label.required then ": " else "?: ") := by
    simp only [Label.text, String.append_assoc]
  rw [String.append_assoc] at stem
  rw [text, String.append_assoc, String.append_assoc, String.toList_append, List.flatMap_append,
    Block.read_append]
  exact stem

/-- Properties one below the other stay in the block that they begin in. -/
theorem read_properties {texts : List String}
    (each : ∀ text ∈ texts,
      (Block.margin 2).read (text.toList.flatMap indentChar) = some .inside) :
    (Block.margin 2).read ((String.intercalate "\n" texts).toList.flatMap indentChar) =
        some .inside ∨
      (Block.margin 2).read ((String.intercalate "\n" texts).toList.flatMap indentChar) =
        some (.margin 2) := by
  induction texts with
  | nil => exact .inr rfl
  | cons text texts inductionHypothesis =>
      obtain ⟨here, others⟩ := List.forall_mem_cons.mp each
      cases texts with
      | nil =>
          rw [String.intercalate_singleton]
          exact .inl here
      | cons other texts =>
          rw [String.intercalate_cons_cons, String.toList_append, String.toList_append,
            List.flatMap_append, List.flatMap_append, Block.read_append, Block.read_append, here]
          exact inductionHypothesis others

/-- An object closes the block that it opens if its properties stay within it. -/
theorem objectText_whole {texts : List String}
    (each : ∀ text ∈ texts,
      (Block.margin 2).read (text.toList.flatMap indentChar) = some .inside) :
    Whole (objectText texts).toList := by
  rw [Whole, objectText, String.toList_append, String.toList_append, List.flatMap_append,
    List.flatMap_append, Block.read_append, Block.read_append]
  change ((Block.margin 2).read _).bind _ = _
  rcases read_properties each with inside | margin
  · rw [inside]
    rfl
  · rw [margin]
    rfl

mutual

/-- The labels of the objects in a type that are in no other object of it. -/
def TypeExpr.outerLabels : TypeExpr → List Label
  | .array element => element.outerLabels
  | .union members => memberOuterLabels members
  | .intersection members => memberOuterLabels members
  | .object properties => properties.map Prod.fst
  | _ => []

def memberOuterLabels : List TypeExpr → List Label
  | [] => []
  | member :: members => member.outerLabels ++ memberOuterLabels members

end

mutual

/-- Each type closes its blocks if the outer names in it stand on one line. -/
theorem text_whole (semicolons : Bool) :
    (type : TypeExpr) → type.Wordlike → (∀ label ∈ type.outerLabels, OneLine label.name) →
      Whole (type.text semicolons).toList
  | .keyword word, _, _ => word.text_whole
  | .name text, wordlike, _ => by
      have other (character : Char) (special : ¬ IsWordlike character) :
          character ∉ text.toList := fun member =>
        special (wordlike text (List.mem_singleton.mpr rfl) character member)
      exact .of_oneLine (other '\n' (by decide)) fun last =>
        other '\x7b' (by decide) (List.mem_of_getLast? last)
  | .literal value, _, _ => value.compact_whole
  | .array element, wordlike, labels =>
      arrayText_whole (text_whole semicolons element wordlike labels)
  | .union members, wordlike, labels =>
      .intercalate (.of_oneLine (by decide) (by decide))
        (memberTexts_whole semicolons members wordlike labels)
  | .intersection members, wordlike, labels =>
      .intercalate (.of_oneLine (by decide) (by decide))
        (memberTexts_whole semicolons members wordlike labels)
  | .object properties, _, labels => by
      rw [TypeExpr.text, propertyTexts_eq_map]
      refine objectText_whole (List.forall_mem_map.mpr fun property member => ?_)
      exact read_property semicolons (labels _ (List.mem_map_of_mem member)) property.2

theorem memberTexts_whole (semicolons : Bool) :
    (members : List TypeExpr) →
      (∀ text ∈ memberNames members, ∀ character ∈ text.toList, IsWordlike character) →
      (∀ label ∈ memberOuterLabels members, OneLine label.name) →
      ∀ text ∈ memberTexts semicolons members, Whole text.toList
  | [], _, _ => nofun
  | member :: members, wordlike, labels => by
      rw [memberNames, List.forall_mem_append] at wordlike
      rw [memberOuterLabels, List.forall_mem_append] at labels
      exact List.forall_mem_cons.mpr ⟨text_whole semicolons member wordlike.1 labels.1,
        memberTexts_whole semicolons members wordlike.2 labels.2⟩

end

end TypeScript
end SchemaTypes
