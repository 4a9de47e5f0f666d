/-
This file says which lines of a text can begin a declaration. Main statement: a text whose later
lines hang below the first has no other line that begins a declaration.
-/
import SchemaTypes.Text.Lines
import Mathlib.Data.List.Chain

namespace SchemaTypes.Text

def OneLine (text : String) : Prop := '\n' ∉ text.toList

instance (text : String) : Decidable (OneLine text) := inferInstanceAs (Decidable (_ ∉ _))

/-- Two texts on one line are on one line together. -/
theorem OneLine.append {first second : String} (left : OneLine first) (right : OneLine second) :
    OneLine (first ++ second) := by
  rw [OneLine, String.toList_append, List.mem_append, not_or]
  exact ⟨left, right⟩

/-- What holds of the empty text and of joined texts holds of texts with a separator between
them. -/
theorem intercalate_induction {Good : String → Prop} (empty : Good "")
    (append : ∀ {first second}, Good first → Good second → Good (first ++ second))
    {separator : String} (joined : Good separator) {texts : List String}
    (each : ∀ text ∈ texts, Good text) : Good (String.intercalate separator texts) := by
  induction texts with
  | nil => exact empty
  | cons text texts inductionHypothesis =>
      obtain ⟨here, others⟩ := List.forall_mem_cons.mp each
      cases texts with
      | nil => simpa using here
      | cons other texts =>
          rw [String.intercalate_cons_cons]
          exact append (append here joined) (inductionHypothesis others)

/-- Nothing comes of joining texts only if there is none, or a single empty one. -/
theorem intercalate_eq_empty {separator : String} (visible : separator ≠ "")
    {texts : List String} :
    String.intercalate separator texts = "" ↔ texts = [] ∨ texts = [""] := by
  rcases texts with _ | ⟨text, _ | ⟨next, texts⟩⟩
  · simp
  · simp
  · simp [String.append_eq_empty_iff, visible]

/-- Texts on one line are joined on one line by a separator without line breaks. -/
theorem OneLine.intercalate {separator : String} (joined : OneLine separator)
    {texts : List String} (each : ∀ text ∈ texts, OneLine text) :
    OneLine (String.intercalate separator texts) :=
  intercalate_induction (by decide) OneLine.append joined each

/-- The lines of a text have no line breaks. -/
theorem newline_not_mem_of_mem_splitOn {text line : List Char}
    (member : line ∈ text.splitOn '\n') : '\n' ∉ line := by
  induction text generalizing line with
  | nil =>
      rw [List.splitOn_nil, List.mem_singleton] at member
      rw [member]
      exact List.not_mem_nil
  | cons character text inductionHypothesis =>
      obtain ⟨first, others, split⟩ := List.exists_cons_of_ne_nil (List.splitOn_ne_nil '\n' text)
      rw [split] at inductionHypothesis
      rw [List.splitOn_cons_eq_if_modifyHead, split] at member
      split at member
      · rcases List.mem_cons.mp member with rfl | later
        · exact List.not_mem_nil
        · exact inductionHypothesis later
      · next other =>
        rcases List.mem_cons.mp member with rfl | later
        · rw [List.mem_cons, not_or]
          exact ⟨fun same => other (beq_iff_eq.mpr same.symm),
            inductionHypothesis List.mem_cons_self⟩
        · exact inductionHypothesis (List.mem_cons_of_mem _ later)

theorem oneLine_of_mem_lines {text line : String} (member : line ∈ lines text) : OneLine line := by
  obtain ⟨part, inside, rfl⟩ := List.mem_map.mp member
  rw [OneLine, String.toList_ofList]
  exact newline_not_mem_of_mem_splitOn inside

def exportWord : String := "export "

def isExport (line : String) : Bool := exportWord.toList.isPrefixOf line.toList

/-- Whether a line begins a declaration is decided by its beginning. -/
theorem isExport_append {line : String} (begins : isExport line = true) (rest : String) :
    isExport (line ++ rest) = true := by
  rw [isExport, List.isPrefixOf_iff_prefix] at *
  rw [String.toList_append]
  exact begins.trans (List.prefix_append ..)

/-- The lines that begin a declaration. -/
def exportLines (text : String) : List String := (lines text).filter isExport

/-- The text does not end within a line break, and no line but the first begins as a declaration
does. -/
structure Hangs (text : List Char) : Prop where
  chain : text.IsChain fun left right => left = '\n' → right ≠ 'e'
  closed : ∀ last ∈ text.getLast?, last ≠ '\n'

namespace Hangs

variable {first second : List Char}

theorem nil : Hangs [] := ⟨.nil, nofun⟩

/-- Texts that hang may be written one behind the other. -/
theorem append (left : Hangs first) (right : Hangs second) : Hangs (first ++ second) where
  chain := left.chain.append right.chain fun last found _ _ broken =>
    absurd broken (left.closed last found)
  closed last found := by
    rw [List.getLast?_append] at found
    rcases Option.or_eq_some_iff.mp found with here | ⟨-, before⟩
    · exact right.closed last here
    · exact left.closed last before

/-- A text on one line hangs. -/
theorem of_not_mem (oneLine : '\n' ∉ first) : Hangs first where
  chain := List.isChain_iff_getElem.mpr fun _ _ broken =>
    absurd (broken ▸ List.getElem_mem _) oneLine
  closed _ found broken := oneLine (broken ▸ List.mem_of_getLast? found)

/-- Texts that hang are joined by a separator that hangs. -/
theorem intercalate {separator : String} (joined : Hangs separator.toList) {texts : List String}
    (each : ∀ text ∈ texts, Hangs text.toList) :
    Hangs (String.intercalate separator texts).toList :=
  @intercalate_induction (fun text => Hangs text.toList) .nil
    (fun left right => by rw [String.toList_append]; exact left.append right) _ joined _ each

/-- A text may follow on a line of its own if it does not begin as a declaration does. -/
theorem onNextLine {text : String} (hangs : Hangs text.toList) {start : Char}
    (begins : text.toList.head? = some start) (other : start ≠ 'e') :
    Hangs ("\n" ++ text).toList := by
  rw [String.toList_append]
  generalize text.toList = text at hangs begins
  constructor
  · refine hangs.chain.cons ?_
    rintro next found - rfl
    rw [begins] at found
    exact other (Option.some.inj found)
  · intro last found
    cases text with
    | nil => cases begins
    | cons character rest =>
        refine hangs.closed last ?_
        simpa using found

/-- The same for texts that follow one below the other. -/
theorem stacked {texts : List String} (nonempty : texts ≠ [])
    (each : ∀ text ∈ texts, Hangs ("\n" ++ text).toList) :
    Hangs ("\n" ++ String.intercalate "\n" texts).toList := by
  induction texts with
  | nil => exact absurd rfl nonempty
  | cons text texts inductionHypothesis =>
      obtain ⟨here, others⟩ := List.forall_mem_cons.mp each
      cases texts with
      | nil => simpa using here
      | cons next texts =>
          have later := inductionHypothesis (List.cons_ne_nil _ _) others
          have whole : "\n" ++ String.intercalate "\n" (text :: next :: texts) =
              ("\n" ++ text) ++ ("\n" ++ String.intercalate "\n" (next :: texts)) := by
            rw [String.intercalate_cons_cons]
            simp only [String.append_assoc]
          rw [whole, String.toList_append]
          exact here.append later

end Hangs

/-- Every line but the first is moved to the right, so none of them begins a declaration. -/
theorem indentRest_hangs (text : String) : Hangs (indentRest text).toList := by
  rw [indentRest, String.toList_ofList]
  induction text.toList with
  | nil => exact .nil
  | cons character rest inductionHypothesis =>
      rw [List.flatMap_cons]
      refine Hangs.append ?_ inductionHypothesis
      by_cases broken : character = '\n'
      · subst broken
        exact ⟨by simp [indentChar, indentation], by simp [indentChar, indentation]⟩
      · exact .of_not_mem (by simp [indentChar, broken, Ne.symm broken])

/-- The first line of a text begins as the text does. -/
theorem splitOn_head {first : List Char} {rest : List (List Char)} {text : List Char}
    (split : text.splitOn '\n' = first :: rest) : ∀ start ∈ first.head?, start ∈ text.head? := by
  cases text with
  | nil =>
      cases split
      nofun
  | cons character text =>
      rw [List.splitOn_cons_eq_if_modifyHead] at split
      split at split
      · cases split
        nofun
      · obtain ⟨line, lines, later⟩ :=
          List.exists_cons_of_ne_nil (List.splitOn_ne_nil '\n' text)
        rw [later] at split
        cases split
        exact fun _ same => same

/-- The later lines of a text that hangs begin no declaration. -/
theorem splitOn_tail {text : List Char}
    (chain : text.IsChain fun left right => left = '\n' → right ≠ 'e') :
    ∀ line ∈ (text.splitOn '\n').tail, line.head? ≠ some 'e' := by
  induction text with
  | nil => simp
  | cons character text inductionHypothesis =>
      obtain ⟨next, chain⟩ := List.isChain_cons.mp chain
      have later := inductionHypothesis chain
      obtain ⟨line, lines, split⟩ := List.exists_cons_of_ne_nil (List.splitOn_ne_nil '\n' text)
      rw [List.splitOn_cons_eq_if_modifyHead]
      rw [split] at later ⊢
      split
      · next broken =>
        rintro other (_ | ⟨_, member⟩)
        · exact fun starts => next 'e' (splitOn_head split 'e' starts) (beq_iff_eq.mp broken) rfl
        · exact later other member
      · exact later

/-- A header stands on the first line of what it is written before. -/
theorem splitOn_append {header : List Char} (oneLine : '\n' ∉ header) (rest : List Char) :
    (header ++ rest).splitOn '\n' = (rest.splitOn '\n').modifyHead (header ++ ·) := by
  induction header with
  | nil =>
      obtain ⟨line, lines, split⟩ := List.exists_cons_of_ne_nil (List.splitOn_ne_nil '\n' rest)
      rw [List.nil_append, split]
      rfl
  | cons character header inductionHypothesis =>
      obtain ⟨other, oneLine⟩ := List.ne_and_not_mem_of_not_mem_cons oneLine
      have same : (character == '\n') = false := beq_false_of_ne (Ne.symm other)
      rw [List.cons_append, List.splitOn_cons_eq_if_modifyHead, same,
        inductionHypothesis oneLine, if_neg Bool.false_ne_true, List.modifyHead_modifyHead]
      rfl

/-- A text that hangs below its opening begins one declaration. -/
theorem exportLines_opening {opening rest : String} (oneLine : OneLine opening)
    (begins : isExport opening = true) (hangs : Hangs rest.toList) :
    ∃ line, exportLines (opening ++ rest) = [opening ++ line] := by
  obtain ⟨first, more, split⟩ :=
    List.exists_cons_of_ne_nil (List.splitOn_ne_nil '\n' rest.toList)
  have whole : (opening ++ rest).toList.splitOn '\n' = (opening.toList ++ first) :: more := by
    rw [String.toList_append, splitOn_append oneLine, split]
    rfl
  have later := splitOn_tail hangs.chain
  rw [split] at later
  have isFirst : isExport (String.ofList (opening.toList ++ first)) = true := by
    rw [String.ofList_append, String.ofList_toList]
    exact isExport_append begins _
  have noOther : (more.map String.ofList).filter isExport = [] := by
    rw [List.filter_eq_nil_iff]
    intro line member isLater
    obtain ⟨other, present, rfl⟩ := List.mem_map.mp member
    rw [isExport, String.toList_ofList, List.isPrefixOf_iff_prefix] at isLater
    obtain ⟨after, rfl⟩ := isLater
    exact later _ present rfl
  refine ⟨String.ofList first, ?_⟩
  rw [exportLines, lines, pieces, whole, List.map_cons, List.filter_cons_of_pos isFirst, noOther,
    String.ofList_append, String.ofList_toList]

/-- A line that begins no declaration is not counted. -/
theorem exportLines_eq_nil {text : String} (oneLine : OneLine text)
    (other : isExport text = false) : exportLines text = [] := by
  rw [exportLines, lines, pieces, List.splitOn_eq_singleton oneLine, List.map_singleton,
    String.ofList_toList, List.filter_singleton, other]
  rfl

/-- Two texts, one below the other, begin the declarations that each of them begins. -/
theorem exportLines_append (first second : String) :
    exportLines (first ++ "\n" ++ second) = exportLines first ++ exportLines second := by
  have joined : (first ++ "\n" ++ second).toList = first.toList ++ '\n' :: second.toList := by
    simp
  rw [exportLines, lines, pieces, joined, List.splitOn_append_cons_self, List.map_append,
    List.filter_append]
  rfl

/-- The same holds of any number of texts. -/
theorem exportLines_intercalate (texts : List String) :
    exportLines (String.intercalate "\n" texts) = texts.flatMap exportLines := by
  induction texts with
  | nil => simp [exportLines, lines, pieces, isExport, exportWord]
  | cons text texts inductionHypothesis =>
      cases texts with
      | nil => simp
      | cons other texts =>
          rw [String.intercalate_cons_cons, exportLines_append, inductionHypothesis]
          rfl

end SchemaTypes.Text
