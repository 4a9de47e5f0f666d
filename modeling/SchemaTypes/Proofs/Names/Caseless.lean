/-
This file compares names without regard to case. Main statements: the name of a type has the letters
and digits of the name that it is made of, case apart, and it begins with a capital or a numeral.
-/
import SchemaTypes.Proofs.Names.Spelling
import SchemaTypes.Proofs.Unicode.Folding

namespace SchemaTypes

open Unicode

namespace Unicode

/-- What a character becomes in lower case, wherever it stands. -/
structure Lowers (character : Char) (lowered : List Char) : Prop where
  nonempty : lowered ≠ []
  settled : ∀ letter ∈ lowered, lowerChar letter = [letter]
  folded : lowered.flatMap upperChar = foldCase character
  numeric : ∀ letter ∈ lowered, isNumeric letter = true → isNumeric character = true

/-- What the first character becomes is followed by what the others become behind it. -/
theorem lowerFrom_cons (before rest : List Char) (character : Char) :
    ∃ lowered, Lowers character lowered ∧
      lowerFrom before (character :: rest) = lowered ++ lowerFrom (character :: before) rest := by
  by_cases sigma : character = 'Σ'
  · subst sigma
    have small (final : Bool) : Lowers 'Σ' [smallSigma final] := by
      obtain ⟨settled, upper, noNumeral⟩ := casesFit.sigma final
      refine ⟨List.cons_ne_nil _ _, List.forall_mem_singleton.mpr ?_, ?_,
        List.forall_mem_singleton.mpr fun numeric => ?_⟩
      · rw [lowerChar_eq_searchedLower, settled]
      · rw [List.flatMap_singleton, upperChar_eq_searchedUpper, upper, foldCase_eq_searchedFold]
      · rw [noNumeral] at numeric
        cases numeric
    exact ⟨_, small (meetsCased before && !meetsCased rest), rfl⟩
  · refine ⟨lowerChar character, ⟨lowerChar_ne_nil, fun letter => lowerChar_of_mem_lowerChar, rfl,
      fun letter => isNumeric_of_mem_lowerChar⟩, ?_⟩
    rw [lowerFrom, if_neg sigma]

/-- A small letter is compared by its capital. -/
theorem foldCase_of_settled {letter : Char} (settled : lowerChar letter = [letter]) :
    foldCase letter = upperChar letter := by
  rw [foldCase, settled, List.flatMap_singleton]

/-- What was brought into lower case stays as it is there. -/
theorem settled_of_mem_lowerFrom {before characters : List Char} {letter : Char}
    (member : letter ∈ lowerFrom before characters) : lowerChar letter = [letter] := by
  induction characters generalizing before with
  | nil => cases member
  | cons character rest inductionHypothesis =>
      obtain ⟨lowered, lowers, whole⟩ := lowerFrom_cons before rest character
      rw [whole] at member
      rcases List.mem_append.mp member with here | later
      · exact lowers.settled letter here
      · exact inductionHypothesis later

/-- Lower case makes no difference to a comparison without case. -/
theorem lowerFrom_foldCase (before characters : List Char) :
    (lowerFrom before characters).flatMap foldCase = characters.flatMap foldCase := by
  induction characters generalizing before with
  | nil => rfl
  | cons character rest inductionHypothesis =>
      obtain ⟨lowered, lowers, whole⟩ := lowerFrom_cons before rest character
      have here : lowered.flatMap foldCase = foldCase character :=
        (List.flatMap_congr fun letter member =>
          foldCase_of_settled (lowers.settled letter member)).trans lowers.folded
      rw [whole, List.flatMap_append, here, inductionHypothesis, List.flatMap_cons]

end Unicode

namespace Identifier

/-- The letters and digits of a name without their case. -/
def caseless (name : String) : List Char :=
  (name.toList.filter isAlphanumeric).flatMap foldCase

/-- A capital is a change of case only. -/
theorem capitalize_foldCase (word : List Char) :
    (capitalize word).flatMap foldCase = word.flatMap foldCase := by
  have lowered := lowerFrom_foldCase [] word
  unfold capitalize lower
  cases letters : lowerFrom [] word with
  | nil => rw [← lowered, letters]
  | cons first rest =>
      have settled : lowerChar first = [first] :=
        settled_of_mem_lowerFrom (letters ▸ List.mem_cons_self)
      have capital : (upperChar first).flatMap foldCase = foldCase first := by
        rw [List.flatMap_congr fun letter member => foldCase_of_mem_upperChar settled member,
          List.flatMap_singleton', foldCase_of_settled settled]
      rw [List.flatMap_append, capital, ← List.flatMap_cons, ← letters, lowered]

/-- The name of a type has the letters and digits of its name, case apart. -/
theorem ofName_caseless (name : String) :
    (ofName name).toList.flatMap foldCase = caseless name := by
  rw [ofName, String.toList_ofList, List.flatMap_assoc,
    List.flatMap_congr fun word _ => capitalize_foldCase word, caseless, ← mergeLetters_flatten,
    List.flatten_eq_flatMap, List.flatMap_assoc]
  rfl

/-- Names of types are the same only if the names that they are made of are, case apart. -/
theorem caseless_of_ofName {first second : String} (same : ofName first = ofName second) :
    caseless first = caseless second := by
  rw [← ofName_caseless, same, ofName_caseless]

/-- What the first letter or digit of a name becomes. -/
structure Begins (character start : Char) : Prop where
  capital : ¬(97 ≤ start.toNat ∧ start.toNat ≤ 122)
  numeric : isNumeric start = true → isNumeric character = true

/-- A capitalized word does not begin with a small ASCII letter. -/
theorem capitalize_begins (character : Char) (rest : List Char) :
    ∃ start, Begins character start ∧ (capitalize (character :: rest)).head? = some start := by
  obtain ⟨lowered, lowers, whole⟩ := lowerFrom_cons [] rest character
  obtain ⟨first, others, begins⟩ := List.exists_cons_of_ne_nil lowers.nonempty
  obtain ⟨start, more, capital⟩ := List.exists_cons_of_ne_nil (@upperChar_ne_nil first)
  have member : start ∈ upperChar first := capital ▸ List.mem_cons_self
  have inside : first ∈ lowered := begins ▸ List.mem_cons_self
  refine ⟨start, ⟨not_small_of_mem_upperChar member, fun numeric =>
    lowers.numeric first inside (isNumeric_of_mem_upperChar member numeric)⟩, ?_⟩
  rw [capitalize, lower, whole, begins]
  dsimp only [List.cons_append]
  rw [capital]
  rfl

/-- What is made of words begins as their first letter or digit does, if there is one. -/
theorem flatMap_capitalize_begins (words : List (List Char)) :
    words.flatten = [] ∧ words.flatMap capitalize = [] ∨
      ∃ character start, words.flatten.head? = some character ∧ Begins character start ∧
        (words.flatMap capitalize).head? = some start := by
  induction words with
  | nil => exact .inl ⟨rfl, rfl⟩
  | cons word words inductionHypothesis =>
      cases word with
      | nil => exact inductionHypothesis
      | cons character rest =>
          obtain ⟨start, begins, found⟩ := capitalize_begins character rest
          refine .inr ⟨character, start, rfl, begins, ?_⟩
          rw [List.flatMap_cons, List.head?_append, found]
          rfl

/-- The name of a type is empty only if no letter and no digit is there to begin it. -/
theorem ofName_begins (name : String) :
    name.toList.filter isAlphanumeric = [] ∧ ofName name = "" ∨
      ∃ character start, (name.toList.filter isAlphanumeric).head? = some character ∧
        Begins character start ∧ (ofName name).toList.head? = some start := by
  have begins := flatMap_capitalize_begins (mergeLetters (words name.toList))
  rw [mergeLetters_flatten] at begins
  rw [ofName, String.toList_ofList]
  exact begins.imp_left fun nothing => ⟨nothing.1, congrArg String.ofList nothing.2⟩

end Identifier
end SchemaTypes
