/-
This file says what the names of types look like. Main statement: such a name is made of words that
begin with a capital and go on in small letters, and within a word no other word begins.
-/
import SchemaTypes.Proofs.Names.Ascii
import Mathlib.Data.List.Chain

namespace SchemaTypes

open Unicode

namespace Unicode

def smallOf (character : Char) : Char := (lowerChar character).headD character

def capitalOf (character : Char) : Char := (upperChar (smallOf character)).headD character

/-- A letter with one small letter and one capital, or a character that is both of them itself. -/
@[mk_iff] structure Paired (character : Char) : Prop where
  lowers : lowerChar character = [smallOf character]
  raises : upperChar (smallOf character) = [capitalOf character]
  smallKept : isAlphanumeric (smallOf character) = true
  capitalKept : isAlphanumeric (capitalOf character) = true
  smallPlain : isUppercase (smallOf character) = false
  capitalPlain : isLowercase (capitalOf character) = false
  alphabetic : isAlphabetic (smallOf character) = isAlphabetic character

instance (character : Char) : Decidable (Paired character) :=
  decidable_of_iff' _ (paired_iff character)

/-- Every letter and digit of ASCII has one small letter and one capital. -/
theorem paired_of_isAscii {character : Char} (ascii : isAscii character = true)
    (alphanumeric : isAlphanumeric character = true) : Paired character :=
  @of_isAscii (fun character => isAlphanumeric character = true → Paired character) character
    ascii (by decide +kernel) alphanumeric

/-- A character that stays as it is where it begins a word. -/
structure Opens (character : Char) : Prop where
  capital : ∃ small, lowerChar character = [small] ∧ upperChar small = [character]
  kept : isAlphanumeric character = true
  plain : isLowercase character = false

/-- A character that stays as it is within a word. -/
structure Follows (character : Char) : Prop where
  settled : lowerChar character = [character]
  kept : isAlphanumeric character = true
  plain : isUppercase character = false

theorem exists_of_flatMap_eq_singleton {α β : Type} {f : α → List β} {members : List α} {result : β}
    (nonempty : ∀ member, f member ≠ []) (same : members.flatMap f = [result]) :
    ∃ member, members = [member] ∧ f member = [result] := by
  match members with
  | [] => cases same
  | [member] => exact ⟨member, rfl, by simpa using same⟩
  | first :: second :: rest =>
      have long := congrArg List.length same
      have one := List.length_pos_of_ne_nil (nonempty first)
      have two := List.length_pos_of_ne_nil (nonempty second)
      simp only [List.flatMap_cons, List.length_append, List.length_singleton] at long
      omega

/-- A capital is the capital of its own small letter. -/
theorem Paired.opens {character : Char} (paired : Paired character) :
    Opens (capitalOf character) where
  capital := by
    have settled : lowerChar (smallOf character) = [smallOf character] :=
      lowerChar_of_mem_lowerChar (paired.lowers ▸ List.mem_cons_self)
    have folded : foldCase (capitalOf character) = [capitalOf character] :=
      foldCase_of_mem_upperChar settled (paired.raises ▸ List.mem_cons_self)
    exact exists_of_flatMap_eq_singleton (fun _ => upperChar_ne_nil) folded
  kept := paired.capitalKept
  plain := paired.capitalPlain

def isNumeral (character : Char) : Bool := isAscii character && character.isDigit

/-- The numerals are at most nine places before the letters. -/
theorem not_letter_of_isNumeral {character : Char} (numeral : isNumeral character = true) :
    isAlphabetic character = false ∧ ¬65 ≤ character.toNat := by
  rw [isNumeral, Bool.and_eq_true] at numeral
  exact @of_isAscii (fun character => character.isDigit = true →
    isAlphabetic character = false ∧ ¬65 ≤ character.toNat) character numeral.1
    (by decide +kernel) numeral.2

/-- A numeral is only made of itself. -/
theorem Paired.eq_of_isNumeral {character : Char} (paired : Paired character) :
    (isNumeral (smallOf character) = true → smallOf character = character) ∧
      (isNumeral (capitalOf character) = true → capitalOf character = character) := by
  have small (numeral : isNumeral (smallOf character) = true) : smallOf character = character :=
    (mem_lowerChar (paired.lowers ▸ List.mem_cons_self)).resolve_right
      (not_letter_of_isNumeral numeral).2
  refine ⟨small, fun numeral => ?_⟩
  have same : capitalOf character = smallOf character :=
    (mem_upperChar (paired.raises ▸ List.mem_cons_self)).resolve_right
      (not_letter_of_isNumeral numeral).2
  rw [same] at numeral ⊢
  exact small numeral

/-- What a character becomes within a word. -/
structure Becomes (source small : Char) : Prop where
  follows : Follows small
  numeral : isNumeral small = true → isNumeral source = true
  alphabetic : isAlphabetic small = true → isAlphabetic source = true

/-- A letter with two forms becomes its small letter within a word. -/
theorem Paired.becomes {character : Char} (paired : Paired character) :
    Becomes character (smallOf character) where
  follows := {
    settled := lowerChar_of_mem_lowerChar (paired.lowers ▸ List.mem_cons_self)
    kept := paired.smallKept
    plain := paired.smallPlain }
  numeral digit := by
    rw [← paired.eq_of_isNumeral.1 digit]
    exact digit
  alphabetic letter := paired.alphabetic ▸ letter

/-- Either small sigma may stand within a word. -/
theorem smallSigma_becomes (final : Bool) : Becomes 'Σ' (smallSigma final) := by
  have fits : ∀ final, (lowerChar (smallSigma final) = [smallSigma final] ∧
      isAlphanumeric (smallSigma final) = true ∧ isUppercase (smallSigma final) = false) ∧
      (isNumeral (smallSigma final) = true → isNumeral 'Σ' = true) ∧
      (isAlphabetic (smallSigma final) = true → isAlphabetic 'Σ' = true) := by
    decide +kernel
  obtain ⟨⟨settled, kept, plain⟩, numeral, alphabetic⟩ := fits final
  exact ⟨⟨settled, kept, plain⟩, numeral, alphabetic⟩

/-- Lowering keeps the number of characters that have two forms. -/
theorem exists_lowerFrom_cons {character : Char} (paired : Paired character)
    (before rest : List Char) : ∃ small, Becomes character small ∧
      lowerFrom before (character :: rest) = small :: lowerFrom (character :: before) rest := by
  by_cases sigma : character = 'Σ'
  · subst sigma
    exact ⟨_, smallSigma_becomes (meetsCased before && !meetsCased rest), rfl⟩
  · refine ⟨smallOf character, paired.becomes, ?_⟩
    rw [lowerFrom, if_neg sigma, paired.lowers]
    rfl

/-- The first letter of a word is no final sigma. -/
theorem lowerFrom_nil_cons (character : Char) (rest : List Char) :
    lowerFrom [] (character :: rest) = lowerChar character ++ lowerFrom [character] rest := by
  by_cases sigma : character = 'Σ'
  · subst sigma
    have small : lowerChar 'Σ' = ['σ'] := by decide +kernel
    rw [small]
    rfl
  · rw [lowerFrom, if_neg sigma]

end Unicode

namespace Identifier

/-- A word in which no letter follows a numeral. -/
def Whole (word : List Char) : Prop :=
  word.IsChain fun previous current => isNumeral previous = true → isAlphabetic current = false

/-- Where a character goes on in a word, no word begins. -/
theorem startsWord_of_follows {previous current : Char} (follows : Follows current)
    (whole : isNumeral previous = true → isAlphabetic current = false) (next : Option Char) :
    startsWord previous current next = false := by
  rw [startsWord, follows.plain, Bool.and_false, Bool.and_false, Bool.false_and, Bool.or_false,
    Bool.false_or, Bool.and_eq_false_imp]
  exact whole

/-- Where no word begins, a letter does not follow a numeral. -/
theorem whole_of_startsWord {previous current : Char} {next : Option Char}
    (within : startsWord previous current next = false) :
    isNumeral previous = true → isAlphabetic current = false := by
  rw [startsWord, Bool.or_eq_false_iff, Bool.or_eq_false_iff] at within
  exact Bool.and_eq_false_imp.mp within.1.2

/-- A word that is collected is what was read, and there is something of it. -/
theorem mem_word? {reversed word : List Char} (member : word ∈ word? reversed) :
    word = reversed.reverse ∧ word ≠ [] := by
  cases reversed with
  | nil => cases member
  | cons character before =>
      rw [List.mem_singleton.mp member]
      exact ⟨rfl, by simp⟩

/-- Within the words of a name no other word begins. -/
theorem wordsFrom_whole {reversed rest : List Char} (done : Whole reversed.reverse) :
    ∀ word ∈ wordsFrom reversed rest, word ≠ [] ∧ Whole word := by
  have ended {reversed : List Char} (done : Whole reversed.reverse) (word : List Char)
      (member : word ∈ word? reversed) : word ≠ [] ∧ Whole word := by
    obtain ⟨rfl, nonempty⟩ := mem_word? member
    exact ⟨nonempty, done⟩
  induction rest generalizing reversed with
  | nil => exact ended done
  | cons current rest inductionHypothesis =>
      intro word member
      unfold wordsFrom at member
      split at member
      · exact (List.mem_append.mp member).elim (ended done word)
          (@inductionHypothesis [] .nil word)
      · split at member
        · exact (List.mem_append.mp member).elim (ended done word)
            (@inductionHypothesis [current] (.singleton current) word)
        · next within =>
          refine inductionHypothesis ?_ word member
          rw [List.reverse_cons]
          refine done.append (.singleton current) fun previous last _ here => ?_
          obtain rfl := Option.some.inj here
          rw [List.getLast?_reverse] at last
          rw [last] at within
          exact whole_of_startsWord (Bool.eq_false_iff.mpr within)

/-- Letters alone are a whole word. -/
theorem whole_of_alphabetic {letters : List Char}
    (alphabetic : ∀ letter ∈ letters, isAlphabetic letter = true) : Whole letters := by
  refine List.isChain_iff_getElem.mpr fun index inside numeral => ?_
  have letter := alphabetic _ (List.getElem_mem (Nat.lt_of_succ_lt inside))
  rw [(not_letter_of_isNumeral numeral).1] at letter
  cases letter

/-- Letters that are collected make a word if there are any. -/
theorem mem_letters? {letters word : List Char} (member : word ∈ letters? letters) :
    word = letters ∧ word ≠ [] := by
  cases letters with
  | nil => cases member
  | cons letter rest =>
      rw [List.mem_singleton.mp member]
      exact ⟨rfl, List.cons_ne_nil _ _⟩

/-- A word of one letter is a letter. -/
theorem exists_of_isSingleLetter {word : List Char} (single : isSingleLetter word = true) :
    ∃ letter, word = [letter] ∧ isAlphabetic letter = true := by
  match word with
  | [letter] => exact ⟨letter, rfl, single⟩

/-- Merged letters are a word within which no other word begins. -/
theorem mergeFrom_whole {letters : List Char} {words : List (List Char)}
    (alphabetic : ∀ letter ∈ letters, isAlphabetic letter = true)
    (each : ∀ word ∈ words, word ≠ [] ∧ Whole word) :
    ∀ word ∈ mergeFrom letters words, word ≠ [] ∧ Whole word := by
  have run {letters : List Char} (alphabetic : ∀ letter ∈ letters, isAlphabetic letter = true)
      (word : List Char) (member : word ∈ letters? letters) : word ≠ [] ∧ Whole word := by
    obtain ⟨rfl, nonempty⟩ := mem_letters? member
    exact ⟨nonempty, whole_of_alphabetic alphabetic⟩
  induction words generalizing letters with
  | nil => exact run alphabetic
  | cons first words inductionHypothesis =>
      obtain ⟨here, others⟩ := List.forall_mem_cons.mp each
      intro word member
      unfold mergeFrom at member
      split at member
      · next single =>
        obtain ⟨letter, rfl, alone⟩ := exists_of_isSingleLetter single
        exact inductionHypothesis (List.forall_mem_append.mpr
          ⟨alphabetic, List.forall_mem_singleton.mpr alone⟩) others word member
      · rcases List.mem_append.mp member with before | after
        · exact run alphabetic word before
        · rcases List.mem_cons.mp after with rfl | later
          · exact here
          · exact inductionHypothesis (List.forall_mem_nil _) others word later

/-- Merging single letters leaves words within which no other word begins. -/
theorem mergeLetters_whole (name : List Char) :
    ∀ word ∈ mergeLetters (words name), word ≠ [] ∧ Whole word :=
  mergeFrom_whole (List.forall_mem_nil _) (@wordsFrom_whole [] name .nil)

/-- A word whose first letter has one capital is capitalized by it. -/
theorem capitalize_of_paired {character : Char} (paired : Paired character) (rest : List Char) :
    capitalize (character :: rest) = capitalOf character :: lowerFrom [character] rest := by
  rw [capitalize, lower, lowerFrom_nil_cons, paired.lowers]
  dsimp only [List.cons_append]
  rw [paired.raises]
  rfl

/-- Small letters are as whole a word as the letters that they are made of. -/
theorem whole_lowerFrom {rest : List Char} (paired : ∀ character ∈ rest, Paired character)
    (before : List Char) {source result : Char} (whole : Whole (source :: rest))
    (numeral : isNumeral result = true → isNumeral source = true) :
    (∀ letter ∈ lowerFrom before rest, Follows letter) ∧
      Whole (result :: lowerFrom before rest) := by
  induction rest generalizing before source result with
  | nil => exact ⟨List.forall_mem_nil _, .singleton result⟩
  | cons character rest inductionHypothesis =>
      obtain ⟨here, others⟩ := List.forall_mem_cons.mp paired
      obtain ⟨joint, inner⟩ := List.isChain_cons_cons.mp whole
      obtain ⟨small, becomes, lowered⟩ := exists_lowerFrom_cons here before rest
      obtain ⟨all, tail⟩ :=
        inductionHypothesis others (character :: before) inner becomes.numeral
      rw [lowered]
      refine ⟨List.forall_mem_cons.mpr ⟨becomes.follows, all⟩,
        List.isChain_cons_cons.mpr ⟨fun digit => ?_, tail⟩⟩
      have letterless := joint (numeral digit)
      exact Bool.eq_false_iff.mpr fun letter =>
        Bool.eq_false_iff.mp letterless (becomes.alphabetic letter)

/-- A text that may be the name of a type: only where a character opens a word can a word begin. -/
structure Derived (text : List Char) : Prop where
  characters : ∀ character ∈ text, Opens character ∨ Follows character
  begins : ∀ character ∈ text.head?, Opens character
  joints : text.IsChain fun previous current =>
    Opens current ∨ ∀ next, startsWord previous current next = false

/-- A capitalized word may be the name of a type. -/
theorem derived_capitalize {word : List Char} (nonempty : word ≠ []) (whole : Whole word)
    (paired : ∀ character ∈ word, Paired character) : Derived (capitalize word) := by
  obtain ⟨character, rest, rfl⟩ := List.exists_cons_of_ne_nil nonempty
  obtain ⟨here, others⟩ := List.forall_mem_cons.mp paired
  obtain ⟨follows, tail⟩ := whole_lowerFrom others [character] whole fun numeral => by
    rw [← here.eq_of_isNumeral.2 numeral]
    exact numeral
  rw [capitalize_of_paired here]
  constructor
  · exact List.forall_mem_cons.mpr ⟨.inl here.opens, fun letter member =>
      .inr (follows letter member)⟩
  · intro first found
    obtain rfl := Option.some.inj found
    exact here.opens
  · refine List.isChain_iff_getElem.mpr fun index inside => .inr ?_
    have joint := List.isChain_iff_getElem.mp tail index inside
    exact startsWord_of_follows (follows _ (List.getElem_mem (Nat.lt_of_succ_lt_succ inside))) joint

/-- Two names of types may be written together as one. -/
theorem Derived.append {first second : List Char} (left : Derived first) (right : Derived second) :
    Derived (first ++ second) where
  characters := List.forall_mem_append.mpr ⟨left.characters, right.characters⟩
  begins character found := by
    rw [List.head?_append] at found
    rcases Option.or_eq_some_iff.mp found with here | ⟨-, later⟩
    · exact left.begins character here
    · exact right.begins character later
  joints := left.joints.append right.joints fun _ _ character found =>
    .inl (right.begins character found)

/-- What a name makes may be the name of a type. -/
theorem derived_ofName {name : String}
    (paired : ∀ character ∈ name.toList, isAlphanumeric character = true → Paired character) :
    Derived (ofName name).toList := by
  have each : ∀ word ∈ mergeLetters (words name.toList), Derived (capitalize word) := by
    intro word inside
    obtain ⟨nonempty, whole⟩ := mergeLetters_whole name.toList word inside
    refine derived_capitalize nonempty whole fun character member => ?_
    obtain ⟨known, kept⟩ := mem_of_mem_words inside member
    exact paired character known kept
  rw [ofName, String.toList_ofList]
  generalize mergeLetters (words name.toList) = merged at each
  induction merged with
  | nil =>
      refine ⟨List.forall_mem_nil _, fun _ found => ?_, .nil⟩
      cases found
  | cons word rest inductionHypothesis =>
      obtain ⟨here, others⟩ := List.forall_mem_cons.mp each
      exact here.append (inductionHypothesis others)

end Identifier
end SchemaTypes
