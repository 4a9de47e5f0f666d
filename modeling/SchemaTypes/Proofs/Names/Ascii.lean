/-
This file derives the names of types from ASCII names. Main statement: the name of a type has the
letters and digits of the name that it is made of in their order, case apart, and a name makes the
same in upper case as in lower case.
-/
import SchemaTypes.Proofs.Names.Caseless

namespace SchemaTypes

open Unicode

namespace Unicode

/-- What the classes of an ASCII character and its case have to do with each other. -/
@[mk_iff] structure AsciiCases (character : Char) : Prop where
  kept : isAlphanumeric character = character.isAlphanum
  lowerKept : character.toLower.isAlphanum = character.isAlphanum
  upperKept : character.toUpper.isAlphanum = character.isAlphanum
  lowerAscii : isAscii character.toLower = true
  upperAscii : isAscii character.toUpper = true
  lowerLower : character.toLower.toLower = character.toLower
  lowerUpper : character.toUpper.toLower = character.toLower
  upperLower : character.toLower.toUpper = character.toUpper
  upperUpper : character.toUpper.toUpper = character.toUpper
  lowerSmall : isUppercase character.toLower = false
  upperLarge : isLowercase character.toUpper = false
  upperAlphabetic : isAlphabetic character.toUpper = isAlphabetic character
  upperDigit : character.toUpper.isDigit = character.isDigit
  capital : character.isAlphanum = true → ¬(97 ≤ character.toNat ∧ character.toNat ≤ 122) →
    (character.isUpper || character.isDigit) = true

instance (character : Char) : Decidable (AsciiCases character) :=
  decidable_of_iff' _ (asciiCases_iff character)

/-- The classes of the ASCII characters are checked once for all of them. -/
theorem asciiCases {character : Char} (ascii : isAscii character = true) : AsciiCases character :=
  of_isAscii ascii (by decide +kernel)

def Ascii (characters : List Char) : Prop := ∀ character ∈ characters, isAscii character = true

/-- Among ASCII characters, letters and digits are what they are in any text. -/
theorem filter_of_ascii {characters : List Char} (ascii : Ascii characters) :
    characters.filter isAlphanumeric = characters.filter Char.isAlphanum :=
  List.filter_congr fun character member => (asciiCases (ascii character member)).kept

/-- ASCII characters have small letters of their own, whatever stands before them. -/
theorem lowerFrom_of_ascii {characters : List Char} (ascii : Ascii characters)
    (before : List Char) : lowerFrom before characters = characters.map Char.toLower := by
  induction characters generalizing before with
  | nil => rfl
  | cons character rest inductionHypothesis =>
      obtain ⟨here, others⟩ := List.forall_mem_cons.mp ascii
      have other : character ≠ 'Σ' := by
        rintro rfl
        exact absurd here (by decide)
      rw [lowerFrom, if_neg other, lowerChar_of_isAscii here, inductionHypothesis others]
      rfl

end Unicode

namespace Identifier

/-- An ASCII word is capitalized letter by letter. -/
theorem capitalize_of_ascii {character : Char} {rest : List Char}
    (ascii : Ascii (character :: rest)) :
    capitalize (character :: rest) = character.toUpper :: rest.map Char.toLower := by
  have cases := asciiCases (ascii character List.mem_cons_self)
  rw [capitalize, lower, lowerFrom_of_ascii ascii, List.map_cons]
  dsimp only
  rw [upperChar_of_isAscii cases.lowerAscii, cases.upperLower]
  rfl

/-- A capitalized word has the letters of the word, in upper or in lower case. -/
theorem mem_capitalize_of_ascii {word : List Char} (ascii : Ascii word) {result : Char}
    (member : result ∈ capitalize word) :
    ∃ source ∈ word, result = source.toUpper ∨ result = source.toLower := by
  cases word with
  | nil => cases member
  | cons character rest =>
      rw [capitalize_of_ascii ascii] at member
      rcases List.mem_cons.mp member with rfl | later
      · exact ⟨character, List.mem_cons_self, .inl rfl⟩
      · obtain ⟨source, inside, rfl⟩ := List.mem_map.mp later
        exact ⟨source, List.mem_cons_of_mem _ inside, .inr rfl⟩

/-- A word is capitalized without regard to the case that it had. -/
theorem map_toLower_capitalize {word : List Char} (ascii : Ascii word) :
    (capitalize word).map Char.toLower = word.map Char.toLower := by
  cases word with
  | nil => rfl
  | cons character rest =>
      rw [capitalize_of_ascii ascii, List.map_cons, List.map_cons,
        (asciiCases (ascii character List.mem_cons_self)).lowerUpper, List.map_map]
      exact congrArg _ (List.map_congr_left fun other member =>
        (asciiCases (ascii other (List.mem_cons_of_mem _ member))).lowerLower)

variable {name : String}

/-- The words of a name have only characters of the name, and none of them separates words. -/
theorem mem_of_mem_words {word : List Char} {character : Char}
    (inside : word ∈ mergeLetters (words name.toList)) (member : character ∈ word) :
    character ∈ name.toList ∧ isAlphanumeric character = true := by
  have kept := List.mem_flatten.mpr ⟨word, inside, member⟩
  rw [mergeLetters_flatten] at kept
  exact List.mem_filter.mp kept

/-- The words of an ASCII name are ASCII words. -/
theorem ascii_of_mem_words (ascii : Ascii name.toList) {word : List Char}
    (inside : word ∈ mergeLetters (words name.toList)) : Ascii word :=
  fun _ member => ascii _ (mem_of_mem_words inside member).1

/-- An ASCII name makes a name of ASCII letters and digits. -/
theorem mem_ofName_of_ascii (ascii : Ascii name.toList) {character : Char}
    (member : character ∈ (ofName name).toList) :
    isAscii character = true ∧ character.isAlphanum = true := by
  rw [ofName, String.toList_ofList] at member
  obtain ⟨word, inside, member⟩ := List.mem_flatMap.mp member
  obtain ⟨source, there, changed⟩ :=
    mem_capitalize_of_ascii (ascii_of_mem_words ascii inside) member
  obtain ⟨known, alphanumeric⟩ := mem_of_mem_words inside there
  have cases := asciiCases (ascii source known)
  rw [cases.kept] at alphanumeric
  rcases changed with rfl | rfl
  · exact ⟨cases.upperAscii, cases.upperKept.trans alphanumeric⟩
  · exact ⟨cases.lowerAscii, cases.lowerKept.trans alphanumeric⟩

/-- Case apart, nothing is lost but what is neither letter nor digit. -/
theorem map_toLower_ofName (ascii : Ascii name.toList) :
    (ofName name).toList.map Char.toLower =
      (name.toList.filter Char.isAlphanum).map Char.toLower := by
  rw [ofName, String.toList_ofList, List.map_flatMap,
    List.flatMap_congr fun word inside => map_toLower_capitalize (ascii_of_mem_words ascii inside),
    ← List.map_flatMap, List.flatMap_id', mergeLetters_flatten, filter_of_ascii ascii]

section Case

/-- ASCII characters without a capital among them. -/
def Small (characters : List Char) : Prop :=
  ∀ character ∈ characters, isAscii character = true ∧ isUppercase character = false

variable {reversed rest word : List Char}

/-- In a name that is in one case throughout, words begin at letters after digits only. -/
theorem startsWord_toUpper {previous current : Char} {next : Option Char}
    (small : Small (previous :: current :: next.toList)) :
    startsWord previous.toUpper current.toUpper (next.map Char.toUpper) =
      startsWord previous current next := by
  obtain ⟨⟨asciiPrevious, smallPrevious⟩, others⟩ := List.forall_mem_cons.mp small
  obtain ⟨⟨asciiCurrent, smallCurrent⟩, ahead⟩ := List.forall_mem_cons.mp others
  have first := asciiCases asciiPrevious
  have second := asciiCases asciiCurrent
  have large : (next.map Char.toUpper).any isLowercase = false := by
    cases next with
    | none => rfl
    | some character => exact (asciiCases (ahead character (by simp)).1).upperLarge
  simp only [startsWord, first.upperLarge, first.upperAscii, first.upperDigit,
    second.upperAlphabetic, large, smallPrevious, smallCurrent, asciiPrevious, Bool.false_and,
    Bool.and_false, Bool.false_or, Bool.or_false]

/-- What is collected of a word is the same in upper case. -/
theorem word?_toUpper :
    word? (reversed.map Char.toUpper) = (word? reversed).map (List.map Char.toUpper) := by
  cases reversed <;> simp [word?]

/-- Words without capitals are divided at the same places in upper case. -/
theorem wordsFrom_toUpper (done : Small reversed) (small : Small rest) :
    wordsFrom (reversed.map Char.toUpper) (rest.map Char.toUpper) =
      (wordsFrom reversed rest).map (List.map Char.toUpper) := by
  induction rest generalizing reversed with
  | nil => exact word?_toUpper
  | cons current rest inductionHypothesis =>
      obtain ⟨here, others⟩ := List.forall_mem_cons.mp small
      have cases := asciiCases here.1
      have kept : isAlphanumeric current.toUpper = isAlphanumeric current := by
        rw [(asciiCases cases.upperAscii).kept, cases.upperKept, cases.kept]
      have alone : Small [current] := List.forall_mem_singleton.mpr here
      have grown : Small (current :: reversed) := List.forall_mem_cons.mpr ⟨here, done⟩
      have starts : (reversed.map Char.toUpper).head?.any
          (startsWord · current.toUpper (rest.map Char.toUpper).head?) =
          reversed.head?.any (startsWord · current rest.head?) := by
        cases reversed with
        | nil => rfl
        | cons previous before =>
            rw [List.head?_map]
            refine startsWord_toUpper (List.forall_mem_cons.mpr ⟨done _ List.mem_cons_self,
              List.forall_mem_cons.mpr ⟨here, fun character ahead => ?_⟩⟩)
            exact others character (List.mem_of_mem_head? (Option.mem_toList.mp ahead))
      simp only [List.map_cons, wordsFrom, kept, starts]
      split
      · rw [List.map_append, word?_toUpper, ← inductionHypothesis (List.forall_mem_nil _) others]
        rfl
      · split
        · rw [List.map_append, word?_toUpper, ← inductionHypothesis alone others]
          rfl
        · exact inductionHypothesis grown others

/-- A single letter is one in upper case as well. -/
theorem isSingleLetter_toUpper (small : Small word) :
    isSingleLetter (word.map Char.toUpper) = isSingleLetter word := by
  match word with
  | [] => rfl
  | [letter] => exact (asciiCases (small letter List.mem_cons_self).1).upperAlphabetic
  | _ :: _ :: _ => rfl

/-- Letters that are collected are the same in upper case. -/
theorem letters?_toUpper (letters : List Char) :
    letters? (letters.map Char.toUpper) = (letters? letters).map (List.map Char.toUpper) := by
  cases letters <;> rfl

/-- Single letters are merged at the same places in upper case. -/
theorem mergeFrom_toUpper (letters : List Char) {words : List (List Char)}
    (small : ∀ word ∈ words, Small word) :
    mergeFrom (letters.map Char.toUpper) (words.map (List.map Char.toUpper)) =
      (mergeFrom letters words).map (List.map Char.toUpper) := by
  induction words generalizing letters with
  | nil => exact letters?_toUpper letters
  | cons word words inductionHypothesis =>
      obtain ⟨here, others⟩ := List.forall_mem_cons.mp small
      simp only [List.map_cons, mergeFrom, isSingleLetter_toUpper here]
      split
      · rw [← List.map_append]
        exact inductionHypothesis _ others
      · rw [List.map_append, List.map_cons, letters?_toUpper, ← inductionHypothesis [] others]
        rfl

/-- A word is capitalized the same in upper case. -/
theorem capitalize_toUpper (ascii : Ascii word) :
    capitalize (word.map Char.toUpper) = capitalize word := by
  cases word with
  | nil => rfl
  | cons character rest =>
      have raised : Ascii ((character :: rest).map Char.toUpper) := by
        intro other member
        obtain ⟨source, inside, rfl⟩ := List.mem_map.mp member
        exact (asciiCases (ascii source inside)).upperAscii
      rw [List.map_cons, capitalize_of_ascii raised, capitalize_of_ascii ascii, List.map_map,
        (asciiCases (ascii character List.mem_cons_self)).upperUpper]
      exact congrArg _ (List.map_congr_left fun other member =>
        (asciiCases (ascii other (List.mem_cons_of_mem _ member))).lowerUpper)

/-- A name without capitals makes the same as in upper case. -/
theorem ofName_toUpper (small : Small name.toList) : ofName name.toUpper = ofName name := by
  have ascii : Ascii name.toList := fun character member => (small character member).1
  have split : words (name.toUpper.toList) = (words name.toList).map (List.map Char.toUpper) := by
    rw [String.toUpper, String.toList_map]
    exact wordsFrom_toUpper (List.forall_mem_nil _) small
  have each : ∀ word ∈ words name.toList, Small word := by
    intro word inside character member
    have kept := List.mem_flatten.mpr ⟨word, inside, member⟩
    rw [words_flatten] at kept
    exact small character (List.mem_filter.mp kept).1
  have merged : mergeLetters ((words name.toList).map (List.map Char.toUpper)) =
      (mergeLetters (words name.toList)).map (List.map Char.toUpper) := mergeFrom_toUpper [] each
  rw [ofName, ofName, split, merged, List.flatMap_map]
  exact congrArg _ (List.flatMap_congr fun word inside =>
    capitalize_toUpper (ascii_of_mem_words ascii inside))

theorem toList_toLower (text : String) : text.toLower.toList = text.toList.map Char.toLower :=
  String.toList_map

theorem toList_toUpper (text : String) : text.toUpper.toList = text.toList.map Char.toUpper :=
  String.toList_map

/-- The case of a name makes no difference if it is the same throughout. -/
theorem ofName_toUpper_eq_toLower (ascii : Ascii name.toList) :
    ofName name.toUpper = ofName name.toLower := by
  have small : Small name.toLower.toList := by
    intro character member
    rw [toList_toLower] at member
    obtain ⟨source, inside, rfl⟩ := List.mem_map.mp member
    have cases := asciiCases (ascii source inside)
    exact ⟨cases.lowerAscii, cases.lowerSmall⟩
  have upper : name.toUpper = name.toLower.toUpper := by
    rw [← String.toList_inj, toList_toUpper, toList_toUpper, toList_toLower, List.map_map]
    exact List.map_congr_left fun character member =>
      (asciiCases (ascii character member)).upperLower.symm
  rw [upper, ofName_toUpper small]

end Case

/-- What an ASCII name makes keeps its letters and digits in their order, case apart, and begins
with a capital or a digit. -/
structure Spells (name identifier : String) : Prop where
  alphanumeric : ∀ character ∈ identifier.toList, character.isAlphanum = true
  letters : identifier.toList.map Char.toLower =
    (name.toList.filter Char.isAlphanum).map Char.toLower
  begins : ∀ start ∈ identifier.toList.head?, (start.isUpper || start.isDigit) = true

/-- An ASCII name makes a name that spells it. -/
theorem spells_ofName (ascii : Ascii name.toList) : Spells name (ofName name) where
  alphanumeric _ member := (mem_ofName_of_ascii ascii member).2
  letters := map_toLower_ofName ascii
  begins start found := by
    obtain ⟨known, alphanumeric⟩ := mem_ofName_of_ascii ascii (List.mem_of_mem_head? found)
    rcases ofName_begins name with ⟨-, empty⟩ | ⟨character, other, -, begins, first⟩
    · rw [empty] at found
      cases found
    · obtain rfl := Option.some.inj (first.symm.trans found)
      exact (asciiCases known).capital alphanumeric begins.capital

/-- What an ASCII name makes does not depend on its case where that is the same throughout, and
ASCII names that make the same have the same letters and digits, case apart. -/
theorem ofName_of_ascii {name : String} (ascii : Ascii name.toList) :
    Spells name (ofName name) ∧ ofName name.toUpper = ofName name.toLower ∧
      ∀ other : String, Ascii other.toList → ofName other = ofName name →
        (other.toList.filter Char.isAlphanum).map Char.toLower =
          (name.toList.filter Char.isAlphanum).map Char.toLower := by
  refine ⟨spells_ofName ascii, ofName_toUpper_eq_toLower ascii, fun other otherAscii same => ?_⟩
  rw [← (spells_ofName ascii).letters, ← (spells_ofName otherAscii).letters, same]

/-- Capitals that stand together make one word, and so do a letter and a digit. -/
theorem ofName_of_ascii_acronym :
    Ascii "XMLHttp_v2beta".toList ∧ Spells "XMLHttp_v2beta" "XmlHttpV2Beta" ∧
      ofName "XMLHttp_v2beta".toUpper = ofName "XMLHttp_v2beta".toLower := by
  have ascii : Ascii "XMLHttp_v2beta".toList := List.all_eq_true.mp (by decide)
  have made : ofName "XMLHttp_v2beta" = "XmlHttpV2Beta" := by decide +kernel
  obtain ⟨spells, cases, -⟩ := ofName_of_ascii ascii
  rw [made] at spells
  exact ⟨ascii, spells, cases⟩

end Identifier
end SchemaTypes
