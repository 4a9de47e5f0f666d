/-
This file says what the name of a type keeps of the name that it is made of. Main statements: the
words of a name are its letters and digits in their order, and the name of a type stands on one
line.
-/
import SchemaTypes.Identifier
import SchemaTypes.Proofs.Unicode.CaseMaps

namespace SchemaTypes

open Unicode

namespace Identifier

/-- A word that is collected has all that was read of it. -/
theorem word?_flatten (reversed : List Char) : (word? reversed).flatten = reversed.reverse := by
  cases reversed <;> simp [word?]

/-- Words are cut between letters and digits only, and only what is neither is left out. -/
theorem wordsFrom_flatten (reversed rest : List Char) :
    (wordsFrom reversed rest).flatten = reversed.reverse ++ rest.filter isAlphanumeric := by
  induction rest generalizing reversed with
  | nil => simp [wordsFrom, word?_flatten]
  | cons current rest inductionHypothesis =>
      unfold wordsFrom
      by_cases separates : isAlphanumeric current = true
      · rw [if_neg (by simp [separates]), List.filter_cons_of_pos separates]
        split
        · simp [word?_flatten, inductionHypothesis]
        · simp [inductionHypothesis]
      · rw [if_pos (by simp [separates]), List.filter_cons_of_neg separates]
        simp [word?_flatten, inductionHypothesis]

/-- The words of a name are its letters and digits in their order. -/
theorem words_flatten (name : List Char) : (words name).flatten = name.filter isAlphanumeric :=
  wordsFrom_flatten [] name

/-- Letters that are collected are all there. -/
theorem letters?_flatten (letters : List Char) : (letters? letters).flatten = letters := by
  cases letters <;> simp [letters?]

/-- Merging joins words and loses none of their letters. -/
theorem mergeFrom_flatten (letters : List Char) (words : List (List Char)) :
    (mergeFrom letters words).flatten = letters ++ words.flatten := by
  induction words generalizing letters with
  | nil => simp [mergeFrom, letters?_flatten]
  | cons word words inductionHypothesis =>
      unfold mergeFrom
      split
      · simp [inductionHypothesis]
      · simp [letters?_flatten, inductionHypothesis]

/-- The letters and digits of a name, in words. -/
theorem mergeLetters_flatten (name : List Char) :
    (mergeLetters (words name)).flatten = name.filter isAlphanumeric :=
  (mergeFrom_flatten [] (words name)).trans (words_flatten name)

end Identifier

namespace Unicode

/-- Small letters come from the characters themselves or from letters. -/
theorem mem_lowerFrom {before characters : List Char} {result : Char}
    (member : result ∈ lowerFrom before characters) : result ∈ characters ∨ 65 ≤ result.toNat := by
  induction characters generalizing before with
  | nil => cases member
  | cons character rest inductionHypothesis =>
      rcases List.mem_append.mp member with here | later
      · split at here
        · refine .inr ?_
          split at here <;> rw [List.mem_singleton.mp here] <;> decide
        · rcases mem_lowerChar here with rfl | letter
          · exact .inl List.mem_cons_self
          · exact .inr letter
      · exact (inductionHypothesis later).imp_left (List.mem_cons_of_mem _)

end Unicode

namespace Identifier

/-- Capitalizing leaves a character alone or makes a letter of it. -/
theorem mem_capitalize {word : List Char} {result : Char} (member : result ∈ capitalize word) :
    result ∈ word ∨ 65 ≤ result.toNat := by
  unfold capitalize at member
  cases lowered : lower word with
  | nil => simp [lowered] at member
  | cons first rest =>
      have lower (other : Char) (inside : other ∈ first :: rest) :
          other ∈ word ∨ 65 ≤ other.toNat := by
        rw [← lowered] at inside
        exact mem_lowerFrom inside
      rw [lowered] at member
      rcases List.mem_append.mp member with here | later
      · rcases mem_upperChar here with rfl | letter
        · exact lower result List.mem_cons_self
        · exact .inr letter
      · exact lower result (List.mem_cons_of_mem _ later)

/-- The name of a type stands on one line. -/
theorem newline_not_mem_ofName (name : String) : '\n' ∉ (ofName name).toList := by
  intro member
  rw [ofName, String.toList_ofList] at member
  obtain ⟨word, inside, member⟩ := List.mem_flatMap.mp member
  rcases mem_capitalize member with here | letter
  · have kept := List.mem_flatten.mpr ⟨word, inside, here⟩
    rw [mergeLetters_flatten] at kept
    exact absurd (List.mem_filter.mp kept).2 (by decide)
  · exact absurd letter (by decide)

end Identifier
end SchemaTypes
