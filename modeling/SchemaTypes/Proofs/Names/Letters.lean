/-
This file says which ASCII characters the names of types consist of. Main statement: they are
letters and digits, so that no name of a type contains a quotation mark, a bracket or a backslash.
-/
import SchemaTypes.Proofs.Names.Spelling

namespace SchemaTypes

namespace Unicode

/-- A letter or a digit, if it is an ASCII character. -/
def IsWordlike (character : Char) : Prop :=
  isAscii character = true → character.isAlphanum = true

instance (character : Char) : Decidable (IsWordlike character) :=
  inferInstanceAs (Decidable (_ → _))

/-- A letter or digit of any script is one among the ASCII characters as well. -/
theorem isWordlike_of_isAlphanumeric {character : Char}
    (alphanumeric : isAlphanumeric character = true) : IsWordlike character := by
  intro ascii
  exact @of_isAscii (fun character => isAlphanumeric character = true →
    character.isAlphanum = true) character ascii (by decide +kernel) alphanumeric

/-- The ASCII characters before, between and behind the capitals and the small letters. -/
def outsideLetters : List (Nat × Nat) := [(0, 64), (91, 96), (123, 127)]

/-- An ASCII character that is not outside of the letters is one of them or a digit. -/
theorem isWordlike_of_outside {code : Nat} (valid : (Char.ofNat code).toNat = code)
    (outside : ∀ range ∈ outsideLetters, ¬(range.1 ≤ code ∧ code ≤ range.2)) :
    IsWordlike (Char.ofNat code) := by
  intro ascii
  have low : code < 128 := by simpa [isAscii, valid] using ascii
  have letters : ∀ code < 128, (∀ range ∈ outsideLetters, ¬(range.1 ≤ code ∧ code ≤ range.2)) →
      (Char.ofNat code).isAlphanum = true := by
    decide +kernel
  exact letters code low outside

section Mapped

variable {expansions : List (Nat × List Nat)} {runs : List Run} {character result : Char}

/-- A table that maps nothing to the outside of the letters makes letters of letters. -/
theorem isWordlike_of_mem_mapped
    (expanded : ∀ entry ∈ expansions, ∀ code ∈ entry.2, IsWordlike (Char.ofNat code))
    (sane : ∀ run ∈ runs, Run.IsSane run)
    (letters : ∀ run ∈ runs, ∀ range ∈ outsideLetters, Run.misses run range = true)
    (wordlike : IsWordlike character) (member : result ∈ mapped expansions runs character) :
    IsWordlike result := by
  rcases mapped_cases_of_mem member with
    ⟨entry, listed, code, present, rfl⟩ | ⟨run, inside, covers, rfl, -⟩ | ⟨rfl, -⟩
  · exact expanded entry listed code present
  · exact isWordlike_of_outside ((sane run inside).toNat_target covers) fun range between =>
      Run.not_mem_of_misses (letters run inside range between) covers
  · exact wordlike

end Mapped

variable {character result : Char}

theorem isWordlike_of_mem_lowerChar (wordlike : IsWordlike character)
    (member : result ∈ lowerChar character) : IsWordlike result := by
  unfold lowerChar at member
  split at member
  · next ascii =>
    rw [List.mem_singleton.mp member]
    exact @of_isAscii (fun character => IsWordlike character → IsWordlike character.toLower)
      character ascii (by decide +kernel) wordlike
  · exact isWordlike_of_mem_mapped (by decide +kernel) lowerRuns_sane (by decide +kernel) wordlike
      member

theorem isWordlike_of_mem_upperChar (wordlike : IsWordlike character)
    (member : result ∈ upperChar character) : IsWordlike result := by
  unfold upperChar at member
  split at member
  · next ascii =>
    rw [List.mem_singleton.mp member]
    exact @of_isAscii (fun character => IsWordlike character → IsWordlike character.toUpper)
      character ascii (by decide +kernel) wordlike
  · exact isWordlike_of_mem_mapped (by decide +kernel) upperRuns_sane (by decide +kernel) wordlike
      member

/-- Lower case makes letters of letters wherever they stand. -/
theorem isWordlike_of_mem_lowerFrom {before characters : List Char}
    (wordlike : ∀ character ∈ characters, IsWordlike character)
    (member : result ∈ lowerFrom before characters) : IsWordlike result := by
  induction characters generalizing before with
  | nil => cases member
  | cons character rest inductionHypothesis =>
      obtain ⟨here, others⟩ := List.forall_mem_cons.mp wordlike
      rcases List.mem_append.mp member with first | later
      · split at first
        · split at first <;> rw [List.mem_singleton.mp first] <;> decide
        · exact isWordlike_of_mem_lowerChar here first
      · exact inductionHypothesis others later

end Unicode

namespace Identifier

open Unicode

/-- Capitalizing makes letters of letters. -/
theorem isWordlike_of_mem_capitalize {word : List Char} {result : Char}
    (wordlike : ∀ character ∈ word, IsWordlike character) (member : result ∈ capitalize word) :
    IsWordlike result := by
  unfold capitalize at member
  have lower (other : Char) (inside : other ∈ lower word) : IsWordlike other :=
    isWordlike_of_mem_lowerFrom wordlike inside
  cases lowered : Unicode.lower word with
  | nil => simp [lowered] at member
  | cons first rest =>
      rw [lowered] at member lower
      rcases List.mem_append.mp member with here | later
      · exact isWordlike_of_mem_upperChar (lower first List.mem_cons_self) here
      · exact lower result (List.mem_cons_of_mem _ later)

/-- What is no letter or digit of ASCII is in no name of a type. -/
theorem isWordlike_of_mem_ofName {name : String} {character : Char}
    (member : character ∈ (ofName name).toList) : IsWordlike character := by
  rw [ofName, String.toList_ofList] at member
  obtain ⟨word, inside, member⟩ := List.mem_flatMap.mp member
  refine isWordlike_of_mem_capitalize (fun other here => ?_) member
  have kept := List.mem_flatten.mpr ⟨word, inside, here⟩
  rw [mergeLetters_flatten] at kept
  exact isWordlike_of_isAlphanumeric (List.mem_filter.mp kept).2

end Identifier
end SchemaTypes
