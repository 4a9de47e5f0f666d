/-
This file says where the case mappings of single characters lead. Main statement: what a change of
case makes of a character is a letter or a mark beyond the digits, if it is another character.
-/
import SchemaTypes.Proofs.Unicode.Runs

namespace SchemaTypes.Unicode

/-- What holds of all ASCII code points holds of an ASCII character. -/
theorem of_isAscii {property : Char → Prop} {character : Char} (ascii : isAscii character = true)
    (all : ∀ code < 128, property (Char.ofNat code)) : property character := by
  have low : character.toNat < 128 := by simpa [isAscii] using ascii
  simpa using all character.toNat low

theorem lowerRuns_sane : ∀ run ∈ lowerRuns, Run.IsSane run := by decide +kernel

theorem upperRuns_sane : ∀ run ∈ upperRuns, Run.IsSane run := by decide +kernel

section Mapped

variable {expansions : List (Nat × List Nat)} {runs : List Run} {character result : Char}

/-- Where a mapping leads: it leaves a character alone, or it leads to a code point from 65 on. -/
theorem mem_mapped
    (expanded : ∀ entry ∈ expansions, ∀ code ∈ entry.2, 65 ≤ (Char.ofNat code).toNat)
    (sane : ∀ run ∈ runs, Run.IsSane run) (member : result ∈ mapped expansions runs character) :
    result = character ∨ 65 ≤ result.toNat := by
  rcases mapped_cases_of_mem member with
    ⟨entry, listed, code, present, rfl⟩ | ⟨run, inside, covers, rfl, -⟩ | ⟨rfl, -⟩
  · exact .inr (expanded entry listed code present)
  · rw [(sane run inside).toNat_target covers]
    exact .inr ((sane run inside).le_target covers)
  · exact .inl rfl

end Mapped

section Cases

variable {character result : Char}

/-- A small letter is the character itself or lies beyond the digits. -/
theorem mem_lowerChar (member : result ∈ lowerChar character) :
    result = character ∨ 65 ≤ result.toNat := by
  unfold lowerChar at member
  split at member
  · next ascii =>
    rw [List.mem_singleton.mp member]
    exact @of_isAscii (fun character => character.toLower = character ∨
      65 ≤ character.toLower.toNat) character ascii (by decide +kernel)
  · exact mem_mapped (by decide +kernel) lowerRuns_sane member

/-- A capital is the character itself or lies beyond the digits. -/
theorem mem_upperChar (member : result ∈ upperChar character) :
    result = character ∨ 65 ≤ result.toNat := by
  unfold upperChar at member
  split at member
  · next ascii =>
    rw [List.mem_singleton.mp member]
    exact @of_isAscii (fun character => character.toUpper = character ∨
      65 ≤ character.toUpper.toNat) character ascii (by decide +kernel)
  · exact mem_mapped (by decide +kernel) upperRuns_sane member

end Cases

end SchemaTypes.Unicode
