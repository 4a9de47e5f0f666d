/-
This file says what the letters in upper and lower case have to do with each other. Main statements:
a character in lower case stays as it is, a character in upper case gets back to itself through its
lower case, and only numerals become numerals.
-/
import SchemaTypes.Proofs.Unicode.CaseMaps
import Mathlib.Tactic.MkIffOfInductiveProp

namespace SchemaTypes.Unicode

/-- The form of a character that does not depend on its case. -/
def foldCase (character : Char) : List Char := (lowerChar character).flatMap upperChar

section Tables

variable {character : Char}

/-- The numerals beyond ASCII as runs that lead nowhere. -/
def numericRuns : List Run := numericRanges.map fun range => (range.1, range.2, 1, 0)

theorem numericRuns_increasing : numericRuns.IsChain Run.Before := by decide +kernel

/-- A run does not lead to numerals, or it has numerals only. -/
def keepsNumerals (run : Run) : Bool :=
  overlapsPass (fun _ => false) run.low run.high numericRuns || numericRanges.any run.within

/-- What the tables of both case mappings have in common. -/
structure TableFits (expansions : List (Nat × List Nat)) (runs : List Run) : Prop where
  increasing : runs.IsChain Run.Before
  sane : ∀ run ∈ runs, Run.IsSane run
  nonempty : ∀ entry ∈ expansions, entry.2 ≠ []
  noNumerals : ∀ entry ∈ expansions, ∀ code ∈ entry.2, isNumeric (Char.ofNat code) = false
  numerals : runs.all keepsNumerals = true

/-- The table of small letters is in order. -/
theorem lowerFits : TableFits lowerExpansions lowerRuns where
  increasing := by decide +kernel
  sane := lowerRuns_sane
  nonempty := by decide
  noNumerals := by decide +kernel
  numerals := by decide +kernel

/-- The table of capitals is in order. -/
theorem upperFits : TableFits upperExpansions upperRuns where
  increasing := by decide +kernel
  sane := upperRuns_sane
  nonempty := by decide
  noNumerals := by decide +kernel
  numerals := by decide +kernel

def searchedLower (character : Char) : List Char :=
  if isAscii character then [character.toLower] else searched lowerExpansions lowerRuns character

def searchedUpper (character : Char) : List Char :=
  if isAscii character then [character.toUpper] else searched upperExpansions upperRuns character

/-- The search that ends early finds what the case mappings find. -/
theorem lowerChar_eq_searchedLower (character : Char) :
    lowerChar character = searchedLower character := by
  unfold lowerChar searchedLower
  rw [mapped_eq_searched lowerFits.increasing]

theorem upperChar_eq_searchedUpper (character : Char) :
    upperChar character = searchedUpper character := by
  unfold upperChar searchedUpper
  rw [mapped_eq_searched upperFits.increasing]

def searchedFold (character : Char) : List Char :=
  (searchedLower character).flatMap searchedUpper

theorem foldCase_eq_searchedFold (character : Char) :
    foldCase character = searchedFold character := by
  unfold foldCase searchedFold
  rw [lowerChar_eq_searchedLower,
    List.flatMap_congr fun lower _ => upperChar_eq_searchedUpper lower]

/-- The two small letters of the capital sigma. -/
def smallSigma (final : Bool) : Char := if final then 'ς' else 'σ'

/-- A run to upper case leads back, or each of its members leads to a character that folds to
itself. -/
def returns (run : Run) : Bool :=
  (lowerRuns.find? fun (other : Run) => Nat.ble run.high other.last).any run.mirrors ||
    run.members.all fun code =>
      decide (searchedFold (Char.ofNat (run.target code)) = [Char.ofNat (run.target code)])

/-- What the tables tell of each other. Nothing in lower case is mapped to lower case again, and
what is mapped to upper case is no small ASCII letter and folds to itself. -/
structure CasesFit : Prop where
  lowerBeyond : ∀ run ∈ lowerRuns, 128 ≤ Run.first run
  lowerSmall : ∀ run ∈ lowerRuns, Run.misses run (0, 96) = true
  lowerPlain : ∀ run ∈ lowerRuns, ∀ entry ∈ lowerExpansions,
    Run.misses run (entry.1, entry.1) = true
  lowerUncovered : ∀ entry ∈ lowerExpansions, offset? lowerRuns entry.1 = none
  lowerSettled : ∀ entry ∈ lowerExpansions, ∀ code ∈ entry.2,
    lowerChar (Char.ofNat code) = [Char.ofNat code]
  lowerSettles : (lowerRuns.all fun (run : Run) =>
    overlapsPass run.interleaves run.low run.high lowerRuns) = true
  upperLarge : ∀ run ∈ upperRuns, Run.misses run (97, 122) = true
  upperExpanded : ∀ entry ∈ upperExpansions, ∀ code ∈ entry.2,
    ¬(97 ≤ (Char.ofNat code).toNat ∧ (Char.ofNat code).toNat ≤ 122) ∧
      searchedFold (Char.ofNat code) = [Char.ofNat code]
  upperReturns : upperRuns.all returns = true
  sigma : ∀ final, searchedLower (smallSigma final) = [smallSigma final] ∧
    searchedUpper (smallSigma final) = searchedFold 'Σ' ∧ isNumeric (smallSigma final) = false

/-- The tables of both case mappings fit together. -/
theorem casesFit : CasesFit where
  lowerBeyond := by decide +kernel
  lowerSmall := by decide +kernel
  lowerPlain := by decide +kernel
  lowerUncovered := by decide +kernel
  lowerSettled := by decide +kernel
  lowerSettles := by decide +kernel
  upperLarge := by decide +kernel
  upperExpanded := by decide +kernel
  upperReturns := by decide +kernel
  sigma := by decide +kernel

/-- What a change of case makes of an ASCII character. -/
@[mk_iff] structure AsciiFits (character : Char) : Prop where
  digit : character.isDigit = true → ¬65 ≤ character.toNat
  small : ¬(0 ≤ character.toNat ∧ character.toNat ≤ 96) → character.toLower = character
  lowerNumeric : isNumeric character.toLower = true → isNumeric character = true
  upperNumeric : isNumeric character.toUpper = true → isNumeric character = true
  settled : lowerChar character.toLower = [character.toLower]
  large : ¬(97 ≤ character.toUpper.toNat ∧ character.toUpper.toNat ≤ 122)
  folded : foldCase character.toUpper = [character.toUpper]

instance (character : Char) : Decidable (AsciiFits character) :=
  decidable_of_iff' _ (asciiFits_iff character)

/-- The case mappings fit together on ASCII characters. -/
theorem asciiFits (ascii : isAscii character = true) : AsciiFits character :=
  of_isAscii ascii (by decide +kernel)

end Tables

namespace TableFits

variable {expansions : List (Nat × List Nat)} {runs : List Run} {character result : Char}

/-- A change of case leaves something of every character. -/
theorem mapped_ne_nil (fits : TableFits expansions runs) :
    mapped expansions runs character ≠ [] := by
  rcases mapped_cases expansions runs character with
    ⟨codes, entry, same⟩ | ⟨run, inside, covers, same⟩ | same
  · rw [same]
    exact fun empty => fits.nonempty _ entry (List.map_eq_nil_iff.mp empty)
  · simp [same]
  · simp [same]

/-- Only ranges of numerals lead to numerals. -/
theorem isNumeric_of_mem_mapped (fits : TableFits expansions runs)
    (beyond : isAscii character = false) (member : result ∈ mapped expansions runs character)
    (numeric : isNumeric result = true) : isNumeric character = true := by
  rcases mapped_cases_of_mem member with
    ⟨entry, listed, code, present, rfl⟩ | ⟨run, inside, covers, rfl, -⟩ | ⟨rfl, -⟩
  · rw [fits.noNumerals entry listed code present] at numeric
    cases numeric
  · have sane := fits.sane run inside
    rcases Bool.or_eq_true_iff.mp (List.all_eq_true.mp fits.numerals run inside) with
      beside | within
    · unfold isNumeric at numeric
      split at numeric
      · next ascii =>
        have letter := sane.le_target covers
        rw [← sane.toNat_target covers] at letter
        exact absurd letter ((asciiFits ascii).digit numeric)
      · rw [inRanges, List.any_eq_true, sane.toNat_target covers] at numeric
        obtain ⟨range, listed, here⟩ := numeric
        rw [Bool.and_eq_true, decide_eq_true_eq, decide_eq_true_eq] at here
        have inRun : Run.Covers (range.1, range.2, 1, 0) (run.target character.toNat) :=
          ⟨here.1, here.2, Nat.mod_one _⟩
        exact absurd inRun (Run.not_covers_of_overlapsPass numericRuns_increasing beside covers
          nofun (List.mem_map_of_mem listed))
    · obtain ⟨range, listed, around⟩ := List.any_eq_true.mp within
      rw [Run.within, Bool.and_eq_true, Nat.ble_eq, Nat.ble_eq] at around
      rw [isNumeric, beyond, if_neg Bool.false_ne_true, inRanges, List.any_eq_true]
      refine ⟨range, listed, ?_⟩
      rw [Bool.and_eq_true, decide_eq_true_eq, decide_eq_true_eq]
      exact ⟨around.1.trans covers.first, covers.last.trans around.2⟩
  · exact numeric

end TableFits

variable {character result : Char}

section Lower

theorem lowerChar_of_isAscii (ascii : isAscii character = true) :
    lowerChar character = [character.toLower] := if_pos ascii

theorem lowerChar_beyond (beyond : isAscii character = false) :
    lowerChar character = mapped lowerExpansions lowerRuns character :=
  if_neg (Bool.eq_false_iff.mp beyond)

theorem lowerChar_ne_nil : lowerChar character ≠ [] := by
  cases ascii : isAscii character with
  | true => simp [lowerChar_of_isAscii ascii]
  | false =>
      rw [lowerChar_beyond ascii]
      exact lowerFits.mapped_ne_nil

/-- Only numerals have numerals for small letters. -/
theorem isNumeric_of_mem_lowerChar (member : result ∈ lowerChar character)
    (numeric : isNumeric result = true) : isNumeric character = true := by
  cases ascii : isAscii character with
  | true =>
      rw [lowerChar_of_isAscii ascii, List.mem_singleton] at member
      exact (asciiFits ascii).lowerNumeric (member ▸ numeric)
  | false =>
      rw [lowerChar_beyond ascii] at member
      exact lowerFits.isNumeric_of_mem_mapped ascii member numeric

/-- The target of a run to lower case is in no run to lower case. -/
theorem lowerChar_target {run : Run} {code : Nat} (inside : run ∈ lowerRuns)
    (covers : run.Covers code) :
    lowerChar (Char.ofNat (run.target code)) = [Char.ofNat (run.target code)] := by
  have sane := lowerRuns_sane run inside
  have same := sane.toNat_target covers
  cases ascii : isAscii (Char.ofNat (run.target code)) with
  | true =>
      have above := Run.not_mem_of_misses (casesFit.lowerSmall run inside) covers
      rw [← same] at above
      rw [lowerChar_of_isAscii ascii, (asciiFits ascii).small above]
  | false =>
      rw [lowerChar_beyond ascii]
      refine mapped_of_uncovered ?_ ?_
      · rw [same, List.lookup_eq_none_iff]
        intro entry listed
        have other := Run.not_mem_of_misses (casesFit.lowerPlain run inside entry listed) covers
        exact bne_iff_ne.mpr fun equal => other ⟨Nat.le_of_eq equal.symm, Nat.le_of_eq equal⟩
      · intro other listed
        rw [same]
        exact Run.not_covers_of_overlapsPass lowerFits.increasing
          (List.all_eq_true.mp casesFit.lowerSettles run inside) covers
          (fun interleaves => Run.not_covers_of_interleaves interleaves sane covers) listed

/-- What is in lower case stays as it is. -/
theorem lowerChar_of_mem_lowerChar (member : result ∈ lowerChar character) :
    lowerChar result = [result] := by
  cases ascii : isAscii character with
  | true =>
      rw [lowerChar_of_isAscii ascii, List.mem_singleton] at member
      rw [member]
      exact (asciiFits ascii).settled
  | false =>
      rw [lowerChar_beyond ascii] at member
      rcases mapped_cases_of_mem member with
        ⟨entry, listed, code, present, rfl⟩ | ⟨run, inside, covers, rfl, -⟩ | ⟨rfl, same⟩
      · exact casesFit.lowerSettled entry listed code present
      · exact lowerChar_target inside covers
      · exact (lowerChar_beyond ascii).trans same

end Lower

section Upper

theorem upperChar_of_isAscii (ascii : isAscii character = true) :
    upperChar character = [character.toUpper] := if_pos ascii

theorem upperChar_beyond (beyond : isAscii character = false) :
    upperChar character = mapped upperExpansions upperRuns character :=
  if_neg (Bool.eq_false_iff.mp beyond)

theorem upperChar_ne_nil : upperChar character ≠ [] := by
  cases ascii : isAscii character with
  | true => simp [upperChar_of_isAscii ascii]
  | false =>
      rw [upperChar_beyond ascii]
      exact upperFits.mapped_ne_nil

/-- Only numerals have numerals for capitals. -/
theorem isNumeric_of_mem_upperChar (member : result ∈ upperChar character)
    (numeric : isNumeric result = true) : isNumeric character = true := by
  cases ascii : isAscii character with
  | true =>
      rw [upperChar_of_isAscii ascii, List.mem_singleton] at member
      exact (asciiFits ascii).upperNumeric (member ▸ numeric)
  | false =>
      rw [upperChar_beyond ascii] at member
      exact upperFits.isNumeric_of_mem_mapped ascii member numeric

/-- A letter in upper case is no small ASCII letter. -/
theorem not_small_of_mem_upperChar (member : result ∈ upperChar character) :
    ¬(97 ≤ result.toNat ∧ result.toNat ≤ 122) := by
  cases ascii : isAscii character with
  | true =>
      rw [upperChar_of_isAscii ascii, List.mem_singleton] at member
      rw [member]
      exact (asciiFits ascii).large
  | false =>
      rw [upperChar_beyond ascii] at member
      rcases mapped_cases_of_mem member with
        ⟨entry, listed, code, present, rfl⟩ | ⟨run, inside, covers, rfl, -⟩ | ⟨rfl, -⟩
      · exact (casesFit.upperExpanded entry listed code present).1
      · rw [(upperRuns_sane run inside).toNat_target covers]
        exact Run.not_mem_of_misses (casesFit.upperLarge run inside) covers
      · have beyond : 128 ≤ character.toNat := by simpa [isAscii] using ascii
        omega

/-- The capital that a mirrored run leads to has the character as its small letter. -/
theorem lowerChar_target_mirrored {run other : Run} (inside : run ∈ upperRuns)
    (covers : run.Covers character.toNat) (listed : other ∈ lowerRuns)
    (mirrors : run.mirrors other = true) :
    lowerChar (Char.ofNat (run.target character.toNat)) = [character] := by
  have sane := upperRuns_sane run inside
  have same := sane.toNat_target covers
  obtain ⟨coversToo, back⟩ := Run.covers_of_mirrors mirrors sane covers
  have beyond : isAscii (Char.ofNat (run.target character.toNat)) = false := by
    rw [isAscii, same]
    exact decide_eq_false
      (Nat.not_lt.mpr ((casesFit.lowerBeyond other listed).trans coversToo.first))
  have plain : lowerExpansions.lookup (run.target character.toNat) = none := by
    rw [List.lookup_eq_none_iff]
    intro entry expanded
    refine bne_iff_ne.mpr fun equal => ?_
    have found := offset?_of_covers lowerFits.increasing listed coversToo
    rw [equal, casesFit.lowerUncovered entry expanded] at found
    cases found
  rw [← same] at plain coversToo
  rw [lowerChar_beyond beyond, mapped_of_covers plain lowerFits.increasing listed coversToo, same,
    back, Char.ofNat_toNat]

/-- A letter in upper case folds to itself if it belongs to a letter in lower case. -/
theorem foldCase_of_mem_upperChar (settled : lowerChar character = [character])
    (member : result ∈ upperChar character) : foldCase result = [result] := by
  cases ascii : isAscii character with
  | true =>
      rw [upperChar_of_isAscii ascii, List.mem_singleton] at member
      rw [member]
      exact (asciiFits ascii).folded
  | false =>
      rw [upperChar_beyond ascii] at member
      rcases mapped_cases_of_mem member with
        ⟨entry, listed, code, present, rfl⟩ | ⟨run, inside, covers, rfl, same⟩ | ⟨rfl, same⟩
      · rw [foldCase_eq_searchedFold]
        exact (casesFit.upperExpanded entry listed code present).2
      · rcases Bool.or_eq_true_iff.mp (List.all_eq_true.mp casesFit.upperReturns run inside) with
          back | members
        · obtain ⟨other, found, mirrors⟩ := (Option.any_eq_true ..).mp back
          have listed := List.mem_of_find?_eq_some found
          rw [foldCase, lowerChar_target_mirrored inside covers listed mirrors,
            List.flatMap_singleton, upperChar_beyond ascii, same]
        · rw [foldCase_eq_searchedFold]
          exact of_decide_eq_true (List.all_eq_true.mp members _ covers.mem_members)
      · rw [foldCase, settled, List.flatMap_singleton, upperChar_beyond ascii, same]

end Upper

end SchemaTypes.Unicode
