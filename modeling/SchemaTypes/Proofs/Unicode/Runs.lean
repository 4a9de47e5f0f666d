/-
This file says what the case mapping of a character is by the runs of code points in the tables.
-/
import SchemaTypes.Unicode.Character
import Mathlib.Data.List.Chain

namespace SchemaTypes.Unicode

/-- First and last code points, the distance of the members, and the way to the other case. -/
abbrev Run : Type := Nat × Nat × Nat × Int

namespace Run

def first (run : Run) : Nat := run.1

def last (run : Run) : Nat := run.2.1

def step (run : Run) : Nat := run.2.2.1

def offset (run : Run) : Int := run.2.2.2

structure Covers (run : Run) (code : Nat) : Prop where
  first : run.first ≤ code
  last : code ≤ run.last
  step : (code - run.first) % run.step = 0

def target (run : Run) (code : Nat) : Nat := (code + run.offset).toNat

def low (run : Run) : Nat := run.target run.first

def high (run : Run) : Nat := run.target run.last

/-- The targets of a run are code points of characters, and they are no controls and no digits. -/
def IsSane (run : Run) : Prop :=
  65 ≤ run.first + run.offset ∧
    (run.last + run.offset < 0xD800 ∨
      0xE000 ≤ run.first + run.offset ∧ run.last + run.offset < 0x110000)

instance (run : Run) : Decidable run.IsSane := inferInstanceAs (Decidable (_ ∧ _))

/-- A run is not empty, and it ends before another one begins. -/
def Before (earlier later : Run) : Prop :=
  earlier.first ≤ earlier.last ∧ earlier.last < later.first

instance (earlier later : Run) : Decidable (earlier.Before later) :=
  inferInstanceAs (Decidable (_ ∧ _))

instance : Trans Before Before Before where
  trans first second :=
    ⟨first.1, first.2.trans (Nat.lt_of_le_of_lt second.1 second.2)⟩

end Run

section Offsets

variable {runs : List Run} {run : Run} {code : Nat}

theorem covers_iff : run.Covers code ↔
    (run.1 ≤ code && code ≤ run.2.1 && (code - run.1) % run.2.2.1 == 0) = true := by
  simp only [Bool.and_eq_true, decide_eq_true_eq, beq_iff_eq, and_assoc]
  exact ⟨fun covers => ⟨covers.first, covers.last, covers.step⟩,
    fun ⟨first, last, step⟩ => ⟨first, last, step⟩⟩

theorem offset?_cons_of_covers (covers : run.Covers code) :
    offset? (run :: runs) code = some run.offset := by
  rw [offset?, List.findSome?_cons]
  dsimp only
  rw [covers_iff.mp covers]
  rfl

theorem offset?_cons_of_not_covers (uncovered : ¬run.Covers code) :
    offset? (run :: runs) code = offset? runs code := by
  rw [offset?, List.findSome?_cons]
  dsimp only
  rw [Bool.eq_false_iff.mpr fun holds => uncovered (covers_iff.mpr holds)]
  rfl

/-- An offset that is found belongs to a run that covers the code point. -/
theorem exists_covers {offset : Int} (found : offset? runs code = some offset) :
    ∃ run ∈ runs, run.Covers code ∧ run.offset = offset := by
  induction runs with
  | nil => cases found
  | cons run runs inductionHypothesis =>
      by_cases covers : run.Covers code
      · rw [offset?_cons_of_covers covers] at found
        exact ⟨run, List.mem_cons_self, covers, Option.some.inj found⟩
      · rw [offset?_cons_of_not_covers covers] at found
        obtain ⟨other, member, here⟩ := inductionHypothesis found
        exact ⟨other, List.mem_cons_of_mem _ member, here⟩

theorem offset?_eq_none (uncovered : ∀ run ∈ runs, ¬run.Covers code) :
    offset? runs code = none := by
  cases found : offset? runs code with
  | none => rfl
  | some offset =>
      obtain ⟨run, member, covers, -⟩ := exists_covers found
      exact absurd covers (uncovered run member)

/-- In a table in increasing order a code point is in one run only. -/
theorem offset?_of_covers (sorted : runs.IsChain Run.Before) (member : run ∈ runs)
    (covers : run.Covers code) : offset? runs code = some run.offset := by
  rw [List.isChain_iff_pairwise] at sorted
  induction runs with
  | nil => cases member
  | cons first runs inductionHypothesis =>
      obtain ⟨before, sorted⟩ := List.pairwise_cons.mp sorted
      rcases List.mem_cons.mp member with rfl | later
      · exact offset?_cons_of_covers covers
      · have uncovered : ¬first.Covers code := fun coversToo =>
          Nat.lt_irrefl code (Nat.lt_of_le_of_lt coversToo.last
            (Nat.lt_of_lt_of_le (before run later).2 covers.first))
        rw [offset?_cons_of_not_covers uncovered]
        exact inductionHypothesis sorted later

/-- Whether a run covers a code point, for checks on whole tables. -/
def Run.meets (run : Run) (code : Nat) : Bool :=
  Nat.ble run.first code && Nat.ble code run.last && Nat.beq ((code - run.first) % run.step) 0

theorem Run.meets_iff : run.meets code = true ↔ run.Covers code := by
  simp only [Run.meets, Bool.and_eq_true, Nat.ble_eq, Nat.beq_eq, and_assoc]
  exact ⟨fun ⟨first, last, step⟩ => ⟨first, last, step⟩,
    fun covers => ⟨covers.first, covers.last, covers.step⟩⟩

/-- In a table in increasing order the search can end at the first run that does not end before the
code point. -/
def searched? (runs : List Run) (code : Nat) : Option Int :=
  (runs.find? fun run => Nat.ble code run.last).bind fun run =>
    bif run.meets code then some run.offset else none

/-- In a table in increasing order the early end of the search loses nothing. -/
theorem offset?_eq_searched? (increasing : runs.IsChain Run.Before) :
    offset? runs code = searched? runs code := by
  rw [List.isChain_iff_pairwise] at increasing
  induction runs with
  | nil => rfl
  | cons first runs inductionHypothesis =>
      obtain ⟨before, increasing⟩ := List.pairwise_cons.mp increasing
      unfold searched?
      cases ends : Nat.ble code first.last with
      | false =>
          have uncovered : ¬first.Covers code := fun covers =>
            Bool.false_ne_true (ends.symm.trans (Nat.ble_eq.mpr covers.last))
          rw [offset?_cons_of_not_covers uncovered, inductionHypothesis increasing,
            List.find?_cons, ends]
          rfl
      | true =>
          rw [List.find?_cons, ends]
          change _ = bif first.meets code then some first.offset else none
          cases meets : first.meets code with
          | true => exact offset?_cons_of_covers (Run.meets_iff.mp meets)
          | false =>
              have uncovered : ¬first.Covers code := fun covers =>
                Bool.false_ne_true (meets.symm.trans (Run.meets_iff.mpr covers))
              rw [offset?_cons_of_not_covers uncovered]
              refine offset?_eq_none fun run member covers => ?_
              have behind := (before run member).2
              have begins := covers.first
              have within := Nat.ble_eq.mp ends
              omega

/-- Checks the runs of a table in increasing order that a stretch of code points meets. -/
def overlapsPass (check : Run → Bool) (low high : Nat) : List Run → Bool
  | [] => true
  | run :: runs =>
    bif Nat.blt run.last low then overlapsPass check low high runs
    else bif Nat.blt high run.first then true
    else check run && overlapsPass check low high runs

/-- A check that passes on a stretch holds of every run that meets it. -/
theorem check_of_overlapsPass {check : Run → Bool} {low high : Nat}
    (increasing : runs.IsChain Run.Before) (pass : overlapsPass check low high runs = true)
    (member : run ∈ runs) (notBefore : low ≤ run.last) (notBehind : run.first ≤ high) :
    check run = true := by
  rw [List.isChain_iff_pairwise] at increasing
  induction runs with
  | nil => cases member
  | cons first runs inductionHypothesis =>
      obtain ⟨before, increasing⟩ := List.pairwise_cons.mp increasing
      unfold overlapsPass at pass
      cases ends : Nat.blt first.last low with
      | true =>
          rw [ends, cond_true] at pass
          rcases List.mem_cons.mp member with rfl | later
          · exact absurd (Nat.blt_eq.mp ends) (Nat.not_lt.mpr notBefore)
          · exact inductionHypothesis increasing pass later
      | false =>
          rw [ends, cond_false] at pass
          cases behind : Nat.blt high first.first with
          | true =>
              have beyond := Nat.blt_eq.mp behind
              rcases List.mem_cons.mp member with rfl | later
              · exact absurd beyond (Nat.not_lt.mpr notBehind)
              · have next := before run later
                have nonempty := next.1
                have later := next.2
                omega
          | false =>
              rw [behind, cond_false, Bool.and_eq_true] at pass
              rcases List.mem_cons.mp member with rfl | later
              · exact pass.1
              · exact inductionHypothesis increasing pass.2 later

end Offsets

namespace Run

variable {run : Run} {code : Nat}

theorem IsSane.target_eq (sane : run.IsSane) (covers : run.Covers code) :
    (run.target code : Int) = code + run.offset := by
  have low := sane.1
  have first := covers.first
  unfold target
  omega

theorem IsSane.low_eq (sane : run.IsSane) : (run.low : Int) = run.first + run.offset := by
  have least := sane.1
  exact Int.toNat_of_nonneg (by omega)

theorem Covers.target_mem (covers : run.Covers code) :
    run.low ≤ run.target code ∧ run.target code ≤ run.high := by
  have first := covers.first
  have last := covers.last
  unfold low high target
  omega

/-- A code point that is the target of another one stands for itself. -/
theorem IsSane.toNat_target (sane : run.IsSane) (covers : run.Covers code) :
    (Char.ofNat (run.target code)).toNat = run.target code := by
  have exact := sane.target_eq covers
  have first := covers.first
  have last := covers.last
  have valid : (run.target code).isValidChar := by
    rcases sane.2 with low | ⟨low, high⟩
    · exact .inl (by omega)
    · exact .inr ⟨by omega, by omega⟩
  rw [Char.ofNat, dif_pos valid]
  rfl

theorem IsSane.le_target (sane : run.IsSane) (covers : run.Covers code) :
    65 ≤ run.target code := by
  have exact := sane.target_eq covers
  have low := sane.1
  have first := covers.first
  omega

/-- The targets of one run are all even and the members of the other all odd, or the other way. -/
def interleaves (run other : Run) : Bool :=
  Nat.beq (other.step % 2) 0 && (Nat.beq run.first run.last || Nat.beq (run.step % 2) 0) &&
    Nat.beq ((run.low + other.first) % 2) 1

/-- The members of a run with an even distance are all even or all odd. -/
theorem Covers.even_sub (covers : run.Covers code)
    (even : run.first = run.last ∨ run.step % 2 = 0) : (code - run.first) % 2 = 0 := by
  rcases even with single | even
  · have first := covers.first
    have last := covers.last
    omega
  · exact Nat.mod_eq_zero_of_dvd
      (Nat.dvd_trans (Nat.dvd_of_mod_eq_zero even) (Nat.dvd_of_mod_eq_zero covers.step))

/-- Targets of one parity are no members of a run of the other. -/
theorem not_covers_of_interleaves {other : Run} (interleaves : run.interleaves other = true)
    (sane : run.IsSane) (covers : run.Covers code) : ¬other.Covers (run.target code) := by
  intro coversToo
  have exact := sane.target_eq covers
  have first := covers.first
  have otherFirst := coversToo.first
  have low := sane.low_eq
  simp only [Run.interleaves, Bool.or_eq_true, Bool.and_eq_true, Nat.beq_eq] at interleaves
  obtain ⟨⟨even, evenToo⟩, odd⟩ := interleaves
  have here := covers.even_sub evenToo
  have there := coversToo.even_sub (.inr even)
  omega

/-- No run of a table covers a target if all runs that the targets meet pass a check for it. -/
theorem not_covers_of_overlapsPass {check : Run → Bool} {runs : List Run} {other : Run}
    (increasing : runs.IsChain Before)
    (pass : overlapsPass check run.low run.high runs = true) (covers : run.Covers code)
    (sound : check other = true → ¬other.Covers (run.target code)) (member : other ∈ runs) :
    ¬other.Covers (run.target code) := by
  intro coversToo
  have inside := covers.target_mem
  exact sound (check_of_overlapsPass increasing pass member
    (inside.1.trans coversToo.last) (coversToo.first.trans inside.2)) coversToo

/-- The targets of one run are members of another run that leads back. -/
def mirrors (run other : Run) : Bool :=
  Nat.ble other.first run.low && Nat.ble run.high other.last && other.offset == -run.offset &&
    Nat.beq ((run.low - other.first) % other.step) 0 &&
      (Nat.beq run.first run.last || Nat.beq (run.step % other.step) 0)

/-- A mirroring run covers the targets and leads back from them. -/
theorem covers_of_mirrors {other : Run} (mirrors : run.mirrors other = true) (sane : run.IsSane)
    (covers : run.Covers code) :
    other.Covers (run.target code) ∧ other.target (run.target code) = code := by
  have exact := sane.target_eq covers
  have inside := covers.target_mem
  have low := sane.low_eq
  have first := covers.first
  have last := covers.last
  simp only [Run.mirrors, Bool.or_eq_true, Bool.and_eq_true, Nat.ble_eq, Nat.beq_eq,
    beq_iff_eq] at mirrors
  obtain ⟨⟨⟨⟨below, above⟩, back⟩, start⟩, inner⟩ := mirrors
  have distance : run.target code - other.first =
      (code - run.first) + (run.low - other.first) := by omega
  have steps : other.step ∣ code - run.first := by
    rcases inner with single | inner
    · have only : code - run.first = 0 := by omega
      rw [only]
      exact Nat.dvd_zero _
    · exact Nat.dvd_trans (Nat.dvd_of_mod_eq_zero inner) (Nat.dvd_of_mod_eq_zero covers.step)
  refine ⟨⟨by omega, by omega, ?_⟩, ?_⟩
  · rw [distance]
    exact Nat.mod_eq_zero_of_dvd (Nat.dvd_add steps (Nat.dvd_of_mod_eq_zero start))
  · unfold target at *
    omega

/-- The targets of a run are beside a range. -/
def misses (run : Run) (range : Nat × Nat) : Bool :=
  Nat.blt run.high range.1 || Nat.blt range.2 run.low

theorem not_mem_of_misses {range : Nat × Nat} (misses : run.misses range = true)
    (covers : run.Covers code) :
    ¬(range.1 ≤ run.target code ∧ run.target code ≤ range.2) := by
  have inside := covers.target_mem
  simp only [Run.misses, Bool.or_eq_true, Nat.blt_eq] at misses
  omega

def within (run : Run) (range : Nat × Nat) : Bool :=
  Nat.ble range.1 run.first && Nat.ble run.last range.2

/-- The members of a run, one by one. -/
def members (run : Run) : List Nat :=
  (List.range ((run.last - run.first) / run.step + 1)).map fun index =>
    run.first + run.step * index

/-- A code point that a run covers is one of its members. -/
theorem Covers.mem_members (covers : run.Covers code) : code ∈ run.members := by
  have first := covers.first
  have last := covers.last
  refine List.mem_map.mpr ⟨(code - run.first) / run.step, ?_, ?_⟩
  · have index := @Nat.div_le_div_right _ _ run.step (Nat.sub_le_sub_right last run.first)
    rw [List.mem_range]
    omega
  · rw [Nat.mul_div_cancel' (Nat.dvd_of_mod_eq_zero covers.step)]
    omega

end Run

/-- A case mapping takes a character to its expansion, along its run, or to itself. -/
theorem mapped_cases (expansions : List (Nat × List Nat)) (runs : List Run) (character : Char) :
    (∃ codes, (character.toNat, codes) ∈ expansions ∧
        mapped expansions runs character = codes.map Char.ofNat) ∨
      (∃ run ∈ runs, run.Covers character.toNat ∧
        mapped expansions runs character = [Char.ofNat (run.target character.toNat)]) ∨
      mapped expansions runs character = [character] := by
  unfold mapped
  cases expansion : expansions.lookup character.toNat with
  | some codes =>
      obtain ⟨before, after, rfl, -⟩ := List.lookup_eq_some_iff.mp expansion
      exact .inl ⟨codes, by simp, rfl⟩
  | none =>
      cases found : offset? runs character.toNat with
      | none => exact .inr (.inr rfl)
      | some offset =>
          obtain ⟨run, member, covers, rfl⟩ := exists_covers found
          exact .inr (.inl ⟨run, member, covers, rfl⟩)

/-- Where a member of what a case mapping makes of a character comes from. -/
theorem mapped_cases_of_mem {expansions : List (Nat × List Nat)} {runs : List Run}
    {character result : Char} (member : result ∈ mapped expansions runs character) :
    (∃ entry ∈ expansions, ∃ code ∈ entry.2, Char.ofNat code = result) ∨
      (∃ run ∈ runs, run.Covers character.toNat ∧
        Char.ofNat (run.target character.toNat) = result ∧
        mapped expansions runs character = [result]) ∨
      (character = result ∧ mapped expansions runs character = [result]) := by
  rcases mapped_cases expansions runs character with
    ⟨codes, entry, same⟩ | ⟨run, inside, covers, same⟩ | same
  · rw [same] at member
    obtain ⟨code, present, made⟩ := List.mem_map.mp member
    exact .inl ⟨_, entry, code, present, made⟩
  · rw [same] at member
    obtain rfl := List.mem_singleton.mp member
    exact .inr (.inl ⟨run, inside, covers, rfl, same⟩)
  · rw [same] at member
    obtain rfl := List.mem_singleton.mp member
    exact .inr (.inr ⟨rfl, same⟩)

/-- The case mapping with a search that ends early. -/
def searched (expansions : List (Nat × List Nat)) (runs : List Run) (character : Char) :
    List Char :=
  match expansions.lookup character.toNat with
  | some codes => codes.map Char.ofNat
  | none =>
    match searched? runs character.toNat with
    | some offset => [Char.ofNat (character.toNat + offset).toNat]
    | none => [character]

/-- The case mapping of a table in order is the one with the early end. -/
theorem mapped_eq_searched {runs : List Run} (increasing : runs.IsChain Run.Before)
    (expansions : List (Nat × List Nat)) (character : Char) :
    mapped expansions runs character = searched expansions runs character := by
  cases expansion : expansions.lookup character.toNat with
  | some codes => simp only [mapped, searched, expansion]
  | none =>
      cases found : searched? runs character.toNat with
      | none =>
          simp only [mapped, searched, expansion, offset?_eq_searched? increasing, found]
      | some offset =>
          simp only [mapped, searched, expansion, offset?_eq_searched? increasing, found]

/-- A code point without an expansion goes the way of its run. -/
theorem mapped_of_covers {expansions : List (Nat × List Nat)} {runs : List Run} {run : Run}
    {character : Char} (plain : expansions.lookup character.toNat = none)
    (sorted : runs.IsChain Run.Before) (member : run ∈ runs)
    (covers : run.Covers character.toNat) :
    mapped expansions runs character = [Char.ofNat (run.target character.toNat)] := by
  unfold mapped
  rw [plain, offset?_of_covers sorted member covers]
  rfl

theorem mapped_of_uncovered {expansions : List (Nat × List Nat)} {runs : List Run}
    {character : Char} (plain : expansions.lookup character.toNat = none)
    (uncovered : ∀ run ∈ runs, ¬run.Covers character.toNat) :
    mapped expansions runs character = [character] := by
  unfold mapped
  rw [plain, offset?_eq_none uncovered]

end SchemaTypes.Unicode
