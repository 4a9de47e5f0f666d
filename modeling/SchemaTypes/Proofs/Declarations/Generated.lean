/-
This file is about the numbers of named enums that have no name of their own. A number counts the
names that are stored so far, so it is given out again only while its name is taken. Main statement:
a numbered name is stored for one named enum only if and only if no other one chooses it.
-/
import SchemaTypes.Proofs.Declarations.Emission

namespace SchemaTypes

open Build

/-- A generated name shows its number. -/
theorem generatedEnumName_inj {count other : Nat}
    (same : generatedEnumName count = generatedEnumName other) : count = other := by
  have characters := congrArg String.toList same
  simp only [generatedEnumName, String.toList_append, Nat.repr_eq_ofList_toDigits,
    String.toList_ofList, List.append_cancel_left_eq] at characters
  calc
    count = Nat.ofDigitChars 10 (Nat.toDigits 10 count) 0 :=
      Nat.ofDigitChars_ten_toDigits.symm
    _ = Nat.ofDigitChars 10 (Nat.toDigits 10 other) 0 := by rw [characters]
    _ = other := Nat.ofDigitChars_ten_toDigits

/-- A key that is stored joins the others. -/
theorem Table.mem_keys_put {α : Type} {key other : String} {value : α} {table : Table α} :
    other ∈ (table.put key value).keys ↔ other = key ∨ other ∈ table.keys := by
  rw [← isSome_get?, ← isSome_get?, get?_put]
  by_cases same : key = other <;> simp [same, Ne.symm]

/-- A table grows by the keys that are new to it. -/
theorem Table.length_put {α : Type} (key : String) (value : α) (table : Table α) :
    (table.put key value).length =
      if key ∈ table.keys then table.length else table.length + 1 := by
  have keys := congrArg List.length (keys_put key value table)
  by_cases member : key ∈ table.keys
  · rw [if_pos member] at keys ⊢
    simpa [Table.keys] using keys
  · rw [if_neg member] at keys ⊢
    simpa [Table.keys] using keys

namespace Declarations

/-- No registration takes the name of an enum away. -/
theorem enumCount_le_record (event : Event) (declarations : Declarations) :
    declarations.enumCount ≤ (record event declarations).enumCount := by
  cases event with
  | enumStored name generated node =>
      change _ ≤ (declarations.enums.put name node).length
      rw [Table.length_put]
      split
      · exact Nat.le_refl _
      · exact Nat.le_succ _
  | _ => exact Nat.le_refl _

/-- A name is taken from the time when it is stored first. -/
theorem mem_enumKeys_ofJournal {journal : List Event} {name : String} :
    name ∈ (ofJournal journal).enums.keys ↔
      ∃ generated node, .enumStored name generated node ∈ journal := by
  induction journal with
  | nil => simp [ofJournal, empty, Table.keys]
  | cons event journal inductionHypothesis =>
      cases event with
      | enumStored other generated node =>
          change name ∈ (Table.put other node (ofJournal journal).enums).keys ↔ _
          rw [Table.mem_keys_put, inductionHypothesis]
          constructor
          · rintro (rfl | ⟨before, made, member⟩)
            · exact ⟨generated, node, List.mem_cons_self⟩
            · exact ⟨before, made, List.mem_cons_of_mem _ member⟩
          · rintro ⟨before, made, member⟩
            rcases List.mem_cons.mp member with same | earlier
            · cases same
              exact .inl rfl
            · exact .inr ⟨before, made, earlier⟩
      | _ => exact inductionHypothesis.trans (by simp)

end Declarations

/-- A generated name has the number of names that are stored before it. -/
def Event.Counts (before : List Event) : Event → Prop
  | .enumStored name true _ =>
      name = generatedEnumName (Declarations.ofJournal before).enumCount
  | _ => True

def Numbered : List Event → Prop
  | [] => True
  | event :: before => event.Counts before ∧ Numbered before

namespace Numbered

/-- Numbers were right at every earlier time. -/
theorem of_append {later earlier : List Event} (numbered : Numbered (later ++ earlier)) :
    Numbered earlier := by
  induction later with
  | nil => exact numbered
  | cons event later inductionHypothesis => exact inductionHypothesis numbered.2

/-- A name was free when it was generated for the first time, and since then it counts. -/
theorem lt_enumCount {journal : List Event} {count : Nat} {node : NodeId}
    (numbered : Numbered journal)
    (unchosen : ∀ other, .enumStored (generatedEnumName count) false other ∉ journal)
    (stored : .enumStored (generatedEnumName count) true node ∈ journal) :
    count < (Declarations.ofJournal journal).enumCount := by
  induction journal generalizing node with
  | nil => cases stored
  | cons event before inductionHypothesis =>
      have unchosenBefore : ∀ other,
          .enumStored (generatedEnumName count) false other ∉ before :=
        fun other member => unchosen other (List.mem_cons_of_mem _ member)
      have known {other : NodeId}
          (member : .enumStored (generatedEnumName count) true other ∈ before) :
          count < (Declarations.ofJournal before).enumCount :=
        inductionHypothesis numbered.2 unchosenBefore member
      rcases List.mem_cons.mp stored with rfl | member
      · have same := generatedEnumName_inj numbered.1
        have free : generatedEnumName count ∉ (Declarations.ofJournal before).enums.keys := by
          rw [Declarations.mem_enumKeys_ofJournal]
          rintro ⟨generated, other, member⟩
          cases generated with
          | false => exact unchosenBefore other member
          | true => exact absurd same (Nat.ne_of_lt (known member))
        change _ < (Table.put _ node (Declarations.ofJournal before).enums).length
        rw [Table.length_put, if_neg free, same]
        exact Nat.lt_succ_self _
      · exact Nat.lt_of_lt_of_le (known member) (Declarations.enumCount_le_record event _)

/-- Nothing is stored under a generated name that is still free. -/
theorem absent {later earlier : List Event} {name : String} {node : NodeId}
    (numbered : Numbered (later ++ .enumStored name true node :: earlier))
    (unchosen : ∀ other, .enumStored name false other ∉ earlier) (generated : Bool)
    (other : NodeId) : .enumStored name generated other ∉ earlier := by
  intro stored
  obtain ⟨same, numberedEarlier⟩ := numbered.of_append
  change name = _ at same
  rw [same] at unchosen stored
  cases generated with
  | false => exact unchosen other stored
  | true => exact Nat.lt_irrefl _ (numberedEarlier.lt_enumCount unchosen stored)

end Numbered

/-- Every generated name of a recorded progress is numbered. -/
theorem Transition.numbered {context : Context} {before after : Progress}
    (change : Transition context before after) (recorded : before.Recorded)
    (numbered : Numbered before.journal) : Numbered after.journal := by
  cases change with
  | enumStored members chosen =>
      refine ⟨?_, numbered⟩
      cases chosen with
      | some name => trivial
      | none => exact congrArg (generatedEnumName ·.enumCount) recorded.declarations
  | pointerFinished pointer target made rest awaited found madeKnown visited =>
      simp only [Progress.note, finishPointer]
      split
      · exact ⟨trivial, trivial, trivial, numbered⟩
      · exact ⟨trivial, trivial, numbered⟩
  | fileDeclared path made name enclosing outer own nested madeKnown =>
      rw [Progress.pop_of_outer nested]
      exact ⟨trivial, trivial, numbered⟩
  | fileInlined path made enclosing outer own nested madeKnown unforced =>
      rw [Progress.pop_of_outer nested]
      simp only [Progress.note, inlineFile]
      split <;> exact ⟨trivial, numbered⟩
  | allocated | titled | described | documentReferred => exact numbered
  | _ => exact ⟨trivial, numbered⟩

namespace Compilation

variable {context : Context} {document : Json} {sourcePath : Option Path}
  {compilation : Compilation}

/-- Every generated name of a compilation has the number of names that were stored before it. -/
theorem numbered (built : build context document sourcePath = .ok compilation) :
    Numbered compilation.journal := by
  obtain ⟨last, passage, known, same⟩ := exists_run built
  obtain ⟨-, numbered⟩ := passage.run.keeps_recorded
    (fun _ _ change recorded numbered => change.numbered recorded numbered)
    (.start (rootFrame document sourcePath)) trivial
  rw [journal, same]
  exact ⟨trivial, numbered⟩

/-- The names that named enums take from their ids and from their properties. -/
def chosenNames (compilation : Compilation) : List String :=
  compilation.journal.filterMap fun
    | .enumStored name false _ => some name
    | _ => none

/-- A chosen name is one that an enum was stored under without a number. -/
theorem mem_chosenNames {name : String} :
    name ∈ compilation.chosenNames ↔
      ∃ node, .enumStored name false node ∈ compilation.journal := by
  rw [chosenNames, List.mem_filterMap]
  constructor
  · rintro ⟨event, member, same⟩
    split at same
    · next node =>
        obtain rfl := Option.some.inj same
        exact ⟨node, member⟩
    · cases same
  · rintro ⟨node, member⟩
    exact ⟨_, member, rfl⟩

/-- A name is stored for one named enum only. -/
structure Sole (compilation : Compilation) (later earlier : List Event) (name : String)
    (node : NodeId) : Prop where
  free : (Declarations.ofJournal earlier).enums.get? name = none
  kept : ∀ generated other, .enumStored name generated other ∉ later
  stored : compilation.declarations.enums.get? name = some node

/-- A numbered name that one enum has for itself was chosen by none. -/
theorem Sole.not_chosen {later earlier : List Event} {name : String} {node : NodeId}
    (sole : compilation.Sole later earlier name node)
    (generated : compilation.journal = later ++ .enumStored name true node :: earlier) :
    name ∉ compilation.chosenNames := by
  rw [mem_chosenNames]
  rintro ⟨other, chosen⟩
  rw [generated, List.mem_append, List.mem_cons] at chosen
  rcases chosen with after | same | before
  · exact sole.kept false other after
  · cases same
  · have taken : name ∈ (Declarations.ofJournal earlier).enums.keys :=
      Declarations.mem_enumKeys_ofJournal.mpr ⟨false, other, before⟩
    rw [← Table.isSome_get?, sole.free] at taken
    cases taken

/-- A generated name is stored for one named enum only if and only if no other one takes it from its
id or from its property. -/
theorem sole_iff_not_chosen (built : build context document sourcePath = .ok compilation)
    {later earlier : List Event} {name : String} {node : NodeId}
    (generated : compilation.journal = later ++ .enumStored name true node :: earlier) :
    compilation.Sole later earlier name node ↔ name ∉ compilation.chosenNames := by
  constructor
  · exact fun sole => sole.not_chosen generated
  · intro unchosen
    rw [mem_chosenNames, not_exists] at unchosen
    have numbered := numbered built
    rw [generated] at numbered unchosen
    have kept (flag : Bool) (other : NodeId) : .enumStored name flag other ∉ later := by
      intro stored
      obtain ⟨last, middle, rfl⟩ := List.append_of_mem stored
      cases flag with
      | false => exact unchosen other (List.mem_append_left _ stored)
      | true =>
          rw [List.append_assoc, List.cons_append] at numbered unchosen
          refine numbered.absent (fun another member => unchosen another ?_) true node
            (List.mem_append_right _ List.mem_cons_self)
          exact List.mem_append_right _ (List.mem_cons_of_mem _ member)
    refine ⟨?_, kept, ?_⟩
    · have absent := numbered.absent fun other member =>
        unchosen other (List.mem_append_right _ (List.mem_cons_of_mem _ member))
      rw [← Option.not_isSome_iff_eq_none, Table.isSome_get?,
        Declarations.mem_enumKeys_ofJournal]
      rintro ⟨flag, other, member⟩
      exact absent flag other member
    · rw [declarations_eq_ofJournal built, Declarations.getEnum?_ofJournal, ← stands_iff_lookup]
      refine ⟨registrations later, registrations earlier, ?_, ?_⟩
      · rw [generated, registrations_append]
        rfl
      · rintro ⟨slot, other⟩ registered rfl
        obtain ⟨event, member, same⟩ := List.mem_filterMap.mp registered
        cases event with
        | enumStored stored flag made =>
            obtain ⟨same, -⟩ := Prod.mk.inj (Option.some.inj same)
            cases same
            exact absurd member (kept flag made)
        | declared origin key made => cases (Prod.mk.inj (Option.some.inj same)).1
        | _ => cases same

def numberedItems : Json :=
  .object [("properties", .object [
    ("color", .object [
      ("enum", .array [.string "r"]), ("tsEnumNames", .array [.string "Red"])]),
    ("sizes", .object [("type", .string "array"), ("items", .object [
      ("enum", .array [.string "s"]), ("tsEnumNames", .array [.string "Small"])])])])]

/-- Next to an enum that is called by its property, a numbered one has its name for itself. -/
theorem sole_iff_not_chosen_numberedItems :
    ∃ compilation later earlier,
      build ⟨{}, .ofFiles []⟩ numberedItems none = .ok compilation ∧
        compilation.journal = later ++ .enumStored "Enum1" true 1 :: earlier ∧
        compilation.Sole later earlier "Enum1" 1 := by
  obtain ⟨compilation, built, checked⟩ := exists_ok
    (show (build ⟨{}, .ofFiles []⟩ numberedItems none).toOption.any
      (fun compilation => decide (.enumStored "Enum1" true 1 ∈ compilation.journal ∧
        "Enum1" ∉ compilation.chosenNames)) = true by decide +kernel)
  obtain ⟨stored, unchosen⟩ := of_decide_eq_true checked
  obtain ⟨later, earlier, generated⟩ := List.append_of_mem stored
  exact ⟨compilation, later, earlier, built, generated,
    (sole_iff_not_chosen built generated).mpr unchosen⟩

/-- The first enum has the id that is the number of the second one. -/
def numberAsId : Json :=
  .object [("anyOf", .array [
    .object [("id", .string "Enum1"), ("enum", .array [.number (.integer 1)]),
      ("tsEnumNames", .array [.string "One"])],
    .object [("enum", .array [.number (.integer 2)]), ("tsEnumNames", .array [.string "Two"])]])]

/-- The second enum replaces the first one, whose name it gets. -/
theorem numberAsId_clashes :
    ∃ compilation later earlier,
      build ⟨{}, .ofFiles []⟩ numberAsId none = .ok compilation ∧
        compilation.journal = later ++ .enumStored "Enum1" true 1 :: earlier ∧
        ¬ compilation.Sole later earlier "Enum1" 1 ∧
        compilation.text = "export const enum Enum1 \x7b\n  Two = 2\n\x7d\n" ++
          "export type Interface1 = Enum1 | Enum1;" := by
  obtain ⟨compilation, built, checked⟩ := exists_ok
    (show (build ⟨{}, .ofFiles []⟩ numberAsId none).toOption.any
      (fun compilation => decide (.enumStored "Enum1" true 1 ∈ compilation.journal ∧
        "Enum1" ∈ compilation.chosenNames ∧
        compilation.text = "export const enum Enum1 \x7b\n  Two = 2\n\x7d\n" ++
          "export type Interface1 = Enum1 | Enum1;")) = true by decide +kernel)
  obtain ⟨stored, chosen, text⟩ := of_decide_eq_true checked
  obtain ⟨later, earlier, generated⟩ := List.append_of_mem stored
  exact ⟨compilation, later, earlier, built, generated,
    fun sole => sole.not_chosen generated chosen, text⟩

end Compilation
end SchemaTypes
