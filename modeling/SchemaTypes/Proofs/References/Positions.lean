/-
This file says which fragments pointers lead to. Main statement: the reference to a position in a
document is followed as a pointer, whose segments are the steps to the position and which leads to
the fragment there, and whatever segments lead to is a fragment of the document at such a position.
-/
import Mathlib.Data.List.Forall2
import SchemaTypes.Proofs.Meaning.Inside
import SchemaTypes.Proofs.Output.Literals

namespace SchemaTypes.Pointer

/-- A step into an object or into an array. An index is a machine word, as the index of every item
of an array in memory is. -/
inductive Step where
  | key (name : String)
  | index (position : UInt64)
deriving DecidableEq, Repr

namespace Step

def text : Step → String
  | .key name => name
  | .index position => Nat.repr position.toNat

/-- What a step can be written as. A key is written as it is, and an index may have a plus sign and
zeros in front. -/
def Spells : Step → String → Prop
  | .key name, segment => segment = name
  | .index position, segment => index? segment = some position.toNat

/-- Where a step leads from a value. -/
inductive Opens : Step → Json → Json → Prop where
  | key {name : String} {fields : List (String × Json)} {part : Json}
      (found : fields.lookup name = some part) : Opens (.key name) (.object fields) part
  | index {position : UInt64} {items : List Json} {part : Json}
      (found : items[position.toNat]? = some part) : Opens (.index position) (.array items) part

end Step

/-- Steps that lead from a document to one of its fragments. -/
inductive Leads : Json → List Step → Json → Prop where
  | here (value : Json) : Leads value [] value
  | down {document part target : Json} {step : Step} {steps : List Step}
      (opens : step.Opens document part) (onward : Leads part steps target) :
      Leads document (step :: steps) target

def text (steps : List Step) : String := String.intercalate "/" (steps.map Step.text)

def reference (steps : List Step) : String := "#/" ++ text steps

variable {value part document target : Json} {segment : String} {segments : List String}
  {steps : List Step}

/-- A machine word is read back from its digits. -/
theorem index?_repr {number : Nat} (word : number ≤ indexLimit) :
    index? (Nat.repr number) = some number := by
  have unsigned (rest : List Char) : (Nat.repr number).toList ≠ '+' :: rest := by
    intro signed
    have digit : '+'.isDigit = true := Nat.isDigit_of_mem_repr (signed ▸ List.mem_cons_self)
    exact absurd digit (by decide)
  have digits : (Nat.repr number).toList ≠ [] ∧
      (Nat.repr number).toList.all Char.isDigit = true := by
    refine ⟨?_, List.all_eq_true.mpr fun _ => Nat.isDigit_of_mem_repr⟩
    rw [Nat.toList_repr]
    exact Nat.toDigits_ne_nil
  have read : (Nat.repr number).toList.foldl
      (fun sum digit => sum * 10 + (digit.toNat - '0'.toNat)) 0 = number := by
    calc
      _ = Nat.ofDigitChars 10 (Nat.toDigits 10 number) 0 := by
        simp only [Nat.toList_repr, Nat.ofDigitChars_eq_foldl, Nat.mul_comm]
      _ = number := Nat.ofDigitChars_ten_toDigits
  unfold index?
  split
  · next rest signed => exact absurd signed (unsigned rest)
  · dsimp only
    rw [read, if_pos ⟨digits.1, digits.2, word⟩]

/-- What is read as an index is a machine word. -/
theorem le_indexLimit {position : Nat} (found : index? segment = some position) :
    position ≤ indexLimit := by
  unfold index? at found
  obtain ⟨⟨-, -, word⟩, same⟩ := Option.ite_none_right_eq_some.mp found
  rw [← Option.some.inj same]
  exact word

/-- The text of a step is one of its spellings. -/
theorem Step.text_spelled (step : Step) : step.Spells step.text := by
  cases step with
  | key name => rfl
  | index position => exact index?_repr (Nat.le_of_lt_succ position.toNat_lt)

/-- A segment leads to what a step opens that it spells. -/
theorem step?_eq_some_iff :
    step? value segment = some part ↔
      ∃ step : Step, step.Spells segment ∧ step.Opens value part := by
  constructor
  · intro found
    cases value with
    | object fields => exact ⟨.key segment, rfl, .key found⟩
    | array items =>
        obtain ⟨position, read, here⟩ := Option.bind_eq_some_iff.mp found
        have word : (UInt64.ofNat position).toNat = position :=
          UInt64.toNat_ofNat_of_lt (Nat.lt_succ_of_le (le_indexLimit read))
        refine ⟨.index (.ofNat position), ?_, .index ?_⟩
        · rw [Step.Spells, word]
          exact read
        · rw [word]
          exact here
    | _ => cases found
  · rintro ⟨step, spelled, opens⟩
    cases opens with
    | key found =>
        obtain rfl := spelled
        exact found
    | index found => exact Option.bind_eq_some_iff.mpr ⟨_, spelled, found⟩

/-- Segments lead where the steps lead that they spell. -/
theorem lookup?_eq_some_iff :
    lookup? document segments = some target ↔
      ∃ steps, List.Forall₂ Step.Spells steps segments ∧ Leads document steps target := by
  induction segments generalizing document with
  | nil =>
      constructor
      · intro found
        obtain rfl : document = target := Option.some.inj found
        exact ⟨[], .nil, .here document⟩
      · rintro ⟨steps, ⟨⟩, ⟨⟩⟩
        rfl
  | cons segment segments inductionHypothesis =>
      change (step? document segment).bind (lookup? · segments) = some target ↔ _
      simp only [Option.bind_eq_some_iff, step?_eq_some_iff, inductionHypothesis]
      constructor
      · rintro ⟨part, ⟨step, spelled, opens⟩, steps, others, onward⟩
        exact ⟨step :: steps, .cons spelled others, .down opens onward⟩
      · rintro ⟨_, _ | ⟨spelled, others⟩, _ | ⟨opens, onward⟩⟩
        exact ⟨_, ⟨_, spelled, opens⟩, _, others, onward⟩

/-- The texts of steps are looked up as the steps lead. -/
theorem Leads.lookup? (leads : Leads document steps target) :
    lookup? document (steps.map Step.text) = some target := by
  refine lookup?_eq_some_iff.mpr ⟨steps, ?_, leads⟩
  rw [List.forall₂_map_right_iff, List.forall₂_same]
  exact fun step _ => step.text_spelled

/-- A position other than the document itself has a text, unless its only key is empty. -/
theorem text_ne_empty (nonempty : steps ≠ []) (visible : steps ≠ [.key ""]) : text steps ≠ "" := by
  intro empty
  rcases (Text.intercalate_eq_empty (by decide)).mp empty with nothing | single
  · exact nonempty (List.map_eq_nil_iff.mp nothing)
  · obtain ⟨step, rfl, blank⟩ := List.map_eq_singleton_iff.mp single
    cases step with
    | key name => exact visible (by rw [show name = "" from blank])
    | index position => exact Nat.repr_ne_empty blank

/-- The reference to a position with a text is taken for a pointer. -/
theorem ofReference_reference (visible : text steps ≠ "") :
    Build.Target.ofReference (reference steps) = .pointer (text steps) := by
  have spelled : (reference steps).toList = '#' :: '/' :: (text steps).toList := by
    rw [reference, String.toList_append]
    rfl
  unfold Build.Target.ofReference
  rw [spelled]
  cases rest : (text steps).toList with
  | nil => exact absurd (String.toList_eq_nil_iff.mp rest) visible
  | cons character characters =>
      change Build.Target.pointer (String.ofList (character :: characters)) = _
      rw [← rest, String.ofList_toList]

/-- Behind the empty key alone there is no text left, and a slash without one is the document. -/
example : Build.Target.ofReference (reference [.key ""]) = .document := by decide +kernel

/-- A step has a slash in it only if its key does. -/
theorem slash_not_mem_text (plain : ∀ name, .key name ∈ steps → '/' ∉ name.toList) {step : Step}
    (member : step ∈ steps) : '/' ∉ step.text.toList := by
  cases step with
  | key name => exact plain name member
  | index position => exact fun slash => absurd (Nat.isDigit_of_mem_repr slash) (by decide)

/-- The segments of a position are the texts of its steps. -/
theorem segments_text (nonempty : steps ≠ [])
    (plain : ∀ name, .key name ∈ steps → '/' ∉ name.toList) :
    Pointer.segments (text steps) = steps.map Step.text := by
  have split : (text steps).toList.splitOn '/' = (steps.map Step.text).map String.toList := by
    rw [text, String.toList_intercalate]
    refine List.splitOn_intercalate '/' ?_ (by simpa using nonempty)
    simpa using fun step member => slash_not_mem_text plain member
  rw [Pointer.segments, split, List.map_map]
  exact List.map_id'' (fun _ => String.ofList_toList) _

/-- A position behind keys without slashes has a reference that is followed as a pointer to it, if
it is neither the whole document nor behind the empty key alone. The segments of the pointer are the
steps to the position, and they lead to the fragment there. Whatever any segments lead to is a
fragment of the document, and they spell the steps to it. -/
theorem references_address_positions (document : Json) :
    (∀ (steps : List Step) (target : Json), steps ≠ [] → steps ≠ [.key ""] →
      (∀ name, .key name ∈ steps → '/' ∉ name.toList) → Leads document steps target →
      (∀ (context : Context) (resolve : Resolver) (property : Option String),
        Build.follow context resolve (reference steps) property =
          Build.followPointer context.settings resolve (text steps)) ∧
      Pointer.segments (text steps) = steps.map Step.text ∧
      lookup? document (Pointer.segments (text steps)) = some target) ∧
    ∀ (segments : List String) (target : Json), lookup? document segments = some target →
      target.Inside document ∧
      ∃ steps, List.Forall₂ Step.Spells steps segments ∧ Leads document steps target := by
  constructor
  · intro steps target nonempty visible plain leads
    have pointer := ofReference_reference (text_ne_empty nonempty visible)
    have split := segments_text nonempty plain
    refine ⟨fun context resolve property => ?_, split, ?_⟩
    · rw [Build.follow, pointer]
    · rw [split]
      exact leads.lookup?
  · intro segments target found
    exact ⟨lookup?_inside found, lookup?_eq_some_iff.mp found⟩

/-- Keys that are empty, or read like an index or like a reference of their own. -/
def oddKeys : Json :=
  .object [("", .object [("#0", .array [.null,
    .object [("0", .object [("", .string "here")])]])])]

def oddSteps : List Step := [.key "", .key "#0", .index 1, .key "0", .key ""]

/-- A position below empty keys and keys that read like an index or a reference. -/
theorem references_address_positions_oddKeys :
    oddSteps ≠ [] ∧ oddSteps ≠ [.key ""] ∧
    (∀ name, .key name ∈ oddSteps → '/' ∉ name.toList) ∧
    Leads oddKeys oddSteps (.string "here") ∧
    (∀ (context : Context) (resolve : Resolver) (property : Option String),
      Build.follow context resolve "#//#0/1/0/" property =
        Build.followPointer context.settings resolve "/#0/1/0/") ∧
    Pointer.segments "/#0/1/0/" = ["", "#0", "1", "0", ""] ∧
    lookup? oddKeys ["", "#0", "1", "0", ""] = some (.string "here") ∧
    lookup? oddKeys ["", "#0", "+01", "0", ""] = some (.string "here") ∧
    (Json.string "here").Inside oddKeys := by
  have plain : ∀ name, .key name ∈ oddSteps → '/' ∉ name.toList := by
    simp [oddSteps]
  have leads : Leads oddKeys oddSteps (.string "here") :=
    .down (.key rfl) (.down (.key rfl) (.down (.index rfl) (.down (.key rfl)
      (.down (.key rfl) (.here _)))))
  have respelled : lookup? oddKeys ["", "#0", "+01", "0", ""] = some (.string "here") := by
    decide +kernel
  obtain ⟨addressed, standing⟩ := references_address_positions oddKeys
  obtain ⟨followed, split, found⟩ := addressed oddSteps _ (by decide) (by decide) plain leads
  have pointer : text oddSteps = "/#0/1/0/" := by decide +kernel
  have whole : reference oddSteps = "#//#0/1/0/" := by decide +kernel
  have segments : oddSteps.map Step.text = ["", "#0", "1", "0", ""] := by decide +kernel
  rw [split, segments] at found
  rw [pointer, segments] at split
  rw [whole, pointer] at followed
  exact ⟨by decide, by decide, plain, leads, followed, split, found, respelled,
    (standing _ _ respelled).1⟩

end SchemaTypes.Pointer
