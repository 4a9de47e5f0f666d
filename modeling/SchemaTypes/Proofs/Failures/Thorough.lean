/-
This file shows that a compilation looks at everything that the descent leads to.
Main statement: failures are exactly those that a faulty fragment accounts for, wherever it is.
-/
import SchemaTypes.Proofs.Failures.Justified
import Mathlib.Control.Monad.Basic

namespace SchemaTypes

open Build

namespace Build

variable {α β : Type}

/-- If a step is taken for all members of a list, it is taken for each of them. -/
theorem each_ok_of_mem {act : α → Build β} {members : List α} {member : α}
    (present : member ∈ members) {before after : Progress} {results : List β}
    (taken : each act members before = .ok results after) :
    ∃ state result last, act member state = .ok result last := by
  induction members generalizing before results after with
  | nil => cases present
  | cons first members inductionHypothesis =>
      obtain ⟨result, middle, here, rest⟩ := bind_eq_ok.mp taken
      obtain ⟨results, last, later, -⟩ := bind_eq_ok.mp rest
      rcases List.mem_cons.mp present with rfl | onward
      · exact ⟨before, result, middle, here⟩
      · exact inductionHypothesis onward later

/-- A resolver finds a node for a fragment, in some place of a compilation. -/
def Resolves (resolve : Resolver) (fragment : Json) : Prop :=
  ∃ site before node after, resolve fragment site before = .ok node after

variable {context : Context} {resolve : Resolver} {fragment part : Json}
  {property : Option String} {before after : Progress} {node : NodeId}

/-- Where the members under a keyword have nodes, each of them was resolved. -/
theorem resolveMembers_resolves {keyword : String} {members : List Json}
    (found : fragment.itemsField? keyword = some members) (present : part ∈ members)
    {nodes : List NodeId}
    (taken : resolveMembers resolve fragment keyword before = .ok nodes after) :
    Resolves resolve part := by
  rw [resolveMembers, found] at taken
  obtain ⟨state, node, last, resolved⟩ := each_ok_of_mem present taken
  exact ⟨.inner, state, node, last, resolved⟩

/-- An interface has its node only when every property was resolved. -/
theorem buildInterface_resolves_property {name : String} {fields : List (String × Json)}
    (found : fragment.fieldsField? "properties" = some fields) (present : (name, part) ∈ fields)
    (taken : buildInterface resolve fragment before = .ok node after) :
    Resolves resolve part := by
  obtain ⟨properties, middle, resolved, -⟩ := bind_eq_ok.mp taken
  rw [found] at resolved
  obtain ⟨state, property, last, step⟩ := each_ok_of_mem present resolved
  obtain ⟨type, between, resolvedPart, -⟩ := bind_eq_ok.mp step
  exact ⟨⟨some name, false⟩, state, type, between, resolvedPart⟩

/-- An interface has its node only when the type of all other properties was resolved. -/
theorem buildInterface_resolves_additional {fields : List (String × Json)}
    (found : fragment.get? "additionalProperties" = some (.object fields))
    (taken : buildInterface resolve fragment before = .ok node after) :
    Resolves resolve (.object fields) := by
  obtain ⟨properties, middle, -, taken⟩ := bind_eq_ok.mp taken
  simp only [found] at taken
  obtain ⟨type, last, resolved, -⟩ := bind_eq_ok.mp taken
  exact ⟨.inner, middle, type, last, resolved⟩

/-- A fragment has its node only when all that it descends to was resolved. -/
theorem buildNode_resolves (descends : fragment.DescendsTo part)
    (taken : buildNode context resolve fragment property before = .ok node after) :
    Resolves resolve part := by
  unfold buildNode at taken
  cases descends with
  | items rule found =>
      rw [rule] at taken
      simp only [buildArray, found] at taken
      obtain ⟨element, middle, resolved, -⟩ := bind_eq_ok.mp taken
      exact ⟨.inner, before, element, middle, resolved⟩
  | property rule found present =>
      rcases rule with rule | rule
      · rw [rule] at taken
        exact buildInterface_resolves_property found present taken
      · rw [rule] at taken
        exact buildInterface_resolves_property found present taken
  | additional rule found =>
      rcases rule with rule | rule
      · rw [rule] at taken
        exact buildInterface_resolves_additional found taken
      · rw [rule] at taken
        exact buildInterface_resolves_additional found taken
  | allOf rule found present =>
      rw [rule] at taken
      obtain ⟨nodes, middle, resolved, -⟩ := bind_eq_ok.mp taken
      exact resolveMembers_resolves found present resolved
  | anyOf rule found present =>
      rw [rule] at taken
      obtain ⟨nodes, middle, resolved, -⟩ := bind_eq_ok.mp taken
      exact resolveMembers_resolves found present resolved

/-- A name that is no text leaves an enum without members. -/
theorem enumMembers?_eq_none {names values : List Json} (lengths : names.length = values.length)
    {name : Json} (member : name ∈ names) (noText : name.text? = none) :
    enumMembers? names values = none := by
  induction names generalizing values with
  | nil => cases member
  | cons first names inductionHypothesis =>
      cases values with
      | nil => cases lengths
      | cons value values =>
          rcases List.mem_cons.mp member with rfl | later
          · cases name with
            | string text => cases noText
            | _ => rfl
          · have rest := inductionHypothesis (Nat.succ.inj lengths) later
            cases first with
            | string text => rw [enumMembers?, rest, Option.map_none]
            | _ => rfl

/-- No node is built of an enum with a fault. -/
theorem buildNode_ne_ok {error : CompileError} (fault : fragment.EnumFault error) :
    buildNode context resolve fragment property before ≠ .ok node after := by
  intro taken
  unfold buildNode at taken
  cases fault with
  | notArray rule noArray =>
      rcases rule with rule | rule
      · rw [rule] at taken
        simp [buildEnum, noArray] at taken
      · rw [rule] at taken
        simp [buildNamedEnum, noArray] at taken
  | namesNotArray rule noArray =>
      rw [rule] at taken
      cases values : fragment.itemsField? "enum" <;>
        simp [buildNamedEnum, noArray, values] at taken
  | lengthsDiffer rule listed named lengths =>
      rw [rule] at taken
      simp [buildNamedEnum, listed, named, lengths, bind_eq_ok] at taken
  | nameNotText rule named member noText =>
      rw [rule] at taken
      cases listed : fragment.itemsField? "enum" with
      | none => simp [buildNamedEnum, listed] at taken
      | some values =>
          simp only [buildNamedEnum, listed, named] at taken
          split at taken
          · simp [bind_eq_ok] at taken
          · next lengths =>
            rw [enumMembers?_eq_none (Decidable.not_not.mp lengths) member noText] at taken
            cases taken

/-- A fragment is resolved only if its node is built. -/
theorem resolveFragment_built {budget : Nat} {site : Site}
    (resolved : resolveFragment context budget fragment site before = .ok node after) :
    ∃ less middle, budget = less + 1 ∧
      buildNode context (resolveFragment context less) fragment site.property before =
        .ok node middle := by
  cases budget with
  | zero => cases resolved
  | succ less =>
      simp only [resolveFragment, resolveBy, get_bind, noting_eq_ok] at resolved
      obtain ⟨last, resolved, -⟩ := resolved
      obtain ⟨made, middle, built, rest⟩ := bind_eq_ok.mp resolved
      simp only [modify_bind, pure_apply, EStateM.Result.ok.injEq] at rest
      obtain ⟨rfl, -⟩ := rest
      exact ⟨less, middle, rfl, built⟩

end Build

namespace Compilation

variable {context : Context} {document : Json} {sourcePath : Option Path}

/-- Where nothing refers to anything, the descent stays in the document, and whatever it leads to
has been resolved if the compilation has succeeded. -/
theorem resolves_of_descended {compilation : Compilation}
    (built : build context document sourcePath = .ok compilation)
    (refless : ∀ part : Json, part.Inside document → part.get? "$ref" = none)
    {frame : Frame} {fragment : Json}
    (descended : Descended context.loader (rootFrame document sourcePath) frame fragment) :
    fragment.Inside document ∧
      ∃ budget, Resolves (resolveFragment context budget) fragment := by
  induction descended with
  | root =>
      obtain ⟨last, resolved, -⟩ := exists_last built
      exact ⟨.whole document, _, _, _, _, _, resolved⟩
  | part within descends inductionHypothesis =>
      obtain ⟨inside, budget, site, before, node, after, resolved⟩ := inductionHypothesis
      obtain ⟨less, middle, -, made⟩ := resolveFragment_built resolved
      exact ⟨descends.inside.trans inside, less, buildNode_resolves descends made⟩
  | follow within follows inductionHypothesis =>
      have present := Json.has_of_reference follows.reference
      rw [Rule.has, refless _ inductionHypothesis.1] at present
      cases present

/-- A compilation fails only for a fault of a fragment that the descent from the root leads to.
Where nothing refers to anything, it fails for every such fault. -/
theorem failures_justified (context : Context) (document : Json) (sourcePath : Option Path) :
    (∀ error, build context document sourcePath = .error error →
      ∃ frame fragment, Descended context.loader (rootFrame document sourcePath) frame fragment ∧
        Faulty context.loader frame fragment error) ∧
    ((∀ part : Json, part.Inside document → part.get? "$ref" = none) →
      ∀ frame fragment error,
        Descended context.loader (rootFrame document sourcePath) frame fragment →
        Faulty context.loader frame fragment error →
        ∃ failure, build context document sourcePath = .error failure) := by
  refine ⟨fun error failed => exists_faulty failed, ?_⟩
  intro refless frame fragment error descended faulty
  cases outcome : build context document sourcePath with
  | error failure => exact ⟨failure, rfl⟩
  | ok compilation =>
      obtain ⟨inside, budget, site, before, node, after, resolved⟩ :=
        resolves_of_descended outcome refless descended
      have unreferring {asked : Target} (refers : fragment.target? = some asked) : False := by
        have present := Json.has_of_reference (Json.classify_of_target? refers)
        rw [Rule.has, refless fragment inside] at present
        cases present
      cases faulty with
      | enum fault =>
          obtain ⟨less, middle, -, made⟩ := resolveFragment_built resolved
          exact absurd made (buildNode_ne_ok fault)
      | remote refers => exact (unreferring refers).elim
      | file refers => exact (unreferring refers).elim

/-- An enum with two values and one name for them, as the type of the elements of a list. -/
def shortNames : Json :=
  .object [("enum", .array [.bool true, .bool false]), ("tsEnumNames", .array [.string "Yes"])]

def listOfShortNames : Json :=
  .object [("type", .string "array"), ("items", shortNames)]

def answerPath : Path := ⟨false, [.child "answer.json"]⟩

def answerDocument : Json :=
  .object [("properties", .object [
    ("answer", .object [("$ref", .string "answer.json")])])]

/-- A file with a faulty enum is at fault for the document that refers to it, and for itself. -/
theorem failures_justified_shortNames :
    (∃ frame fragment,
      Descended (.ofFiles [(answerPath, listOfShortNames.compact)])
        (rootFrame answerDocument none) frame fragment ∧
      Faulty (.ofFiles [(answerPath, listOfShortNames.compact)]) frame fragment
        (.enumLengthMismatch shortNames)) ∧
    ∃ failure, build ⟨{}, .ofFiles []⟩ listOfShortNames none = .error failure := by
  constructor
  · refine (failures_justified ⟨{}, .ofFiles [(answerPath, listOfShortNames.compact)]⟩
      answerDocument none).1 _ ?_
    decide +kernel
  · refine (failures_justified ⟨{}, .ofFiles []⟩ listOfShortNames none).2 ?_
      (rootFrame listOfShortNames none) shortNames (.enumLengthMismatch shortNames)
      (.part .root (.items (by decide +kernel) rfl))
      (.enum (.lengthsDiffer (by decide +kernel) rfl rfl (by decide)))
    intro part inside
    simp only [listOfShortNames, shortNames, Json.inside_object_iff, Json.inside_array_iff,
      Json.inside_bool_iff, Json.inside_string_iff, List.mem_cons, List.not_mem_nil, or_false,
      exists_eq_or_imp, exists_eq_left] at inside
    rcases inside with rfl | rfl | rfl | (rfl | rfl | rfl) | rfl | rfl <;> rfl

end Compilation
end SchemaTypes
