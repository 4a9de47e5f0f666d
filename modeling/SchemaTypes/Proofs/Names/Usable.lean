/-
This file says which names the declarations of the output can have. Main statement: the name of a
declaration is empty, begins with a numeral, reads like a type of the language or is another
declaration's name only where the letters and digits of the ids make it so.
-/
import SchemaTypes.Proofs.Names.Caseless
import SchemaTypes.Proofs.Names.Printed

namespace SchemaTypes

open Unicode TypeScript

namespace Identifier

/-- What an id must have for its name to be empty, a number or a word of the language. -/
structure Usable (id name : String) : Prop where
  nonempty : (∃ character ∈ id.toList, isAlphanumeric character = true) → name ≠ ""
  numeric : ∀ start ∈ name.toList.head?, isNumeric start = true →
    ∃ first ∈ (id.toList.filter isAlphanumeric).head?, isNumeric first = true
  keyword : ∀ word : Keyword, name = word.text →
    word = .primitive .object ∧ caseless id = caseless "object"

/-- All words of the language but one are written with a small letter first. -/
theorem keyword_of_capital {word : Keyword} {start : Char}
    (begins : word.text.toList.head? = some start)
    (capital : ¬(97 ≤ start.toNat ∧ start.toNat ≤ 122)) : word = .primitive .object := by
  cases word with
  | any =>
      obtain rfl := Option.some.inj begins
      exact absurd (by decide) capital
  | primitive kind =>
      cases kind with
      | object => rfl
      | _ =>
          obtain rfl := Option.some.inj begins
          exact absurd (by decide) capital

/-- Only its letters and digits keep an id from making a usable name. -/
theorem usable_ofName (id : String) : Usable id (ofName id) := by
  rcases ofName_begins id with ⟨without, empty⟩ | ⟨character, start, first, begins, found⟩
  · rw [empty]
    refine ⟨?_, nofun, ?_⟩
    · rintro ⟨character, member, alphanumeric⟩
      exact absurd alphanumeric (List.filter_eq_nil_iff.mp without character member)
    · rintro (_ | _ | _) same
      all_goals exact absurd same (by decide)
  · refine ⟨?_, ?_, ?_⟩
    · rintro - empty
      rw [empty] at found
      cases found
    · rintro other same numeric
      obtain rfl := Option.some.inj (found.symm.trans same)
      exact ⟨character, first, begins.numeric numeric⟩
    · intro word same
      rw [same] at found
      obtain rfl := keyword_of_capital found begins.capital
      refine ⟨rfl, ?_⟩
      rw [← ofName_caseless id, same]
      decide +kernel

end Identifier

namespace Compilation

variable {context : Context} {document : Json} {sourcePath : Option Path}
  {compilation : Compilation}

/-- Every declaration is named after the id of its node. The letters and digits of the ids decide
whether a name can be used, and names of ids that differ by more than case are different. -/
structure NamesUsable (compilation : Compilation) : Prop where
  named : ∀ node ∈ compilation.emissionOrder, ∃ id, (compilation.model.node node).id = some id ∧
    (compilation.model.declaration node).name = Identifier.ofName id ∧
    Identifier.Usable id (compilation.model.declaration node).name
  distinct : ∀ first ∈ compilation.emissionOrder, ∀ second ∈ compilation.emissionOrder,
    ∀ firstId secondId, (compilation.model.node first).id = some firstId →
      (compilation.model.node second).id = some secondId →
      Identifier.caseless firstId ≠ Identifier.caseless secondId →
      (compilation.model.declaration first).name ≠ (compilation.model.declaration second).name

/-- In every successful compilation the ids alone decide which names can be used. -/
theorem names_usable (built : build context document sourcePath = .ok compilation) :
    compilation.NamesUsable := by
  have name {node : NodeId} {id : String} (named : (compilation.model.node node).id = some id) :
      (compilation.model.declaration node).name = Identifier.ofName id := by
    change compilation.model.declaredName node = _
    rw [Model.declaredName, named]
  constructor
  · intro node emitted
    obtain ⟨id, named⟩ := exists_id built emitted
    refine ⟨id, named, name named, ?_⟩
    rw [name named]
    exact Identifier.usable_ofName id
  · intro first _ second _ firstId secondId firstNamed secondNamed different same
    rw [name firstNamed, name secondNamed] at same
    exact different (Identifier.caseless_of_ofName same)

/-- Two pointers that end alike, and titles that make a number, a type of the language and nothing
out of their letters and digits. -/
def clashing : Json :=
  .object [
    ("properties", .object [
      ("a", .object [("$ref", .string "#/definitions/x")]),
      ("b", .object [("$ref", .string "#/other/x")]),
      ("c", .object [("title", .string "3d"), ("type", .string "string")]),
      ("d", .object [("title", .string "object"), ("type", .string "string")]),
      ("e", .object [("title", .string "-"), ("type", .string "string")])]),
    ("definitions", .object [("x", .object [("type", .string "string")])]),
    ("other", .object [("x", .object [("type", .string "number")])])]

/-- The ids of the example show that every exception occurs. -/
theorem names_usable_clashing :
    ∃ compilation, build ⟨{}, .ofFiles []⟩ clashing none = .ok compilation ∧
      compilation.emissionOrder.map (fun node => (compilation.model.node node).id) =
        [some "x", some "x", some "3d", some "object", some "-", some "Interface1"] ∧
      compilation.NamesUsable := by
  obtain ⟨compilation, built, ids⟩ := exists_ok
    (show (build ⟨{}, .ofFiles []⟩ clashing none).toOption.any (fun compilation => decide
      (compilation.emissionOrder.map (fun node => (compilation.model.node node).id) =
        [some "x", some "x", some "3d", some "object", some "-", some "Interface1"])) = true by
      decide +kernel)
  have listed := of_decide_eq_true ids
  exact ⟨compilation, built, listed, names_usable built⟩

/-- Two declarations of different nodes have one name, and the names of others begin with a digit,
are taken by a type of the language, or are empty. -/
theorem clashing_names :
    ∃ compilation, build ⟨{}, .ofFiles []⟩ clashing none = .ok compilation ∧
      compilation.emissionOrder.map (fun node => (compilation.model.declaration node).name) =
        ["X", "X", "3D", (Keyword.primitive .object).text, "", "Interface1"] ∧
      compilation.emissionOrder.Nodup ∧
      ¬(compilation.emissionOrder.map fun node =>
        (compilation.model.declaration node).name).Nodup := by
  obtain ⟨compilation, built, names⟩ := exists_ok
    (show (build ⟨{}, .ofFiles []⟩ clashing none).toOption.any (fun compilation => decide
      (compilation.emissionOrder.map (fun node => (compilation.model.declaration node).name) =
        ["X", "X", "3D", (Keyword.primitive .object).text, "", "Interface1"])) = true by
      decide +kernel)
  have listed := of_decide_eq_true names
  refine ⟨compilation, built, listed, Declarations.nodup_firsts _, ?_⟩
  rw [listed]
  decide

end Compilation
end SchemaTypes
