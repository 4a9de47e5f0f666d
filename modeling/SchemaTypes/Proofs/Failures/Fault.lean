/-
This file says what can be wrong with a fragment of a schema and with a file that it refers to, and
how a compilation reports it.
-/
import SchemaTypes.Proofs.Meaning.Outline

namespace SchemaTypes

open Build

/-- An enum that is no list, or names for its values that do not go with them. -/
inductive Json.EnumFault (fragment : Json) : CompileError → Prop where
  | notArray (rule : Rule.classify fragment = .enum ∨ Rule.classify fragment = .namedEnum)
      (noArray : fragment.itemsField? "enum" = none) : EnumFault fragment (.enumNotArray fragment)
  | namesNotArray (rule : Rule.classify fragment = .namedEnum)
      (noArray : fragment.itemsField? "tsEnumNames" = none) : EnumFault fragment .enumNamesNotText
  | lengthsDiffer {values names : List Json} (rule : Rule.classify fragment = .namedEnum)
      (listed : fragment.itemsField? "enum" = some values)
      (named : fragment.itemsField? "tsEnumNames" = some names)
      (lengths : names.length ≠ values.length) :
      EnumFault fragment (.enumLengthMismatch fragment)
  | nameNotText {names : List Json} {name : Json} (rule : Rule.classify fragment = .namedEnum)
      (named : fragment.itemsField? "tsEnumNames" = some names) (member : name ∈ names)
      (noText : name.text? = none) : EnumFault fragment .enumNamesNotText

/-- A file that cannot be read, or whose text is no JSON. -/
inductive Loader.FileFault (loader : Loader) (path : Path) : CompileError → Prop where
  | missing {source : ReadError} (unread : loader.read path = .error source) :
      FileFault loader path (.missingReference path source)
  | malformed {text : String} {source : Json.SyntaxError} (read : loader.read path = .ok text)
      (unparsed : Json.parse text = .error source) :
      FileFault loader path (.malformedReference path source)

/-- What is wrong with a fragment that stands in the document of a frame. -/
inductive Faulty (loader : Loader) (frame : Frame) (fragment : Json) : CompileError → Prop where
  | enum {error : CompileError} (fault : fragment.EnumFault error) :
      Faulty loader frame fragment error
  | remote {file : String} (refers : fragment.target? = some (.file file))
      (away : Path.isRemote file = true) : Faulty loader frame fragment (.remoteReference file)
  | file {file : String} {error : CompileError} (refers : fragment.target? = some (.file file))
      (here : Path.isRemote file = false)
      (fault : loader.FileFault (frame.filePath file) error) : Faulty loader frame fragment error

namespace Json

variable {fragment : Json} {error : CompileError}

/-- Only fragments that are read as enums can have faulty ones. -/
theorem EnumFault.rule (fault : fragment.EnumFault error) :
    Rule.classify fragment = .enum ∨ Rule.classify fragment = .namedEnum := by
  cases fault with
  | notArray rule => exact rule
  | namesNotArray rule => exact .inr rule
  | lengthsDiffer rule => exact .inr rule
  | nameNotText rule => exact .inr rule

end Json

/-- Names that go with their values one by one make no members only if one of them is no text. -/
theorem Build.exists_noText {names values : List Json} (lengths : names.length = values.length)
    (none : enumMembers? names values = none) : ∃ name ∈ names, name.text? = Option.none := by
  induction names generalizing values with
  | nil => cases values <;> simp [enumMembers?] at none
  | cons name names inductionHypothesis =>
      cases values with
      | nil => cases lengths
      | cons value values =>
          cases name with
          | string text =>
              simp only [enumMembers?, Option.map_eq_none_iff] at none
              obtain ⟨name, member, noText⟩ :=
                inductionHypothesis (Nat.succ.inj lengths) none
              exact ⟨name, List.mem_cons_of_mem _ member, noText⟩
          | _ => exact ⟨_, List.mem_cons_self, rfl⟩

end SchemaTypes
