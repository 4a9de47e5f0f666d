/-
This file follows two compilations of documents in which one fragment has different descriptions. It
says which fragments they come to together, and when the description is read as a description only.
-/
import SchemaTypes.Proofs.Remarks.Replaced

namespace SchemaTypes

open Build

/-- The fragments that two root documents lead to by way of the same parts and references. -/
inductive Together (loader loader' : Loader) (root root' : Frame) :
    Frame → Frame → Json → Json → Prop where
  | root : Together loader loader' root root' root root' root.document root'.document
  | part {frame frame' : Frame} {fragment fragment' part part' : Json} {outline outline' : Outline}
      (within : Together loader loader' root root' frame frame' fragment fragment')
      (outlined : fragment.outline? = some outline)
      (outlined' : fragment'.outline? = some outline')
      (inside : (.fragment part, .fragment part') ∈ outline.parts.zip outline'.parts) :
      Together loader loader' root root' frame frame' part part'
  | pointer {frame frame' : Frame} {fragment fragment' target target' : Json} {pointer : String}
      (within : Together loader loader' root root' frame frame' fragment fragment')
      (refers : fragment.target? = some (.pointer pointer))
      (leads : Pointer.lookup? frame.document (Pointer.segments pointer) = some target)
      (leads' : Pointer.lookup? frame'.document (Pointer.segments pointer) = some target') :
      Together loader loader' root root' frame frame' target target'
  | file {frame frame' : Frame} {fragment fragment' document document' : Json} {file : String}
      (within : Together loader loader' root root' frame frame' fragment fragment')
      (refers : fragment.target? = some (.file file))
      (served : loader.Serves (frame.filePath file) document)
      (served' : loader'.Serves (frame.filePath file) document') :
      Together loader loader' root root' (fileFrame (frame.filePath file) document)
        (fileFrame (frame.filePath file) document') document document'

/-- The description of a fragment is read as a description only: no pointer leads to it, it is not
written within a literal or a value of an enum, and it is no property of an interface. -/
structure DescribesOnly (old new : Json) (loader loader' : Loader) (root root' : Frame) : Prop where
  pointer : ∀ {frame frame' : Frame} {fragment fragment' : Json} {pointer : String},
    Together loader loader' root root' frame frame' fragment fragment' →
    fragment.target? = some (.pointer pointer) →
    ¬Json.Passes old new frame.document frame'.document (Pointer.segments pointer)
  literal : ∀ {frame frame' : Frame} {fragment fragment' : Json},
    Together loader loader' root root' frame frame' fragment fragment' →
    Rule.classify fragment = .literal → fragment' = fragment
  enum : ∀ {frame frame' : Frame} {fragment fragment' : Json},
    Together loader loader' root root' frame frame' fragment fragment' →
    Rule.classify fragment = .enum ∨ Rule.classify fragment = .namedEnum →
    fragment'.get? "enum" = fragment.get? "enum"
  properties : ∀ {frame frame' : Frame} {fragment fragment' : Json},
    Together loader loader' root root' frame frame' fragment fragment' →
    Rule.classify fragment = .namedSchema ∨ Rule.classify fragment = .anonymousSchema →
    ¬(fragment.get? "properties" = some old ∧ fragment'.get? "properties" = some new)

namespace Json

variable {fragment fragment' : Json}

theorem zip_fragments {values values' : List Json} {part part' : Json}
    (inside : (part, part') ∈ values.zip values') :
    (Part.fragment part, Part.fragment part') ∈
      (values.map Part.fragment).zip (values'.map Part.fragment) := by
  rw [List.zip_map]
  exact List.mem_map.mpr ⟨_, inside, rfl⟩

/-- The properties of an interface come first among its parts. An object that describes all other
properties comes last. -/
theorem interfaceOutline_parts (fragment : Json) :
    ∃ rest, fragment.interfaceOutline.parts =
      ((fragment.fieldsField? "properties").getD []).map (fun entry => .fragment entry.2) ++ rest ∧
      ∀ additional, fragment.get? "additionalProperties" = some (.object additional) →
        rest = [.fragment (.object additional)] := by
  have listed : fragment.listedParts.map Prod.snd =
      ((fragment.fieldsField? "properties").getD []).map (fun entry => .fragment entry.2) := by
    rw [listedParts, List.map_map]
    rfl
  have indexed (last : Part) :
      (Outline.interface (fragment.listedParts ++ [((indexSignature, true), last)])).parts =
        ((fragment.fieldsField? "properties").getD []).map (fun entry => .fragment entry.2) ++
          [last] := by
    rw [← listed]
    exact List.map_append
  have bare (none : fragment.listedParts.isEmpty = true) (head : Head) : (Outline.leaf head).parts =
      ((fragment.fieldsField? "properties").getD []).map (fun entry => .fragment entry.2) ++
        [] := by
    rw [← listed, List.isEmpty_iff.mp none]
    rfl
  unfold interfaceOutline
  dsimp only
  split
  · next additional found =>
    refine ⟨_, indexed _, fun other same => ?_⟩
    rw [found] at same
    cases same
    rfl
  · split
    · next none => exact ⟨[], bare none _, by simp_all⟩
    · exact ⟨_, indexed _, by simp_all⟩
  · split
    · next none => exact ⟨[], bare none _, by simp_all⟩
    · exact ⟨_, indexed _, by simp_all⟩
  · refine ⟨[], ?_, by simp_all⟩
    rw [← listed, List.append_nil]
    rfl

end Json
end SchemaTypes
