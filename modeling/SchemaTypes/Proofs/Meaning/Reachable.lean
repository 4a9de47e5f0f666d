/-
This file says which fragments a compilation can come to, and when the keys that it keeps their
nodes under tell them apart.
-/
import SchemaTypes.Proofs.Meaning.Outline

namespace SchemaTypes

open Build

/-- A fragment that the root document leads to, by way of parts and of references. -/
inductive Reachable (loader : Loader) (root : Frame) : Frame → Json → Prop where
  | root : Reachable loader root root root.document
  | part {frame : Frame} {fragment part : Json} {outline : Outline}
      (within : Reachable loader root frame fragment) (outlined : fragment.outline? = some outline)
      (inside : .fragment part ∈ outline.parts) : Reachable loader root frame part
  | follow {frame next : Frame} {fragment target : Json}
      (within : Reachable loader root frame fragment)
      (follows : Follows loader root frame fragment next target) :
      Reachable loader root next target

/-- What a reference asks for besides the root: a file, or a place in a document. -/
inductive Thing where
  | file (path : Path)
  | pointer (frame : Frame) (pointer : String)
deriving DecidableEq, Repr

def Thing.key : Thing → String
  | .file path => path.text
  | .pointer frame text => frame.pointerKey text

/-- What the references of reachable fragments ask for. -/
inductive Mentioned (loader : Loader) (root : Frame) : Thing → Prop where
  | file {frame : Frame} {fragment : Json} {file : String}
      (within : Reachable loader root frame fragment)
      (refers : fragment.target? = some (.file file))
      (other : root.key ≠ some (frame.filePath file).text) :
      Mentioned loader root (.file (frame.filePath file))
  | pointer {frame : Frame} {fragment : Json} {pointer : String}
      (within : Reachable loader root frame fragment)
      (refers : fragment.target? = some (.pointer pointer)) :
      Mentioned loader root (.pointer frame pointer)

/-- A file that is asked for is another one than the root. -/
theorem Mentioned.other {loader : Loader} {root : Frame} {path : Path}
    (mentioned : Mentioned loader root (.file path)) : root.key ≠ some path.text := by
  cases mentioned
  assumption

/-- No two things have one key, and no title, no id and no name of the root reads like a key. -/
structure Unambiguous (loader : Loader) (root : Frame) : Prop where
  things : ∀ first second, Mentioned loader root first → Mentioned loader root second →
    first.key = second.key → first = second
  apart : ∀ thing, Mentioned loader root thing → thing.key ≠ root.ownKey
  names : ∀ thing, Mentioned loader root thing → ∀ frame fragment,
    Reachable loader root frame fragment → fragment.declaredName? ≠ some thing.key
  id : ∀ thing, Mentioned loader root thing → thing.key ≠ root.name

/-- Fragments stand in the root document, or in a file that is referred to. -/
theorem Reachable.frame {loader : Loader} {root frame : Frame} {fragment : Json}
    (reachable : Reachable loader root frame fragment) :
    frame = root ∨ ∃ path document, frame = fileFrame path document ∧
      Mentioned loader root (.file path) ∧ loader.Serves path document := by
  induction reachable with
  | root => exact .inl rfl
  | part _ _ _ inductionHypothesis => exact inductionHypothesis
  | follow within follows inductionHypothesis =>
      cases follows with
      | document => exact inductionHypothesis
      | pointer => exact inductionHypothesis
      | root => exact .inl rfl
      | file refers other served => exact .inr ⟨_, _, rfl, .file within refers other, served⟩

end SchemaTypes
