/-
This file says where the texts of referenced files come from.
-/
import SchemaTypes.Path

namespace SchemaTypes

/-- Why a file cannot be read as text. -/
inductive ReadError where
  | noSuchSchema
  | notFound
  | notDirectory
  | isDirectory
  | notText
  | exists
  | nameTooLong
  | nulInName
deriving DecidableEq, Repr

def ReadError.message : ReadError → String
  | .noSuchSchema => "no such schema"
  | .notFound => "No such file or directory (os error 2)"
  | .notDirectory => "Not a directory (os error 20)"
  | .isDirectory => "Is a directory (os error 21)"
  | .notText => "stream did not contain valid UTF-8"
  | .exists => "File exists (os error 17)"
  | .nameTooLong => "File name too long (os error 36)"
  | .nulInName => "file name contained an unexpected NUL byte"

/-- Where the texts of referenced files come from. Only paths in normal form are asked for, and a
compilation that ends has asked for finitely many of them, so nothing is lost where no more are
served; without this bound a document could lead to new documents for ever. The texts and the number
of the paths say before a compilation begins how long it can take. -/
structure Loader where
  read : Path → Except ReadError String
  texts : List String
  pathCount : Nat
  served : ∃ paths : List Path, paths.length ≤ pathCount ∧
    ∀ path text, path.normalize = path → read path = .ok text → path ∈ paths ∧ text ∈ texts

/-- Files in memory under their normalized paths; the last one of a path is served. -/
def Loader.ofFiles (files : List (Path × String)) : Loader where
  read path :=
    match (files.map fun file => (file.1.normalize, file.2)).reverse.lookup path.normalize with
    | some text => .ok text
    | none => .error .noSuchSchema
  texts := files.map Prod.snd
  pathCount := files.length
  served := by
    refine ⟨files.map fun file => file.1.normalize, by simp, fun path text normal served => ?_⟩
    split at served
    · next content found =>
      cases served
      obtain ⟨before, after, located, _⟩ := List.lookup_eq_some_iff.mp found
      have member :
          (path.normalize, text) ∈ files.map fun file => (file.1.normalize, file.2) := by
        rw [← List.mem_reverse, located]
        simp
      obtain ⟨file, inFiles, same⟩ := List.mem_map.mp member
      refine ⟨List.mem_map.mpr ⟨file, inFiles, ?_⟩,
        List.mem_map.mpr ⟨file, inFiles, congrArg Prod.snd same⟩⟩
      exact (congrArg Prod.fst same).trans normal
    · contradiction

end SchemaTypes
