/-
This file serves the files of a tree to references.
-/
import SchemaTypes.Proofs.FileSystem.Served

namespace SchemaTypes.FileSystem

/-- Serves what can be read in a tree. -/
def loader (files : FileSystem) : Loader where
  read := files.readPath
  texts := files.texts
  pathCount := files.files.length * pathsToCount
  served := files.exists_paths

end SchemaTypes.FileSystem
