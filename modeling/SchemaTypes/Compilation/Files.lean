/-
This file compiles files.
-/
import SchemaTypes.Compilation.Result
import SchemaTypes.FileSystem.Serving

namespace SchemaTypes.Compilation

/-- Reads, parses and compiles one file; its path is opened as it is spelled. -/
def compileFile (files : FileSystem) (settings : Settings) (path : String) :
    Except CompileError String :=
  match files.readText path with
  | .error source => .error (.readSchema path source)
  | .ok text =>
    match Json.parse text with
    | .error source => .error (.parseSchema path source)
    | .ok document => compile ⟨settings, files.loader⟩ document (some (Path.ofString path))

/-- Compiles files in their order up to the first failure. -/
def compileEach (files : FileSystem) (settings : Settings) :
    List String → Except CompileError (List String)
  | [] => .ok []
  | path :: paths => do
    let text ← compileFile files settings path
    let texts ← compileEach files settings paths
    return text :: texts

/-- The texts of all files, one below the other. -/
def compileFiles (files : FileSystem) (settings : Settings) (paths : List String) :
    Except CompileError String :=
  (compileEach files settings paths).map (String.intercalate "\n")

end SchemaTypes.Compilation
