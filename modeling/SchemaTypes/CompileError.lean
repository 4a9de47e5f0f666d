/-
This file holds the causes for which a compilation fails.
-/
import SchemaTypes.Json.Printer
import SchemaTypes.Json.SyntaxError
import SchemaTypes.Loader

namespace SchemaTypes

inductive CompileError where
  | remoteReference (reference : String)
  | missingReference (path : Path) (source : ReadError)
  | malformedReference (path : Path) (source : Json.SyntaxError)
  | enumLengthMismatch (rule : Json)
  | enumNamesNotText
  | enumNotArray (rule : Json)
  | readSchema (path : String) (source : ReadError)
  | parseSchema (path : String) (source : Json.SyntaxError)
  /-- The budget of a build ran out; no document needs more than it is given. -/
  | exhausted
deriving DecidableEq

namespace CompileError

inductive Kind where
  | reference
  | type
  | classification
  | io
deriving DecidableEq, Repr

def kind : CompileError → Kind
  | .remoteReference _ => .reference
  | .missingReference _ _ => .reference
  | .malformedReference _ _ => .type
  | .enumLengthMismatch _ => .classification
  | .enumNamesNotText => .classification
  | .enumNotArray _ => .classification
  | .readSchema _ _ => .io
  | .parseSchema _ _ => .io
  | .exhausted => .reference

def message : CompileError → String
  | .remoteReference reference =>
    "remote references are not supported: could not read \"" ++ reference ++ "\""
  | .missingReference path _ => "unable to find referenced file \"" ++ path.text ++ "\""
  | .malformedReference path source =>
    "referenced local schema \"" ++ path.text ++ "\" contains malformed JSON: " ++ source.message
  | .enumLengthMismatch rule =>
    "property enum and property tsEnumNames must be the same length: " ++ rule.compact
  | .enumNamesNotText => "if tsEnumNames is declared, it must be an array of strings"
  | .enumNotArray rule => "property enum must be an array: " ++ rule.compact
  | .readSchema path _ => "failed to read schema \"" ++ path ++ "\""
  | .parseSchema path source =>
    "schema \"" ++ path ++ "\" is not valid JSON: " ++ source.message
  | .exhausted => "references are nested too deeply"

/-- The message of the error behind this one. -/
def source? : CompileError → Option String
  | .missingReference _ source => some source.message
  | .malformedReference _ source => some source.message
  | .readSchema _ source => some source.message
  | .parseSchema _ source => some source.message
  | _ => none

end CompileError
end SchemaTypes
