/-
This file assembles TOML documents from their statements.
-/
import SchemaTypes.Toml.Statement

namespace SchemaTypes.Toml

/-- Changes the table that a header names; missing tables on the way to it come to be. -/
def atPath (change : Table Toml → Option (Table Toml)) :
    List String → Table Toml → Option (Table Toml)
  | [], entries => change entries
  | step :: path, entries =>
    match entries.get? step with
    | none => (atPath change path []).map fun inner => entries.put step (.table .implied inner)
    | some (.table .inline _) => none
    | some (.table origin inner) =>
      (atPath change path inner).map fun inner => entries.put step (.table origin inner)
    | some (.tables elements) =>
      (atPath change path (elements.getLast?.getD [])).map fun inner =>
        entries.put step (.tables (elements.dropLast ++ [inner]))
    | _ => none

/-- A table has at most one header. -/
def openTable (name : String) (entries : Table Toml) : Option (Table Toml) :=
  match entries.get? name with
  | none => some (entries.put name (.table .header []))
  | some (.table .implied inner) => some (entries.put name (.table .header inner))
  | _ => none

def openElement (name : String) (entries : Table Toml) : Option (Table Toml) :=
  match entries.get? name with
  | none => some (entries.put name (.tables [[]]))
  | some (.tables elements) => some (entries.put name (.tables (elements ++ [[]])))
  | _ => none

/-- Runs the statements on a document, given the header that is in force. -/
def runStatements (root : Table Toml) (header : List String) :
    List Statement → Option (Table Toml)
  | [] => some root
  | .header path :: rest => do
    let root ← atPath (openTable (path.getLast?.getD "")) path.dropLast root
    runStatements root path rest
  | .elementHeader path :: rest => do
    let root ← atPath (openElement (path.getLast?.getD "")) path.dropLast root
    runStatements root path rest
  | .assignment key value :: rest => do
    let root ← atPath (assignKey key value) header root
    runStatements root header rest

/-- The entries of a document; faulty documents have none. -/
def parse? (text : String) : Option (Table Toml) := do
  let characters := text.toList
  let (statements, _) ← (Reader.document (4 * characters.length + 4)).run characters
  runStatements [] [] statements

end SchemaTypes.Toml
