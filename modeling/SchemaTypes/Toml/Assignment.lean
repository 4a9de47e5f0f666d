/-
This file gives values to dotted keys.
-/
import SchemaTypes.Toml.Value

namespace SchemaTypes.Toml

/-- Adds a value below the tables that dotted keys name; no key is given a value twice. -/
def assign (dotted nested : Bool) (key : String) (value : Toml) :
    List String → Table Toml → Option (Table Toml)
  | [], entries =>
    if dotted = nested ∧ (entries.get? key).isNone then some (entries.put key value) else none
  | step :: path, entries =>
    match entries.get? step with
    | none =>
      (assign true nested key value path []).map fun inner =>
        entries.put step (.table .dotted inner)
    | some (.table .dotted inner) =>
      (assign true nested key value path inner).map fun inner =>
        entries.put step (.table .dotted inner)
    | some (.table .implied inner) =>
      (assign false nested key value path inner).map fun inner =>
        entries.put step (.table .implied inner)
    | some (.tables elements) =>
      (assign false nested key value path (elements.getLast?.getD [])).map fun inner =>
        entries.put step (.tables (elements.dropLast ++ [inner]))
    | _ => none

/-- Adds a value under a key, whose last part is the name of the value. -/
def assignKey (key : List String) (value : Toml) (entries : Table Toml) : Option (Table Toml) :=
  assign false (1 < key.length) (key.getLast?.getD "") value key.dropLast entries

end SchemaTypes.Toml
