/-
This file turns the fragments of a schema into nodes.
-/
import SchemaTypes.Compilation.Reference
import SchemaTypes.Schema.Rule

namespace SchemaTypes.Build

def resolveMembers (resolve : Resolver) (fragment : Json) (keyword : String) :
    Build (List NodeId) :=
  each (resolve · .inner) ((fragment.itemsField? keyword).getD [])

def buildEnum (fragment : Json) : Build NodeId := do
  match fragment.itemsField? "enum" with
  | none => throw (.enumNotArray fragment)
  | some values =>
    let members ← each (fun value => allocate (.literal value)) values
    allocate (.union members)

/-- Every name is a text and goes with the value at its place. -/
def enumMembers? : List Json → List Json → Option (List EnumMember)
  | .string name :: names, value :: values =>
    (enumMembers? names values).map (⟨name, value⟩ :: ·)
  | _ :: _, _ :: _ => none
  | _, _ => some []

/-- An enum is called by its id or its property; the others are numbered. -/
def enumName? (fragment : Json) (property : Option String) : Option String :=
  (fragment.textField? "id").or (property.filter (· ≠ ""))

def generatedEnumName (count : Nat) : String := "Enum" ++ Nat.repr count

def buildNamedEnum (fragment : Json) (property : Option String) : Build NodeId := do
  match fragment.itemsField? "enum", fragment.itemsField? "tsEnumNames" with
  | none, _ => throw (.enumNotArray fragment)
  | some _, none => throw .enumNamesNotText
  | some values, some names =>
    if names.length ≠ values.length then throw (.enumLengthMismatch fragment)
    match enumMembers? names values with
    | none => throw .enumNamesNotText
    | some members =>
      let chosen := enumName? fragment property
      let generated := generatedEnumName (← get).declarations.enumCount
      let node ← allocate (.namedEnum members)
      modify (·.putEnum (chosen.getD generated) chosen.isNone node)
      return node

def buildArray (resolve : Resolver) (items : Option Json) : Build NodeId := do
  let element ←
    match items with
    | some items => resolve items .inner
    | none => allocate .any
  allocate (.array element)

/-- Each keyword of a list of types stands for a fragment that has only this keyword. -/
def buildTypeUnion (resolve : Resolver) (types : List Json) : Build NodeId := do
  let members ← each (fun type => resolve (.object [("type", type)]) .inner) types
  allocate (.union members)

def resolveProperties (resolve : Resolver) (required : List String)
    (fields : List (String × Json)) : Build (List Property) :=
  each (fun (name, fragment) => do
    let type ← resolve fragment ⟨some name, false⟩
    return ⟨name, name ∈ required, type⟩) fields

/-- The property that stands for all names that are not listed. -/
def indexSignature : String := "[k: string]"

def requiredNames (fragment : Json) : List String :=
  ((fragment.itemsField? "required").getD []).filterMap Json.text?

/-- Without properties of its own an object is null if it has a default, or unconstrained. -/
def buildInterface (resolve : Resolver) (fragment : Json) : Build NodeId := do
  let fields := (fragment.fieldsField? "properties").getD []
  let properties ← resolveProperties resolve (requiredNames fragment) fields
  match fragment.get? "additionalProperties" with
  | some (.object additional) =>
    let type ← resolve (.object additional) .inner
    allocate (.interface (properties ++ [⟨indexSignature, true, type⟩]))
  | none =>
    if properties.isEmpty then
      if (fragment.get? "default").isSome then allocate (.primitive .null) else allocate .any
    else
      let type ← allocate .any
      allocate (.interface (properties ++ [⟨indexSignature, true, type⟩]))
  | some (.bool true) =>
    if properties.isEmpty then allocate .any
    else
      let type ← allocate .any
      allocate (.interface (properties ++ [⟨indexSignature, true, type⟩]))
  | some _ => allocate (.interface properties)

def buildReference (context : Context) (resolve : Resolver) (fragment : Json)
    (property : Option String) : Build NodeId :=
  match fragment.textField? "$ref" with
  | some reference => follow context resolve reference property
  | none => allocate .any

def buildNode (context : Context) (resolve : Resolver) (fragment : Json)
    (property : Option String) : Build NodeId := do
  match Rule.classify fragment with
  | .any => allocate .any
  | .typedArray => buildArray resolve (fragment.get? "items")
  | .namedEnum => buildNamedEnum fragment property
  | .enum => buildEnum fragment
  | .namedSchema => buildInterface resolve fragment
  | .allOf => allocate (.intersection (← resolveMembers resolve fragment "allOf"))
  | .anyOf => allocate (.union (← resolveMembers resolve fragment "anyOf"))
  | .reference => buildReference context resolve fragment property
  | .array => buildArray resolve none
  | .boolean => allocate (.primitive .boolean)
  | .number => allocate (.primitive .number)
  | .null => allocate (.primitive .null)
  | .object => allocate (.primitive .object)
  | .string => allocate (.primitive .string)
  | .union => buildTypeUnion resolve (((Rule.schemaType? fragment).bind Json.items?).getD [])
  | .numberLiteral => allocate (.primitive .number)
  | .literal => allocate (.literal fragment)
  | .anonymousSchema => buildInterface resolve fragment

/-- A node without a name takes the name of its fragment, which is declared under that name. -/
def adoptName (fragment : Json) (site : Site) (node : NodeId) (progress : Progress) : Progress :=
  if (progress.node node).id.isNone then
    match fragment.declaredName? with
    | none => progress
    | some name =>
      if site.isDocument then progress.setId node (some name)
      else progress.declare .name name node name
  else progress

def adoptDescription (fragment : Json) (node : NodeId) (progress : Progress) : Progress :=
  if (progress.node node).description.isNone then
    progress.setDescription node (fragment.textField? "description")
  else progress

/-- Resolves a fragment whose parts are resolved by the given resolver. -/
def resolveBy (context : Context) (resolve : Resolver) : Resolver := fun fragment site => do
  let frame := (← get).frame
  noting (.visited frame fragment) do
    let node ← buildNode context resolve fragment site.property
    modify (adoptName fragment site node)
    modify (adoptDescription fragment node)
    return node

/-- The budget bounds how deeply fragments are nested by descent and by references. -/
def resolveFragment (context : Context) : Nat → Resolver
  | 0 => fun _ _ => throw .exhausted
  | budget + 1 => resolveBy context (resolveFragment context budget)

end SchemaTypes.Build
