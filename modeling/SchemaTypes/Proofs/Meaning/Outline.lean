/-
This file says what the fragments of a schema mean, whatever of it is declared and whatever is
inlined. A fragment has a head and parts, or it refers to another fragment and means the same.
-/
import SchemaTypes.Compilation.Fragment

namespace SchemaTypes

open Build

/-- What stands at the top of a type. -/
inductive Head where
  | any
  | primitive (kind : Primitive)
  | literal (value : Json)
  | array
  | union
  | intersection
  | enum (members : List EnumMember)
  /-- The properties by name, each with whether it is required. -/
  | interface (properties : List (String × Bool))
deriving DecidableEq, Repr

/-- A part is a type without parts of its own, or what another fragment means. -/
inductive Part where
  | leaf (head : Head)
  | fragment (value : Json)
deriving DecidableEq, Repr

structure Outline where
  head : Head
  parts : List Part
deriving DecidableEq, Repr

def Outline.leaf (head : Head) : Outline := ⟨head, []⟩

def Outline.interface (properties : List ((String × Bool) × Part)) : Outline :=
  ⟨.interface (properties.map Prod.fst), properties.map Prod.snd⟩

namespace Json

def enumOutline? (fragment : Json) : Option Outline :=
  match fragment.itemsField? "enum", fragment.itemsField? "tsEnumNames" with
  | some values, some names =>
    if names.length = values.length then
      (enumMembers? names values).map fun members => .leaf (.enum members)
    else none
  | _, _ => none

/-- The properties of an interface, without the one that stands for all other names. -/
def listedParts (fragment : Json) : List ((String × Bool) × Part) :=
  ((fragment.fieldsField? "properties").getD []).map fun (name, part) =>
    ((name, decide (name ∈ requiredNames fragment)), .fragment part)

def interfaceOutline (fragment : Json) : Outline :=
  let indexed (part : Part) : Outline :=
    .interface (fragment.listedParts ++ [((indexSignature, true), part)])
  match fragment.get? "additionalProperties" with
  | some (.object additional) => indexed (.fragment (.object additional))
  | none =>
    if fragment.listedParts.isEmpty then
      .leaf (if (fragment.get? "default").isSome then .primitive .null else .any)
    else indexed (.leaf .any)
  | some (.bool true) =>
    if fragment.listedParts.isEmpty then .leaf .any else indexed (.leaf .any)
  | some _ => .interface fragment.listedParts

def memberParts (fragment : Json) (keyword : String) : List Part :=
  ((fragment.itemsField? keyword).getD []).map .fragment

/-- What a fragment says of its own. A reference says nothing, and neither does a faulty enum. -/
def outline? (fragment : Json) : Option Outline :=
  match Rule.classify fragment with
  | .any => some (.leaf .any)
  | .typedArray => some ⟨.array, [(fragment.get? "items").elim (.leaf .any) .fragment]⟩
  | .namedEnum => fragment.enumOutline?
  | .enum =>
    (fragment.itemsField? "enum").map fun values => ⟨.union, values.map (.leaf <| .literal ·)⟩
  | .namedSchema => some fragment.interfaceOutline
  | .allOf => some ⟨.intersection, fragment.memberParts "allOf"⟩
  | .anyOf => some ⟨.union, fragment.memberParts "anyOf"⟩
  | .reference => none
  | .array => some ⟨.array, [.leaf .any]⟩
  | .boolean => some (.leaf (.primitive .boolean))
  | .number => some (.leaf (.primitive .number))
  | .null => some (.leaf (.primitive .null))
  | .object => some (.leaf (.primitive .object))
  | .string => some (.leaf (.primitive .string))
  | .union =>
    some ⟨.union, (((Rule.schemaType? fragment).bind Json.items?).getD []).map fun type =>
      .fragment (.object [("type", type)])⟩
  | .numberLiteral => some (.leaf (.primitive .number))
  | .literal => some (.leaf (.literal fragment))
  | .anonymousSchema => some fragment.interfaceOutline

/-- What a reference asks for. -/
def target? (fragment : Json) : Option Target :=
  if Rule.classify fragment = .reference then
    (fragment.textField? "$ref").map Target.ofReference
  else none

end Json

/-- The path of a file that is referred to from a document. -/
def Frame.filePath (frame : Frame) (reference : String) : Path :=
  (frame.directory.join (Path.ofString reference)).normalize

def Loader.Serves (loader : Loader) (path : Path) (document : Json) : Prop :=
  ∃ text, loader.read path = .ok text ∧ Json.parse text = .ok document

variable {loader : Loader} {root frame : Frame} {fragment : Json}

/-- Where the reference of a fragment leads: to the document that it stands in, into this document,
or to a file. The path of the root stands for the root whatever the loader serves there. -/
inductive Follows (loader : Loader) (root frame : Frame) (fragment : Json) :
    Frame → Json → Prop where
  | document (refers : fragment.target? = some .document) :
      Follows loader root frame fragment frame frame.document
  | pointer {pointer : String} {target : Json}
      (refers : fragment.target? = some (.pointer pointer))
      (leads : Pointer.lookup? frame.document (Pointer.segments pointer) = some target) :
      Follows loader root frame fragment frame target
  | root {file : String} (refers : fragment.target? = some (.file file))
      (own : root.key = some (frame.filePath file).text) :
      Follows loader root frame fragment root root.document
  | file {file : String} {document : Json} (refers : fragment.target? = some (.file file))
      (other : root.key ≠ some (frame.filePath file).text)
      (served : loader.Serves (frame.filePath file) document) :
      Follows loader root frame fragment (fileFrame (frame.filePath file) document) document

/-- The reference of a fragment leads nowhere in its document, or it is no text. -/
inductive Lost (frame : Frame) (fragment : Json) : Prop where
  | pointer {pointer : String} (refers : fragment.target? = some (.pointer pointer))
      (nowhere : Pointer.lookup? frame.document (Pointer.segments pointer) = none)
  | noText (reference : Rule.classify fragment = .reference) (none : fragment.target? = none)

/-- The fragment is null, or it refers to such a fragment. -/
inductive Null (loader : Loader) (root : Frame) : Frame → Json → Prop where
  | own {frame : Frame} {fragment : Json}
      (null : fragment.outline? = some (.leaf (.primitive .null))) : Null loader root frame fragment
  | follow {frame next : Frame} {fragment target : Json}
      (follows : Follows loader root frame fragment next target)
      (null : Null loader root next target) : Null loader root frame fragment

def Part.IsNull (loader : Loader) (root frame : Frame) : Part → Prop
  | .leaf head => head = .primitive .null
  | .fragment value => Null loader root frame value

open Classical in
/-- The parts that count: an intersection does without its members that are null. -/
noncomputable def Outline.kept (loader : Loader) (root frame : Frame) (outline : Outline) :
    List Part :=
  if outline.head = .intersection then
    outline.parts.filter fun part => decide ¬part.IsNull loader root frame
  else outline.parts

/-- What stands at a place in a type, and how many parts it has. -/
structure Top where
  head : Head
  count : Nat
deriving DecidableEq, Repr

/-- What a part of a schema means at a place, which is reached by the numbers of the parts that lead
to it. A circle of references that leads to no head means nothing. -/
inductive Means (loader : Loader) (root : Frame) : Frame → Part → List Nat → Top → Prop where
  | leaf {frame : Frame} {head : Head} : Means loader root frame (.leaf head) [] ⟨head, 0⟩
  | lost {frame : Frame} {fragment : Json} (lost : Lost frame fragment) :
      Means loader root frame (.fragment fragment) [] ⟨.any, 0⟩
  | follow {frame next : Frame} {fragment target : Json} {place : List Nat} {top : Top}
      (follows : Follows loader root frame fragment next target)
      (means : Means loader root next (.fragment target) place top) :
      Means loader root frame (.fragment fragment) place top
  | head {frame : Frame} {fragment : Json} {outline : Outline}
      (outlined : fragment.outline? = some outline) :
      Means loader root frame (.fragment fragment) []
        ⟨outline.head, (outline.kept loader root frame).length⟩
  | part {frame : Frame} {fragment : Json} {outline : Outline} {number : Nat} {part : Part}
      {place : List Nat} {top : Top} (outlined : fragment.outline? = some outline)
      (inside : (outline.kept loader root frame)[number]? = some part)
      (means : Means loader root frame part place top) :
      Means loader root frame (.fragment fragment) (number :: place) top

namespace Json

/-- A reference says nothing of its own. -/
theorem outline?_eq_none (reference : Rule.classify fragment = .reference) :
    fragment.outline? = none := by
  simp [outline?, reference]

/-- What asks for a target is read as a reference. -/
theorem classify_of_target? {target : Target} (refers : fragment.target? = some target) :
    Rule.classify fragment = .reference := by
  unfold target? at refers
  split at refers
  · assumption
  · cases refers

/-- What says something of its own asks for no target. -/
theorem target?_eq_none {outline : Outline} (outlined : fragment.outline? = some outline) :
    fragment.target? = none := by
  cases target : fragment.target? with
  | none => rfl
  | some asked =>
      rw [outline?_eq_none (classify_of_target? target)] at outlined
      cases outlined

/-- A listed property is a part of its interface. -/
theorem mem_interfaceOutline {entry : (String × Bool) × Part}
    (listed : entry ∈ fragment.listedParts) : entry.2 ∈ fragment.interfaceOutline.parts := by
  have nonempty : fragment.listedParts.isEmpty = false := by
    cases parts : fragment.listedParts with
    | nil => simp [parts] at listed
    | cons first rest => rfl
  have first (more : List ((String × Bool) × Part)) :
      entry.2 ∈ (Outline.interface (fragment.listedParts ++ more)).parts :=
    List.mem_map_of_mem (List.mem_append_left _ listed)
  have only : entry.2 ∈ (Outline.interface fragment.listedParts).parts :=
    List.mem_map_of_mem listed
  unfold interfaceOutline
  rw [nonempty]
  dsimp only
  split
  · exact first _
  · exact first _
  · exact first _
  · exact only

end Json

/-- A path has one document at most. -/
theorem Loader.Serves.unique {path : Path} {first second : Json} (serves : loader.Serves path first)
    (servesToo : loader.Serves path second) : first = second := by
  obtain ⟨text, read, parsed⟩ := serves
  obtain ⟨other, readToo, parsedToo⟩ := servesToo
  obtain rfl := Except.ok.inj (read.symm.trans readToo)
  exact Except.ok.inj (parsed.symm.trans parsedToo)

namespace Follows

variable {next other : Frame} {target content : Json}

theorem refers (follows : Follows loader root frame fragment next target) :
    ∃ asked, fragment.target? = some asked := by
  cases follows with
  | document refers => exact ⟨_, refers⟩
  | pointer refers => exact ⟨_, refers⟩
  | root refers => exact ⟨_, refers⟩
  | file refers => exact ⟨_, refers⟩

theorem reference (follows : Follows loader root frame fragment next target) :
    Rule.classify fragment = .reference := by
  obtain ⟨_, refers⟩ := follows.refers
  exact Json.classify_of_target? refers

/-- A reference to the document leads to all of it. -/
theorem of_document (follows : Follows loader root frame fragment next target)
    (refers : fragment.target? = some .document) : next = frame ∧ target = frame.document := by
  cases follows with
  | document => exact ⟨rfl, rfl⟩
  | pointer other => cases refers.symm.trans other
  | root other => cases refers.symm.trans other
  | file other => cases refers.symm.trans other

/-- A pointer leads into the document that it stands in. -/
theorem of_pointer (follows : Follows loader root frame fragment next target) {pointer : String}
    (refers : fragment.target? = some (.pointer pointer)) :
    next = frame ∧ Pointer.lookup? frame.document (Pointer.segments pointer) = some target := by
  cases follows with
  | pointer other leads =>
      cases refers.symm.trans other
      exact ⟨rfl, leads⟩
  | document other => cases refers.symm.trans other
  | root other => cases refers.symm.trans other
  | file other => cases refers.symm.trans other

/-- A file is the root if it has its path, and what the loader serves otherwise. -/
theorem of_file (follows : Follows loader root frame fragment next target) {file : String}
    (refers : fragment.target? = some (.file file)) :
    root.key = some (frame.filePath file).text ∧ next = root ∧ target = root.document ∨
      root.key ≠ some (frame.filePath file).text ∧
        next = fileFrame (frame.filePath file) target ∧
          loader.Serves (frame.filePath file) target := by
  cases follows with
  | root other own =>
      cases refers.symm.trans other
      exact .inl ⟨own, rfl, rfl⟩
  | file other differs served =>
      cases refers.symm.trans other
      exact .inr ⟨differs, rfl, served⟩
  | document other => cases refers.symm.trans other
  | pointer other => cases refers.symm.trans other

/-- A reference leads to one place only. -/
theorem unique (follows : Follows loader root frame fragment next target)
    (followsToo : Follows loader root frame fragment other content) :
    next = other ∧ target = content := by
  cases follows with
  | document refers =>
      obtain ⟨rfl, rfl⟩ := followsToo.of_document refers
      exact ⟨rfl, rfl⟩
  | pointer refers leads =>
      obtain ⟨rfl, leadsToo⟩ := followsToo.of_pointer refers
      exact ⟨rfl, Option.some.inj (leads.symm.trans leadsToo)⟩
  | root refers own =>
      rcases followsToo.of_file refers with ⟨-, rfl, rfl⟩ | ⟨differs, -⟩
      · exact ⟨rfl, rfl⟩
      · exact absurd own differs
  | file refers differs served =>
      rcases followsToo.of_file refers with ⟨own, -⟩ | ⟨-, rfl, servedToo⟩
      · exact absurd own differs
      · obtain rfl := served.unique servedToo
        exact ⟨rfl, rfl⟩

/-- What leads somewhere does not lead nowhere. -/
theorem not_lost (follows : Follows loader root frame fragment next target) :
    ¬Lost frame fragment := by
  intro lost
  cases lost with
  | pointer refers nowhere => cases nowhere.symm.trans (follows.of_pointer refers).2
  | noText _ none =>
      obtain ⟨_, refers⟩ := follows.refers
      cases none.symm.trans refers

end Follows

theorem Lost.reference (lost : Lost frame fragment) : Rule.classify fragment = .reference := by
  cases lost with
  | pointer refers => exact Json.classify_of_target? refers
  | noText reference => exact reference

end SchemaTypes
