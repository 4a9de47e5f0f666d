/-
This file shows that the root of a compilation is written. A root that is a named enum was made in
the beginning, when there was nothing that it could be taken from, so it is stored with the enums.
Main statement: the root is written exactly once, under the id of the document.
-/
import SchemaTypes.Proofs.Build.Anatomy
import SchemaTypes.Proofs.Declarations.Emission

namespace SchemaTypes

open Build

/-- Nothing was declared yet, and no file was read. -/
structure Progress.Fresh (progress : Progress) : Prop where
  declarations : progress.declarations = .empty
  files : progress.files = []

/-- A compilation begins with nothing declared and nothing read. -/
theorem Progress.Fresh.start (frame : Frame) : (Progress.start frame).Fresh := ⟨rfl, rfl⟩

/-- A node that is a named enum is stored with the enums. -/
def Progress.Stores (progress : Progress) (node : NodeId) : Prop :=
  (progress.node node).shape.isNamedEnum = true → node ∈ progress.declarations.enums.values

/-- The node of the fragment that is resolved before all others. -/
def storesFirst : Effect := fun _ _ before outcome after =>
  ∀ node, outcome = .ok node → before.Fresh → after.Stores node

namespace Build

variable {context : Context} {fragment : Json} {property : Option String} {node : NodeId}
  {before after : Progress}

/-- A named enum stays stored when nodes are named and declared. -/
theorem Retouched.stores (retouched : Retouched before after) (stores : before.Stores node) :
    after.Stores node := by
  unfold Progress.Stores
  rw [retouched.shape, retouched.enums]
  exact stores

/-- There is nothing to store for a new node that is no named enum. -/
theorem stores_add {shape : Shape} (noEnum : shape.isNamedEnum = false) :
    (before.add shape).Stores before.model.size := by
  intro isEnum
  simp [Progress.add, Progress.node, noEnum] at isEnum

/-- The node of a file is no named enum: it is a reference, or its type is simple. -/
theorem finishFile_stores {settings : Settings} {path : Path} {loaded : NodeId}
    (finished : finishFile settings path node before = .ok loaded after) : after.Stores loaded := by
  obtain ⟨middle, retouched, ⟨rfl, simple, rfl⟩ | ⟨rfl, name, rfl⟩⟩ := finishFile_cases finished
  · intro isEnum
    change (middle.node loaded).shape.isNamedEnum = true at isEnum
    rw [retouched.shape] at isEnum
    unfold Node.isSimple at simple
    split at simple <;> simp_all [Shape.isNamedEnum]
  · exact stores_add rfl

/-- There is nothing to take a node from: what is not made here is made of the target of a pointer,
before anything else, or it comes from a file, which is no named enum. -/
theorem built_stores
    (built : Built context storesFirst fragment property before (.ok node) after)
    (fresh : before.Fresh) : after.Stores node := by
  cases built with
  | made own parts shape noEnum noReference => exact stores_add noEnum
  | enumStored outlined =>
      intro _
      exact Table.mem_values_of_get? ((Table.get?_put ..).trans (if_pos rfl))
  | documentReferred refers => exact stores_add rfl
  | pointerStored refers stored =>
      rw [fresh.declarations] at stored
      cases stored
  | pointerReferred refers missing awaited => exact stores_add rfl
  | pointerLost refers nowhere => exact stores_add rfl
  | @pointerFinished pointer target node last refers missing awaited found resolved =>
      have stores := resolved node rfl ⟨fresh.declarations, fresh.files⟩
      exact (finishPointer_retouched ..).stores stores
  | fileStored refers here stored =>
      rw [fresh.files] at stored
      cases stored
  | fileReferred refers here missing frame opened key => exact stores_add rfl
  | fileFinished refers here missing unopened served resolved finished =>
      have stores := finishFile_stores finished
      exact stores

/-- A fragment that is resolved before all others is stored if it is a named enum. -/
theorem resolveFragment_stores (context : Context) (budget : Nat) :
    Obeys storesFirst (resolveFragment context budget) := by
  refine resolveFragment_obeys (fun _ _ _ _ impossible => by cases impossible) ?_ budget
  intro fragment site before outcome after resolved node same fresh
  subst same
  cases resolved with
  | completed built => exact (adopted_retouched ..).stores (built_stores built fresh)

end Build

namespace Compilation

variable {context : Context} {document : Json} {sourcePath : Option Path}
  {compilation : Compilation}

/-- A root that is a named enum in the end was one before the references got their names. -/
theorem root_stores (built : build context document sourcePath = .ok compilation) :
    compilation.progress.Stores compilation.root := by
  obtain ⟨last, resolved, -, ended, bound⟩ := exists_last built
  have stores : last.Stores compilation.root :=
    resolveFragment_stores context _ _ _ _ _ _ resolved _ rfl (.start _)
  intro isEnum
  rw [bound, ended] at isEnum ⊢
  have known : compilation.root < (last.declare .name compilation.id compilation.root
      compilation.id).model.size := by
    rw [← @bindReferences_size _ (rootFrame document sourcePath).ownKey compilation.root]
    refine Model.lt_size_of_shape fun plain => ?_
    rw [Progress.node, plain] at isEnum
    cases isEnum
  rcases bindReferences_shape known with ⟨key, name, -, -, shape⟩ | ⟨-, shape⟩
  · rw [shape] at isEnum
    cases isEnum
  · rw [shape] at isEnum
    exact stores ((congrArg Shape.isNamedEnum (Model.shape_setId ..)).symm.trans isEnum)

/-- Nothing is declared behind the root, which takes over the top-level id. -/
theorem root_declared (built : build context document sourcePath = .ok compilation) :
    compilation.declarations.get? (topLevelId document sourcePath) = some compilation.root ∧
      (compilation.model.node compilation.root).id = some (topLevelId document sourcePath) := by
  obtain ⟨last, passage, known, same⟩ := exists_run built
  obtain ⟨-, -, id, -⟩ := exists_last built
  rw [declarations, model, same, ← id]
  constructor
  · exact (Table.get?_put ..).trans (if_pos rfl)
  · refine (bindReferences_id compilation.root).trans ?_
    exact (Model.id_setId ..).trans (if_pos ⟨rfl, known⟩)

/-- The root is written. -/
theorem mem_emissionOrder_root (built : build context document sourcePath = .ok compilation) :
    compilation.root ∈ compilation.emissionOrder := by
  refine Declarations.mem_firsts.mpr (List.mem_append.mpr ?_)
  cases kind : (compilation.model.node compilation.root).shape.isNamedEnum with
  | true => exact .inl (root_stores built kind)
  | false =>
      refine .inr (List.mem_filter.mpr ⟨?_, by simp [kind]⟩)
      exact Table.mem_values_of_get? (root_declared built).1

/-- The words that stand before the name of a declaration. -/
def header (settings : Settings) : TypeScript.Definition → String
  | .enum _ => "export " ++ TypeScript.Declaration.enumKeyword settings ++ " "
  | .interface _ => "export interface "
  | .alias _ => "export type "

/-- A definition is written as its header, the name, and the rest. -/
theorem exists_rest (settings : Settings) (name : String) (definition : TypeScript.Definition) :
    ∃ rest, TypeScript.Declaration.definitionText settings name definition =
      header settings definition ++ (name ++ rest) := by
  rcases definition with members | type | type
  · let body := Text.indentation ++
      String.intercalate (",\n" ++ Text.indentation) (members.map TypeScript.memberText)
    refine ⟨" \x7b\n" ++ (body ++ "\n\x7d"), ?_⟩
    change "export " ++ TypeScript.Declaration.enumKeyword settings ++ " " ++ name ++
      " \x7b\n" ++ Text.indentation ++ String.intercalate (",\n" ++ Text.indentation)
        (members.map TypeScript.memberText) ++ "\n\x7d" = _
    simp only [header, body, String.append_assoc]
  · refine ⟨" " ++ type.text settings.endPropertyWithSemicolon, ?_⟩
    change "export interface " ++ name ++ " " ++ type.text settings.endPropertyWithSemicolon = _
    simp only [header, String.append_assoc]
  · refine ⟨" = " ++ (type.text settings.endPropertyWithSemicolon ++
      if settings.endTypeWithSemicolon then ";" else ""), ?_⟩
    change "export type " ++ name ++ " = " ++ type.text settings.endPropertyWithSemicolon ++
      (if settings.endTypeWithSemicolon then ";" else "") = _
    simp only [header, String.append_assoc]

/-- The root is written once, and its header names it by the title, the id or the file of its
document, whatever other names and keys it had before. -/
theorem root_emitted_once (built : build context document sourcePath = .ok compilation) :
    let id := (((document.textField? "title").or (document.textField? "id")).or
      (sourcePath.bind Path.stem?)).getD "Interface1"
    let declaration := compilation.model.declaration compilation.root
    compilation.emissionOrder.count compilation.root = 1 ∧
      declaration.name = Identifier.ofName id ∧
      ∃ rest, declaration.text compilation.settings =
        TypeScript.blockComment declaration.description ++
          (header compilation.settings declaration.definition ++
            (Identifier.ofName id ++ rest)) := by
  intro id declaration
  have name : declaration.name = Identifier.ofName id := by
    change compilation.model.declaredName compilation.root = _
    rw [Model.declaredName, (root_declared built).2]
    rfl
  refine ⟨?_, name, ?_⟩
  · have distinct : compilation.emissionOrder.Nodup := Declarations.nodup_firsts _
    rw [distinct.count, if_pos (mem_emissionOrder_root built)]
  · obtain ⟨rest, text⟩ := exists_rest compilation.settings declaration.name declaration.definition
    refine ⟨rest, ?_⟩
    rw [TypeScript.Declaration.text, text, name]

/-- A reference to a reference to a named enum. -/
def chainedEnum : Json :=
  .object [
    ("$ref", .string "#/definitions/shade"),
    ("definitions", .object [
      ("shade", .object [("$ref", .string "#/definitions/color")]),
      ("color", .object [
        ("enum", .array [.string "r", .string "g"]),
        ("tsEnumNames", .array [.string "Red", .string "Green"])])])]

def palettePath : Path := ⟨false, [.child "palette.json"]⟩

/-- A root that two references lead to is written once, under the name of its document. -/
theorem root_emitted_once_chainedEnum :
    ∃ compilation, build ⟨{}, .ofFiles []⟩ chainedEnum (some palettePath) = .ok compilation ∧
      (compilation.model.node compilation.root).shape.isNamedEnum = true ∧
      compilation.emissionOrder.count compilation.root = 1 ∧
      (compilation.model.declaration compilation.root).name = "Palette" := by
  obtain ⟨compilation, built, isEnum⟩ := exists_ok
    (show (build ⟨{}, .ofFiles []⟩ chainedEnum (some palettePath)).toOption.any
      (fun compilation => (compilation.model.node compilation.root).shape.isNamedEnum) = true by
        decide +kernel)
  have emitted := root_emitted_once built
  have name : Identifier.ofName ((((chainedEnum.textField? "title").or
      (chainedEnum.textField? "id")).or ((some palettePath).bind Path.stem?)).getD "Interface1") =
        "Palette" := by
    decide +kernel
  exact ⟨compilation, built, isEnum, emitted.1, emitted.2.1.trans name⟩

end Compilation
end SchemaTypes
