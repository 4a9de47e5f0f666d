/-
This file says what the description of a fragment has an influence on. Main statement: with another
description a document compiles as well, and both outputs differ at most in the comments of the
nodes that the fragment was resolved to. Such a node may be shared with other fragments.
-/
import SchemaTypes.Proofs.Build.Anatomy
import SchemaTypes.Proofs.Remarks.Resolved
import SchemaTypes.Proofs.Termination.Exhaustion

namespace SchemaTypes

open Build Json

namespace Model

variable {first second : Model}

theorem node_eq {first second : Node} (shape : second.shape = first.shape)
    (id : second.id = first.id) (description : second.description = first.description) :
    second = first := by
  cases first
  cases second
  simp_all

/-- The model without the descriptions of some nodes. -/
def mute (model : Model) (nodes : List NodeId) : Model :=
  nodes.foldl (fun model node => model.setDescription node none) model

theorem node_of_size_le {model : Model} {id : NodeId} (beyond : model.size ≤ id) :
    model.node id = ⟨.any, none, none⟩ := by
  simp [node, Array.getElem?_eq_none beyond]

theorem size_mute (model : Model) (nodes : List NodeId) : (model.mute nodes).size = model.size := by
  induction nodes generalizing model with
  | nil => rfl
  | cons node nodes inductionHypothesis =>
      exact (inductionHypothesis _).trans (size_setDescription ..)

/-- Muted nodes lose their descriptions and keep everything else. -/
theorem node_mute (model : Model) (nodes : List NodeId) (id : NodeId) :
    (model.mute nodes).node id =
      if id ∈ nodes then { model.node id with description := none } else model.node id := by
  induction nodes generalizing model with
  | nil => rfl
  | cons node nodes inductionHypothesis =>
      have silent : (model.setDescription node none).node id =
          if id = node then { model.node id with description := none } else model.node id := by
        rw [setDescription, node_update]
        by_cases same : id = node
        · by_cases known : node < model.size
          · simp [same, known]
          · simp [same, known, node_of_size_le (Nat.le_of_not_lt known)]
        · simp [same]
      refine (inductionHypothesis _).trans ?_
      rw [silent]
      by_cases same : id = node
      · simp [same]
      · simp [same]

/-- Models of one size are the same if all their nodes are. -/
theorem eq_of_nodes (size : second.size = first.size)
    (nodes : ∀ id, second.node id = first.node id) : second = first := by
  obtain ⟨content⟩ := first
  obtain ⟨contentToo⟩ := second
  congr 1
  apply Array.ext size
  intro index known known'
  have same := nodes index
  simpa [node, known, known'] using same

/-- The order of the declarations does not depend on descriptions. -/
theorem emissionOrder_of_bare (declarations : Declarations) (same : second.bare = first.bare) :
    declarations.emissionOrder second = declarations.emissionOrder first := by
  unfold Declarations.emissionOrder
  simp only [fun node => (node_of_bare same node).1]

end Model

/-- Without the comments that differ nothing differs. -/
theorem Facing.exists_muted {old new : Json} {frames frames' : List Frame}
    {first second : Progress} (facing : Facing old new frames frames' first second) :
    ∃ nodes : List NodeId, second.model.mute nodes = first.model.mute nodes ∧
      ∀ node ∈ nodes, Described old new first second node := by
  let differs (node : NodeId) : Bool :=
    (second.model.node node).description ≠ (first.model.node node).description
  refine ⟨(List.range first.model.size).filter differs, ?_, ?_⟩
  · apply Model.eq_of_nodes
    · rw [Model.size_mute, Model.size_mute, facing.size]
    · intro id
      obtain ⟨shape, name⟩ := Model.node_of_bare facing.model id
      rw [Model.node_mute, Model.node_mute]
      split
      · exact Model.node_eq shape name rfl
      · next absent =>
        have description : (second.model.node id).description =
            (first.model.node id).description := by
          by_cases known : id < first.model.size
          · simpa [known, differs] using absent
          · rw [Model.node_of_size_le (Nat.le_of_not_lt known),
              Model.node_of_size_le (facing.size ▸ Nat.le_of_not_lt known)]
        exact Model.node_eq shape name description
  · intro node member
    have different : (second.model.node node).description ≠
        (first.model.node node).description := by
      simpa [differs] using (List.mem_filter.mp member).2
    exact (facing.described node).resolve_left different

namespace Compilation

variable {old new document document' : Json} {frames frames' : List Frame}
  {settings : Settings} {loader loader' : Loader} {sourcePath : Option Path}
  {first second : Progress}

/-- Root documents with another description are in frames that are alike. -/
theorem rootFrame_alike (redescribed : Redescribed old new)
    (replaced : Replaced old new document document') (sourcePath : Option Path) :
    (rootFrame document sourcePath).Alike old new (rootFrame document' sourcePath) :=
  ⟨replaced, rfl, rfl, by
    rw [rootFrame, rootFrame, topLevelId, topLevelId, replaced.declaredName? redescribed]⟩

/-- Two compilations face each other from the start. -/
theorem start_facing {frame frame' : Frame} (alike : frame.Alike old new frame') :
    Facing old new [frame] [frame'] (Progress.start frame) (Progress.start frame') :=
  ⟨rfl, rfl, .cons alike .nil, rfl, rfl, rfl, rfl, rfl, rfl, rfl, fun _ => .inl rfl⟩

/-- Binding references leaves all descriptions alone. -/
theorem bindReferences_description {progress : Progress} {rootKey : String} {root : NodeId}
    (node : NodeId) :
    ((bindReferences rootKey root progress).node node).description =
      (progress.node node).description := by
  have fold (entries : List (String × NodeId)) (model : Model) :
      ((entries.foldl (bindReference progress rootKey root) model).node node).description =
        (model.node node).description := by
    induction entries generalizing model with
    | nil => rfl
    | cons entry rest inductionHypothesis =>
        refine (inductionHypothesis _).trans ?_
        unfold bindReference
        split
        · exact Model.description_setShape ..
        · rfl
  exact fold progress.forward progress.model

/-- References get the same names in both models. -/
theorem bindReferences_facing (facing : Facing old new frames frames' first second)
    (rootKey : String) (root : NodeId) :
    Facing old new frames frames' (bindReferences rootKey root first)
      (bindReferences rootKey root second) := by
  have bound (key : String) :
      boundName? second rootKey root key = boundName? first rootKey root key := by
    unfold boundName?
    rw [facing.declarations]
    simp only [facing.id]
  have fold (entries : List (String × NodeId)) {model model' : Model}
      (same : model'.bare = model.bare) :
      (entries.foldl (bindReference second rootKey root) model').bare =
        (entries.foldl (bindReference first rootKey root) model).bare := by
    induction entries generalizing model model' with
    | nil => exact same
    | cons entry rest inductionHypothesis =>
        refine inductionHypothesis ?_
        unfold bindReference
        rw [bound]
        split
        · rw [Model.bare_setShape, Model.bare_setShape, same]
        · exact same
  refine facing.keep rfl rfl rfl rfl bindReferences_description bindReferences_description ?_
    facing.declarations facing.pending facing.forced facing.forward facing.files
  rw [bindReferences, bindReferences, facing.forward]
  exact fold first.forward facing.model

/-- If a document compiles, it compiles with another description as well. Both compilations take the
same steps and emit the same nodes in the same order. The nodes whose comments differ are nodes that
the fragment was resolved to, and in one of both outputs the comment is the description of this very
fragment. Written without these comments, both outputs are the same text. -/
theorem build_redescribed (redescribed : Redescribed old new)
    (replaced : Replaced old new document document')
    (serves : loader.ServesAlike old new loader')
    (only : DescribesOnly old new loader loader' (rootFrame document sourcePath)
      (rootFrame document' sourcePath))
    {first : Compilation} (built : build ⟨settings, loader⟩ document sourcePath = .ok first) :
    ∃ second, build ⟨settings, loader'⟩ document' sourcePath = .ok second ∧
      second.root = first.root ∧ second.id = first.id ∧
      second.declarations = first.declarations ∧ second.emissionOrder = first.emissionOrder ∧
      second.progress.journal.length = first.progress.journal.length ∧
      ∃ nodes : List NodeId, second.model.mute nodes = first.model.mute nodes ∧
        second.declarations.text (second.model.mute nodes) settings =
          first.declarations.text (first.model.mute nodes) settings ∧
        ∀ node ∈ nodes, Described old new first.progress second.progress node := by
  have alike := rootFrame_alike redescribed replaced sourcePath
  obtain ⟨last, resolved, id, ended, bound⟩ := exists_last built
  have name : (rootFrame document' sourcePath).name = first.id := alike.name.trans id.symm
  -- The budgets of both documents may differ, so both are resolved with the sum of them.
  have common := (root_agree ⟨settings, loader⟩ document sourcePath
    (budget loader' document')).same.symm.trans resolved
  obtain ⟨last', resolved', facing⟩ := resolveFragment_mirrored redescribed only serves _
    ⟨none, true⟩ .root replaced (start_facing alike) first.root last common
  rw [Nat.add_comm] at resolved'
  have own := (root_agree ⟨settings, loader'⟩ document' sourcePath
    (budget loader document)).same.trans resolved'
  have ran : run ⟨settings, loader'⟩ document' sourcePath =
      .ok first.root (last'.declare .name first.id first.root first.id) := by
    rw [← name]
    exact bind_eq_ok.mpr ⟨_, _, own, rfl⟩
  have built' : build ⟨settings, loader'⟩ document' sourcePath = .ok
      ⟨bindReferences (rootFrame document sourcePath).ownKey first.root
        (last'.declare .name first.id first.root first.id), settings, first.root, first.id⟩ := by
    simp only [build, ran, alike.ownKey, name]
  have finished : Facing old new [rootFrame document sourcePath] [rootFrame document' sourcePath]
      first.progress (bindReferences (rootFrame document sourcePath).ownKey first.root
        (last'.declare .name first.id first.root first.id)) := by
    rw [bound, ended]
    exact bindReferences_facing (facing.declare _ _ _ _ _) _ _
  obtain ⟨nodes, muted, described⟩ := finished.exists_muted
  refine ⟨_, built', rfl, rfl, finished.declarations, ?_, finished.events, nodes, muted, ?_,
    described⟩
  · change Declarations.emissionOrder _ _ = Declarations.emissionOrder _ _
    rw [declarations, finished.declarations]
    exact Model.emissionOrder_of_bare _ finished.model
  · have texts := congrArg (Declarations.text first.declarations · settings) muted
    exact (congrArg (Declarations.text · _ settings) finished.declarations).trans texts

/-- A reference that says what it is for, and one that does not. -/
def describedReference : Json :=
  .object [("$ref", .string "#/definitions/x"), ("description", .string "D")]

def plainReference : Json := .object [("$ref", .string "#/definitions/x")]

def stringTarget : Json := .object [("type", .string "string")]

/-- Two properties with one target. -/
def sharedTarget (first : Json) : Json :=
  .object [("properties", .object [("first", first), ("second", plainReference)]),
    ("definitions", .object [("x", stringTarget)])]

/-- The fragments that both schemas lead to. -/
def sharedPairs : List (Json × Json) :=
  [(sharedTarget describedReference, sharedTarget plainReference),
    (describedReference, plainReference), (plainReference, plainReference),
    (stringTarget, stringTarget)]

/-- What the compiler reads at these fragments: one pointer, the parts of the root, and neither a
literal nor an enum. -/
theorem read_sharedPairs : ∀ pair ∈ sharedPairs,
    (∀ asked ∈ pair.1.target?, asked = .pointer "definitions/x") ∧
    (∀ outline ∈ pair.1.outline?, ∀ outline' ∈ pair.2.outline?,
      ∀ parts ∈ outline.parts.zip outline'.parts, parts ∈ (.leaf .any, .leaf .any) ::
        sharedPairs.map fun pair => (.fragment pair.1, .fragment pair.2)) ∧
    Rule.classify pair.1 ≠ .literal ∧
    ¬(Rule.classify pair.1 = .enum ∨ Rule.classify pair.1 = .namedEnum) ∧
    ¬(pair.1.get? "properties" = some describedReference ∧
      pair.2.get? "properties" = some plainReference) := by
  decide +kernel

/-- The pointer leads to its target in both schemas. -/
theorem lookup?_sharedTarget : ∀ reference ∈ [describedReference, plainReference],
    Pointer.lookup? (sharedTarget reference) (Pointer.segments "definitions/x") =
      some stringTarget := by
  decide +kernel

/-- Both schemas lead to their own parts and to the shared target, and to nothing else. -/
theorem together_sharedTarget {frame frame' : Frame} {fragment fragment' : Json}
    (together : Together (.ofFiles []) (.ofFiles [])
      (rootFrame (sharedTarget describedReference) none)
      (rootFrame (sharedTarget plainReference) none) frame frame' fragment fragment') :
    frame = rootFrame (sharedTarget describedReference) none ∧
      frame' = rootFrame (sharedTarget plainReference) none ∧
      (fragment, fragment') ∈ sharedPairs := by
  induction together with
  | root => exact ⟨rfl, rfl, List.mem_cons_self⟩
  | part _ outlined outlined' inside inductionHypothesis =>
      obtain ⟨here, there, member⟩ := inductionHypothesis
      have listed := (read_sharedPairs _ member).2.1 _ outlined _ outlined' _ inside
      obtain ⟨pair, member, same⟩ := List.mem_map.mp ((List.mem_cons.mp listed).resolve_left nofun)
      cases same
      exact ⟨here, there, member⟩
  | pointer _ refers leads leads' inductionHypothesis =>
      obtain ⟨rfl, rfl, member⟩ := inductionHypothesis
      cases (read_sharedPairs _ member).1 _ refers
      cases (lookup?_sharedTarget describedReference (by simp)).symm.trans leads
      cases (lookup?_sharedTarget plainReference (by simp)).symm.trans leads'
      exact ⟨rfl, rfl, by simp [sharedPairs]⟩
  | file _ refers _ _ inductionHypothesis =>
      cases (read_sharedPairs _ inductionHypothesis.2.2).1 _ refers

/-- In the shared schema the description is read as a description only. -/
theorem describesOnly_sharedTarget :
    DescribesOnly describedReference plainReference (.ofFiles []) (.ofFiles [])
      (rootFrame (sharedTarget describedReference) none)
      (rootFrame (sharedTarget plainReference) none) where
  pointer together refers passes := by
    cases (read_sharedPairs _ (together_sharedTarget together).2.2).1 _ refers
    exact absurd passes.mem (by decide +kernel)
  literal together rule :=
    absurd rule (read_sharedPairs _ (together_sharedTarget together).2.2).2.2.1
  enum together rule :=
    absurd rule (read_sharedPairs _ (together_sharedTarget together).2.2).2.2.2.1
  properties together _ := (read_sharedPairs _ (together_sharedTarget together).2.2).2.2.2.2

theorem redescribed_references : Redescribed describedReference plainReference :=
  .intro (by simp)

theorem replaced_sharedTarget : Replaced describedReference plainReference
    (sharedTarget describedReference) (sharedTarget plainReference) :=
  @Replaced.field _ _ [] _ _ _ _ (@Replaced.field _ _ [] _ _ _ _ .here)

/-- Without the description of the reference the comment of their common target is gone, and nothing
else has changed. -/
theorem build_redescribed_sharedTarget :
    ∃ first second, build ⟨{}, .ofFiles []⟩ (sharedTarget describedReference) none = .ok first ∧
      build ⟨{}, .ofFiles []⟩ (sharedTarget plainReference) none = .ok second ∧
      second.emissionOrder = first.emissionOrder ∧ second.model ≠ first.model ∧
      ∃ nodes : List NodeId, second.model.mute nodes = first.model.mute nodes ∧
        ∀ node ∈ nodes, Described describedReference plainReference first.progress second.progress
          node := by
  obtain ⟨first, built, comment⟩ := exists_ok
    (show (build ⟨{}, .ofFiles []⟩ (sharedTarget describedReference) none).toOption.any
      (fun compilation => decide ((compilation.model.node 0).description = some "D")) = true by
        decide +kernel)
  obtain ⟨plain, builtPlain, silent⟩ := exists_ok
    (show (build ⟨{}, .ofFiles []⟩ (sharedTarget plainReference) none).toOption.any
      (fun compilation => decide ((compilation.model.node 0).description = none)) = true by
        decide +kernel)
  obtain ⟨second, built', -, -, -, order, -, nodes, muted, -, described⟩ :=
    build_redescribed redescribed_references replaced_sharedTarget (Loader.servesAlike_self _)
      describesOnly_sharedTarget built
  obtain rfl := Except.ok.inj (builtPlain.symm.trans built')
  refine ⟨first, plain, built, built', order, ?_, nodes, muted, described⟩
  intro same
  have none := of_decide_eq_true silent
  rw [same, of_decide_eq_true comment] at none
  cases none

/-- The description of one reference is the comment of the other property as well, although it is
read as a description only. -/
theorem sharedTarget_comments :
    DescribesOnly describedReference plainReference (.ofFiles []) (.ofFiles [])
      (rootFrame (sharedTarget describedReference) none)
      (rootFrame (sharedTarget plainReference) none) ∧
    compile ⟨{}, .ofFiles []⟩ (sharedTarget describedReference) none = .ok
      (String.intercalate "\n" ["export type X = string;", "export interface Interface1 \x7b",
        "  /**", "   * D", "   */", "  first?: X;", "  /**", "   * D", "   */", "  second?: X;",
        "  [k: string]: any;", "\x7d"]) ∧
    compile ⟨{}, .ofFiles []⟩ (sharedTarget plainReference) none = .ok
      (String.intercalate "\n" ["export type X = string;", "export interface Interface1 \x7b",
        "  first?: X;", "  second?: X;", "  [k: string]: any;", "\x7d"]) :=
  ⟨describesOnly_sharedTarget, by decide +kernel, by decide +kernel⟩

/-- Within a literal a description is no comment, it is written as a part of the value. -/
example :
    compile ⟨{}, .ofFiles []⟩ (.object [("properties", .object
      [("list", .object [("enum", .array [describedReference])]),
        ("first", .object [("$ref", .string "#/properties/list/enum/0")])]),
      ("definitions", .object [("x", stringTarget)])]) none = .ok
        (String.intercalate "\n" ["export type 0 = string;", "export interface Interface1 \x7b",
          "  list?: \x7b\"$ref\":\"#/definitions/x\",\"description\":\"D\"\x7d;",
          "  /**", "   * D", "   */", "  first?: 0;", "  [k: string]: any;", "\x7d"]) := by
  decide +kernel

/-- A reference that is read as the properties of an interface has a property for its
description. -/
example :
    compile ⟨{}, .ofFiles []⟩ (.object [("properties", describedReference),
      ("additionalProperties", .object [("$ref", .string "#/properties")]),
      ("definitions", .object [("x", stringTarget)])]) none = .ok
        (String.intercalate "\n" ["export type Properties = string;",
          "export interface Interface1 \x7b", "  $ref?: \"#/definitions/x\";",
          "  description?: \"D\";", "  /**", "   * D", "   */", "  [k: string]: Properties;",
          "\x7d"]) := by
  decide +kernel

end Compilation
end SchemaTypes
