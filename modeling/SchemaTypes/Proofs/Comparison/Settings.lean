/-
This file shows that settings that are about names or about printing have no influence on anything
else. Main statement: two compilations of one document whose settings agree on what is declared fail
for one reason, or their models differ at most in names.
-/
import SchemaTypes.Proofs.Comparison.Resolution

namespace SchemaTypes

open Build

namespace Compilation

variable {names : Prop} {context other : Context} {first second : Progress}

/-- References get their final names in both models or in none. -/
theorem bindReferences_twin (twin : Twin names first second) (rootKey : String) (root : NodeId) :
    Twin names (bindReferences rootKey root first) (bindReferences rootKey root second) := by
  have sound := bindReferences_sound twin.sound rootKey root
  obtain ⟨model, _, similar, exact⟩ := twin
  have bound (key : String) :
      (boundName? { first with model } rootKey root key).isSome =
        (boundName? first rootKey root key).isSome := by
    unfold boundName?
    dsimp only
    cases (if key = rootKey then some root else first.declarations.get? key) with
    | none => rfl
    | some node => exact (similar.nodes node).id
  have fold (entries : List (String × NodeId)) :
      ∀ {left right : Model}, left.Similar right →
        (entries.foldl (bindReference first rootKey root) left).Similar
          (entries.foldl (bindReference { first with model } rootKey root) right) := by
    induction entries with
    | nil => exact fun alike => alike
    | cons entry rest inductionHypothesis =>
        intro left right alike
        refine inductionHypothesis ?_
        have here := bound entry.1
        unfold bindReference
        cases ours : boundName? first rootKey root entry.1 <;>
          cases theirs : boundName? { first with model } rootKey root entry.1 <;>
          simp only [ours, theirs, Option.isSome_none, Option.isSome_some, Bool.true_eq_false,
            Bool.false_eq_true] at here
        · exact alike
        · exact alike.setShape entry.2 rfl
  refine .intro _ sound (fold first.forward similar) fun same => ?_
  rw [exact same]
  rfl

/-- Both compilations resolve the root and declare it, or they fail for one reason. -/
theorem run_match (agrees : context.Agrees names other) (document : Json)
    (sourcePath : Option Path) :
    (∃ error after last, run context document sourcePath = .error error after ∧
      run other document sourcePath = .error error last ∧ Twin names after last) ∨
    ∃ root after last, run context document sourcePath = .ok root after ∧
      run other document sourcePath = .ok root last ∧ Twin names after last := by
  have start : Twin names (Progress.start (rootFrame document sourcePath))
      (Progress.start (rootFrame document sourcePath)) := .refl (.start _)
  have matching := resolveFragment_matches agrees (budget context.loader document)
  have declares {root : NodeId} {middle last : Progress}
      (made : resolveFragment context (budget context.loader document) document ⟨none, true⟩
        (Progress.start (rootFrame document sourcePath)) = .ok root middle)
      (twin : Twin names middle last) :
      Twin names
        (middle.declare .name (rootFrame document sourcePath).name root
          (rootFrame document sourcePath).name)
        (last.declare .name (rootFrame document sourcePath).name root
          (rootFrame document sourcePath).name) := by
    refine twin.declare .name _ ?_ fun _ => rfl
    obtain ⟨last, -, known, rfl | ⟨title, rfl⟩⟩ :=
      resolveFragment_run start.sound.toScoped made
    · exact known
    · exact Nat.lt_of_lt_of_eq known (Model.size_setId ..).symm
  rw [run, run, agrees.loader]
  cases matching document ⟨none, true⟩ _ _ start with
  | error failed failedToo twin =>
      exact .inl ⟨_, _, _, bind_eq_error.mpr (.inl failed), bind_eq_error.mpr (.inl failedToo),
        twin⟩
  | ok done doneToo twin =>
      exact .inr ⟨_, _, _, bind_eq_ok.mpr ⟨_, _, done, rfl⟩, bind_eq_ok.mpr ⟨_, _, doneToo, rfl⟩,
        declares done twin⟩

/-- Names do not decide in which order nodes are written. -/
theorem emissionOrder_twin (twin : Twin names first second) :
    second.declarations.emissionOrder second.model =
      first.declarations.emissionOrder first.model := by
  obtain ⟨model, _, similar, _⟩ := twin
  simp only [Declarations.emissionOrder]
  refine congrArg (fun named => Declarations.firsts (first.declarations.enums.values ++ named)) ?_
  refine List.filter_congr fun node _ => ?_
  rw [(similar.nodes node).isNamedEnum_eq]

/-- Settings for names and for printing change neither the outcome nor anything in the model but
names, and without the setting for names not even these. -/
theorem build_similar (loader : Loader) {settings others : Settings}
    (declaring : others.declareReferenced = settings.declareReferenced) (document : Json)
    (sourcePath : Option Path) :
    (∃ error, build ⟨settings, loader⟩ document sourcePath = .error error ∧
      build ⟨others, loader⟩ document sourcePath = .error error) ∨
    ∃ left right, build ⟨settings, loader⟩ document sourcePath = .ok left ∧
      build ⟨others, loader⟩ document sourcePath = .ok right ∧
      left.model.Similar right.model ∧ right.declarations = left.declarations ∧
      right.root = left.root ∧ right.id = left.id ∧ right.emissionOrder = left.emissionOrder ∧
      (others.useFullReferencePathAsName = settings.useFullReferencePathAsName →
        right.model = left.model) := by
  have agrees : Context.Agrees
      (others.useFullReferencePathAsName = settings.useFullReferencePathAsName)
      ⟨settings, loader⟩ ⟨others, loader⟩ := ⟨rfl, declaring, fun same => same⟩
  rcases run_match agrees document sourcePath with
    ⟨error, after, last, failed, failedToo, -⟩ | ⟨root, after, last, done, doneToo, twin⟩
  · exact .inl ⟨error, by simp only [build, failed], by simp only [build, failedToo]⟩
  · have bound := bindReferences_twin twin (rootFrame document sourcePath).ownKey root
    have declarations : last.declarations = after.declarations := by
      cases twin
      rfl
    have built : build ⟨settings, loader⟩ document sourcePath = .ok
        ⟨bindReferences (rootFrame document sourcePath).ownKey root after, settings, root,
          (rootFrame document sourcePath).name⟩ := by
      simp only [build, done]
    have builtToo : build ⟨others, loader⟩ document sourcePath = .ok
        ⟨bindReferences (rootFrame document sourcePath).ownKey root last, others, root,
          (rootFrame document sourcePath).name⟩ := by
      simp only [build, doneToo]
    exact .inr ⟨_, _, built, builtToo, bound.similar, declarations, rfl, rfl,
      emissionOrder_twin bound, fun same => congrArg Progress.model (bound.eq same)⟩

/-- A pointer whose segments make another name than its last segment. -/
def namedPointer : Json :=
  .object [("properties", .object [("total", .object [("$ref", .string "#/definitions/money")])]),
    ("definitions", .object [("money", .object [("type", .string "number")])])]

/-- With the whole pointer as its name the target is called otherwise and nothing else changes. The
way in which enums are printed changes nothing at all. -/
theorem build_similar_namedPointer :
    ∃ left right printed, build ⟨{}, .ofFiles []⟩ namedPointer none = .ok left ∧
      build ⟨{ useFullReferencePathAsName := true }, .ofFiles []⟩ namedPointer none = .ok right ∧
      build ⟨{ useConstEnums := false }, .ofFiles []⟩ namedPointer none = .ok printed ∧
      left.model.Similar right.model ∧ right.declarations = left.declarations ∧
      right.emissionOrder = left.emissionOrder ∧ right.model ≠ left.model ∧
      printed.model = left.model := by
  obtain ⟨left, built, checked⟩ := exists_ok
    (show (build ⟨{}, .ofFiles []⟩ namedPointer none).toOption.any (fun compilation => decide
      ((compilation.model.node 0).id = some "money")) = true by decide +kernel)
  obtain ⟨right, builtToo, checkedToo⟩ := exists_ok
    (show (build ⟨{ useFullReferencePathAsName := true }, .ofFiles []⟩ namedPointer none
      ).toOption.any (fun compilation => decide
        ((compilation.model.node 0).id = some "definitions/money")) = true by decide +kernel)
  rcases @build_similar (.ofFiles []) {} { useFullReferencePathAsName := true } rfl namedPointer
    none with ⟨error, failed, -⟩ | ⟨_, _, done, doneToo, similar, declarations, -, -, order, -⟩
  · rw [built] at failed
    cases failed
  rcases @build_similar (.ofFiles []) {} { useConstEnums := false } rfl namedPointer none with
    ⟨error, failed, -⟩ | ⟨_, printed, first, doneThird, -, -, -, -, -, same⟩
  · rw [built] at failed
    cases failed
  obtain rfl := Except.ok.inj (built.symm.trans done)
  obtain rfl := Except.ok.inj (builtToo.symm.trans doneToo)
  obtain rfl := Except.ok.inj (built.symm.trans first)
  refine ⟨left, right, printed, done, doneToo, doneThird, similar, declarations, order, ?_,
    same rfl⟩
  intro equal
  have id := of_decide_eq_true checked
  rw [← equal, of_decide_eq_true checkedToo] at id
  exact absurd id (by decide)

end Compilation
end SchemaTypes
