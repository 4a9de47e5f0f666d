/-
This file shows that the nodes of a compilation are in order wherever it stands. Main statement:
every state that a compilation comes to holds only nodes of its model, and all of them come after
their children, so that everything that a successful compilation declares can be written.
-/
import SchemaTypes.Proofs.Build.Sound
import SchemaTypes.Proofs.Names.Bound
import SchemaTypes.Proofs.States.Invariants

namespace SchemaTypes

open Build

/-- The order of the nodes is kept by all that a compilation does. -/
theorem Progress.Sound.invariant (context : Context) : Invariant context Progress.Sound where
  within := Progress.Sound.toScoped
  step := Progress.Sound.step _ _
  titled sound node name := sound.setId node (some name)
  declared sound known key := sound.declare .name key key known
  noted sound _ := sound.keep rfl rfl rfl rfl
  left sound _ := sound.keep rfl rfl rfl rfl
  popped := Progress.Sound.pop
  renamed sound node name :=
    ⟨sound.toScoped.grow (Nat.le_of_eq (Model.size_setShape ..).symm) rfl rfl rfl,
      sound.grounded.setReference node name⟩

namespace Compilation

variable {context : Context} {document : Json} {sourcePath : Option Path} {point : Progress}

/-- Every state that a compilation comes to is in order. -/
theorem sound_of_reached (reached : Reached context document sourcePath point) :
    point.Sound :=
  reached.holds (Progress.Sound.invariant context) (.start _)

/-- Every state of a compilation holds only nodes of its model, which come after their children, and
so does its result. Then the root is a node, every node and every declaration is written without
going deeper than the number of the node, and the text of all declarations is written. -/
theorem reached_sound (context : Context) (document : Json) (sourcePath : Option Path) :
    (∀ progress, Reached context document sourcePath progress → progress.Sound) ∧
    ∀ compilation, build context document sourcePath = .ok compilation →
      compilation.progress.Sound ∧ compilation.root < compilation.model.size ∧
      (∀ node < compilation.model.size,
        compilation.model.inlineType? (node + 1) node = some (compilation.model.typeOf node) ∧
        compilation.model.declaration? node node = some (compilation.model.declaration node)) ∧
      compilation.declarations.text? compilation.model compilation.settings
        compilation.model.size = some compilation.text := by
  refine ⟨fun progress => sound_of_reached, fun compilation built => ?_⟩
  obtain ⟨last, passage, known, same⟩ := exists_run built
  have sound : compilation.progress.Sound := by
    rw [same]
    exact bindReferences_sound
      ((passage.run.keeps Progress.Sound.step (.start _)).declare .name _ _ known) _ _
  have rootKnown : compilation.root < compilation.model.size := by
    rw [model, same, bindReferences_size]
    exact Nat.lt_of_lt_of_eq known (Model.size_setId ..).symm
  refine ⟨sound, rootKnown, fun node inside => ⟨?_, ?_⟩, ?_⟩
  · exact Model.inlineType?_eq_some sound.grounded inside (Nat.lt_succ_self node)
  · exact Model.declaration?_eq_some sound.grounded inside (Nat.le_refl node)
  · exact Declarations.text?_eq_some sound.grounded sound.named sound.enums _ (Nat.le_refl _)

/-- The compilation of a recursive definition comes to a state that holds its nodes, and the text of
its declarations is written. -/
theorem reached_sound_recursiveRoot :
    ∃ compilation progress, build ⟨{}, .ofFiles []⟩ recursiveRoot none = .ok compilation ∧
      Reached ⟨{}, .ofFiles []⟩ recursiveRoot none progress ∧
      progress.forward = [("definitions/node", 0)] ∧ progress.Sound ∧
      compilation.declarations.text? compilation.model compilation.settings
        compilation.model.size = some compilation.text := by
  obtain ⟨compilation, built, checked⟩ := exists_ok
    (show (build ⟨{}, .ofFiles []⟩ recursiveRoot none).toOption.any (fun compilation => decide
      (compilation.progress.forward = [("definitions/node", 0)])) = true by decide +kernel)
  obtain ⟨progress, outcome, same⟩ := build_eq_ok built
  simp only [run, bind_eq_ok, modify_bind, pure_apply, EStateM.Result.ok.injEq] at outcome
  obtain ⟨root, middle, resolved, -, rfl⟩ := outcome
  have forward : middle.forward = [("definitions/node", 0)] := by
    have final := of_decide_eq_true checked
    rw [same] at final
    exact final
  have reached : Reached ⟨{}, .ofFiles []⟩ recursiveRoot none middle :=
    .underway (meets_resolved resolved) .refl
  obtain ⟨sound, results⟩ := reached_sound ⟨{}, .ofFiles []⟩ recursiveRoot none
  exact ⟨compilation, middle, built, reached, forward, sound middle reached,
    (results compilation built).2.2.2⟩

end Compilation
end SchemaTypes
