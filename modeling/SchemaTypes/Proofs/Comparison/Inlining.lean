/-
This file compares compilations that declare the targets of references with those that write them
where they are used. Main statement: if the keys of the references are unambiguous, both fail for
one reason or both succeed, and as long as the names in their outputs are clear they are read alike.
-/
import SchemaTypes.Proofs.Comparison.Lockstep
import SchemaTypes.Proofs.Comparison.Settings
import SchemaTypes.Proofs.Meaning.Faithful
import SchemaTypes.Proofs.Termination.Exhaustion

namespace SchemaTypes

open Build TypeScript

namespace Compilation

variable {loader : Loader} {document : Json} {sourcePath : Option Path}

/-- Both compilations resolve the root, or they fail for one reason. -/
theorem run_abreast (unambiguous : Unambiguous loader (rootFrame document sourcePath))
    (settings others : Settings) :
    (∃ error after last, run ⟨settings, loader⟩ document sourcePath = .error error after ∧
      run ⟨others, loader⟩ document sourcePath = .error error last) ∨
    ∃ root made after last, run ⟨settings, loader⟩ document sourcePath = .ok root after ∧
      run ⟨others, loader⟩ document sourcePath = .ok made last := by
  have agree (settings : Settings) := root_agree ⟨settings, loader⟩ document sourcePath 0
  have reachable : Reachable loader (rootFrame document sourcePath)
      (Progress.start (rootFrame document sourcePath)).frame document := .root
  have abreast := resolveFragment_parallel unambiguous settings others (budget loader document)
    document ⟨none, true⟩ _ _ (.start _ _) (.start _ _) (.refl _) reachable
  unfold run
  cases abreast with
  | ok done doneToo =>
      exact .inr ⟨_, _, _, _, bind_eq_ok.mpr ⟨_, _, done, rfl⟩,
        bind_eq_ok.mpr ⟨_, _, doneToo, rfl⟩⟩
  | error _ failed failedToo =>
      exact .inl ⟨_, _, _, bind_eq_error.mpr (.inl failed), bind_eq_error.mpr (.inl failedToo)⟩
  | exhausted failed => exact absurd failed ((agree settings).decided _)
  | exhaustedToo _ failed => exact absurd failed ((agree others).decided _)

/-- Whatever the settings are, compilations with unambiguous keys fail for one reason or succeed
together, and clear outputs are read alike at every place. -/
theorem build_readsAlike (unambiguous : Unambiguous loader (rootFrame document sourcePath))
    (settings others : Settings) :
    (∃ error, build ⟨settings, loader⟩ document sourcePath = .error error ∧
      build ⟨others, loader⟩ document sourcePath = .error error) ∨
    ∃ left right, build ⟨settings, loader⟩ document sourcePath = .ok left ∧
      build ⟨others, loader⟩ document sourcePath = .ok right ∧
      (left.Clear (rootFrame document sourcePath).ownKey →
        right.Clear (rootFrame document sourcePath).ownKey →
        ∀ place top, left.RootReads place top ↔ right.RootReads place top) := by
  rcases run_abreast unambiguous settings others with
    ⟨error, after, last, failed, failedToo⟩ | ⟨root, made, after, last, done, doneToo⟩
  · exact .inl ⟨error, by simp only [build, failed], by simp only [build, failedToo]⟩
  · have built : build ⟨settings, loader⟩ document sourcePath = .ok
        ⟨bindReferences (rootFrame document sourcePath).ownKey root after, settings, root,
          (rootFrame document sourcePath).name⟩ := by
      simp only [build, done]
    have builtToo : build ⟨others, loader⟩ document sourcePath = .ok
        ⟨bindReferences (rootFrame document sourcePath).ownKey made last, others, made,
          (rootFrame document sourcePath).name⟩ := by
      simp only [build, doneToo]
    refine .inr ⟨_, _, built, builtToo, fun clear clearToo place top => ?_⟩
    have sourced := Compilation.sourced built unambiguous
    have sourcedToo := Compilation.sourced builtToo unambiguous
    exact (rootReads_iff_means sourced clear).trans (rootReads_iff_means sourcedToo clearToo).symm

/-- The reference of the example leads into its own document. -/
theorem target?_moneyReference :
    Json.target? (.object [("$ref", .string "#/definitions/money")]) =
      some (.pointer "definitions/money") := by decide +kernel

/-- The fragments that a schema with a single pointer leads to. -/
theorem reachable_namedPointer {frame : Frame} {fragment : Json}
    (reachable : Reachable (.ofFiles []) (rootFrame namedPointer none) frame fragment) :
    frame = rootFrame namedPointer none ∧
      (fragment = namedPointer ∨ fragment = .object [("$ref", .string "#/definitions/money")] ∨
        fragment = .object [("type", .string "number")]) := by
  induction reachable with
  | root => exact ⟨rfl, .inl rfl⟩
  | @part frame fragment part outline _ outlined inside inductionHypothesis =>
      obtain ⟨rfl, rfl | rfl | rfl⟩ := inductionHypothesis
      · have known : namedPointer.outline? = some (.interface
            [(("total", false), .fragment (.object [("$ref", .string "#/definitions/money")])),
              ((indexSignature, true), .leaf .any)]) := by decide +kernel
        obtain rfl := Option.some.inj (known.symm.trans outlined)
        simp only [Outline.interface, List.map_cons, List.map_nil, List.mem_cons,
          Part.fragment.injEq, reduceCtorEq, List.not_mem_nil, or_false] at inside
        exact ⟨rfl, .inr (.inl inside)⟩
      · cases outlined.symm.trans (show Json.outline? (.object
          [("$ref", .string "#/definitions/money")]) = none by decide +kernel)
      · obtain rfl := Option.some.inj (outlined.symm.trans (show Json.outline? (.object
          [("type", .string "number")]) = some (.leaf (.primitive .number)) by decide +kernel))
        cases inside
  | @follow frame next fragment target _ follows inductionHypothesis =>
      obtain ⟨rfl, rfl | rfl | rfl⟩ := inductionHypothesis
      · exact absurd follows.reference (by decide +kernel)
      · obtain ⟨rfl, leads⟩ := follows.of_pointer target?_moneyReference
        have known : Pointer.lookup? (rootFrame namedPointer none).document
            (Pointer.segments "definitions/money") =
              some (.object [("type", .string "number")]) := by decide +kernel
        exact ⟨rfl, .inr (.inr (Option.some.inj (leads.symm.trans known)))⟩
      · exact absurd follows.reference (by decide +kernel)

/-- Only one thing is referred to in the example. -/
theorem mentioned_namedPointer {thing : Thing}
    (mentioned : Mentioned (.ofFiles []) (rootFrame namedPointer none) thing) :
    thing = .pointer (rootFrame namedPointer none) "definitions/money" := by
  have asked {frame : Frame} {fragment : Json} {target : Target}
      (within : Reachable (.ofFiles []) (rootFrame namedPointer none) frame fragment)
      (refers : fragment.target? = some target) :
      frame = rootFrame namedPointer none ∧ target = .pointer "definitions/money" := by
    obtain ⟨rfl, rfl | rfl | rfl⟩ := reachable_namedPointer within
    · exact absurd (Json.classify_of_target? refers) (by decide +kernel)
    · exact ⟨rfl, Option.some.inj (refers.symm.trans target?_moneyReference)⟩
    · exact absurd (Json.classify_of_target? refers) (by decide +kernel)
  cases mentioned with
  | file within refers => cases (asked within refers).2
  | pointer within refers =>
      obtain ⟨rfl, same⟩ := asked within refers
      rw [Target.pointer.inj same]

/-- One key cannot be confused with another one. -/
theorem unambiguous_namedPointer :
    Unambiguous (.ofFiles []) (rootFrame namedPointer none) where
  things first second mentioned mentionedToo _ := by
    rw [mentioned_namedPointer mentioned, mentioned_namedPointer mentionedToo]
  apart thing mentioned := by
    rw [mentioned_namedPointer mentioned]
    decide +kernel
  names thing mentioned frame fragment reachable := by
    rw [mentioned_namedPointer mentioned]
    obtain ⟨-, rfl | rfl | rfl⟩ := reachable_namedPointer reachable <;> decide +kernel
  id thing mentioned := by
    rw [mentioned_namedPointer mentioned]
    decide +kernel

/-- The definition is declared in one output and written in place in the other one. Both outputs are
read alike. -/
theorem build_readsAlike_namedPointer :
    ∃ left right, build ⟨{}, .ofFiles []⟩ namedPointer none = .ok left ∧
      build ⟨{ declareReferenced := false }, .ofFiles []⟩ namedPointer none = .ok right ∧
      left.emissionOrder.length = 2 ∧ right.emissionOrder.length = 1 ∧
      ∀ place top, left.RootReads place top ↔ right.RootReads place top := by
  obtain ⟨left, built, checked⟩ := exists_ok
    (show (build ⟨{}, .ofFiles []⟩ namedPointer none).toOption.any (fun compilation => decide
      (compilation.progress.forward = [] ∧ compilation.progress.files = [] ∧
        compilation.first? (Identifier.ofName compilation.id) = some compilation.root ∧
        (∀ node < compilation.model.size, ∀ id ∈ (compilation.model.node node).id,
          compilation.first? (Identifier.ofName id) = some node) ∧
        compilation.emissionOrder.length = 2)) = true by decide +kernel)
  obtain ⟨right, builtToo, checkedToo⟩ := exists_ok
    (show (build ⟨{ declareReferenced := false }, .ofFiles []⟩ namedPointer none).toOption.any
      (fun compilation => decide
        (compilation.progress.forward = [] ∧ compilation.progress.files = [] ∧
          compilation.first? (Identifier.ofName compilation.id) = some compilation.root ∧
          (∀ node < compilation.model.size, ∀ id ∈ (compilation.model.node node).id,
            compilation.first? (Identifier.ofName id) = some node) ∧
          compilation.emissionOrder.length = 1)) = true by decide +kernel)
  obtain ⟨forward, files, root, named, two⟩ := of_decide_eq_true checked
  obtain ⟨forwardToo, filesToo, rootToo, namedToo, one⟩ := of_decide_eq_true checkedToo
  rcases build_readsAlike unambiguous_namedPointer {} { declareReferenced := false } with
    ⟨error, failed, -⟩ | ⟨_, _, done, doneToo, alike⟩
  · cases built.symm.trans failed
  · obtain rfl := Except.ok.inj (built.symm.trans done)
    obtain rfl := Except.ok.inj (builtToo.symm.trans doneToo)
    exact ⟨left, right, built, builtToo, two, one,
      alike (.of_unreferred forward files root named)
        (.of_unreferred forwardToo filesToo rootToo namedToo)⟩

/-- A member of an intersection that is null by way of a file. -/
def nullMember : Json :=
  .object [("allOf", .array
    [.object [("$ref", .string "n.json")], .object [("type", .string "string")]])]

def nullMemberLoader : Loader :=
  .ofFiles [(Path.ofString "n.json", (Json.object [("type", .string "null")]).compact)]

/-- The declared file is a member that is written, and the inlined one is left out. -/
theorem nullMember_differs :
    ∃ left right, build ⟨{}, nullMemberLoader⟩ nullMember none = .ok left ∧
      build ⟨{ declareReferenced := false }, nullMemberLoader⟩ nullMember none = .ok right ∧
      left.RootReads [] ⟨.intersection, 2⟩ ∧ ¬right.RootReads [] ⟨.intersection, 2⟩ := by
  obtain ⟨left, built, checked⟩ := exists_ok
    (show (build ⟨{}, nullMemberLoader⟩ nullMember none).toOption.any (fun compilation => decide
      (compilation.first? (Identifier.ofName compilation.id) = some compilation.root ∧
        (compilation.model.node compilation.root).shape.head? = some .intersection ∧
        (compilation.model.node compilation.root).shape.isNamedEnum = false ∧
        (compilation.model.written
          (compilation.model.node compilation.root).shape).length = 2)) = true by decide +kernel)
  obtain ⟨right, builtToo, checkedToo⟩ := exists_ok
    (show (build ⟨{ declareReferenced := false }, nullMemberLoader⟩ nullMember none).toOption.any
      (fun compilation => decide
        (compilation.first? (Identifier.ofName compilation.id) = some compilation.root ∧
          (compilation.model.node compilation.root).shape.head? = some .intersection ∧
          (compilation.model.node compilation.root).shape.isNamedEnum = false ∧
          (compilation.model.written
            (compilation.model.node compilation.root).shape).length = 1)) = true by decide +kernel)
  obtain ⟨first, own, noEnum, two⟩ := of_decide_eq_true checked
  obtain ⟨firstToo, ownToo, noEnumToo, one⟩ := of_decide_eq_true checkedToo
  refine ⟨left, right, built, builtToo, ?_, ?_⟩
  · rw [RootReads, reads_top_iff first own noEnum, two]
  · rw [RootReads, reads_top_iff firstToo ownToo noEnumToo, one]
    decide

end Compilation
end SchemaTypes
