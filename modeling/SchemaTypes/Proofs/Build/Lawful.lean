/-
This file says what is expected of a resolver: it runs up to the node of a fragment, completes it,
and comes back to the document and to the pending pointers it began with.
-/
import SchemaTypes.Proofs.Build.Outcome
import SchemaTypes.Proofs.Build.Scope

namespace SchemaTypes.Build

variable {context : Context} {resolve : Resolver}

/-- The last change of a resolved fragment notes the node that the fragment has. -/
def completed (fragment : Json) (site : Site) (node : NodeId) (progress : Progress) : Progress :=
  (adoptDescription fragment node (adoptName fragment site node progress)).note
    (.visited progress.frame fragment (some node))

/-- A resolver runs up to the node of a fragment and completes it. -/
def Lawful (context : Context) (resolve : Resolver) : Prop :=
  ∀ fragment site before node after, before.Scoped →
    resolve fragment site before = .ok node after →
      ∃ built, Passage context before built ∧ node < built.model.size ∧
        after = completed fragment site node built

/-- A successful step comes back, and its node is in the model. -/
def Yields (context : Context) (act : Build NodeId) : Prop :=
  ∀ before node after, before.Scoped → act before = .ok node after →
    Passage context before after ∧ node < after.model.size

/-- Taking on a description is a run that comes back, whether or not the fragment has one. -/
theorem adoptDescription_passage (context : Context) (fragment : Json) (node : NodeId)
    (progress : Progress) (known : node < progress.model.size) :
    Passage context progress (adoptDescription fragment node progress) := by
  unfold adoptDescription
  split
  · next undescribed =>
    exact (Passage.refl progress).step
      (.described progress node _ known (Option.isNone_iff_eq_none.mp undescribed)) rfl rfl rfl rfl
  · exact .refl progress

/-- Taking on a title or an id is a run that comes back, whether or not the fragment has one. -/
theorem adoptName_passage (context : Context) (fragment : Json) (property : Option String)
    (node : NodeId) (progress : Progress) (known : node < progress.model.size) :
    Passage context progress (adoptName fragment ⟨property, false⟩ node progress) := by
  unfold adoptName
  split
  · next unnamed =>
    cases fragment.declaredName? with
    | none => exact .refl progress
    | some name =>
        exact (Passage.refl progress).step
          (.named progress node name known (Option.isNone_iff_eq_none.mp unnamed)) rfl rfl rfl rfl
  · exact .refl progress

/-- The node of a fragment inside a document is declared by the time it is noted. -/
theorem Lawful.inner (lawful : Lawful context resolve) {fragment : Json}
    {property : Option String} {before after : Progress} {node : NodeId} (within : before.Scoped)
    (resolved : resolve fragment ⟨property, false⟩ before = .ok node after) :
    Passage context before after ∧ node < after.model.size ∧
      after.journal.head? = some (.visited before.frame fragment (some node)) := by
  obtain ⟨built, passage, known, rfl⟩ := lawful _ _ _ _ _ within resolved
  have named := adoptName_passage context fragment property node built known
  have knownNamed := Nat.lt_of_lt_of_le known named.run.size_le
  have described := adoptDescription_passage context fragment node _ knownNamed
  have knownDescribed := Nat.lt_of_lt_of_le knownNamed described.run.size_le
  have onward := named.trans described
  refine ⟨(passage.trans onward).step ?_ rfl rfl rfl rfl, knownDescribed, ?_⟩
  · rw [completed, ← onward.frame]
    exact .visited _ fragment node knownDescribed
  · simp [completed, Progress.note, passage.frame]

/-- A lawful resolver answers a fragment inside a document with a node of the model. -/
theorem Lawful.yields (lawful : Lawful context resolve) (fragment : Json)
    (property : Option String) : Yields context (resolve fragment ⟨property, false⟩) :=
  fun _ _ _ within resolved =>
    ⟨(lawful.inner within resolved).1, (lawful.inner within resolved).2.1⟩

/-- A node is added behind the nodes of its parts. -/
theorem allocate_passage {before middle after : Progress} {node : NodeId} {shape : Shape}
    (passage : Passage context before middle)
    (allocated : allocate shape middle = .ok node after) (noEnum : shape.isNamedEnum = false)
    (noReference : ∀ name, shape ≠ .reference name)
    (children : ∀ child ∈ shape.children, child < middle.model.size) :
    Passage context before after ∧ node < after.model.size := by
  simp only [allocate_apply, EStateM.Result.ok.injEq] at allocated
  obtain ⟨rfl, rfl⟩ := allocated
  exact ⟨passage.step (.allocated middle shape noEnum noReference children) rfl rfl rfl rfl,
    by simp [Progress.add]⟩

/-- A node without children is built in one change. -/
theorem allocate_yields (context : Context) (shape : Shape) (noEnum : shape.isNamedEnum = false)
    (noReference : ∀ name, shape ≠ .reference name) (leaf : shape.children = []) :
    Yields context (allocate shape) :=
  fun before _ _ _ allocated =>
    allocate_passage (.refl before) allocated noEnum noReference (by simp [leaf])

/-- What holds of the step for each member holds of the steps for all members together. -/
theorem each_passage {α β : Type} {act : α → Build β} (number : β → NodeId)
    (part : ∀ member before value after, before.Scoped → act member before = .ok value after →
      Passage context before after ∧ number value < after.model.size) (members : List α) :
    ∀ before values after, before.Scoped → each act members before = .ok values after →
      Passage context before after ∧ ∀ value ∈ values, number value < after.model.size := by
  induction members with
  | nil =>
      intro before values after within taken
      simp only [each, pure_apply, EStateM.Result.ok.injEq] at taken
      obtain ⟨rfl, rfl⟩ := taken
      exact ⟨.refl before, by simp⟩
  | cons member members inductionHypothesis =>
      intro before values after within taken
      simp only [each, bind_eq_ok, pure_apply, EStateM.Result.ok.injEq] at taken
      obtain ⟨first, middle, firstTaken, rest, last, restTaken, rfl, rfl⟩ := taken
      obtain ⟨firstPassage, firstKnown⟩ := part _ _ _ _ within firstTaken
      obtain ⟨restPassage, restKnown⟩ :=
        inductionHypothesis _ _ _ (firstPassage.within within) restTaken
      refine ⟨firstPassage.trans restPassage, ?_⟩
      intro value member
      rcases List.mem_cons.mp member with rfl | later
      · exact Nat.lt_of_lt_of_le firstKnown restPassage.run.size_le
      · exact restKnown value later

/-- Steps that each come back come back when they are taken one after the other. -/
theorem each_yields {α : Type} {act : α → Build NodeId}
    (part : ∀ member, Yields context (act member)) {members : List α} {before after : Progress}
    {nodes : List NodeId} (within : before.Scoped)
    (taken : each act members before = .ok nodes after) :
    Passage context before after ∧ ∀ node ∈ nodes, node < after.model.size :=
  each_passage id part members before nodes after within taken

end SchemaTypes.Build
