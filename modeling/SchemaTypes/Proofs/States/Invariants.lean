/-
This file says which properties hold wherever a compilation stands. Main statement: what holds at
the start, and is kept by every change and by what a failure leaves behind, holds of every state
that a compilation comes to.
-/
import SchemaTypes.Proofs.Build.Anatomy
import SchemaTypes.Proofs.Build.Resolution
import SchemaTypes.Proofs.States.Reached

namespace SchemaTypes

namespace Build

variable {context : Context} {property : Progress → Prop}

/-- A property is kept by all that a compilation does, whether it succeeds or fails. -/
structure Invariant (context : Context) (property : Progress → Prop) : Prop where
  within : ∀ {progress}, property progress → progress.Scoped
  step : ∀ {before after}, Transition context before after → property before → property after
  /-- A document has its title before it is known whether its node is declared. -/
  titled : ∀ {progress}, property progress → ∀ node name, property (progress.setId node (some name))
  declared : ∀ {progress node}, property progress → node < progress.model.size → ∀ key,
    property (progress.declare .name key node key)
  noted : ∀ {progress}, property progress → ∀ event, property (progress.note event)
  /-- A pointer is left behind its target, which has failed. -/
  left : ∀ {progress}, property progress → ∀ key, property (progress.leave key)
  /-- A document is left, which has failed. -/
  popped : ∀ {progress}, property progress → property progress.pop
  renamed : ∀ {progress}, property progress → ∀ node name,
    property { progress with model := progress.model.setShape node (.reference name) }

/-- The nodes of the tables stay in the model. -/
theorem Invariant.scoped (context : Context) : Invariant context Progress.Scoped where
  within := id
  step := Progress.Scoped.step _ _
  titled within node name := within.setId node (some name)
  declared within known key := within.declare .name key key known
  noted within event := within.note event
  left within _ := within.grow (Nat.le_refl _) rfl rfl rfl
  popped {progress} within := by
    unfold Progress.pop
    split
    · exact within
    · exact within.grow (Nat.le_refl _) rfl rfl rfl
  renamed within _ _ := within.grow (Nat.le_of_eq (Model.size_setShape ..).symm) rfl rfl rfl

/-- Both steps have the same outcome if their first parts do and so does what comes after them. -/
theorem bind_agree {α β : Type} {act other : Build α} {next otherNext : α → Build β}
    {before : Progress} (first : act before = other before)
    (rest : ∀ value middle, other before = .ok value middle →
      next value middle = otherNext value middle) :
    (act >>= next) before = (other >>= otherNext) before := by
  change EStateM.bind act next before = EStateM.bind other otherNext before
  unfold EStateM.bind
  rw [first]
  cases outcome : other before with
  | ok value middle => exact rest value middle outcome
  | error error after => rfl

section Members

variable {α β : Type} {act other : α → Build β} {members : List α}

theorem each_keeps
    (keeps : ∀ member ∈ members, ∀ before value after, property before →
      other member before = .ok value after → property after)
    {before after : Progress} {values : List β} (ready : property before)
    (taken : each other members before = .ok values after) : property after := by
  induction members generalizing before values with
  | nil =>
      simp only [each, pure_apply, EStateM.Result.ok.injEq] at taken
      exact taken.2 ▸ ready
  | cons member members inductionHypothesis =>
      simp only [each, bind_eq_ok, pure_apply, EStateM.Result.ok.injEq] at taken
      obtain ⟨first, middle, firstTaken, rest, last, restTaken, rfl, rfl⟩ := taken
      exact inductionHypothesis (fun later inside => keeps later (List.mem_cons_of_mem _ inside))
        (keeps member List.mem_cons_self _ _ _ ready firstTaken) restTaken

/-- Members are treated alike if the property holds before each of them. -/
theorem each_agree
    (agree : ∀ member ∈ members, ∀ before, property before →
      act member before = other member before)
    (keeps : ∀ member ∈ members, ∀ before value after, property before →
      other member before = .ok value after → property after)
    {before : Progress} (ready : property before) :
    each act members before = each other members before := by
  induction members generalizing before with
  | nil => rfl
  | cons member members inductionHypothesis =>
      refine bind_agree (agree member List.mem_cons_self before ready) fun first middle taken => ?_
      refine bind_agree ?_ fun rest last _ => rfl
      exact inductionHypothesis (fun later inside => agree later (List.mem_cons_of_mem _ inside))
        (fun later inside => keeps later (List.mem_cons_of_mem _ inside))
        (keeps member List.mem_cons_self _ _ _ ready taken)

end Members

/-- Two resolvers come to the same wherever a property holds, which they keep. -/
structure Agreement (property : Progress → Prop) (left right : Resolver) : Prop where
  agree : ∀ fragment site before, property before →
    left fragment site before = right fragment site before
  keeps : ∀ fragment site before node after, property before →
    right fragment site before = .ok node after → property after

namespace Agreement

variable {left right : Resolver} {before : Progress} (agreement : Agreement property left right)
  (ready : property before)

include agreement ready

theorem members (fragment : Json) (keyword : String) :
    resolveMembers left fragment keyword before = resolveMembers right fragment keyword before :=
  each_agree (fun member _ => agreement.agree member .inner)
    (fun member _ => agreement.keeps member .inner) ready

theorem array (items : Option Json) :
    buildArray left items before = buildArray right items before := by
  cases items with
  | none => rfl
  | some items => exact bind_agree (agreement.agree items .inner before ready) fun _ _ _ => rfl

theorem typeUnion (types : List Json) :
    buildTypeUnion left types before = buildTypeUnion right types before :=
  bind_agree (each_agree (fun _ _ => agreement.agree _ .inner)
    (fun _ _ => agreement.keeps _ .inner) ready) fun _ _ _ => rfl

theorem properties (required : List String) (fields : List (String × Json)) :
    resolveProperties left required fields before = resolveProperties right required fields before ∧
      ∀ properties middle, resolveProperties right required fields before = .ok properties middle →
        property middle := by
  have keeps : ∀ field ∈ fields, ∀ start built after, property start →
      (do
        let type ← right field.2 ⟨some field.1, false⟩
        return (⟨field.1, field.1 ∈ required, type⟩ : Property) : Build Property) start =
          .ok built after → property after := by
    intro field _ start built after ready taken
    simp only [bind_eq_ok, pure_apply, EStateM.Result.ok.injEq] at taken
    obtain ⟨type, last, resolved, -, rfl⟩ := taken
    exact agreement.keeps _ _ _ _ _ ready resolved
  constructor
  · refine each_agree (fun field _ start ready => ?_) keeps ready
    exact bind_agree (agreement.agree field.2 _ start ready) fun _ _ _ => rfl
  · exact fun properties middle taken => each_keeps keeps ready taken

theorem interface (fragment : Json) :
    buildInterface left fragment before = buildInterface right fragment before := by
  obtain ⟨agree, keeps⟩ := agreement.properties ready (requiredNames fragment)
    ((fragment.fieldsField? "properties").getD [])
  refine bind_agree agree fun properties middle taken => ?_
  cases fragment.get? "additionalProperties" with
  | none => rfl
  | some value =>
      cases value with
      | object fields =>
          exact bind_agree (agreement.agree _ _ middle (keeps properties middle taken))
            fun _ _ _ => rfl
      | bool allowed => cases allowed <;> rfl
      | _ => rfl

theorem pointer (invariant : Invariant context property) (pointer : String) :
    followPointer context.settings left pointer before =
      followPointer context.settings right pointer before := by
  have agree : resolvePointer context.settings left pointer before =
      resolvePointer context.settings right pointer before := by
    simp only [resolvePointer, get_bind]
    cases missing : before.declarations.get? (before.frame.pointerKey pointer) with
    | some node => rfl
    | none =>
        by_cases awaited : before.frame.pointerKey pointer ∈ before.pending
        · simp only [awaited, ↓reduceIte]
        · simp only [awaited, ↓reduceIte]
          cases Pointer.lookup? before.frame.document (Pointer.segments pointer) with
          | none => rfl
          | some target =>
              refine bind_agree ?_ fun _ _ _ => rfl
              simp only [whilePending, between]
              rw [agreement.agree target .inner _
                (invariant.step (.pointerEntered before pointer missing awaited) ready)]
  simp only [followPointer, get_bind, noting, agree]

theorem file (invariant : Invariant context property) (reference : String)
    (name : Option String) :
    followFile context left reference name before =
      followFile context right reference name before := by
  have agree (path : Path) : resolvePath context left path name before =
      resolvePath context right path name before := by
    simp only [resolvePath, get_bind]
    cases missing : before.files.lookup path with
    | some node => rfl
    | none =>
        cases found : (before.frame :: before.outer).reverse.find? (·.key = some path.text) with
        | some frame => rfl
        | none =>
            refine bind_agree rfl fun document middle read => ?_
            obtain ⟨text, served, parsed, rfl⟩ := readDocument_eq_ok.mp read
            refine bind_agree ?_ fun _ _ _ => rfl
            have fresh : ∀ frame ∈ before.frames, frame.key ≠ some path.text := by
              intro frame opened
              simpa using List.find?_eq_none.mp found frame (List.mem_reverse.mpr opened)
            simp only [inFrame, between]
            rw [agreement.agree document _ _ (invariant.step
              (.fileOpened before path text document missing fresh served parsed) ready)]
  unfold followFile
  split
  · rfl
  · simp only [get_bind, noting, agree]

/-- Resolvers that agree on parts and targets build the same node. -/
theorem node (invariant : Invariant context property) (fragment : Json)
    (name : Option String) :
    buildNode context left fragment name before = buildNode context right fragment name before := by
  unfold buildNode
  cases Rule.classify fragment with
  | typedArray => exact agreement.array ready _
  | namedSchema => exact agreement.interface ready fragment
  | anonymousSchema => exact agreement.interface ready fragment
  | allOf => exact bind_agree (agreement.members ready fragment _) fun _ _ _ => rfl
  | anyOf => exact bind_agree (agreement.members ready fragment _) fun _ _ _ => rfl
  | union => exact agreement.typeUnion ready _
  | reference =>
      simp only [buildReference]
      cases fragment.textField? "$ref" with
      | none => rfl
      | some reference =>
          simp only [follow]
          cases Target.ofReference reference with
          | document => rfl
          | pointer pointer => exact agreement.pointer ready invariant pointer
          | file file => exact agreement.file ready invariant file name
  | _ => rfl

/-- Where the parts of a fragment are resolved alike, the fragment is resolved alike. -/
theorem fragment (invariant : Invariant context property) (fragment : Json) (site : Site) :
    resolveBy context left fragment site before = resolveBy context right fragment site before := by
  simp only [resolveBy, get_bind, noting]
  rw [bind_agree (agreement.node ready invariant fragment site.property)
    fun _ _ _ => rfl]

end Agreement

namespace Invariant

variable (invariant : Invariant context property)

include invariant

/-- The parts of a fragment keep an invariant. -/
theorem of_parts {effect : Effect} {fragment : Json} {before after : Progress}
    (kept : ∀ {part site start outcome last}, effect part site start outcome last →
      property start → property last)
    (ready : property before) (parts : Parts effect fragment before after) : property after := by
  induction parts with
  | start => exact ready
  | leaf _ shape noEnum noReference empty inductionHypothesis =>
      exact invariant.step (.allocated _ shape noEnum noReference (by simp [empty]))
        inductionHypothesis
  | part _ _ _ resolved inductionHypothesis => exact kept resolved inductionHypothesis

/-- A fragment is resolved by changes, and its title may go to its node at the end of them. -/
theorem of_resolved {budget : Nat} {fragment : Json} {site : Site} {before after : Progress}
    {node : NodeId} (ready : property before)
    (resolved : resolveFragment context budget fragment site before = .ok node after) :
    property after ∧ node < after.model.size := by
  obtain ⟨last, passage, known, titled⟩ := resolveFragment_run (invariant.within ready) resolved
  have kept := passage.run.keeps (fun _ _ => invariant.step) ready
  rcases titled with rfl | ⟨title, rfl⟩
  · exact ⟨kept, known⟩
  · exact ⟨invariant.titled kept node title, Nat.lt_of_lt_of_eq known (Model.size_setId ..).symm⟩

/-- What fails leaves its pointers and its documents behind. -/
theorem of_failed {effect : Effect} {fragment : Json} {name : Option String}
    {before after : Progress} {error : CompileError}
    (kept : ∀ {part site start outcome last}, effect part site start outcome last →
      property start → property last)
    (ready : property before)
    (failed : Built context effect fragment name before (.error error) after) :
    property after := by
  cases failed with
  | faulty => exact ready
  | partFailed parts _ _ failed =>
      -- The parts before the one that fails have been resolved.
      exact kept failed (invariant.of_parts kept ready parts)
  | pointerFailed _ missing fresh _ failed =>
      have entered := invariant.step (.pointerEntered before _ missing fresh) ready
      exact invariant.noted (invariant.left (kept failed entered) _) _
  | remote => exact ready
  | unreadable => exact invariant.noted (invariant.noted ready _) _
  | fileFailed _ _ missing fresh served failed =>
      obtain ⟨text, served, parsed⟩ := served
      have opened := invariant.step (.fileOpened before _ text _ missing fresh served parsed) ready
      exact invariant.noted (invariant.popped (kept failed opened)) _

/-- The property holds when a fragment is resolved, whether it is resolved or has failed. -/
theorem ends (budget : Nat) :
    Obeys (fun _ _ before _ after => property before → property after)
      (resolveFragment context budget) := by
  induction budget with
  | zero =>
      intro fragment site before outcome after taken
      obtain ⟨-, rfl⟩ := ends_throw.mp taken
      exact id
  | succ budget inductionHypothesis =>
      intro fragment site before outcome after taken ready
      cases outcome with
      | ok node => exact (invariant.of_resolved ready taken).1
      | error error =>
          -- No run leads to a failure, so it is taken apart; its parts have less budget.
          have resolved := resolveBy_resolved inductionHypothesis taken
          cases resolved with
          | failed built => exact invariant.noted (invariant.of_failed id ready built) _

/-- Where the property holds, it makes no difference to stop where it does not hold. -/
theorem resolveHalting_eq {point : Progress} (violated : ¬property point) (budget : Nat)
    (fragment : Json) (site : Site) (before : Progress) (ready : property before) :
    resolveHalting context point budget fragment site before =
      resolveFragment context budget fragment site before := by
  induction budget generalizing fragment site before with
  | zero => rfl
  | succ budget inductionHypothesis =>
      -- The resolvers of the parts agree where the property holds, and it holds at every part.
      have agreement : Agreement property (resolveHalting context point budget)
          (resolveFragment context budget) :=
        ⟨inductionHypothesis, fun _ _ _ _ _ ready resolved =>
          (invariant.of_resolved ready resolved).1⟩
      have apart {progress : Progress} (holds : property progress) : progress ≠ point := by
        rintro rfl
        exact violated holds
      change haltingAt point (resolveBy context (resolveHalting context point budget) fragment site)
        before = _
      rw [haltingAt, if_neg (apart ready), agreement.fragment ready invariant fragment site]
      change _ = resolveBy context (resolveFragment context budget) fragment site before
      have kept := invariant.ends (budget + 1) fragment site before
      cases outcome : resolveBy context (resolveFragment context budget) fragment site before with
      | ok node after => simp only [if_neg (apart (kept (.ok node) after outcome ready))]
      | error error after => simp only [if_neg (apart (kept (.error error) after outcome ready))]

end Invariant

end Build

namespace Compilation

open Build

variable {context : Context} {document : Json} {sourcePath : Option Path}
  {property : Progress → Prop}

/-- What holds at the start and is kept holds of every state that a compilation comes to. -/
theorem Reached.holds (invariant : Invariant context property)
    (start : property (Progress.start (rootFrame document sourcePath))) {progress : Progress}
    (reached : Reached context document sourcePath progress) : property progress := by
  have ended {root : NodeId} {last : Progress}
      (done : run context document sourcePath = .ok root last) : property last := by
    simp only [run, bind_eq_ok, modify_bind, pure_apply, EStateM.Result.ok.injEq] at done
    obtain ⟨made, middle, resolved, -, rfl⟩ := done
    obtain ⟨kept, known⟩ := invariant.of_resolved start resolved
    exact invariant.declared kept known _
  cases reached with
  | underway met onward =>
      refine onward.keeps (fun _ _ => invariant.step) (Classical.byContradiction fun violated => ?_)
      exact met (invariant.resolveHalting_eq violated _ _ _ _ start)
  | declared done => exact ended done
  | failed failed =>
      simp only [run, bind_eq_error, modify_bind, pure_apply] at failed
      rcases failed with failed | ⟨_, _, _, impossible⟩
      · exact invariant.ends _ _ _ _ (.error _) _ failed start
      · cases impossible
  | @binding root last bound done part =>
      have fold (model : Model) (holds : property { last with model := model }) :
          property
            { last with
              model := bound.foldl
                (bindReference last (rootFrame document sourcePath).ownKey root) model } := by
        clear part
        induction bound generalizing model with
        | nil => exact holds
        | cons entry rest inductionHypothesis =>
            refine inductionHypothesis _ ?_
            unfold bindReference
            split
            · exact invariant.renamed holds entry.2 _
            · exact holds
      exact fold last.model (ended done)

end Compilation
end SchemaTypes
