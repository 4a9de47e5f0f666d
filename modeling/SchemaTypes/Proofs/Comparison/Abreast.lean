/-
This file compares steps of two compilations that have come equally far but need not have the same
nodes. They stay abreast if they come equally far again or fail for one reason; a step that runs out
of its budget is not compared.
-/
import SchemaTypes.Proofs.Comparison.Resolution
import SchemaTypes.Proofs.Meaning.Survey

namespace SchemaTypes

open Build

/-- The fragment was resolved. -/
def Progress.Saw (progress : Progress) (frame : Frame) (fragment : Json) : Prop :=
  ∃ node, .visited frame fragment (some node) ∈ progress.journal

def Progress.Loaded (progress : Progress) (path : Path) : Prop :=
  ∃ node, (path, node) ∈ progress.files

/-- The same documents and pointers are being resolved, and the same fragments and files were. -/
structure Level (first second : Progress) : Prop where
  frame : second.frame = first.frame
  outer : second.outer = first.outer
  pending : second.pending = first.pending
  saw : ∀ frame fragment, second.Saw frame fragment ↔ first.Saw frame fragment
  loaded : ∀ path, second.Loaded path ↔ first.Loaded path

namespace Level

variable {first second third : Progress}

/-- A compilation has come as far as it has. -/
theorem refl (progress : Progress) : Level progress progress :=
  ⟨rfl, rfl, rfl, fun _ _ => .rfl, fun _ => .rfl⟩

/-- Having come equally far is mutual. -/
theorem symm (level : Level first second) : Level second first :=
  ⟨level.frame.symm, level.outer.symm, level.pending.symm,
    fun frame fragment => (level.saw frame fragment).symm, fun path => (level.loaded path).symm⟩

/-- Two compilations that have come as far as a third one have come equally far. -/
theorem trans (level : Level first second) (onward : Level second third) : Level first third :=
  ⟨onward.frame.trans level.frame, onward.outer.trans level.outer,
    onward.pending.trans level.pending,
    fun frame fragment => (onward.saw frame fragment).trans (level.saw frame fragment),
    fun path => (onward.loaded path).trans (level.loaded path)⟩

/-- Whatever happens to the model and to the declarations makes no difference. -/
theorem still (frame : second.frame = first.frame) (outer : second.outer = first.outer)
    (pending : second.pending = first.pending) (files : second.files = first.files)
    (journal : ∀ frame fragment node, .visited frame fragment (some node) ∈ second.journal ↔
      .visited frame fragment (some node) ∈ first.journal) : Level first second :=
  ⟨frame, outer, pending,
    fun frame fragment => exists_congr fun node => journal frame fragment node,
    fun path => by rw [Progress.Loaded, files]; rfl⟩

/-- What does not show in the documents, the pending pointers, the files or the journal is not
compared. -/
theorem same (frame : second.frame = first.frame) (outer : second.outer = first.outer)
    (pending : second.pending = first.pending) (files : second.files = first.files)
    (journal : second.journal = first.journal) : Level first second :=
  .still frame outer pending files fun _ _ _ => by rw [journal]

/-- Only a fragment that was resolved counts among the events. -/
theorem note (progress : Progress) {event : Event}
    (quiet : ∀ frame fragment node, event ≠ .visited frame fragment (some node)) :
    Level progress (progress.note event) := by
  refine .still rfl rfl rfl rfl fun frame fragment node => ?_
  constructor
  · intro member
    exact (List.mem_cons.mp member).resolve_left fun same =>
      quiet frame fragment node same.symm
  · exact List.mem_cons_of_mem _

/-- Changes that make no difference on either side. -/
theorem change (level : Level first second) {after last : Progress} (left : Level first after)
    (right : Level second last) : Level after last := left.symm.trans (level.trans right)

end Level

namespace Build

variable {α β : Type}

/-- Two steps that stay abreast. They fail together, if they may fail at all, and the second one
runs out of its budget only if it may fail. -/
inductive Abreast {γ δ : Type} (fails : Prop) (good : Progress → Progress → Prop) (left : Build γ)
    (right : Build δ) (first second : Progress) : Prop where
  | ok {value : γ} {other : δ} {after last : Progress} (done : left first = .ok value after)
      (doneToo : right second = .ok other last) (level : good after last)
  | error {error : CompileError} {after last : Progress} (allowed : fails)
      (failed : left first = .error error after) (failedToo : right second = .error error last)
  | exhausted {after : Progress} (failed : left first = .error .exhausted after)
  | exhaustedToo {last : Progress} (allowed : fails)
      (failed : right second = .error .exhausted last)

namespace Abreast

variable {γ δ : Type} {fails : Prop} {good mid : Progress → Progress → Prop} {left : Build α}
  {right : Build γ} {first second : Progress}

/-- More is known of steps that have succeeded. -/
theorem imp (abreast : Abreast fails mid left right first second)
    (onward : ∀ value result after last, left first = .ok value after →
      right second = .ok result last → mid after last → good after last) :
    Abreast fails good left right first second := by
  cases abreast with
  | ok done doneToo level => exact .ok done doneToo (onward _ _ _ _ done doneToo level)
  | error allowed failed failedToo => exact .error allowed failed failedToo
  | exhausted failed => exact .exhausted failed
  | exhaustedToo allowed failed => exact .exhaustedToo allowed failed

/-- The steps are compared by what they do at their points only. -/
theorem congr {left' : Build α} {right' : Build γ}
    (abreast : Abreast fails good left right first second) (same : left' first = left first)
    (sameToo : right' second = right second) : Abreast fails good left' right' first second := by
  cases abreast with
  | ok done doneToo level => exact .ok (same.trans done) (sameToo.trans doneToo) level
  | error allowed failed failedToo =>
      exact .error allowed (same.trans failed) (sameToo.trans failedToo)
  | exhausted failed => exact .exhausted (same.trans failed)
  | exhaustedToo allowed failed => exact .exhaustedToo allowed (sameToo.trans failed)

/-- Two errors are abreast where failure is allowed, and they are the same one. -/
theorem throw (allowed : fails) (error : CompileError) :
    Abreast fails good (MonadExcept.throw error : Build α) (MonadExcept.throw error : Build γ)
      first second :=
  .error allowed rfl rfl

/-- The second steps are compared only where the first ones have led. -/
theorem bind {next : α → Build β} {other : γ → Build δ}
    (begun : Abreast fails mid left right first second)
    (onward : ∀ value result middle last, left first = .ok value middle →
      right second = .ok result last → mid middle last →
      Abreast fails good (next value) (other result) middle last) :
    Abreast fails good (left >>= next) (right >>= other) first second := by
  cases begun with
  | error allowed failed failedToo =>
      exact .error allowed (bind_eq_error.mpr (.inl failed)) (bind_eq_error.mpr (.inl failedToo))
  | exhausted failed => exact .exhausted (bind_eq_error.mpr (.inl failed))
  | exhaustedToo allowed failed => exact .exhaustedToo allowed (bind_eq_error.mpr (.inl failed))
  | ok done doneToo level =>
      cases onward _ _ _ _ done doneToo level with
      | ok finished finishedToo level =>
          exact .ok (bind_eq_ok.mpr ⟨_, _, done, finished⟩)
            (bind_eq_ok.mpr ⟨_, _, doneToo, finishedToo⟩) level
      | error allowed failed failedToo =>
          exact .error allowed (bind_eq_error.mpr (.inr ⟨_, _, done, failed⟩))
            (bind_eq_error.mpr (.inr ⟨_, _, doneToo, failedToo⟩))
      | exhausted failed => exact .exhausted (bind_eq_error.mpr (.inr ⟨_, _, done, failed⟩))
      | exhaustedToo allowed failed =>
          exact .exhaustedToo allowed (bind_eq_error.mpr (.inr ⟨_, _, doneToo, failed⟩))

/-- Both steps may look at their own progress first. -/
theorem get_bind {next : Progress → Build β} {other : Progress → Build δ}
    (onward : Abreast fails good (next first) (other second) first second) :
    Abreast fails good (get >>= next) (get >>= other) first second := by
  cases onward with
  | ok done doneToo level => exact .ok done doneToo level
  | error allowed failed failedToo => exact .error allowed failed failedToo
  | exhausted failed => exact .exhausted failed
  | exhaustedToo allowed failed => exact .exhaustedToo allowed failed

/-- Steps that stay abreast still do when each notes its own event. -/
theorem noting {event other : Option NodeId → Event} {left right : Build NodeId}
    (abreast : Abreast fails mid left right first second)
    (onward : ∀ value result after last, mid after last →
      good (after.note (event (some value))) (last.note (other (some result)))) :
    Abreast fails good (Build.noting event left) (Build.noting other right) first second := by
  cases abreast with
  | ok done doneToo level =>
      exact .ok (noting_eq_ok.mpr ⟨_, done, rfl⟩) (noting_eq_ok.mpr ⟨_, doneToo, rfl⟩)
        (onward _ _ _ _ level)
  | error allowed failed failedToo =>
      exact .error allowed (noting_eq_error.mpr ⟨_, failed, rfl⟩)
        (noting_eq_error.mpr ⟨_, failedToo, rfl⟩)
  | exhausted failed => exact .exhausted (noting_eq_error.mpr ⟨_, failed, rfl⟩)
  | exhaustedToo allowed failed =>
      exact .exhaustedToo allowed (noting_eq_error.mpr ⟨_, failed, rfl⟩)

/-- Steps stay abreast between what each of them enters and leaves. -/
theorem between {enter leave enter' leave' : Progress → Progress}
    (abreast : Abreast fails mid left right (enter first) (enter' second))
    (onward : ∀ after last, mid after last → good (leave after) (leave' last)) :
    Abreast fails good (Build.between enter leave left) (Build.between enter' leave' right)
      first second := by
  cases abreast with
  | ok done doneToo level =>
      exact .ok (between_eq_ok.mpr ⟨_, done, rfl⟩) (between_eq_ok.mpr ⟨_, doneToo, rfl⟩)
        (onward _ _ level)
  | error allowed failed failedToo =>
      exact .error allowed (between_eq_error.mpr ⟨_, failed, rfl⟩)
        (between_eq_error.mpr ⟨_, failedToo, rfl⟩)
  | exhausted failed => exact .exhausted (between_eq_error.mpr ⟨_, failed, rfl⟩)
  | exhaustedToo allowed failed =>
      exact .exhaustedToo allowed (between_eq_error.mpr ⟨_, failed, rfl⟩)

/-- Steps that stay abreast for every member stay so for all members in their order. -/
theorem each {act : α → Build β} {other : α → Build δ} {members : List α}
    (part : ∀ member ∈ members, ∀ first second, mid first second →
      Abreast fails mid (act member) (other member) first second) :
    ∀ {first second : Progress}, mid first second →
      Abreast fails mid (Build.each act members) (Build.each other members) first second := by
  induction members with
  | nil => exact fun level => .ok rfl rfl level
  | cons member members inductionHypothesis =>
      intro first second level
      refine (part member List.mem_cons_self _ _ level).bind fun _ _ middle last _ _ level => ?_
      have rest := inductionHypothesis (fun later inside =>
        part later (List.mem_cons_of_mem _ inside)) level
      exact rest.bind fun _ _ _ _ _ _ level => .ok rfl rfl level

end Abreast

/-- As many values are made as there are members. -/
theorem each_length {act : α → Build β} {members : List α} :
    ∀ {before after : Progress} {values : List β},
      each act members before = .ok values after → values.length = members.length := by
  induction members with
  | nil =>
      intro before after values taken
      simp only [each, pure_apply, EStateM.Result.ok.injEq] at taken
      rw [← taken.1, List.length_nil, List.length_nil]
  | cons member members inductionHypothesis =>
      intro before after values taken
      simp only [each, bind_eq_ok, pure_apply, EStateM.Result.ok.injEq] at taken
      obtain ⟨value, middle, -, rest, last, restTaken, rfl, rfl⟩ := taken
      rw [List.length_cons, List.length_cons, inductionHypothesis restTaken]

/-- A named enum fails only where its names and values do not go together. -/
theorem enumOutline?_eq_none {fragment : Json} {property : Option String}
    {before after : Progress} {error : CompileError}
    (failed : buildNamedEnum fragment property before = .error error after) :
    fragment.enumOutline? = none := by
  unfold Json.enumOutline?
  cases values : fragment.itemsField? "enum" with
  | none => rfl
  | some enumValues =>
      cases names : fragment.itemsField? "tsEnumNames" with
      | none => rfl
      | some enumNames =>
          by_cases length : enumNames.length = enumValues.length
          · cases members : enumMembers? enumNames enumValues with
            | none => simp [length, members]
            | some members =>
                simp only [buildNamedEnum, values, names, length, members, ne_eq,
                  not_true_eq_false, ↓reduceIte, get_bind, bind_eq_error, allocate_apply,
                  modify_bind, pure_apply, reduceCtorEq, and_false, exists_false, or_self] at failed
          · simp [length]

section Builders

variable {context other : Context} {left right : Resolver} {fragment : Json} {fails : Prop}
  {even good : Progress → Progress → Prop} {first second : Progress}
  (settles : ∀ first second after last, even first second → Level first after →
    Level second last → good after last)

include settles

/-- Two new nodes are abreast whatever their shapes are. -/
theorem allocate_abreast (level : even first second) (shape shape' : Shape) :
    Abreast fails good (allocate shape) (allocate shape') first second :=
  .ok rfl rfl (settles _ _ _ _ level (.same rfl rfl rfl rfl rfl) (.same rfl rfl rfl rfl rfl))

/-- An enum fails only where its values are no list. -/
theorem buildEnum_abreast (level : even first second)
    (faulty : fragment.itemsField? "enum" = none → fails) :
    Abreast fails good (buildEnum fragment) (buildEnum fragment) first second := by
  unfold buildEnum
  cases found : fragment.itemsField? "enum" with
  | none => exact .throw (faulty found) _
  | some values =>
      have literals : Abreast fails (fun after last => Level first after ∧ Level second last)
          (each (fun value => allocate (.literal value)) values)
          (each (fun value => allocate (.literal value)) values) first second := by
        refine .each (fun value _ after last both => ?_) ⟨.refl first, .refl second⟩
        exact .ok rfl rfl ⟨both.1.trans (.same rfl rfl rfl rfl rfl),
          both.2.trans (.same rfl rfl rfl rfl rfl)⟩
      refine literals.bind fun _ _ after last _ _ both => ?_
      exact .ok rfl rfl (settles _ _ _ _ level (both.1.trans (.same rfl rfl rfl rfl rfl))
        (both.2.trans (.same rfl rfl rfl rfl rfl)))

/-- Whether a named enum fails is decided by its fragment alone. -/
theorem buildNamedEnum_abreast (level : even first second) (property : Option String)
    (faulty : fragment.enumOutline? = none → fails) :
    Abreast fails good (buildNamedEnum fragment property) (buildNamedEnum fragment property)
      first second := by
  rcases buildNamedEnum_cases fragment property with ⟨error, failing⟩ | ⟨members, stores⟩
  · exact .error (faulty (enumOutline?_eq_none (failing first))) (failing first) (failing second)
  · have still (progress : Progress) (name : String) (generated : Bool) :
        Level progress ((progress.add (.namedEnum members)).putEnum name generated
          progress.model.size) :=
      .still rfl rfl rfl rfl fun _ _ _ => by simp [Progress.putEnum, Progress.add]
    exact .ok (stores first) (stores second) (settles _ _ _ _ level (still ..) (still ..))

section Parts

variable (parts : ∀ outline part, fragment.outline? = some outline →
  .fragment part ∈ outline.parts → ∀ property first second, even first second →
  Abreast fails even (left part ⟨property, false⟩) (right part ⟨property, false⟩) first second)

include parts

/-- Arrays are abreast when their items are. -/
theorem buildArray_abreast (level : even first second) {items : Option Json}
    (outlined : fragment.outline? = some ⟨.array, [items.elim (.leaf .any) .fragment]⟩) :
    Abreast fails good (buildArray left items) (buildArray right items) first second := by
  unfold buildArray
  cases items with
  | none =>
      exact .ok rfl rfl (settles _ _ _ _ level (.same rfl rfl rfl rfl rfl)
        (.same rfl rfl rfl rfl rfl))
  | some value =>
      have element := parts _ value outlined List.mem_cons_self none first second level
      exact element.bind fun _ _ _ _ _ _ level => allocate_abreast settles level _ _

/-- What joins the parts of a fragment is abreast when the parts are. -/
theorem members_abreast (level : even first second) {values : List Json} {head : Head}
    {make : List NodeId → Shape}
    (outlined : fragment.outline? = some ⟨head, values.map .fragment⟩) :
    Abreast fails good
      (do
        let nodes ← each (left · .inner) values
        allocate (make nodes))
      (do
        let nodes ← each (right · .inner) values
        allocate (make nodes)) first second := by
  have members : Abreast fails even (each (left · .inner) values) (each (right · .inner) values)
      first second :=
    .each (fun value inside first second level =>
      parts _ value outlined (List.mem_map_of_mem inside) none first second level) level
  exact members.bind fun _ _ _ _ _ _ level => allocate_abreast settles level _ _

/-- Interfaces are abreast when their properties are. -/
theorem buildInterface_abreast (level : even first second)
    (outlined : fragment.outline? = some fragment.interfaceOutline) :
    Abreast fails good (buildInterface left fragment) (buildInterface right fragment)
      first second := by
  unfold buildInterface
  have listed : Abreast fails even
      (resolveProperties left (requiredNames fragment)
        ((fragment.fieldsField? "properties").getD []))
      (resolveProperties right (requiredNames fragment)
        ((fragment.fieldsField? "properties").getD [])) first second := by
    refine .each (fun field inside first second level => ?_) level
    have entry : ((field.1, decide (field.1 ∈ requiredNames fragment)), Part.fragment field.2) ∈
        fragment.listedParts := List.mem_map_of_mem inside
    have type := parts _ field.2 outlined (Json.mem_interfaceOutline entry) (some field.1) first
      second level
    exact type.bind fun _ _ _ _ _ _ level => .ok rfl rfl level
  refine listed.bind fun properties others middle last done doneToo level => ?_
  have empty : others.isEmpty = properties.isEmpty := by
    have length := (each_length done).trans (each_length doneToo).symm
    cases properties <;> cases others <;> simp_all
  have indexed {act act' : Build NodeId} (abreast : Abreast fails even act act' middle last) :
      Abreast fails good
        (do
          let type ← act
          allocate (.interface (properties ++ [(⟨indexSignature, true, type⟩ : Property)])))
        (do
          let type ← act'
          allocate (.interface (others ++ [(⟨indexSignature, true, type⟩ : Property)])))
        middle last :=
    abreast.bind fun _ _ _ _ _ _ level => allocate_abreast settles level _ _
  have any : Abreast fails good
        (do
          let type ← allocate .any
          allocate (.interface (properties ++ [(⟨indexSignature, true, type⟩ : Property)])))
        (do
          let type ← allocate .any
          allocate (.interface (others ++ [(⟨indexSignature, true, type⟩ : Property)])))
        middle last :=
    .ok rfl rfl (settles _ _ _ _ level (.same rfl rfl rfl rfl rfl) (.same rfl rfl rfl rfl rfl))
  cases additional : fragment.get? "additionalProperties" with
  | none =>
      dsimp only
      rw [empty]
      split
      · split
        · exact allocate_abreast settles level _ _
        · exact allocate_abreast settles level _ _
      · exact any
  | some value =>
      cases value with
      | object fields =>
          have inside : Part.fragment (.object fields) ∈ fragment.interfaceOutline.parts := by
            simp [Json.interfaceOutline, additional, Outline.interface]
          exact indexed (parts _ _ outlined inside none middle last level)
      | bool allowed =>
          cases allowed with
          | true =>
              dsimp only
              rw [empty]
              split
              · exact allocate_abreast settles level _ _
              · exact any
          | false => exact allocate_abreast settles level _ _
      | _ => exact allocate_abreast settles level _ _

/-- Two fragments that are no references are built abreast if their parts are resolved abreast. -/
theorem buildNode_abreast (level : even first second) (property : Option String)
    (noReference : Rule.classify fragment ≠ .reference)
    (faulty : fragment.outline? = none → fails) :
    Abreast fails good (buildNode context left fragment property)
      (buildNode other right fragment property) first second := by
  unfold buildNode
  cases rule : Rule.classify fragment with
  | typedArray => exact buildArray_abreast settles parts level (by simp [Json.outline?, rule])
  | namedEnum =>
      exact buildNamedEnum_abreast settles level property fun none =>
        faulty (by simp [Json.outline?, rule, none])
  | enum =>
      exact buildEnum_abreast settles level fun none => faulty (by simp [Json.outline?, rule, none])
  | namedSchema => exact buildInterface_abreast settles parts level (by simp [Json.outline?, rule])
  | anonymousSchema =>
      exact buildInterface_abreast settles parts level (by simp [Json.outline?, rule])
  | allOf =>
      have outlined : fragment.outline? = some ⟨.intersection, fragment.memberParts "allOf"⟩ := by
        simp [Json.outline?, rule]
      exact members_abreast settles parts level outlined
  | anyOf =>
      have outlined : fragment.outline? = some ⟨.union, fragment.memberParts "anyOf"⟩ := by
        simp [Json.outline?, rule]
      exact members_abreast settles parts level outlined
  | reference => exact absurd rule noReference
  | array => exact buildArray_abreast settles parts level (by simp [Json.outline?, rule])
  | union =>
      have outlined : fragment.outline? = some ⟨.union,
          ((((Rule.schemaType? fragment).bind Json.items?).getD []).map fun type =>
            .object [("type", type)]).map .fragment⟩ := by
        simp [Json.outline?, rule]
      simp only [buildTypeUnion]
      rw [← each_map (left · .inner) fun type => .object [("type", type)],
        ← each_map (right · .inner) fun type => .object [("type", type)]]
      exact members_abreast settles parts level outlined
  | _ => exact allocate_abreast settles level _ _

end Parts
end Builders
end Build
end SchemaTypes
