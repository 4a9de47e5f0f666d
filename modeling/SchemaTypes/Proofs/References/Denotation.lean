/-
This file says when a pointer denotes its target. Main statement: a reference that did not resolve
its target itself denotes it exactly if the last registration under its key was made for this very
pointer or for a node that stands for the target anyway, and as long as there is no registration, if
no other pointer of the same key is being resolved.
-/
import Mathlib.Data.List.Nodup
import SchemaTypes.Proofs.Declarations.Emission
import SchemaTypes.Proofs.References.Traced

namespace SchemaTypes

open Build

/-- The declaration that a key got last, and what it was made for. -/
def LastDeclared (journal : List Event) (key : String) (origin : Origin) (node : NodeId) : Prop :=
  ∃ later before, journal = later ++ .declared origin key node :: before ∧
    ∀ other made, .declared other key made ∉ later

/-- The last declaration under a key is the registration that answers it. -/
theorem LastDeclared.registered? {journal : List Event} {key : String} {origin : Origin}
    {node : NodeId} (last : LastDeclared journal key origin node) :
    registered? journal key = some node := by
  obtain ⟨later, before, rfl, absent⟩ := last
  refine stands_key_iff.mp ⟨registrations later, registrations before, ?_, ?_⟩
  · rw [registrations_append]
    rfl
  · intro entry member same
    obtain ⟨event, inside, registration⟩ := List.mem_filterMap.mp member
    cases event with
    | declared other otherKey made =>
        obtain rfl := Option.some.inj registration
        obtain rfl : otherKey = key := by simpa using same
        exact absurd inside (absent other made)
    | enumStored name generated made =>
        obtain rfl := Option.some.inj registration
        cases same
    | _ => cases registration

/-- A key that is registered was declared for something. -/
theorem exists_lastDeclared {journal : List Event} {key : String} {node : NodeId}
    (registered : registered? journal key = some node) :
    ∃ origin, LastDeclared journal key origin node := by
  induction journal with
  | nil => cases registered
  | cons event before inductionHypothesis =>
      have earlier (found : registered? before key = some node)
          (apart : ∀ other made, event ≠ .declared other key made) :
          ∃ origin, LastDeclared (event :: before) key origin node := by
        obtain ⟨origin, later, older, same, absent⟩ := inductionHypothesis found
        refine ⟨origin, event :: later, older, by rw [same]; rfl, ?_⟩
        intro other made member
        rcases List.mem_cons.mp member with here | inside
        · exact apart other made here.symm
        · exact absent other made inside
      cases event with
      | declared origin other made =>
          by_cases same : other = key
          · subst same
            refine ⟨origin, [], before, ?_, by simp⟩
            have made_eq : made = node := by
              simpa [registered?, registrations, Event.registration?] using registered
            rw [made_eq]
            rfl
          · refine earlier ?_ (by simp [same])
            have apart : (Slot.key key == Slot.key other) = false := by simpa using Ne.symm same
            simpa [registered?, registrations, Event.registration?, List.lookup_cons, apart]
              using registered
      | enumStored name generated made => exact earlier registered (by simp)
      | _ => exact earlier registered (by simp)

/-- A node stands for the target of a pointer if it was made of the target, or if it is a reference
that was handed out for the pointer while the target is being resolved. -/
def Denotes (forward : List (String × NodeId)) (before : List Event) (frame : Frame)
    (pointer : String) (target : Json) (node : NodeId) : Prop :=
  .visited frame target (some node) ∈ before ∨
    (frame, pointer) ∈ openPointers before ∧ (frame.pointerKey pointer, node) ∈ forward

namespace Coherent

variable {forward : List (String × NodeId)} {before : List Event} {frame : Frame}
  {pointer : String} {target : Json} {node : NodeId}

/-- The declaration of a target is that of a node made of it. -/
theorem visited_of_declared (coherent : Coherent forward before)
    (leads : Pointer.lookup? frame.document (Pointer.segments pointer) = some target)
    (declared : .declared (.pointer frame pointer) (frame.pointerKey pointer) node ∈ before) :
    .visited frame target (some node) ∈ before := by
  obtain ⟨later, older, rfl⟩ := List.append_of_mem declared
  obtain ⟨-, other, oldest, found, rfl, -⟩ := coherent.follows later
  rw [leads] at found
  obtain rfl := Option.some.inj found
  simp

/-- What happened before a target was resolved happened before its last two events. -/
theorem past_of_resolved {between older : List Event} {event : Event}
    (resolved : between ++ event :: before = .left :: .visited frame target (some node) :: older)
    (answered : event ≠ .left) (unvisited : event ≠ .visited frame target (some node)) :
    ∃ rest, older = rest ++ event :: before := by
  match between with
  | [] => exact absurd (List.cons.inj resolved).1 answered
  | [first] => exact absurd (List.cons.inj (List.cons.inj resolved).2).1 unvisited
  | first :: second :: rest =>
      exact ⟨rest, (List.cons.inj (List.cons.inj resolved).2).2.symm⟩

/-- A pointer that is declared later was entered when its key was still free. -/
theorem missing_of_declared_later {later : List Event} {event : Event}
    (coherent : Coherent forward (later ++ event :: before)) (answered : event ≠ .left)
    (unvisited : ∀ target, event ≠ .visited frame target (some node))
    (closed : (frame, pointer) ∉ openPointers (event :: before))
    (declared : .declared (.pointer frame pointer) (frame.pointerKey pointer) node ∈ later) :
    registered? before (frame.pointerKey pointer) = none := by
  obtain ⟨newer, between, rfl⟩ := List.append_of_mem declared
  rw [List.append_assoc, List.cons_append] at coherent
  obtain ⟨-, target, older, -, resolved, top⟩ := coherent.follows newer
  obtain ⟨rest, rfl⟩ := past_of_resolved resolved answered (unvisited target)
  have now : (frame, pointer) ∈ openPointers (rest ++ event :: before) :=
    List.mem_of_mem_head? (Option.mem_def.mpr top)
  obtain ⟨last, first, rfl⟩ := List.append_of_mem (entered_mem_of_open rest now closed)
  have past : Coherent forward (last ++ .entered frame pointer :: (first ++ event :: before)) := by
    have resolvedCoherent := (coherent.of_append newer).2
    rw [resolved] at resolvedCoherent
    simpa using resolvedCoherent.2.2
  have entered := past.follows last
  cases free : registered? before (frame.pointerKey pointer) with
  | none => rfl
  | some other =>
      obtain ⟨last, registered⟩ := @registered?_append (first ++ [event]) before _ other free
      rw [List.append_assoc, List.singleton_append, entered.1] at registered
      cases registered

end Coherent

namespace Answer

variable {forward : List (String × NodeId)} {before : List Event} {frame : Frame}
  {pointer : String} {target : Json} {node : NodeId}

/-- A reference denotes its target if it resolved it, and otherwise if no other declaration and no
other pointer took its key. -/
theorem denotes_iff (answer : Answer forward before frame pointer target node)
    (coherent : Coherent forward before)
    (leads : Pointer.lookup? frame.document (Pointer.segments pointer) = some target) :
    Denotes forward before frame pointer target node ↔
      [.left, .visited frame target (some node)] <+: before ∨
        (∀ origin other, LastDeclared before (frame.pointerKey pointer) origin other →
          origin = .pointer frame pointer ∨ Denotes forward before frame pointer target other) ∧
        (registered? before (frame.pointerKey pointer) = none →
          ∀ entry ∈ openPointers before,
            entry.1.pointerKey entry.2 = frame.pointerKey pointer → entry = (frame, pointer)) := by
  cases answer with
  | stored registered =>
      constructor
      · intro denotes
        refine .inr ⟨?_, by simp [registered]⟩
        intro origin other last
        obtain rfl : node = other := Option.some.inj (registered.symm.trans last.registered?)
        exact .inr denotes
      · rintro (⟨older, rfl⟩ | ⟨own, -⟩)
        · exact .inl (by simp)
        · obtain ⟨origin, last⟩ := exists_lastDeclared registered
          rcases own origin node last with rfl | denotes
          · obtain ⟨later, older, rfl, -⟩ := last
            exact .inl (coherent.visited_of_declared leads (by simp))
          · exact denotes
  | forward missing awaited handedOut fresh =>
      constructor
      · intro denotes
        refine .inr ⟨?_, ?_⟩
        · intro origin other last
          have registered := last.registered?
          rw [missing] at registered
          cases registered
        · intro _ entry inside same
          rcases denotes with visited | ⟨isOpen, -⟩
          · exact absurd visited (fresh frame target)
          · exact List.inj_on_of_nodup_map coherent.nodup_openKeys inside isOpen same
      · rintro (⟨older, rfl⟩ | ⟨-, alone⟩)
        · exact .inl (by simp)
        · obtain ⟨entry, inside, same⟩ := List.mem_map.mp awaited
          obtain rfl := alone missing entry inside same
          exact .inr ⟨inside, handedOut⟩
  | made older resolved closed undeclared =>
      subst resolved
      exact ⟨fun _ => .inl ⟨older, rfl⟩, fun _ => .inl (by simp)⟩

end Answer

namespace Compilation

variable {context : Context} {document : Json} {sourcePath : Option Path}
  {compilation : Compilation}

/-- The journal of a finished compilation is coherent. -/
theorem journal_coherent (built : build context document sourcePath = .ok compilation) :
    Coherent compilation.progress.forward compilation.journal := by
  obtain ⟨last, passage, known, same⟩ := exists_run built
  have traced := passage.run.keeps_recorded Progress.Traced.step (.start _) (.start _)
  rw [journal, same]
  exact ⟨trivial, traced.2.coherent⟩

/-- A reference denotes its target, and it is the declaration of its target, exactly under these
conditions on what happened before. -/
theorem followed_denotes_iff (built : build context document sourcePath = .ok compilation)
    {later before : List Event} {frame : Frame} {pointer : String} {target : Json} {node : NodeId}
    (answered : compilation.journal = later ++ .followed frame pointer (some node) :: before)
    (leads : Pointer.lookup? frame.document (Pointer.segments pointer) = some target) :
    (Denotes compilation.progress.forward before frame pointer target node ↔
      [.left, .visited frame target (some node)] <+: before ∨
        (∀ origin other, LastDeclared before (frame.pointerKey pointer) origin other →
          origin = .pointer frame pointer ∨
            Denotes compilation.progress.forward before frame pointer target other) ∧
        (registered? before (frame.pointerKey pointer) = none →
          ∀ entry ∈ openPointers before,
            entry.1.pointerKey entry.2 = frame.pointerKey pointer → entry = (frame, pointer))) ∧
    ((frame.pointerKey pointer, node) ∉ compilation.progress.forward →
      ∀ first, .declared (.pointer frame pointer) (frame.pointerKey pointer) first ∈
          compilation.journal →
        (node = first ↔
          Stands before (.key (frame.pointerKey pointer)) first ∨
            registered? before (frame.pointerKey pointer) = none ∧
              [.left, .visited frame target (some first)] <+: before)) := by
  have coherent := journal_coherent built
  rw [answered] at coherent
  have answer := coherent.follows later target leads
  refine ⟨answer.denotes_iff (coherent.of_append later).2 leads, ?_⟩
  intro handedOut first declared
  rw [stands_key_iff]
  cases answer with
  | stored registered => simp [registered]
  | forward missing awaited handed fresh => exact absurd handed handedOut
  | made older resolved closed undeclared =>
      have declaredLater : .declared (.pointer frame pointer) (frame.pointerKey pointer) first ∈
          later := by
        rw [answered] at declared
        rcases List.mem_append.mp declared with inLater | inBefore
        · exact inLater
        · rcases List.mem_cons.mp inBefore with same | earlier
          · cases same
          · exact absurd earlier (undeclared first)
      have missing := coherent.missing_of_declared_later (by simp) (by simp) closed declaredLater
      subst resolved
      simp [missing, eq_comm]

/-- A pointer to a definition, in a document whose other names are no pointers. -/
def plainPointer : Json :=
  .object [("properties", .object [("size", .object [("$ref", .string "#/definitions/x")])]),
    ("definitions", .object [("x", .object [("type", .string "number")])])]

/-- A pointer to a definition whose key is registered for the pointer itself. -/
theorem followed_denotes_iff_plainPointer :
    ∃ compilation before, build ⟨{}, .ofFiles []⟩ plainPointer none = .ok compilation ∧
      .followed (rootFrame plainPointer none) "definitions/x" (some 0) :: before <:+
        compilation.journal ∧
      Pointer.lookup? plainPointer (Pointer.segments "definitions/x") =
        some (.object [("type", .string "number")]) ∧
      (.declared (.pointer (rootFrame plainPointer none) "definitions/x") "definitions/x" 0 ∈
          compilation.journal) ∧
      (Stands before (.key "definitions/x") 0 ∨ registered? before "definitions/x" = none ∧
        [.left, .visited (rootFrame plainPointer none) (.object [("type", .string "number")])
          (some 0)] <+: before) := by
  obtain ⟨compilation, built, checked⟩ := exists_ok
    (show (build ⟨{}, .ofFiles []⟩ plainPointer none).toOption.any (fun compilation => decide
      (compilation.journal.take 3 ++
          .followed (rootFrame plainPointer none) "definitions/x" (some 0) ::
            compilation.journal.drop 4 = compilation.journal ∧
        ("definitions/x", 0) ∉ compilation.progress.forward ∧
        .declared (.pointer (rootFrame plainPointer none) "definitions/x") "definitions/x" 0 ∈
          compilation.journal)) = true by decide +kernel)
  obtain ⟨answered, handedOut, declared⟩ := of_decide_eq_true checked
  have leads : Pointer.lookup? plainPointer (Pointer.segments "definitions/x") =
      some (.object [("type", .string "number")]) := by decide +kernel
  exact ⟨compilation, compilation.journal.drop 4, built, ⟨_, answered⟩, leads, declared,
    ((followed_denotes_iff built answered.symm leads).2 handedOut 0 declared).mp rfl⟩

/-- A title that reads like the pointer of the other property. -/
def maskedPointer : Json :=
  .object [("properties", .object [
      ("name", .object [("title", .string "definitions/x"), ("type", .string "string")]),
      ("size", .object [("$ref", .string "#/definitions/x")])]),
    ("definitions", .object [("x", .object [("type", .string "number")])])]

/-- The text of the title is met first under the key of the pointer, which leads to a number but is
answered with the text, and its own target is never resolved. -/
theorem maskedPointer_misled :
    ∃ compilation before, build ⟨{}, .ofFiles []⟩ maskedPointer none = .ok compilation ∧
      .followed (rootFrame maskedPointer none) "definitions/x" (some 0) :: before <:+
        compilation.journal ∧
      Pointer.lookup? maskedPointer (Pointer.segments "definitions/x") =
        some (.object [("type", .string "number")]) ∧
      (compilation.model.node 0).shape = .primitive .string ∧
      ¬Denotes compilation.progress.forward before (rootFrame maskedPointer none) "definitions/x"
        (.object [("type", .string "number")]) 0 := by
  obtain ⟨compilation, built, checked⟩ := exists_ok
    (show (build ⟨{}, .ofFiles []⟩ maskedPointer none).toOption.any (fun compilation => decide
      (compilation.journal.take 3 ++
          .followed (rootFrame maskedPointer none) "definitions/x" (some 0) ::
            compilation.journal.drop 4 = compilation.journal ∧
        (compilation.model.node 0).shape = .primitive .string ∧
        .visited (rootFrame maskedPointer none) (.object [("type", .string "number")]) (some 0) ∉
          compilation.journal.drop 4 ∧
        ("definitions/x", 0) ∉ compilation.progress.forward)) = true by decide +kernel)
  obtain ⟨answered, shape, unvisited, handedOut⟩ := of_decide_eq_true checked
  refine ⟨compilation, compilation.journal.drop 4, built, ⟨_, answered⟩, by decide +kernel,
    shape, ?_⟩
  rintro (visited | ⟨-, handed⟩)
  · exact unvisited visited
  · exact handedOut handed

end Compilation
end SchemaTypes
