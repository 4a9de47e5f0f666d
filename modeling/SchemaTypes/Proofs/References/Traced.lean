/-
This file shows that the journal of a compilation is coherent: every event in it follows from the
events before it.
-/
import SchemaTypes.Proofs.References.Answer

namespace SchemaTypes

open Build

/-- Events that say nothing about the nodes of fragments and of pointers. -/
def Event.isQuiet : Event → Bool
  | .visited .. => false
  | .entered .. => false
  | .left => false
  | .followed .. => false
  | .declared (.pointer ..) .. => false
  | _ => true

theorem Event.isQuiet_follows {event : Event} (quiet : event.isQuiet = true)
    (forward : List (String × NodeId)) (before : List Event) : event.Follows forward before := by
  cases event with
  | declared origin key node =>
      cases origin with
      | pointer frame pointer => cases quiet
      | _ => trivial
  | entered frame pointer => cases quiet
  | followed frame pointer node => cases quiet
  | _ => trivial

theorem Event.isQuiet_openPointers {event : Event} (quiet : event.isQuiet = true)
    (before : List Event) : openPointers (event :: before) = openPointers before := by
  cases event with
  | entered frame pointer => cases quiet
  | left => cases quiet
  | _ => rfl

/-- What the journal tells about the pointers of a compilation. -/
structure Progress.Traced (progress : Progress) : Prop where
  pending : progress.pending = openKeys progress.journal
  coherent : Coherent progress.forward progress.journal
  visited : ∀ frame fragment node, .visited frame fragment (some node) ∈ progress.journal →
    node < progress.model.size
  unfinished : ∀ frame pointer key node,
    .declared (.pointer frame pointer) key node ∈ progress.journal → key ∉ progress.pending

namespace Progress.Traced

variable {before after : Progress}

theorem start (frame : Frame) : (Progress.start frame).Traced :=
  ⟨rfl, trivial, by simp [Progress.start], by simp [Progress.start]⟩

/-- What is traced stays so when nothing is noted. -/
theorem grow (traced : before.Traced) (journal : after.journal = before.journal)
    (pending : after.pending = before.pending) (forward : before.forward ⊆ after.forward)
    (size : before.model.size ≤ after.model.size) : after.Traced where
  pending := by rw [pending, journal, traced.pending]
  coherent := by rw [journal]; exact traced.coherent.mono forward
  visited frame fragment node member := by
    rw [journal] at member
    exact Nat.lt_of_lt_of_le (traced.visited frame fragment node member) size
  unfinished frame pointer key node member := by
    rw [journal] at member
    rw [pending]
    exact traced.unfinished frame pointer key node member

/-- One more event is traced if it follows from the journal and fits the pending pointers. -/
theorem extend (traced : before.Traced) {event : Event}
    (journal : after.journal = event :: before.journal) (forward : after.forward = before.forward)
    (size : before.model.size ≤ after.model.size)
    (follows : event.Follows before.forward before.journal)
    (known : ∀ frame fragment node, event = .visited frame fragment (some node) →
      node < after.model.size)
    (pending : after.pending = openKeys after.journal)
    (awaited : ∀ key ∈ after.pending,
      key ∈ before.pending ∨ registered? before.journal key = none)
    (fresh : ∀ frame pointer key node, event = .declared (.pointer frame pointer) key node →
      key ∉ after.pending) : after.Traced where
  pending := pending
  coherent := by
    rw [journal, forward]
    exact ⟨follows, traced.coherent⟩
  visited frame fragment node member := by
    rw [journal] at member
    rcases List.mem_cons.mp member with same | old
    · exact known frame fragment node same.symm
    · exact Nat.lt_of_lt_of_le (traced.visited frame fragment node old) size
  unfinished frame pointer key node member := by
    rw [journal] at member
    rcases List.mem_cons.mp member with same | old
    · exact fresh frame pointer key node same.symm
    · intro inside
      rcases awaited key inside with earlier | missing
      · exact traced.unfinished frame pointer key node old earlier
      · obtain ⟨last, registered⟩ := registered?_of_declared old
        rw [missing] at registered
        cases registered

theorem noteQuiet (traced : before.Traced) {event : Event} (quiet : event.isQuiet = true) :
    (before.note event).Traced := by
  refine traced.extend rfl rfl (Nat.le_refl _) (Event.isQuiet_follows quiet _ _) ?_ ?_
    (fun _ => .inl) ?_
  · rintro frame fragment node rfl
    cases quiet
  · rw [openKeys, Progress.note, Event.isQuiet_openPointers quiet]
    exact traced.pending
  · rintro frame pointer key node rfl
    cases quiet

theorem noteVisited (traced : before.Traced) (frame : Frame) (fragment : Json) {node : NodeId}
    (known : node < before.model.size) :
    (before.note (.visited frame fragment (some node))).Traced := by
  refine traced.extend rfl rfl (Nat.le_refl _) trivial ?_ traced.pending
    (fun _ => .inl) (by simp)
  intro other part made same
  simp only [Event.visited.injEq, Option.some.injEq] at same
  obtain ⟨-, -, rfl⟩ := same
  exact known

theorem noteFollowed (traced : before.Traced) {frame : Frame} {pointer : String} {node : NodeId}
    (follows : (Event.followed frame pointer (some node)).Follows before.forward before.journal) :
    (before.note (.followed frame pointer (some node))).Traced :=
  traced.extend rfl rfl (Nat.le_refl _) follows (by simp) traced.pending
    (fun _ => .inl) (by simp)

theorem enter (traced : before.Traced) {frame : Frame} {pointer : String}
    (missing : registered? before.journal (frame.pointerKey pointer) = none)
    (fresh : frame.pointerKey pointer ∉ before.pending) :
    (before.enter frame pointer).Traced := by
  refine traced.extend rfl rfl (Nat.le_refl _) ⟨missing, traced.pending ▸ fresh⟩ (by simp) ?_ ?_
    (by simp)
  · exact congrArg (frame.pointerKey pointer :: ·) traced.pending
  · intro key awaited
    rcases List.mem_cons.mp awaited with rfl | earlier
    · exact .inr missing
    · exact .inl earlier

theorem leave (traced : before.Traced) {key : String} {rest : List String}
    (awaited : before.pending = key :: rest) : (before.leave key).Traced := by
  refine traced.extend rfl rfl (Nat.le_refl _) trivial (by simp) ?_
    (fun _ later => .inl (List.mem_of_mem_erase later)) (by simp)
  have keys : openKeys before.journal = key :: rest := traced.pending ▸ awaited
  change before.pending.erase key = (openPointers before.journal).tail.map _
  rw [List.map_tail]
  change _ = (openKeys before.journal).tail
  rw [keys, awaited, List.erase_cons_head]
  rfl

/-- The declaration of a target comes after its pointer was left. -/
theorem declarePointer (traced : before.Traced) {frame : Frame} {pointer : String} (name : String)
    {node : NodeId} (fresh : frame.pointerKey pointer ∉ before.pending)
    (follows : (Event.declared (.pointer frame pointer) (frame.pointerKey pointer) node).Follows
      before.forward before.journal) :
    (before.declare (.pointer frame pointer) (frame.pointerKey pointer) node name).Traced := by
  refine traced.extend rfl rfl (by simp [Progress.declare]) follows (by simp) traced.pending
    (fun _ => .inl) ?_
  intro other text key made same
  simp only [Event.declared.injEq] at same
  obtain ⟨-, rfl, -⟩ := same
  exact fresh

/-- A pointer that was left has been declared, or its target is no declaration of its own. -/
theorem finish {context : Context} {pointer : String} {target : Json} {node : NodeId}
    {rest : List String} (traced : before.Traced)
    (awaited : before.pending = before.frame.pointerKey pointer :: rest)
    (found : Pointer.lookup? before.frame.document (Pointer.segments pointer) = some target)
    (made : before.journal.head? = some (.visited before.frame target (some node)))
    (entered : (openPointers before.journal).head? = some (before.frame, pointer)) :
    ((finishPointer context.settings before.frame pointer node
        (before.leave (before.frame.pointerKey pointer))).note
      (.followed before.frame pointer (some node))).Traced := by
  obtain ⟨older, journal⟩ : ∃ older,
      before.journal = .visited before.frame target (some node) :: older := by
    cases events : before.journal with
    | nil => simp [events] at made
    | cons event older =>
        rw [events] at made
        exact ⟨older, by rw [Option.some.inj made]⟩
  have left := traced.leave awaited
  have fresh : before.frame.pointerKey pointer ∉
      (before.leave (before.frame.pointerKey pointer)).pending := by
    intro again
    have distinct := traced.coherent.nodup_openKeys
    rw [← traced.pending, awaited] at distinct
    simp only [Progress.leave, awaited, List.erase_cons_head] at again
    exact (List.nodup_cons.mp distinct).1 again
  have released : ((before.leave (before.frame.pointerKey pointer)).release
      (before.frame.pointerKey pointer)).Traced :=
    left.grow rfl rfl (List.Subset.refl _) (Nat.le_refl _)
  simp only [finishPointer]
  split
  · have declared := released.declarePointer (pointerName context.settings pointer) fresh
      ⟨rfl, target, older, found, by rw [← journal]; rfl, by rw [journal] at entered; exact entered⟩
    refine declared.noteFollowed ?_
    intro other _
    exact .stored (by
      simp [registered?, registrations, Event.registration?, Progress.declare])
  · refine released.noteFollowed ?_
    intro other leads
    rw [found] at leads
    obtain rfl := Option.some.inj leads
    refine .made older (by rw [← journal]; rfl) ?_ ?_
    · intro again
      refine fresh ?_
      rw [left.pending]
      exact List.mem_map_of_mem again
    · intro first member
      rcases List.mem_cons.mp member with same | old
      · cases same
      · refine traced.unfinished _ _ _ first old ?_
        rw [awaited]
        exact List.mem_cons_self

theorem step {context : Context} (before after : Progress)
    (change : Transition context before after) (recorded : before.Recorded)
    (traced : before.Traced) : after.Traced := by
  have stored (key : String) : before.declarations.get? key = registered? before.journal key := by
    rw [recorded.declarations, Declarations.get?_ofJournal]
    rfl
  have same : before.forward ⊆ before.forward := List.Subset.refl _
  cases change with
  | allocated shape => exact traced.grow rfl rfl same (by simp [Progress.add])
  | titled node name => exact traced.grow rfl rfl same (by simp [Progress.setId])
  | described node description =>
      exact traced.grow rfl rfl same (by simp [Progress.setDescription])
  | documentReferred =>
      exact traced.grow rfl rfl (List.subset_cons_self _ _) (by simp [Progress.refer])
  | enumStored members chosen =>
      exact (traced.noteQuiet rfl).grow rfl rfl same
        (by simp [Progress.note, Progress.putEnum, Progress.add])
  | named node name =>
      exact (traced.noteQuiet rfl).grow rfl rfl same (by simp [Progress.note, Progress.declare])
  | visited fragment node known => exact traced.noteVisited before.frame fragment known
  | pointerStored pointer node found =>
      rw [stored] at found
      exact traced.noteFollowed fun target leads => .stored found
  | pointerReferred pointer missing awaited =>
      rw [stored] at missing
      have referred : (before.refer (before.frame.pointerKey pointer)
          (pointerName context.settings pointer)).Traced :=
        traced.grow rfl rfl (List.subset_cons_self _ _) (by simp [Progress.refer])
      refine referred.noteFollowed fun target leads => .forward missing ?_ List.mem_cons_self ?_
      · change before.frame.pointerKey pointer ∈ openKeys before.journal
        rw [← traced.pending]
        exact awaited
      · intro other fragment member
        exact Nat.lt_irrefl _ (traced.visited other fragment _ member)
  | pointerLost pointer nowhere =>
      have added : (before.add .any).Traced :=
        traced.grow rfl rfl same (by simp [Progress.add])
      refine added.noteFollowed fun target leads => ?_
      change Pointer.lookup? before.frame.document _ = _ at leads
      rw [nowhere] at leads
      cases leads
  | pointerEntered pointer missing fresh =>
      rw [stored] at missing
      exact traced.enter missing fresh
  | pointerFinished pointer target node rest awaited found known made entered =>
      exact traced.finish awaited found made entered
  | fileStored path node => exact traced.noteQuiet rfl
  | fileReferred path frame =>
      have referred : (before.refer path.text frame.name).Traced :=
        traced.grow rfl rfl (List.subset_cons_self _ _) (by simp [Progress.refer])
      exact referred.noteQuiet rfl
  | fileOpened path text document =>
      exact (traced.noteQuiet rfl).grow rfl rfl same (Nat.le_refl _)
  | fileDeclared path node name enclosing outer own nested =>
      rw [Progress.pop_of_outer nested]
      have declared : (before.note (.declared (.file path) path.text node)).Traced :=
        traced.noteQuiet rfl
      exact (declared.noteQuiet rfl).grow rfl rfl same
        (by simp [Progress.note, Progress.remember, Progress.add, Progress.declare,
          Progress.release])
  | fileInlined path node enclosing outer own nested =>
      rw [Progress.pop_of_outer nested]
      refine noteQuiet ?_ rfl
      simp only [inlineFile]
      split
      · exact traced.grow rfl rfl same (Nat.le_refl _)
      · exact traced.grow rfl rfl same (by simp [Progress.remember, Progress.setId,
          Progress.release])

end Progress.Traced
end SchemaTypes
