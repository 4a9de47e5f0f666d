/-
This file shows that no reference waits in vain: a key that was handed out in advance belongs to the
root or is declared in the end.
-/
import Mathlib.Data.List.Nodup
import SchemaTypes.Proofs.Build.Finish

namespace SchemaTypes

open Build

/-- A key that was handed out is declared, or it will be: its declaration is forced, and its pointer
or its document is being resolved. -/
structure Progress.Awaited (progress : Progress) : Prop where
  forward : ∀ entry ∈ progress.forward,
    entry.1 ∈ progress.declarations.named.keys ∨ entry.1 ∈ progress.forced
  forced : ∀ key ∈ progress.forced,
    key ∈ progress.pending ∨ ∃ frame ∈ progress.frames, frame.ownKey = key
  distinct : progress.forced.Nodup

/-- A key that is declared is among the keys. -/
theorem Declarations.mem_keys_declare (declarations : Declarations) (key : String) (node : NodeId) :
    key ∈ (declarations.declare key node).named.keys := by
  rw [declare, Table.keys_put]
  split
  · assumption
  · exact List.mem_append_right _ List.mem_cons_self

/-- No key is lost when another one is declared. -/
theorem Declarations.keys_subset_declare (declarations : Declarations) (key : String)
    (node : NodeId) : declarations.named.keys ⊆ (declarations.declare key node).named.keys :=
  (Table.keys_prefix_put key node declarations.named).subset

namespace Progress.Awaited

variable {before after : Progress}

/-- At the beginning no key is handed out. -/
theorem start (frame : Frame) : (Progress.start frame).Awaited :=
  ⟨by simp [Progress.start], by simp [Progress.start], List.nodup_nil⟩

/-- No key waits in vain as long as its pointer or its document is being resolved. -/
theorem grow (awaited : before.Awaited) (forward : after.forward = before.forward)
    (keys : before.declarations.named.keys ⊆ after.declarations.named.keys)
    (forced : after.forced = before.forced) (pending : before.pending ⊆ after.pending)
    (frames : before.frames ⊆ after.frames) : after.Awaited where
  forward entry member := by
    rw [forward] at member
    rw [forced]
    exact (awaited.forward entry member).imp_left (keys ·)
  forced key member := by
    rw [forced] at member
    rcases awaited.forced key member with inside | ⟨frame, opened, own⟩
    · exact .inl (pending inside)
    · exact .inr ⟨frame, frames opened, own⟩
  distinct := by
    rw [forced]
    exact awaited.distinct

/-- A key is handed out only while its pointer or its document is being resolved. -/
theorem refer (awaited : before.Awaited) {key : String} (name : String)
    (underway : key ∈ before.pending ∨ ∃ frame ∈ before.frames, frame.ownKey = key) :
    (before.refer key name).Awaited where
  forward entry member := by
    rcases List.mem_cons.mp member with rfl | old
    · exact .inr (List.mem_insert_self ..)
    · exact (awaited.forward entry old).imp_right (List.mem_insert_of_mem ·)
  forced other member := by
    rcases List.mem_insert_iff.mp member with rfl | old
    · exact underway
    · exact awaited.forced other old
  distinct := awaited.distinct.insert

/-- When the pointer or the document of a key is finished, the key is declared if it was handed
out. -/
theorem finish (awaited : before.Awaited) {key : String}
    (forward : after.forward = before.forward)
    (keys : before.declarations.named.keys ⊆ after.declarations.named.keys)
    (declared : key ∈ before.forced → key ∈ after.declarations.named.keys)
    (forced : after.forced = before.forced.erase key)
    (pending : ∀ other ∈ before.pending, other = key ∨ other ∈ after.pending)
    (frames : ∀ frame ∈ before.frames, frame.ownKey = key ∨ frame ∈ after.frames) :
    after.Awaited where
  forward entry member := by
    rw [forward] at member
    rcases awaited.forward entry member with stored | wanted
    · exact .inl (keys stored)
    · by_cases same : entry.1 = key
      · exact .inl (same ▸ declared (same ▸ wanted))
      · rw [forced]
        exact .inr ((List.mem_erase_of_ne same).mpr wanted)
  forced other member := by
    rw [forced, awaited.distinct.mem_erase_iff] at member
    obtain ⟨different, wanted⟩ := member
    rcases awaited.forced other wanted with inside | ⟨frame, opened, rfl⟩
    · exact .inl ((pending other inside).resolve_left different)
    · exact .inr ⟨frame, (frames frame opened).resolve_left different, rfl⟩
  distinct := by
    rw [forced]
    exact awaited.distinct.erase key

/-- Every change keeps what is handed out on its way to a declaration. -/
theorem step {context : Context} (before after : Progress)
    (change : Transition context before after) (awaited : before.Awaited) : after.Awaited := by
  have same : before.declarations.named.keys ⊆ before.declarations.named.keys := List.Subset.refl _
  have pending : before.pending ⊆ before.pending := List.Subset.refl _
  have frames : before.frames ⊆ before.frames := List.Subset.refl _
  have closed {key : String} {enclosing : Frame} {outer : List Frame}
      (own : before.frame.key = some key) (nested : before.outer = enclosing :: outer) :
      ∀ frame ∈ before.frames, frame.ownKey = key ∨ frame ∈ enclosing :: outer := by
    intro frame opened
    rcases List.mem_cons.mp opened with rfl | remaining
    · simp [Frame.ownKey, own]
    · rw [nested] at remaining
      exact .inr remaining
  cases change with
  | named node name =>
      exact awaited.grow rfl (Declarations.keys_subset_declare ..) rfl pending frames
  | documentReferred =>
      exact awaited.refer _ (.inr ⟨before.frame, List.mem_cons_self, rfl⟩)
  | pointerReferred pointer missing waiting =>
      exact (awaited.refer (pointerName context.settings pointer) (.inl waiting)).grow rfl same rfl
        pending frames
  | fileReferred path frame opened key =>
      refine (awaited.refer frame.name (.inr ⟨frame, opened, ?_⟩)).grow rfl same rfl pending frames
      simp [Frame.ownKey, key]
  | pointerEntered pointer =>
      exact awaited.grow rfl same rfl (List.subset_cons_self _ _) frames
  | fileOpened path text document =>
      exact awaited.grow rfl same rfl pending (List.subset_cons_self _ _)
  | pointerFinished pointer target node rest waiting =>
      have left : ∀ other ∈ before.pending, other = before.frame.pointerKey pointer ∨
          other ∈ (before.leave (before.frame.pointerKey pointer)).pending := by
        intro other inside
        by_cases same : other = before.frame.pointerKey pointer
        · exact .inl same
        · exact .inr ((List.mem_erase_of_ne same).mpr inside)
      simp only [finishPointer]
      split
      · exact awaited.finish rfl (Declarations.keys_subset_declare ..)
          (fun _ => Declarations.mem_keys_declare ..) rfl left fun _ => .inr
      · next unneeded =>
        refine awaited.finish rfl same ?_ rfl left fun _ => .inr
        intro forced
        refine absurd ?_ unneeded
        simp [Progress.needsDeclaration, Progress.leave, forced]
  | fileDeclared path node name enclosing outer own nested =>
      rw [Progress.pop_of_outer nested]
      exact awaited.finish rfl (Declarations.keys_subset_declare ..)
        (fun _ => Declarations.mem_keys_declare ..) rfl (fun _ => .inr) (closed own nested)
  | fileInlined path node enclosing outer own nested known unforced =>
      rw [Progress.pop_of_outer nested]
      simp only [inlineFile]
      split
      · exact awaited.finish rfl same (absurd · unforced) rfl (fun _ => .inr) (closed own nested)
      · exact awaited.finish rfl same (absurd · unforced) rfl (fun _ => .inr) (closed own nested)
  | _ => exact awaited.grow rfl same rfl pending frames

end Progress.Awaited

/-- At the end only the root is still awaited, whose declaration comes last. -/
theorem Compilation.awaited_of_run {context : Context} {frame : Frame} {last : Progress}
    (passage : Passage context (Progress.start frame) last) :
    ∀ entry ∈ last.forward,
      entry.1 = frame.ownKey ∨ entry.1 ∈ last.declarations.named.keys := by
  have awaited := passage.run.keeps Progress.Awaited.step (.start frame)
  intro entry member
  rcases awaited.forward entry member with stored | forced
  · exact .inr stored
  · rcases awaited.forced entry.1 forced with waiting | ⟨current, opened, own⟩
    · rw [passage.pending] at waiting
      cases waiting
    · rw [Progress.frames, passage.frame, passage.outer] at opened
      obtain rfl := List.mem_singleton.mp opened
      exact .inl own.symm

end SchemaTypes
