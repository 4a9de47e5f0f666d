/-
This file walks paths through trees of directories. Main statement: the normal form of a path leads
from every place of every tree to where the path leads, and two paths lead to the same places
exactly if they have the same normal form.
-/
import SchemaTypes.Proofs.Path.NormalForm

namespace SchemaTypes.Path

/-- A tree of directories without links. Every name leads down from every place, the way up takes
the last step down back, and above the root there is the root again. -/
structure Directories (Place : Type) where
  root : Place
  up : Place → Place
  down : Place → String → Place
  up_root : up root = root
  up_down (place : Place) (name : String) : up (down place name) = place

namespace Directories

variable {Place : Type}

def step (tree : Directories Place) (place : Place) : Step → Place
  | .current => place
  | .parent => tree.up place
  | .child name => tree.down place name

/-- A rooted path is walked from the root, wherever the walk begins. -/
def start (tree : Directories Place) (place : Place) (path : Path) : Place :=
  if path.rooted then tree.root else place

def walk (tree : Directories Place) (place : Place) (path : Path) : Place :=
  path.steps.foldl tree.step (tree.start place path)

/-- Where reversed steps lead. -/
def trail (tree : Directories Place) (place : Place) (reversed : List Step) : Place :=
  reversed.foldr (fun step place => tree.step place step) place

/-- The tree in which a place is the names that lead to it from the root, the last one first. -/
def ofNames : Directories (List String) where
  root := []
  up := List.tail
  down place name := name :: place
  up_root := rfl
  up_down _ _ := rfl

variable {tree : Directories Place} {place : Place} {rooted : Bool} {reversed : List Step}

/-- A step up leads up, since steps are only forgotten where they lead down or stay at the root. -/
theorem trail_climb (atRoot : rooted = true → place = tree.root)
    (settled : Settled rooted reversed) :
    tree.trail place (climb rooted reversed) = tree.up (tree.trail place reversed) := by
  cases settled with
  | child name settled => exact (tree.up_down _ name).symm
  | parents count free =>
      cases rooted with
      | true =>
          obtain rfl := free rfl
          obtain rfl := atRoot rfl
          exact tree.up_root.symm
      | false =>
          have one : climb false (List.replicate count .parent) =
              .parent :: List.replicate count .parent := by
            cases count <;> rfl
          rw [one]
          rfl

/-- Each step of a normal form leads where the step itself leads. -/
theorem trail_pushStep (atRoot : rooted = true → place = tree.root)
    (settled : Settled rooted reversed) (step : Step) :
    tree.trail place (pushStep rooted reversed step) =
      tree.step (tree.trail place reversed) step := by
  cases step with
  | current => rfl
  | parent => exact trail_climb atRoot settled
  | child name => rfl

/-- Pushed steps lead where they lead one after the other. -/
theorem trail_foldl_pushStep (atRoot : rooted = true → place = tree.root) (steps : List Step)
    (settled : Settled rooted reversed) :
    tree.trail place (steps.foldl (pushStep rooted) reversed) =
      steps.foldl tree.step (tree.trail place reversed) := by
  induction steps generalizing reversed with
  | nil => rfl
  | cons step steps inductionHypothesis =>
      rw [List.foldl_cons, List.foldl_cons, inductionHypothesis (pushStep_settled step settled),
        trail_pushStep atRoot settled]

/-- A path and its normal form lead to the same place of every tree. -/
theorem walk_normalize (tree : Directories Place) (place : Place) (path : Path) :
    tree.walk place path.normalize = tree.walk place path := by
  have atRoot (rooted : path.rooted = true) : tree.start place path = tree.root := if_pos rooted
  have pushed := trail_foldl_pushStep atRoot path.steps (.parents 0 fun _ => rfl)
  rw [walk, normalize, List.foldl_reverse]
  exact pushed

/-- Steps up forget the last names of a place. -/
theorem foldl_step_climbs (climbs : Nat) (place : List String) :
    (List.replicate climbs Step.parent).foldl ofNames.step place = place.drop climbs := by
  induction climbs generalizing place with
  | zero => rfl
  | succ climbs inductionHypothesis =>
      rw [List.replicate_succ, List.foldl_cons, inductionHypothesis, ← List.drop_tail]
      rfl

/-- Steps down add their names to a place. -/
theorem foldl_step_names (names : List String) (place : List String) :
    (names.map Step.child).foldl ofNames.step place = names.reverse ++ place := by
  induction names generalizing place with
  | nil => rfl
  | cons name names inductionHypothesis =>
      rw [List.map_cons, List.foldl_cons, inductionHypothesis, List.reverse_cons,
        List.append_assoc]
      rfl

end Directories

open Directories

/-- A path in normal form goes up first, unless it is rooted, and then down. -/
structure Normal (path : Path) (climbs : Nat) (names : List String) : Prop where
  steps : path.steps = List.replicate climbs .parent ++ names.map .child
  free : path.rooted = true → climbs = 0

theorem Settled.exists_normal {rooted : Bool} {reversed : List Step}
    (settled : Settled rooted reversed) :
    ∃ climbs names, Normal ⟨rooted, reversed.reverse⟩ climbs names := by
  induction settled with
  | parents count free => exact ⟨count, [], by simp, free⟩
  | child name settled inductionHypothesis =>
      obtain ⟨climbs, names, steps, free⟩ := inductionHypothesis
      dsimp only at steps
      refine ⟨climbs, names ++ [name], ?_, free⟩
      dsimp only
      rw [List.reverse_cons, steps, List.map_append, List.append_assoc]
      rfl

/-- A normal form goes up some steps and then down along some names. -/
theorem exists_normal (path : Path) : ∃ climbs names, Normal path.normalize climbs names := by
  have settled := (normalize_settled path).exists_normal
  rw [List.reverse_reverse] at settled
  exact settled

/-- Normal forms are their own normal forms, step by step. -/
theorem foldl_pushStep_normalize (path : Path) :
    path.normalize.steps.foldl (pushStep path.rooted) [] =
      path.steps.foldl (pushStep path.rooted) [] := by
  have pushed := foldl_pushStep_reverse (normalize_settled path)
  rw [List.reverse_reverse] at pushed
  rw [pushed, normalize, List.reverse_reverse]

/-- What a path is joined to may be brought into its normal form before or after. -/
theorem normalize_join_normalize (path other : Path) :
    (path.normalize.join other).normalize = (path.join other).normalize := by
  unfold join
  split
  · rfl
  · change Path.mk path.rooted ((path.normalize.steps ++ other.steps).foldl
      (pushStep path.rooted) []).reverse = _
    rw [List.foldl_append, foldl_pushStep_normalize, ← List.foldl_append]
    rfl

/-- Where a path in normal form leads from a place that is given by its names. -/
theorem Normal.walk_ofNames {path : Path} {climbs : Nat} {names : List String}
    (normal : Normal path climbs names) (place : List String) :
    ofNames.walk place path =
      names.reverse ++ if path.rooted then [] else place.drop climbs := by
  rw [walk, normal.steps, List.foldl_append, foldl_step_climbs, foldl_step_names, start]
  split
  · rw [show ofNames.root = ([] : List String) from rfl, List.drop_nil]
  · rfl

/-- A path in normal form can be read off the places that it leads to. -/
theorem Normal.eq_of_walk {first second : Path} {climbs otherClimbs : Nat}
    {names otherNames : List String} (normal : Normal first climbs names)
    (other : Normal second otherClimbs otherNames)
    (same : ∀ place, ofNames.walk place first = ofNames.walk place second) : first = second := by
  simp only [normal.walk_ofNames, other.walk_ofNames] at same
  have named : names = otherNames := by simpa using same []
  subst named
  -- From deep enough below the root, the number of names that are left tells the paths apart.
  have high := congrArg List.length (same (List.replicate (climbs + otherClimbs + 1) ""))
  obtain ⟨rooted, steps⟩ := first
  obtain ⟨otherRooted, otherSteps⟩ := second
  obtain ⟨rfl, free⟩ := normal
  obtain ⟨rfl, otherFree⟩ := other
  have apart : rooted = otherRooted ∧ climbs = otherClimbs := by
    cases rooted <;> cases otherRooted <;> simp at high free otherFree ⊢ <;> omega
  obtain ⟨rfl, rfl⟩ := apart
  rfl

/-- What a normal form of a path is. It begins with the root of the path or, without one, with steps
up; the rest is names. -/
structure Canonical (path normal : Path) : Prop where
  rooted : normal.rooted = path.rooted
  form : ∃ climbs names, Normal normal climbs names
  settled : normal.normalize = normal
  joins (other : Path) : (path.join other).normalize = (normal.join other).normalize
  leads {Place : Type} (tree : Directories Place) (place : Place) :
    tree.walk place normal = tree.walk place path
  unique (other : Path) : other.normalize = normal ↔
    ∀ (Place : Type) (tree : Directories Place) (place : Place),
      tree.walk place other = tree.walk place path

/-- The normal form of a path goes up and then down, is its own normal form, can replace the path
wherever another one is joined to it, and leads where the path leads. Paths have the same normal
form exactly if they lead to the same places of all trees. -/
theorem normalize_canonical (path : Path) : Canonical path path.normalize where
  rooted := rfl
  form := exists_normal path
  settled := normalize_normalize path
  joins other := (normalize_join_normalize path other).symm
  leads tree place := walk_normalize tree place path
  unique other := by
    constructor
    · intro same Place tree place
      rw [← walk_normalize tree place other, same, walk_normalize]
    · intro same
      obtain ⟨climbs, names, normal⟩ := exists_normal path
      obtain ⟨otherClimbs, otherNames, otherNormal⟩ := exists_normal other
      refine otherNormal.eq_of_walk normal fun place => ?_
      rw [walk_normalize, walk_normalize]
      exact same (List String) ofNames place

end SchemaTypes.Path
