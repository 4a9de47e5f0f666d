/-
This file holds tables whose keys keep the order in which they were first written.
-/

namespace SchemaTypes

abbrev Table (α : Type) : Type := List (String × α)

namespace Table

variable {α : Type}

/-- A key that is written again keeps its place and takes the later value. -/
def put (key : String) (value : α) : Table α → Table α
  | [] => [(key, value)]
  | (other, old) :: rest =>
    if other = key then (key, value) :: rest else (other, old) :: put key value rest

def get? (table : Table α) (key : String) : Option α := table.lookup key

def keys (table : Table α) : List String := table.map Prod.fst

def values (table : Table α) : List α := table.map Prod.snd

theorem get?_cons (entry : String × α) (table : Table α) (key : String) :
    get? (entry :: table) key = if entry.1 = key then some entry.2 else get? table key := by
  obtain ⟨other, value⟩ := entry
  by_cases same : other = key
  · simp [get?, same]
  · have different : (key == other) = false := by simpa using fun equal => same equal.symm
    simp [get?, List.lookup_cons, same, different]

theorem get?_put (key other : String) (value : α) (table : Table α) :
    get? (put key value table) other = if key = other then some value else get? table other := by
  induction table with
  | nil => simp [put, get?_cons]
  | cons entry rest inductionHypothesis =>
    by_cases same : entry.1 = key
    · simp only [put, same, ↓reduceIte, get?_cons]
      split <;> rfl
    · simp only [put, same, ↓reduceIte, get?_cons, inductionHypothesis]
      grind

theorem keys_put (key : String) (value : α) (table : Table α) :
    keys (put key value table) =
      if key ∈ keys table then keys table else keys table ++ [key] := by
  induction table with
  | nil => simp [put, keys]
  | cons entry rest inductionHypothesis =>
    simp only [keys] at inductionHypothesis ⊢
    by_cases same : entry.1 = key
    · simp [put, same]
    · have other : key ≠ entry.1 := fun equal => same equal.symm
      by_cases member : key ∈ rest.map Prod.fst <;>
        simp [put, same, other, member, inductionHypothesis]

/-- A key keeps its place, and a new one comes last. -/
theorem keys_prefix_put (key : String) (value : α) (table : Table α) :
    keys table <+: keys (put key value table) := by
  rw [keys_put]
  split
  · exact List.prefix_rfl
  · exact List.prefix_append _ _

theorem put_of_fresh {key : String} {table : Table α} (fresh : key ∉ keys table) (value : α) :
    put key value table = table ++ [(key, value)] := by
  induction table with
  | nil => rfl
  | cons entry rest inductionHypothesis =>
    simp only [keys, List.map_cons, List.mem_cons, not_or] at fresh
    rw [put, if_neg (Ne.symm fresh.1), inductionHypothesis fresh.2, List.cons_append]

theorem mem_values_put {key : String} {value other : α} {table : Table α}
    (member : other ∈ values (put key value table)) : other = value ∨ other ∈ values table := by
  induction table with
  | nil => simpa [put, values] using member
  | cons entry rest inductionHypothesis =>
    simp only [values] at inductionHypothesis member ⊢
    by_cases same : entry.1 = key
    · simp only [put, same, ↓reduceIte, List.map_cons, List.mem_cons] at member ⊢
      exact member.imp_right .inr
    · simp only [put, same, ↓reduceIte, List.map_cons, List.mem_cons] at member ⊢
      rcases member with first | later
      · exact .inr (.inl first)
      · exact (inductionHypothesis later).imp_right .inr

theorem mem_values_of_get? {table : Table α} {key : String} {value : α}
    (found : get? table key = some value) : value ∈ values table := by
  induction table with
  | nil => simp [get?] at found
  | cons entry rest inductionHypothesis =>
    rw [get?_cons] at found
    split at found
    · simp [values, Option.some.inj found]
    · exact List.mem_cons_of_mem _ (inductionHypothesis found)

theorem nodup_keys_put {table : Table α} (distinct : (keys table).Nodup) (key : String)
    (value : α) : (keys (put key value table)).Nodup := by
  rw [keys_put]
  split
  · exact distinct
  · next fresh =>
    rw [List.nodup_append]
    refine ⟨distinct, by simp, ?_⟩
    rintro old member new isNew rfl
    exact fresh (List.mem_singleton.mp isNew ▸ member)

theorem isSome_get? (table : Table α) (key : String) :
    (get? table key).isSome ↔ key ∈ keys table := by
  induction table with
  | nil => simp [get?, keys]
  | cons entry rest inductionHypothesis =>
    by_cases same : entry.1 = key
    · simp [get?_cons, keys, same]
    · have other : key ≠ entry.1 := fun equal => same equal.symm
      simp only [keys] at inductionHypothesis
      simp [get?_cons, keys, same, other, inductionHypothesis]

/-- What a table with distinct keys holds is what its keys give. -/
theorem mem_iff_get? {table : Table α} (distinct : (keys table).Nodup) {key : String} {value : α} :
    (key, value) ∈ table ↔ get? table key = some value := by
  induction table with
  | nil => simp [get?]
  | cons entry rest inductionHypothesis =>
    obtain ⟨absent, restDistinct⟩ := List.nodup_cons.mp distinct
    rw [get?_cons, List.mem_cons, inductionHypothesis restDistinct]
    by_cases same : entry.1 = key
    · have missing : get? rest key ≠ some value := by
        intro found
        exact absent (same ▸ (isSome_get? rest key).mp (by simp [found]))
      simp [Prod.ext_iff, same, missing, eq_comm]
    · simp [Prod.ext_iff, same, Ne.symm same]

/-- A table whose keys are distinct holds nothing but what its keys give. -/
theorem mem_values_iff {table : Table α} (distinct : (keys table).Nodup) {value : α} :
    value ∈ values table ↔ ∃ key, get? table key = some value := by
  simp only [values, List.mem_map, Prod.exists, exists_eq_right, mem_iff_get? distinct]

end Table
end SchemaTypes
