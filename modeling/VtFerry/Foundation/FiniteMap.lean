import Mathlib.Data.List.AList

/-!
# Finite maps

Association lists with unique keys, as Mathlib's `AList` provides them, with
the two bulk operations of a hash map that Mathlib lacks: updating one value
in place and retaining the values that satisfy a predicate.  Every operation
is described by its effect on `lookup`, so that no later proof looks at the
order of the entries.
-/

universe u v

/-- Maps from keys in `K` to values in `V`. -/
abbrev FiniteMap (K : Type u) (V : Type v) := AList (fun _ : K => V)

namespace FiniteMap

variable {K : Type u} {V : Type v} [DecidableEq K]

def values (map : FiniteMap K V) : List V :=
  map.entries.map (·.2)

def modify (map : FiniteMap K V) (key : K) (change : V → V) :
    FiniteMap K V where
  entries := map.entries.map (Sigma.map id fun found value =>
    if found = key then change value else value)
  nodupKeys := List.NodupKeys.map₂ (fun found value => if found = key then change value else value)
    map.entries map.nodupKeys

def retain (map : FiniteMap K V) (keep : K → V → Bool) : FiniteMap K V where
  entries := map.entries.filter fun entry => keep entry.1 entry.2
  nodupKeys := map.nodupKeys.sublist List.filter_sublist

variable {map : FiniteMap K V} {key : K} {value : V}

theorem lookup_eq_some_iff : map.lookup key = some value ↔ ⟨key, value⟩ ∈ map.entries :=
  AList.mem_lookup_iff

theorem mem_values_iff : value ∈ map.values ↔ ∃ key, map.lookup key = some value := by
  simp only [values, List.mem_map, lookup_eq_some_iff]
  constructor
  · rintro ⟨⟨key, _⟩, member, rfl⟩
    exact ⟨key, member⟩
  · rintro ⟨key, member⟩
    exact ⟨⟨key, value⟩, member, rfl⟩

@[simp] theorem lookup_insert_eq (map : FiniteMap K V) (key other : K) (value : V) :
    (map.insert key value).lookup other =
      if other = key then some value else map.lookup other := by
  by_cases same : other = key
  · subst same
    simp
  · simp [AList.lookup_insert_ne same, same]

@[simp] theorem lookup_erase_eq (map : FiniteMap K V) (key other : K) :
    (map.erase key).lookup other =
      if other = key then none else map.lookup other := by
  by_cases same : other = key
  · subst same
    simp
  · simp [AList.lookup_erase_ne same, same]

theorem lookup_of_erase {other : K} (found : (map.erase key).lookup other = some value) :
    map.lookup other = some value := by
  rw [lookup_erase_eq] at found
  split at found
  · cases found
  · exact found

@[simp] theorem lookup_modify (map : FiniteMap K V) (key other : K) (change : V → V) :
    (map.modify key change).lookup other =
      if other = key then (map.lookup other).map change
      else map.lookup other := by
  have mapped := List.dlookup_map₂ (l := map.entries)
    (f := fun found value => if found = key then change value else value) other
  by_cases same : other = key
  · simpa [AList.lookup, modify, same] using mapped
  · simpa [AList.lookup, modify, same] using mapped

theorem modify_modify (map : FiniteMap K V) (key : K) (first second : V → V) :
    (map.modify key first).modify key second =
      map.modify key fun value => second (first value) := by
  apply AList.ext
  simp only [modify, List.map_map]
  apply List.map_congr_left
  rintro ⟨found, value⟩ -
  by_cases same : found = key
  · simp [Sigma.map, same]
  · simp [Sigma.map, same]

theorem modify_of_fixed {change : V → V}
    (fixed : ∀ value, map.lookup key = some value → change value = value) :
    map.modify key change = map := by
  apply AList.ext
  simp only [modify]
  nth_rewrite 2 [← List.map_id map.entries]
  apply List.map_congr_left
  rintro ⟨found, value⟩ member
  by_cases same : found = key
  · subst same
    simp [Sigma.map, fixed value (lookup_eq_some_iff.mpr member)]
  · simp [Sigma.map, same]

@[simp] theorem lookup_retain (map : FiniteMap K V) (keep : K → V → Bool) (key : K) :
    (map.retain keep).lookup key = (map.lookup key).filter (keep key) := by
  ext value
  rw [Option.filter_eq_some_iff]
  simp [lookup_eq_some_iff, retain]

theorem lookup_of_retain {keep : K → V → Bool} (found : (map.retain keep).lookup key = some value) :
    map.lookup key = some value := by
  rw [lookup_retain] at found
  exact (Option.filter_eq_some_iff.mp found).1

end FiniteMap
