import Mathlib.Algebra.Ring.Nat
import Mathlib.Data.List.Nodup

/-!
# Lists searched by a key

A list whose elements carry a key stands for a map as long as no key occurs
twice.  `modifyFirst` changes the first element that meets a test, which is
what code does that searches a position and then writes to it.  The lemmas
describe every change by lookups.
-/

universe u v

namespace KeyedList

open List

variable {α : Type u} {β : Type v}

/-- Change the first element that meets the test. -/
def modifyFirst (test : α → Bool) (change : α → α) : List α → List α
  | [] => []
  | item :: items =>
    if test item then change item :: items
    else item :: modifyFirst test change items

variable {test : α → Bool} {change : α → α} {items : List α} {item : α}

/-- A change that turns the test off leaves one element fewer that meets
it. -/
theorem countP_modifyFirst (found : items.find? test = some item)
    (off : ∀ item, test (change item) = false) :
    (modifyFirst test change items).countP test + 1 = items.countP test := by
  induction items with
  | nil => cases found
  | cons first rest induction =>
    rw [find?_cons] at found
    cases holds : test first with
    | true => simp [modifyFirst, holds, off]
    | false =>
      rw [holds] at found
      simp [modifyFirst, holds, induction found]

variable (key : α → Nat)

def find (items : List α) (id : Nat) : Option α :=
  items.find? fun item => key item == id

@[simp] theorem find_nil (id : Nat) : find key [] id = none :=
  rfl

theorem find_cons (item : α) (items : List α) (id : Nat) :
    find key (item :: items) id =
      if key item = id then some item else find key items id := by
  by_cases same : key item = id
  · simp [find, same]
  · simp [find, same]

variable {key}
variable {id : Nat}

theorem mem_of_find (found : find key items id = some item) : item ∈ items :=
  mem_of_find?_eq_some found

theorem key_of_find (found : find key items id = some item) : key item = id := by
  have tested := find?_some found
  exact beq_iff_eq.mp tested

theorem find_eq_none_iff : find key items id = none ↔ ∀ item ∈ items, key item ≠ id := by
  simp [find]

theorem find_of_mem (distinct : (items.map key).Nodup) (mem : item ∈ items) :
    find key items (key item) = some item := by
  induction items with
  | nil => exact absurd mem not_mem_nil
  | cons first items induction =>
    rw [map_cons, nodup_cons] at distinct
    rw [find_cons]
    rcases mem_cons.mp mem with rfl | later
    · rw [if_pos rfl]
    · have differs : key first ≠ key item := fun same =>
        distinct.1 (same ▸ mem_map_of_mem later)
      rw [if_neg differs]
      exact induction distinct.2 later

theorem find_append_singleton (items : List α) (item : α) (id : Nat) :
    find key (items ++ [item]) id =
      (find key items id).or (if key item = id then some item else none) := by
  induction items with
  | nil => simp [find_cons]
  | cons first items induction =>
    rw [cons_append, find_cons, find_cons, induction]
    split
    · rfl
    · rfl

theorem find_filter (keep : α → Bool) (distinct : (items.map key).Nodup) (id : Nat) :
    find key (items.filter keep) id = (find key items id).filter keep := by
  induction items with
  | nil => rfl
  | cons first items induction =>
    rw [map_cons, nodup_cons] at distinct
    have rest := induction distinct.2
    rw [find_cons]
    by_cases same : key first = id
    · rw [if_pos same]
      by_cases kept : keep first = true
      · rw [filter_cons_of_pos kept, find_cons, if_pos same, Option.filter_some, if_pos kept]
      · rw [filter_cons_of_neg kept, rest]
        have absent : find key items id = none := by
          rw [find_eq_none_iff]
          intro other mem other_key
          exact distinct.1 (same.trans other_key.symm ▸ mem_map_of_mem mem)
        rw [absent, Option.filter_none, Option.filter_some, if_neg kept]
    · rw [if_neg same]
      by_cases kept : keep first = true
      · rw [filter_cons_of_pos kept, find_cons, if_neg same, rest]
      · rw [filter_cons_of_neg kept, rest]

/-- A change that keeps the key changes the element with that key and no
other. -/
theorem find_modifyFirst (items : List α) (id other : Nat)
    (keeps : ∀ item, key (change item) = key item) :
    find key (modifyFirst (fun item => key item == id) change items) other =
      if other = id then (find key items id).map change
      else find key items other := by
  induction items with
  | nil => simp [modifyFirst]
  | cons first items induction =>
    rw [modifyFirst, find_cons key first items id, find_cons key first items other]
    by_cases here : key first = id
    · rw [if_pos (beq_iff_eq.mpr here), if_pos here, find_cons, keeps, here]
      by_cases same : other = id
      · rw [if_pos same.symm, if_pos same, Option.map_some]
      · rw [if_neg (Ne.symm same), if_neg same, if_neg (Ne.symm same)]
    · rw [if_neg (mt beq_iff_eq.mp here), if_neg here, find_cons, induction]
      by_cases same : other = id
      · rw [if_pos same, if_pos same, if_neg (same ▸ here)]
      · rw [if_neg same, if_neg same]

/-- A change that keeps a view of the elements keeps the list of views. -/
theorem map_modifyFirst {view : α → β} (items : List α)
    (keeps : ∀ item, view (change item) = view item) :
    (modifyFirst test change items).map view = items.map view := by
  induction items with
  | nil => rfl
  | cons first items induction =>
    rw [modifyFirst]
    split
    · simp [keeps]
    · simp [induction]

/-- With distinct keys, changing the first element that meets a test is
changing the element with its key. -/
theorem modifyFirst_eq_of_find? (distinct : (items.map key).Nodup)
    (found : items.find? test = some item) :
    modifyFirst test change items =
      modifyFirst (fun other => key other == key item) change items := by
  induction items with
  | nil => rfl
  | cons first items induction =>
    rw [map_cons, nodup_cons] at distinct
    rw [find?_cons] at found
    rw [modifyFirst, modifyFirst]
    split at found
    next tested =>
      obtain rfl : first = item := by simpa using found
      rw [if_pos tested, if_pos (beq_iff_eq.mpr rfl)]
    next untested =>
      have differs : key first ≠ key item := fun same =>
        distinct.1 (same ▸ mem_map_of_mem (mem_of_find?_eq_some found))
      rw [if_neg (by simp [untested]), if_neg (mt beq_iff_eq.mp differs),
        induction distinct.2 found]

/-! ## Sizes -/

theorem sum_eraseP (size : α → Nat) (found : items.find? test = some item) :
    size item + ((items.eraseP test).map size).sum = (items.map size).sum := by
  induction items with
  | nil => cases found
  | cons first items induction =>
    rw [find?_cons] at found
    split at found
    next tested =>
      obtain rfl := Option.some.inj found
      rw [eraseP_cons_of_pos tested, map_cons, sum_cons]
    next untested =>
      rw [eraseP_cons_of_neg (by simp [untested]), map_cons,
        sum_cons, map_cons, sum_cons, ← induction found]
      omega

theorem sum_filter_add (removed : α → Bool) (size : α → Nat) (items : List α) :
    ((items.filter removed).map size).sum +
        ((items.filter fun item => !removed item).map size).sum =
      (items.map size).sum := by
  induction items with
  | nil => rfl
  | cons first items induction =>
    rw [map_cons, sum_cons, ← induction]
    cases tested : removed first with
    | false | true => simp [tested]; omega

end KeyedList
