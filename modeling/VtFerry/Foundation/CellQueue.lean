import Mathlib.Data.List.Basic

/-!
# Queues in a block of cells

A queue kept at the front of a block of cells: a new item goes into the first
unused cell, in a block of twice the size if there is none, and taking the
oldest item moves the others down by one cell.  What the cells beyond the
count hold is never read; the queue is the list of the items in the cells
below it.
-/

universe u

/-- A block of cells, of which the first `count` are in use. -/
structure CellQueue (Item : Type u) where
  count : Nat
  cells : List Item
  fits : count ≤ cells.length

namespace CellQueue

open List

variable {Item : Type u}

section Cells

variable {cells : List Item} {count : Nat}

theorem take_set {item : Item} (room : count < cells.length) :
    (cells.set count item).take (count + 1) = cells.take count ++ [item] := by
  rw [take_add_one, getElem?_set_self room, take_set_of_le (Nat.le_refl _)]
  rfl

/-- The first `count` cells move down by one, over the first of them. -/
def moveDown (count : Nat) (cells : List Item) : List Item :=
  (cells.drop 1).take (count - 1) ++ cells.drop (count - 1)

theorem length_moveDown (fits : count ≤ cells.length) :
    (moveDown count cells).length = cells.length := by
  simp only [moveDown, length_append, length_take, length_drop]
  omega

theorem take_moveDown (used : 0 < count) (fits : count ≤ cells.length) :
    cells.take count =
      cells.head?.toList ++ (moveDown count cells).take (count - 1) := by
  obtain ⟨first, rest, rfl⟩ : ∃ first rest, cells = first :: rest :=
    exists_cons_of_length_pos (Nat.lt_of_lt_of_le used fits)
  have length : count - 1 ≤ rest.length := by
    rw [length_cons] at fits
    omega
  have moved : (moveDown count (first :: rest)).take (count - 1) = rest.take (count - 1) := by
    rw [moveDown, drop_one, tail_cons, take_append_of_le_length]
    · rw [take_take, Nat.min_self]
    · rw [length_take]
      exact Nat.le_of_eq (Nat.min_eq_left length).symm
  obtain ⟨fewer, rfl⟩ := Nat.exists_eq_succ_of_ne_zero (Nat.ne_of_gt used)
  rw [moved, take_succ_cons, Nat.succ_sub_one]
  rfl

end Cells

def empty : CellQueue Item where
  count := 0
  cells := []
  fits := Nat.le_refl 0

def toList (queue : CellQueue Item) : List Item :=
  queue.cells.take queue.count

def capacity (queue : CellQueue Item) : Nat :=
  queue.cells.length

@[simp] theorem length_toList (queue : CellQueue Item) : queue.toList.length = queue.count := by
  rw [toList, length_take]
  exact Nat.min_eq_left queue.fits

def grownCapacity (queue : CellQueue Item) : Nat :=
  if queue.capacity = 0 then 4 else queue.capacity * 2

/-- A larger block with the items copied over; `unused` fills the rest. -/
def grown (queue : CellQueue Item) (unused : Item) : List Item :=
  queue.toList ++ replicate (queue.grownCapacity - queue.count) unused

theorem count_lt_grownCapacity (queue : CellQueue Item) (full : queue.count = queue.capacity) :
    queue.count < queue.grownCapacity := by
  unfold grownCapacity
  split
  · omega
  · omega

/-- The cells a push writes to. -/
def withRoom (queue : CellQueue Item) (unused : Item) : List Item :=
  if queue.count = queue.capacity then queue.grown unused else queue.cells

theorem count_lt_withRoom (queue : CellQueue Item) (unused : Item) :
    queue.count < (queue.withRoom unused).length := by
  unfold withRoom
  split
  next full =>
    have larger := queue.count_lt_grownCapacity full
    rw [grown, length_append, length_toList, length_replicate]
    omega
  next room => exact Nat.lt_of_le_of_ne queue.fits room

theorem take_withRoom (queue : CellQueue Item) (unused : Item) :
    (queue.withRoom unused).take queue.count = queue.toList := by
  unfold withRoom
  split
  · rw [grown, take_append_of_le_length (Nat.le_of_eq queue.length_toList.symm)]
    exact take_of_length_le (Nat.le_of_eq queue.length_toList)
  · rfl

def push (queue : CellQueue Item) (item : Item) : CellQueue Item where
  count := queue.count + 1
  cells := (queue.withRoom item).set queue.count item
  fits := by
    rw [length_set]
    exact queue.count_lt_withRoom item

theorem toList_push (queue : CellQueue Item) (item : Item) :
    (queue.push item).toList = queue.toList ++ [item] := by
  rw [toList, push]
  dsimp only
  rw [take_set (queue.count_lt_withRoom item), take_withRoom]

def shifted (queue : CellQueue Item) : List Item :=
  (queue.cells.drop 1).take (queue.count - 1) ++ queue.cells.drop (queue.count - 1)

def pop (queue : CellQueue Item) : Option Item × CellQueue Item :=
  if queue.count = 0 then (none, queue)
  else
    (queue.cells.head?,
      { count := queue.count - 1
        cells := queue.shifted
        fits := by
          have fits := queue.fits
          simp only [shifted, length_append, length_take, length_drop]
          omega })

theorem toList_pop (queue : CellQueue Item) :
    queue.toList = queue.pop.1.toList ++ queue.pop.2.toList := by
  unfold pop
  split
  · rfl
  next used => exact take_moveDown (Nat.pos_of_ne_zero used) queue.fits

end CellQueue
