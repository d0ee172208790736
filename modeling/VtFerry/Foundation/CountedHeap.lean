import Mathlib.Algebra.Order.BigOperators.Group.List
import Mathlib.Algebra.Order.Ring.Nat
import Mathlib.Data.List.Count
import Mathlib.Data.List.Nodup

/-!
# Reference-counted objects

Objects are numbered in the order of their creation.  An object has a count of
32 bits and a body, whose slots refer to objects.  Releasing a reference to an
object takes one from its count; at the last one the object is finalized, that
is, its slots are released in their order, and then it is freed.

Counts are exact when each of them is the number of references there are: the
slots of counted objects, and the references from outside, among them those
that are on their way into a slot or out of one.  An object that is being
finalized counts nothing any more, and its slots are outside.  So exact counts
survive a cascade of finalizers of any depth.
-/

namespace CountedHeap

open List

universe u v

variable {Ref : Type u} {Body : Type v}

/-- How references and bodies are read: the object a reference leads to, and
the references a body holds. -/
structure Shape (Ref : Type u) (Body : Type v) where
  target : Ref → Option Nat
  slots : Body → List Ref

def Shape.targets (shape : Shape Ref Body) (refs : List Ref) : List Nat :=
  refs.filterMap shape.target

structure Node (Body : Type v) where
  count : Int32
  body : Body

/-- The objects, with a counter of those that are there.  `finalized` lists
the objects whose finalizer has run, and `touched` those that were used after
they had been freed. -/
structure Heap (Body : Type v) where
  cells : List (Option (Node Body))
  alive : Int
  finalized : List Nat
  touched : List Nat

namespace Heap

def empty : Heap Body where
  cells := []
  alive := 0
  finalized := []
  touched := []

def node? (heap : Heap Body) (id : Nat) : Option (Node Body) :=
  heap.cells[id]?.join

def setNode (heap : Heap Body) (id : Nat) (node : Option (Node Body)) :
    Heap Body :=
  { heap with cells := heap.cells.set id node }

def touch (heap : Heap Body) (id : Nat) : Heap Body :=
  { heap with touched := heap.touched ++ [id] }

def enter (heap : Heap Body) (id : Nat) : Heap Body :=
  { heap with finalized := heap.finalized ++ [id] }

def free (heap : Heap Body) (id : Nat) : Heap Body :=
  { heap.setNode id none with alive := heap.alive - 1 }

def create (heap : Heap Body) (body : Body) : Heap Body :=
  { heap with
    cells := heap.cells ++ [some ⟨1, body⟩]
    alive := heap.alive + 1 }

def modifyBody (heap : Heap Body) (id : Nat) (change : Body → Body) :
    Heap Body :=
  match heap.node? id with
  | none => heap.touch id
  | some node => heap.setNode id (some { node with body := change node.body })

end Heap

variable (shape : Shape Ref Body)

def retain (heap : Heap Body) (ref : Ref) : Heap Body :=
  match shape.target ref with
  | none => heap
  | some id =>
    match heap.node? id with
    | none => heap.touch id
    | some node =>
      heap.setNode id (some { node with count := node.count + 1 })

/-- Release a reference; `fuel` bounds the depth of the finalizers. -/
def releaseWithin : Nat → Heap Body → Ref → Heap Body
  | 0, heap, _ => heap
  | fuel + 1, heap, ref =>
    match shape.target ref with
    | none => heap
    | some id =>
      match heap.node? id with
      | none => heap.touch id
      | some node =>
        let counted :=
          heap.setNode id (some { node with count := node.count - 1 })
        if node.count = 1 then
          let emptied := (shape.slots node.body).foldl (releaseWithin fuel) (counted.enter id)
          emptied.free id
        else counted

/-- No finalizer is nested deeper than there are objects. -/
def release (heap : Heap Body) (ref : Ref) : Heap Body :=
  releaseWithin shape heap.cells.length heap ref

/-! ## Cells -/

namespace Heap

variable {heap : Heap Body} {id : Nat} {node : Node Body}

theorem lt_length_of_node? (found : heap.node? id = some node) : id < heap.cells.length := by
  by_contra beyond
  rw [node?, getElem?_eq_none (Nat.le_of_not_lt beyond)] at found
  cases found

theorem node?_setNode (found : heap.node? id = some node) (new : Option (Node Body)) (other : Nat) :
    (heap.setNode id new).node? other =
      if other = id then new else heap.node? other := by
  unfold node? setNode
  dsimp only
  rw [getElem?_set]
  by_cases same : other = id
  · subst same
    rw [if_pos rfl, if_pos rfl, if_pos (lt_length_of_node? found)]
    rfl
  · rw [if_neg (Ne.symm same), if_neg same]

theorem length_setNode (new : Option (Node Body)) :
    (heap.setNode id new).cells.length = heap.cells.length :=
  length_set

def total (weight : Option (Node Body) → Nat) (heap : Heap Body) : Nat :=
  (heap.cells.map weight).sum

theorem sum_set {values : List Nat} {index old : Nat}
    (found : values[index]? = some old) (new : Nat) :
    (values.set index new).sum + old = values.sum + new := by
  induction values generalizing index with
  | nil => cases found
  | cons value values induction =>
    cases index with
    | zero =>
      obtain rfl : value = old := Option.some.inj found
      rw [set_cons_zero, sum_cons, sum_cons]
      omega
    | succ index =>
      have later := induction (by simpa using found)
      rw [set_cons_succ, sum_cons, sum_cons]
      omega

theorem total_setNode (weight : Option (Node Body) → Nat)
    (found : heap.node? id = some node) (new : Option (Node Body)) :
    (heap.setNode id new).total weight + weight (some node) = heap.total weight + weight new := by
  have at_cell : (heap.cells.map weight)[id]? = some (weight (some node)) := by
    have cell : heap.cells[id]? = some (some node) :=
      Option.join_eq_some_iff.mp found
    rw [getElem?_map, cell, Option.map_some]
  unfold total setNode
  dsimp only
  rw [map_set]
  exact sum_set at_cell (weight new)

theorem le_total (weight : Option (Node Body) → Nat) (found : heap.node? id = some node) :
    weight (some node) ≤ heap.total weight := by
  apply single_le_sum
  · exact fun _ _ => Nat.zero_le _
  apply mem_map_of_mem
  exact mem_of_getElem? (Option.join_eq_some_iff.mp found)

variable {weight : Option (Node Body) → Nat}

theorem total_mono {later : Heap Body} (length : later.cells.length = heap.cells.length)
    (lighter : ∀ id, weight (later.node? id) ≤ weight (heap.node? id)) :
    later.total weight ≤ heap.total weight := by
  apply List.Forall₂.sum_le_sum
  rw [forall₂_iff_get]
  constructor
  · rw [length_map, length_map, length]
  · intro index later_inside inside
    rw [length_map] at later_inside inside
    have cells := lighter index
    rw [node?, node?, getElem?_eq_getElem later_inside, getElem?_eq_getElem inside] at cells
    rw [get_eq_getElem, get_eq_getElem, getElem_map, getElem_map]
    exact cells

/-- The count of an object; one that was freed has none. -/
def countOf (heap : Heap Body) (id : Nat) : Int :=
  ((heap.node? id).map fun node => node.count.toInt).getD 0

theorem countOf_eq (found : heap.node? id = some node) : heap.countOf id = node.count.toInt := by
  rw [countOf, found]
  rfl

theorem node?_of_countOf (counted : 0 < heap.countOf id) :
    ∃ node, heap.node? id = some node ∧ 0 < node.count.toInt := by
  cases found : heap.node? id with
  | none =>
    rw [countOf, found] at counted
    exact absurd counted (Int.lt_irrefl 0)
  | some node =>
    rw [countOf_eq found] at counted
    exact ⟨node, rfl, counted⟩

theorem countOf_setNode (found : heap.node? id = some node)
    (new : Option (Node Body)) (other : Nat) :
    (heap.setNode id new).countOf other =
      if other = id then (new.map fun node => node.count.toInt).getD 0
      else heap.countOf other := by
  unfold countOf
  rw [node?_setNode found]
  split
  · rfl
  · rfl

theorem node?_create (heap : Heap Body) (body : Body) (other : Nat) :
    (heap.create body).node? other =
      if other = heap.cells.length then some ⟨1, body⟩
      else heap.node? other := by
  unfold node? create
  dsimp only
  rw [getElem?_append]
  split
  next inside => rw [if_neg (Nat.ne_of_lt inside)]
  next beyond =>
    split
    next next =>
      rw [next, Nat.sub_self]
      rfl
    next apart =>
      rw [getElem?_eq_none (by rw [length_singleton]; omega),
        getElem?_eq_none (Nat.le_of_not_lt beyond)]

theorem countOf_create (heap : Heap Body) (body : Body) (other : Nat) :
    (heap.create body).countOf other =
      if other = heap.cells.length then 1 else heap.countOf other := by
  unfold countOf
  rw [node?_create]
  split
  · rfl
  · rfl

theorem total_create (weight : Option (Node Body) → Nat) (body : Body) :
    (heap.create body).total weight =
      heap.total weight + weight (some ⟨1, body⟩) := by
  unfold total create
  simp

end Heap

/-! ## Exact counts -/

/-- The slots of a cell that hold an object.  An object that is being
finalized holds nothing. -/
def slotWeight (id : Nat) : Option (Node Body) → Nat
  | none => 0
  | some node =>
    if 0 < node.count.toInt then
      (shape.targets (shape.slots node.body)).count id
    else 0

def held (heap : Heap Body) (id : Nat) : Nat :=
  heap.total (slotWeight shape id)

/-- Each count is the number of references, in slots and from outside. -/
def Exact (heap : Heap Body) (outside : List Nat) : Prop :=
  ∀ id, heap.countOf id = (held shape heap id + outside.count id : Nat)

/-- How many objects have a count. -/
def countedWeight : Option (Node Body) → Nat
  | none => 0
  | some node => if 0 < node.count.toInt then 1 else 0

def presentWeight : Option (Node Body) → Nat
  | none => 0
  | some _ => 1

/-- An object is in the list of finalized ones once it has no count, and the
counter counts the objects that are there. -/
structure Tidy (heap : Heap Body) : Prop where
  logged : ∀ id, id ∈ heap.finalized ↔ id < heap.cells.length ∧ heap.countOf id = 0
  once : heap.finalized.Nodup
  alive : heap.alive = heap.total presentWeight

variable {shape} {heap later : Heap Body} {outside : List Nat}
variable {id : Nat} {node : Node Body}

theorem Exact.counted (counts : Exact shape heap outside)
    (listed : id ∈ outside) : 0 < heap.countOf id := by
  have some_outside := count_pos_iff.mpr listed
  rw [counts id]
  omega

theorem Exact.nonnegative (counts : Exact shape heap outside) (id : Nat) : 0 ≤ heap.countOf id := by
  rw [counts id]
  exact Int.natCast_nonneg _

variable {others : List Nat}

theorem Exact.recount (counts : Exact shape heap outside)
    (same : ∀ id, outside.count id = others.count id) :
    Exact shape heap others := by
  intro id
  rw [← same id]
  exact counts id

theorem slotWeight_counted (counted : 0 < node.count.toInt) (other : Nat) :
    slotWeight shape other (some node) = (shape.targets (shape.slots node.body)).count other :=
  if_pos counted

theorem slotWeight_uncounted (uncounted : ¬ 0 < node.count.toInt)
    (other : Nat) : slotWeight shape other (some node) = 0 :=
  if_neg uncounted

variable {new : Node Body}

/-- Counts stay exact when one object changes and the references to each
object change as its count does. -/
theorem Exact.setNode (counts : Exact shape heap outside) (found : heap.node? id = some node)
    (balance : ∀ other,
      (if other = id then new.count.toInt - node.count.toInt else 0) +
        (slotWeight shape other (some node) + outside.count other : Nat) =
      (slotWeight shape other (some new) + others.count other : Nat)) :
    Exact shape (heap.setNode id (some new)) others := by
  intro other
  have before := counts other
  have sums := heap.total_setNode (slotWeight shape other) found (some new)
  have changes := balance other
  rw [heap.countOf_setNode found]
  unfold held at before ⊢
  by_cases own : other = id
  · subst own
    rw [heap.countOf_eq found] at before
    rw [if_pos rfl] at changes ⊢
    rw [Option.map_some, Option.getD_some]
    omega
  · rw [if_neg own] at changes ⊢
    omega

/-! ## Counts of 32 bits -/

variable {count : Int32}

theorem toInt_sub_one (counted : 0 < count.toInt) : (count - 1).toInt = count.toInt - 1 := by
  have upper := count.toInt_lt
  rw [Int32.toInt_sub, show (1 : Int32).toInt = 1 from rfl]
  apply Int.bmod_eq_of_le
  · omega
  · omega

theorem toInt_add_one (nonnegative : 0 ≤ count.toInt) (small : count.toInt + 1 < 2 ^ 31) :
    (count + 1).toInt = count.toInt + 1 := by
  rw [Int32.toInt_add, show (1 : Int32).toInt = 1 from rfl]
  apply Int.bmod_eq_of_le
  · omega
  · omega

theorem eq_one_iff : count = 1 ↔ count.toInt = 1 := by
  rw [← Int32.toInt_inj]
  rfl

/-! ## One count less -/

/-- The object with one reference less. -/
def Node.less (node : Node Body) : Node Body :=
  { node with count := node.count - 1 }

theorem Node.count_less (node : Node Body) (counted : 0 < node.count.toInt) :
    node.less.count.toInt = node.count.toInt - 1 :=
  toInt_sub_one counted

variable {ref : Ref}

theorem targets_none (target : shape.target ref = none) : shape.targets [ref] = [] := by
  rw [Shape.targets, filterMap_cons_none target, filterMap_nil]

theorem targets_some (target : shape.target ref = some id) : shape.targets [ref] = [id] := by
  rw [Shape.targets, filterMap_cons_some target, filterMap_nil]

theorem targets_cons (ref : Ref) (refs : List Ref) :
    shape.targets (ref :: refs) = shape.targets [ref] ++ shape.targets refs :=
  filterMap_append (l := [ref])

theorem count_cons_eq (other id : Nat) (rest : List Nat) :
    (id :: rest).count other = rest.count other + if other = id then 1 else 0 := by
  rw [count_cons]
  by_cases same : other = id
  · simp [same]
  · simp [same, Ne.symm same]

theorem Exact.decrement (counts : Exact shape heap (id :: outside))
    (found : heap.node? id = some node) (several : 1 < node.count.toInt) :
    Exact shape (heap.setNode id (some node.less)) outside := by
  have less := node.count_less (by omega)
  apply counts.setNode found
  intro other
  rw [slotWeight_counted (by omega), slotWeight_counted (by omega), count_cons_eq, less]
  dsimp only [Node.less]
  split
  · omega
  · omega

/-- The last reference goes, and the slots are on their way out. -/
theorem Exact.finalize (counts : Exact shape heap (id :: outside))
    (found : heap.node? id = some node) (last : node.count.toInt = 1) :
    Exact shape ((heap.setNode id (some node.less)).enter id)
      (shape.targets (shape.slots node.body) ++ outside) := by
  have less := node.count_less (by omega)
  apply counts.setNode found
  intro other
  rw [slotWeight_counted (by omega), slotWeight_uncounted (by omega),
    count_cons_eq, less, count_append]
  split
  · omega
  · omega

theorem countOf_free (found : heap.node? id = some node)
    (uncounted : node.count.toInt = 0) (other : Nat) :
    (heap.free id).countOf other = heap.countOf other := by
  refine (heap.countOf_setNode found none other).trans ?_
  split
  next own =>
    rw [own, heap.countOf_eq found, uncounted]
    rfl
  · rfl

theorem total_free (found : heap.node? id = some node) (light : weight (some node) = weight none) :
    (heap.free id).total weight = heap.total weight := by
  have sums := heap.total_setNode weight found none
  rw [light] at sums
  exact Nat.add_right_cancel sums

theorem Exact.free (counts : Exact shape heap outside)
    (found : heap.node? id = some node) (uncounted : node.count.toInt = 0) :
    Exact shape (heap.free id) outside := by
  intro other
  have light : slotWeight shape other (some node) = 0 :=
    slotWeight_uncounted (by omega) other
  rw [countOf_free found uncounted, held, total_free found light]
  exact counts other

theorem Tidy.setNode (tidy : Tidy heap) (found : heap.node? id = some node)
    (counted : 0 < node.count.toInt) (stays : 0 < new.count.toInt) :
    Tidy (heap.setNode id (some new)) := by
  refine ⟨?_, tidy.once, ?_⟩
  · intro other
    rw [heap.countOf_setNode found, Heap.length_setNode]
    refine (tidy.logged other).trans (and_congr_right fun _ => ?_)
    split
    next own =>
      rw [own, heap.countOf_eq found, Option.map_some, Option.getD_some]
      omega
    · rfl
  · have sums := heap.total_setNode presentWeight found (some new)
    have same : (heap.setNode id (some new)).total presentWeight =
        heap.total presentWeight := Nat.add_right_cancel sums
    exact tidy.alive.trans (congrArg Nat.cast same.symm)

theorem Tidy.finalize (tidy : Tidy heap) (found : heap.node? id = some node)
    (counted : 0 < node.count.toInt) (gone : new.count.toInt = 0) :
    Tidy ((heap.setNode id (some new)).enter id) := by
  have unlisted : id ∉ heap.finalized := by
    intro listed
    have uncounted := ((tidy.logged id).mp listed).2
    rw [heap.countOf_eq found] at uncounted
    omega
  have inside := Heap.lt_length_of_node? found
  refine ⟨?_, ?_, ?_⟩
  · intro other
    have count := heap.countOf_setNode found (some new) other
    have length : (heap.setNode id (some new)).cells.length =
        heap.cells.length := Heap.length_setNode _
    change other ∈ heap.finalized ++ [id] ↔ other < (heap.setNode id (some new)).cells.length ∧
        (heap.setNode id (some new)).countOf other = 0
    rw [count, length, mem_append, mem_singleton, tidy.logged]
    by_cases own : other = id
    · rw [own, if_pos rfl, Option.map_some, Option.getD_some]
      exact ⟨fun _ => ⟨inside, gone⟩, fun _ => .inr rfl⟩
    · rw [if_neg own]
      exact or_iff_left own
  · change (heap.finalized ++ [id]).Nodup
    rw [← concat_eq_append]
    exact tidy.once.concat unlisted
  · have sums := heap.total_setNode presentWeight found (some new)
    have same : (heap.setNode id (some new)).total presentWeight =
        heap.total presentWeight := Nat.add_right_cancel sums
    exact tidy.alive.trans (congrArg Nat.cast same.symm)

theorem Tidy.free (tidy : Tidy heap) (found : heap.node? id = some node)
    (uncounted : node.count.toInt = 0) : Tidy (heap.free id) := by
  refine ⟨?_, tidy.once, ?_⟩
  · intro other
    have length : (heap.free id).cells.length = heap.cells.length :=
      Heap.length_setNode none
    rw [countOf_free found uncounted, length]
    exact tidy.logged other
  · have sums := heap.total_setNode presentWeight found none
    have less : (heap.free id).total presentWeight + 1 =
        heap.total presentWeight := sums
    have alive := tidy.alive
    change heap.alive - 1 = _
    omega

/-! ## Releasing -/

/-- What releasing a reference may do to the objects. -/
structure Drops (heap later : Heap Body) : Prop where
  length : later.cells.length = heap.cells.length
  bodies : ∀ id node, later.node? id = some node →
    ∃ earlier, heap.node? id = some earlier ∧ node.body = earlier.body
  touched : later.touched = heap.touched
  /-- An object without a count, freed or on its way to it, stays as it is. -/
  uncounted : ∀ id, heap.countOf id = 0 → later.node? id = heap.node? id
  /-- An object that loses its count is freed. -/
  freed : ∀ id, heap.countOf id ≠ 0 → later.countOf id = 0 → later.node? id = none
  fewer : later.total countedWeight ≤ heap.total countedWeight

theorem Drops.refl (heap : Heap Body) : Drops heap heap where
  length := rfl
  bodies _ node found := ⟨node, found, rfl⟩
  touched := rfl
  uncounted _ _ := rfl
  freed _ counted uncounted := absurd uncounted counted
  fewer := Nat.le_refl _

theorem Drops.trans {last : Heap Body} (first : Drops heap later)
    (second : Drops later last) : Drops heap last where
  length := second.length.trans first.length
  bodies id node found := by
    obtain ⟨between, was_between, same⟩ := second.bodies id node found
    obtain ⟨earlier, was, also_same⟩ := first.bodies id between was_between
    exact ⟨earlier, was, same.trans also_same⟩
  touched := second.touched.trans first.touched
  uncounted id none := by
    have still := first.uncounted id none
    have uncounted : later.countOf id = 0 := by
      rw [Heap.countOf, still]
      exact none
    exact (second.uncounted id uncounted).trans still
  freed id counted uncounted := by
    by_cases between : later.countOf id = 0
    · rw [second.uncounted id between]
      exact first.freed id counted between
    · exact second.freed id between uncounted
  fewer := Nat.le_trans second.fewer first.fewer

theorem drops_decrement (found : heap.node? id = some node) (several : 1 < node.count.toInt) :
    Drops heap (heap.setNode id (some node.less)) := by
  have less := node.count_less (by omega)
  refine ⟨Heap.length_setNode _, ?_, rfl, ?_, ?_, ?_⟩
  · intro other later_node later_found
    rw [heap.node?_setNode found] at later_found
    split at later_found
    next own =>
      obtain rfl := Option.some.inj later_found
      exact ⟨node, own ▸ found, rfl⟩
    · exact ⟨later_node, later_found, rfl⟩
  · intro other none
    rw [heap.node?_setNode found, if_neg]
    rintro rfl
    rw [heap.countOf_eq found] at none
    omega
  · intro other was gone
    rw [heap.countOf_setNode found] at gone
    split at gone
    · rw [Option.map_some, Option.getD_some] at gone
      omega
    · exact absurd gone was
  · have sums := heap.total_setNode countedWeight found (some node.less)
    have before : countedWeight (some node) = 1 := if_pos (by omega)
    have after : countedWeight (some node.less) = 1 := if_pos (by omega)
    omega

theorem total_counted_finalize (found : heap.node? id = some node) (last : node.count.toInt = 1) :
    ((heap.setNode id (some node.less)).enter id).total countedWeight + 1 =
      heap.total countedWeight := by
  have less := node.count_less (by omega)
  have sums := heap.total_setNode countedWeight found (some node.less)
  have before : countedWeight (some node) = 1 := if_pos (by omega)
  have after : countedWeight (some node.less) = 0 := if_neg (by omega)
  rw [before, after] at sums
  exact sums

theorem Drops.node?_finalizing (found : heap.node? id = some node) (last : node.count.toInt = 1)
    (drops : Drops ((heap.setNode id (some node.less)).enter id) later) :
    later.node? id = some node.less := by
  have less := node.count_less (by omega)
  have dying : ((heap.setNode id (some node.less)).enter id).node? id = some node.less :=
    (heap.node?_setNode found (some node.less) id).trans (if_pos rfl)
  rw [drops.uncounted id, dying]
  rw [Heap.countOf_eq dying]
  omega

theorem Drops.finalized (found : heap.node? id = some node) (last : node.count.toInt = 1)
    (drops : Drops ((heap.setNode id (some node.less)).enter id) later) :
    Drops heap (later.free id) := by
  have less := node.count_less (by omega)
  have still := drops.node?_finalizing found last
  have freed (other : Nat) : (later.free id).node? other =
      if other = id then none else later.node? other :=
    later.node?_setNode still none other
  have elsewhere {other : Nat} (apart : other ≠ id) :
      ((heap.setNode id (some node.less)).enter id).node? other =
        heap.node? other :=
    (heap.node?_setNode found (some node.less) other).trans (if_neg apart)
  have counted_elsewhere {other : Nat} (apart : other ≠ id) :
      ((heap.setNode id (some node.less)).enter id).countOf other =
        heap.countOf other := by
    rw [Heap.countOf, Heap.countOf, elsewhere apart]
  refine ⟨?_, ?_, drops.touched, ?_, ?_, ?_⟩
  · exact (Heap.length_setNode none).trans (drops.length.trans (Heap.length_setNode _))
  · intro other last_node last_found
    rw [freed] at last_found
    split at last_found
    · cases last_found
    next apart =>
      rw [← elsewhere apart]
      exact drops.bodies other last_node last_found
  · intro other none
    have apart : other ≠ id := by
      rintro rfl
      rw [Heap.countOf_eq found] at none
      omega
    rw [freed, if_neg apart, ← elsewhere apart]
    apply drops.uncounted
    rwa [counted_elsewhere apart]
  · intro other was gone
    rw [countOf_free still (by omega)] at gone
    rw [freed]
    split
    · rfl
    next apart =>
      rw [← counted_elsewhere apart] at was
      exact drops.freed other was gone
  · have light : countedWeight (some node.less) = 0 := if_neg (by omega)
    have counted := total_counted_finalize found last
    rw [total_free still light]
    have fewer := drops.fewer
    omega

/-- What a release achieves: the counts are exact without the reference. -/
structure Released (shape : Shape Ref Body) (outside : List Nat)
    (heap later : Heap Body) : Prop where
  counts : Exact shape later outside
  tidy : Tidy later
  drops : Drops heap later

/-- A release that is given fuel for all counted objects. -/
def Releases (shape : Shape Ref Body) (fuel : Nat) (refs : List Ref)
    (act : Heap Body → Heap Body) : Prop :=
  ∀ heap outside, heap.total countedWeight ≤ fuel → Tidy heap →
    Exact shape heap (shape.targets refs ++ outside) →
    Released shape outside heap (act heap)

theorem releases_foldl {fuel : Nat} {act : Heap Body → Ref → Heap Body}
    (each : ∀ ref, Releases shape fuel [ref] fun heap => act heap ref)
    (refs : List Ref) :
    Releases shape fuel refs fun heap => refs.foldl act heap := by
  induction refs with
  | nil =>
    intro heap outside _ tidy counts
    exact ⟨counts, tidy, .refl heap⟩
  | cons ref refs induction =>
    intro heap outside enough tidy counts
    rw [targets_cons, append_assoc] at counts
    have first := each ref heap _ enough tidy counts
    have rest := induction (act heap ref) outside
      (Nat.le_trans first.drops.fewer enough) first.tidy first.counts
    exact ⟨rest.counts, rest.tidy, first.drops.trans rest.drops⟩

theorem Exact.node?_of_target (counts : Exact shape heap (shape.targets [ref] ++ outside))
    (target : shape.target ref = some id) :
    ∃ node, heap.node? id = some node ∧ 0 < node.count.toInt := by
  rw [targets_some target] at counts
  exact Heap.node?_of_countOf (counts.counted mem_cons_self)

section Equations

variable {fuel : Nat} {ref : Ref}

theorem releaseWithin_none (target : shape.target ref = none) :
    releaseWithin shape fuel heap ref = heap := by
  cases fuel with
  | zero => rfl
  | succ fuel => rw [releaseWithin, target]

theorem releaseWithin_freed (target : shape.target ref = some id) (freed : heap.node? id = none) :
    releaseWithin shape (fuel + 1) heap ref = heap.touch id := by
  simp only [releaseWithin, target, freed]

theorem releaseWithin_last (target : shape.target ref = some id)
    (found : heap.node? id = some node) (last : node.count = 1) :
    releaseWithin shape (fuel + 1) heap ref =
      ((shape.slots node.body).foldl (releaseWithin shape fuel)
        ((heap.setNode id (some node.less)).enter id)).free id := by
  simp only [releaseWithin, target, found, if_pos last]
  rfl

theorem releaseWithin_more (target : shape.target ref = some id)
    (found : heap.node? id = some node) (several : node.count ≠ 1) :
    releaseWithin shape (fuel + 1) heap ref = heap.setNode id (some node.less) := by
  simp only [releaseWithin, target, found, if_neg several]
  rfl

end Equations

/-- With fuel for all counted objects a release keeps the counts exact. -/
theorem releases_releaseWithin (fuel : Nat) (ref : Ref) :
    Releases shape fuel [ref] fun heap => releaseWithin shape fuel heap ref := by
  induction fuel generalizing ref with
  | zero =>
    intro heap outside enough tidy counts
    cases target : shape.target ref with
    | none =>
      rw [targets_none target] at counts
      exact ⟨counts, tidy, .refl heap⟩
    | some id =>
      obtain ⟨node, found, counted⟩ := counts.node?_of_target target
      have weight := heap.le_total countedWeight found
      have heavy : countedWeight (some node) = 1 := if_pos counted
      omega
  | succ fuel induction =>
    intro heap outside enough tidy counts
    dsimp only
    cases target : shape.target ref with
    | none =>
      rw [releaseWithin_none target]
      rw [targets_none target] at counts
      exact ⟨counts, tidy, .refl heap⟩
    | some id =>
      obtain ⟨node, found, counted⟩ := counts.node?_of_target target
      rw [targets_some target] at counts
      have less := node.count_less counted
      by_cases is_last : node.count = 1
      · rw [releaseWithin_last target found is_last]
        have last := eq_one_iff.mp is_last
        have fuel_left := total_counted_finalize found last
        have emptied := releases_foldl induction (shape.slots node.body)
          _ outside (by omega)
          (tidy.finalize found counted (by omega))
          (counts.finalize found last)
        have still := emptied.drops.node?_finalizing found last
        refine ⟨?_, ?_, ?_⟩
        · exact emptied.counts.free still (by omega)
        · exact emptied.tidy.free still (by omega)
        · exact emptied.drops.finalized found last
      · rw [releaseWithin_more target found is_last]
        have several : 1 < node.count.toInt := by
          have differs := mt eq_one_iff.mpr is_last
          omega
        have stays : 0 < node.less.count.toInt := by omega
        refine ⟨counts.decrement found several, ?_, ?_⟩
        · exact tidy.setNode found counted stays
        · exact drops_decrement found several

theorem Heap.total_le_length (heap : Heap Body) (light : ∀ cell, weight cell ≤ 1) :
    heap.total weight ≤ heap.cells.length := by
  have bound := sum_le_card_nsmul (heap.cells.map weight) 1 (by
    intro value listed
    obtain ⟨cell, -, rfl⟩ := mem_map.mp listed
    exact light cell)
  rw [length_map] at bound
  exact bound.trans (Nat.le_of_eq (Nat.mul_one _))

/-! ## Heaps at rest -/

/-- Exact counts when no finalizer is running: each object that is there has
a count. -/
structure Settled (shape : Shape Ref Body) (heap : Heap Body) (outside : List Nat) : Prop where
  counts : Exact shape heap outside
  tidy : Tidy heap
  needed : ∀ id node, heap.node? id = some node → 0 < node.count.toInt

namespace Settled

theorem empty : Settled shape Heap.empty [] where
  counts _ := rfl
  tidy := ⟨fun id => by simp [Heap.empty], nodup_nil, rfl⟩
  needed id node found := by cases found

theorem recount (settled : Settled shape heap outside)
    (same : ∀ id, outside.count id = others.count id) :
    Settled shape heap others :=
  ⟨settled.counts.recount same, settled.tidy, settled.needed⟩

theorem present_iff (settled : Settled shape heap outside) :
    (heap.node? id).isSome ↔ 0 < held shape heap id + outside.count id := by
  have count := settled.counts id
  cases found : heap.node? id with
  | none =>
    rw [Heap.countOf, found] at count
    simp only [Option.map_none, Option.getD_none] at count
    simp only [Option.isSome_none, Bool.false_eq_true, false_iff]
    omega
  | some node =>
    rw [Heap.countOf_eq found] at count
    have positive := settled.needed id node found
    simp only [Option.isSome_some, true_iff]
    omega

theorem release {ref : Ref} (settled : Settled shape heap (shape.targets [ref] ++ outside)) :
    Settled shape (release shape heap ref) outside ∧
      Drops heap (release shape heap ref) := by
  have enough : heap.total countedWeight ≤ heap.cells.length := by
    apply Heap.total_le_length
    intro cell
    unfold countedWeight
    split
    · exact Nat.zero_le 1
    split
    · exact Nat.le_refl 1
    · exact Nat.zero_le 1
  have released : Released shape outside heap (CountedHeap.release shape heap
      ref) := releases_releaseWithin heap.cells.length ref heap outside
    enough settled.tidy settled.counts
  refine ⟨⟨released.counts, released.tidy, ?_⟩, released.drops⟩
  intro id node found
  obtain ⟨earlier, was, -⟩ := released.drops.bodies id node found
  have counted := settled.needed id earlier was
  have nonnegative := released.counts.nonnegative id
  by_contra uncounted
  rw [Heap.countOf_eq found] at nonnegative
  have freed := released.drops.freed id (by rw [Heap.countOf_eq was]; omega)
    (by rw [Heap.countOf_eq found]; omega)
  rw [found] at freed
  cases freed

/-- An object changes without losing its count, and the references to each
object change as its count does. -/
theorem setNode {new : Node Body} (settled : Settled shape heap outside)
    (found : heap.node? id = some node) (stays : 0 < new.count.toInt)
    (balance : ∀ other, (if other = id then new.count.toInt - node.count.toInt else 0) +
        ((shape.targets (shape.slots node.body)).count other + outside.count other : Nat) =
      ((shape.targets (shape.slots new.body)).count other + others.count other : Nat)) :
    Settled shape (heap.setNode id (some new)) others := by
  have counted := settled.needed id node found
  refine ⟨?_, settled.tidy.setNode found counted stays, ?_⟩
  · apply settled.counts.setNode found
    intro other
    rw [slotWeight_counted counted, slotWeight_counted stays]
    exact balance other
  · intro other later_node later_found
    rw [heap.node?_setNode found] at later_found
    split at later_found
    · obtain rfl := Option.some.inj later_found
      exact stays
    · exact settled.needed other later_node later_found

theorem modifyBody {change : Body → Body} (come gone : List Nat)
    (settled : Settled shape heap (come ++ outside))
    (found : heap.node? id = some node)
    (slots : ∀ other, (shape.targets (shape.slots node.body)).count other + come.count other =
      (shape.targets (shape.slots (change node.body))).count other + gone.count other) :
    Settled shape (heap.modifyBody id change) (gone ++ outside) := by
  have changed : heap.modifyBody id change =
      heap.setNode id (some { node with body := change node.body }) := by
    rw [Heap.modifyBody, found]
  rw [changed]
  apply settled.setNode found
  · exact settled.needed id node found
  · intro other
    have same := slots other
    rw [count_append, count_append]
    dsimp only
    split
    · omega
    · omega

end Settled

/-! ## Retaining and creating -/

theorem retain_none (target : shape.target ref = none) : retain shape heap ref = heap := by
  rw [retain, target]

theorem retain_some (target : shape.target ref = some id) (found : heap.node? id = some node) :
    retain shape heap ref =
      heap.setNode id (some { node with count := node.count + 1 }) := by
  rw [retain, target]
  dsimp only
  rw [found]

theorem retain_freed (target : shape.target ref = some id) (freed : heap.node? id = none) :
    retain shape heap ref = heap.touch id := by
  rw [retain, target]
  dsimp only
  rw [freed]

/-- Heaps with the same objects, up to the counts. -/
structure SameBodies (heap later : Heap Body) : Prop where
  length : later.cells.length = heap.cells.length
  bodies : ∀ id, (later.node? id).map Node.body = (heap.node? id).map Node.body
  touched : later.touched = heap.touched

theorem SameBodies.refl (heap : Heap Body) : SameBodies heap heap :=
  ⟨rfl, fun _ => rfl, rfl⟩

theorem SameBodies.trans {last : Heap Body} (first : SameBodies heap later)
    (second : SameBodies later last) : SameBodies heap last where
  length := second.length.trans first.length
  bodies id := (second.bodies id).trans (first.bodies id)
  touched := second.touched.trans first.touched

theorem SameBodies.isSome (same : SameBodies heap later) (id : Nat) :
    (later.node? id).isSome = (heap.node? id).isSome := by
  rw [← Option.isSome_map (f := Node.body), same.bodies, Option.isSome_map]

theorem SameBodies.symm (same : SameBodies heap later) :
    SameBodies later heap where
  length := same.length.symm
  bodies id := (same.bodies id).symm
  touched := same.touched.symm

theorem SameBodies.earlier (same : SameBodies heap later) (id : Nat)
    (node : Node Body) (found : later.node? id = some node) :
    ∃ earlier, heap.node? id = some earlier ∧ node.body = earlier.body := by
  have bodies := same.bodies id
  rw [found, Option.map_some, eq_comm, Option.map_eq_some_iff] at bodies
  obtain ⟨earlier, was, body⟩ := bodies
  exact ⟨earlier, was, body.symm⟩

theorem bodies_retain (ref : Ref) (other : Nat) :
    ((retain shape heap ref).node? other).map Node.body = (heap.node? other).map Node.body := by
  cases target : shape.target ref with
  | none => rw [retain_none target]
  | some id =>
    cases found : heap.node? id with
    | none =>
      rw [retain_freed target found]
      rfl
    | some node =>
      rw [retain_some target found, heap.node?_setNode found]
      split
      next own =>
        rw [own, found]
        rfl
      · rfl

theorem sameBodies_retain (live : ∀ id ∈ shape.targets [ref], (heap.node? id).isSome) :
    SameBodies heap (retain shape heap ref) := by
  refine ⟨?_, bodies_retain ref, ?_⟩
  · unfold retain
    split
    · rfl
    split
    · rfl
    · exact Heap.length_setNode _
  · cases target : shape.target ref with
    | none => rw [retain_none target]
    | some id =>
      rw [targets_some target] at live
      obtain ⟨node, found⟩ := Option.isSome_iff_exists.mp (live id mem_cons_self)
      rw [retain_some target found]
      rfl

namespace Settled

theorem retain {ref : Ref} (settled : Settled shape heap outside)
    (live : ∀ id ∈ shape.targets [ref], (heap.node? id).isSome)
    (room : ∀ id ∈ shape.targets [ref], held shape heap id + outside.count id + 1 < 2 ^ 31) :
    Settled shape (retain shape heap ref) (shape.targets [ref] ++ outside) := by
  cases target : shape.target ref with
  | none =>
    rw [retain_none target, targets_none target]
    exact settled
  | some id =>
    rw [targets_some target] at live room ⊢
    obtain ⟨node, found⟩ := Option.isSome_iff_exists.mp (live id mem_cons_self)
    have counted := settled.needed id node found
    have more : (node.count + 1).toInt = node.count.toInt + 1 := by
      have few := room id mem_cons_self
      have count := settled.counts id
      rw [Heap.countOf_eq found] at count
      apply toInt_add_one
      · omega
      · omega
    rw [retain_some target found]
    apply settled.setNode found (by dsimp only; omega)
    intro other
    rw [singleton_append, count_cons_eq]
    dsimp only
    split
    · omega
    · omega

/-- Objects that go, and objects that stay as they are, hold no more. -/
theorem held_le (settled : Settled shape heap outside)
    (length : later.cells.length = heap.cells.length)
    (bodies : ∀ id node, later.node? id = some node →
      ∃ earlier, heap.node? id = some earlier ∧ node.body = earlier.body)
    (other : Nat) : held shape later other ≤ held shape heap other := by
  apply Heap.total_mono length
  intro id
  cases later_found : later.node? id with
  | none => exact Nat.zero_le _
  | some node =>
    obtain ⟨earlier, found, same⟩ := bodies id node later_found
    rw [found, slotWeight_counted (settled.needed id earlier found)]
    unfold slotWeight
    dsimp only
    split
    · rw [same]
    · exact Nat.zero_le _

theorem held_eq (settled : Settled shape heap outside)
    (later_settled : Settled shape later others) (same : SameBodies heap later) (other : Nat) :
    held shape later other = held shape heap other := by
  apply Nat.le_antisymm
  · exact settled.held_le same.length same.earlier other
  · exact later_settled.held_le same.length.symm same.symm.earlier other

theorem retainAll {refs : List Ref} (settled : Settled shape heap outside)
    (live : ∀ id ∈ shape.targets refs, (heap.node? id).isSome)
    (room : ∀ id ∈ shape.targets refs, held shape heap id +
      outside.count id + (shape.targets refs).count id < 2 ^ 31) :
    Settled shape (refs.foldl (CountedHeap.retain shape) heap) (shape.targets refs ++ outside) ∧
      SameBodies heap (refs.foldl (CountedHeap.retain shape) heap) := by
  induction refs generalizing heap outside with
  | nil => exact ⟨settled, .refl heap⟩
  | cons ref refs induction =>
    rw [targets_cons] at live room
    have first_live : ∀ id ∈ shape.targets [ref], (heap.node? id).isSome := by
      intro id listed
      exact live id (mem_append_left _ listed)
    have same := sameBodies_retain first_live
    have first : Settled shape (CountedHeap.retain shape heap ref)
        (shape.targets [ref] ++ outside) := by
      apply settled.retain first_live
      intro id listed
      have few := room id (mem_append_left _ listed)
      have one := count_pos_iff.mpr listed
      rw [count_append] at few
      omega
    obtain ⟨rest, rest_same⟩ := induction first (by
        intro id listed
        rw [same.isSome]
        exact live id (mem_append_right _ listed))
      (by
        intro id listed
        have few := room id (mem_append_right _ listed)
        rw [settled.held_eq first same, count_append]
        rw [count_append] at few
        omega)
    refine ⟨rest.recount ?_, same.trans rest_same⟩
    intro id
    rw [targets_cons ref refs]
    simp only [count_append]
    omega

theorem create {body : Body} (settled : Settled shape heap
      (shape.targets (shape.slots body) ++ outside)) :
    Settled shape (heap.create body) (heap.cells.length :: outside) := by
  have unused : heap.countOf heap.cells.length = 0 := by
    rw [Heap.countOf, Heap.node?, getElem?_eq_none (Nat.le_refl _)]
    rfl
  have counted : 0 < (1 : Int32).toInt := by decide
  refine ⟨?_, ⟨?_, settled.tidy.once, ?_⟩, ?_⟩
  · intro other
    have before := settled.counts other
    rw [count_append] at before
    rw [heap.countOf_create, count_cons_eq, held, Heap.total_create, slotWeight_counted counted]
    dsimp only
    rw [held] at before
    split
    next own =>
      rw [own, unused] at before
      rw [own]
      omega
    · omega
  · intro other
    have length : (heap.create body).cells.length = heap.cells.length + 1 :=
      length_append
    refine (settled.tidy.logged other).trans ?_
    rw [heap.countOf_create, length]
    split
    · omega
    next apart =>
      refine and_congr_left fun _ => ?_
      omega
  · have alive := settled.tidy.alive
    rw [Heap.total_create]
    change heap.alive + 1 = _
    rw [alive]
    rfl
  · intro other node found
    rw [heap.node?_create] at found
    split at found
    · obtain rfl := Option.some.inj found
      exact counted
    · exact settled.needed other node found

end Settled

end CountedHeap
