import VtFerry.Foundation.CountedHeap

/-!
# What a release leaves

When no object holds itself, directly or through others, exact counts say that
an object is there exactly as long as the references from outside lead to it,
through any number of slots.  A release then frees exactly the objects the
other references do not lead to.

The objects that hold a released reference are above it.  A cascade of
finalizers only goes down, so it neither changes such an object nor looks at
its slots.
-/

namespace CountedHeap

open List

universe u v

variable {Ref : Type u} {Body : Type v} {shape : Shape Ref Body}
variable {rank : Nat → Nat} {heap later : Heap Body} {outside : List Nat}
variable {id above : Nat} {node : Node Body}

/-- Slots only lead to objects of a lower rank. -/
def Ranked (shape : Shape Ref Body) (rank : Nat → Nat) (heap : Heap Body) :
    Prop :=
  ∀ id node, heap.node? id = some node →
    ∀ target ∈ shape.targets (shape.slots node.body), rank target < rank id

instance Ranked.decidable (shape : Shape Ref Body) (rank : Nat → Nat)
    (heap : Heap Body) : Decidable (Ranked shape rank heap) :=
  decidable_of_iff (∀ id < heap.cells.length, ∀ node ∈ heap.node? id,
      ∀ target ∈ shape.targets (shape.slots node.body), rank target < rank id) (by
    constructor
    · intro inside id node found
      exact inside id (Heap.lt_length_of_node? found) node found
    · intro ranked id _ node found
      exact ranked id node found)

/-- No object holds itself. -/
def Acyclic (shape : Shape Ref Body) (heap : Heap Body) : Prop :=
  ∃ rank, Ranked shape rank heap

theorem Ranked.of_bodies (ranked : Ranked shape rank heap)
    (bodies : ∀ id node, later.node? id = some node →
      ∃ earlier, heap.node? id = some earlier ∧ node.body = earlier.body) :
    Ranked shape rank later := by
  intro id node found
  obtain ⟨earlier, was, same⟩ := bodies id node found
  rw [same]
  exact ranked id earlier was

/-! ## Releases below an object -/

theorem Ranked.recount {new : Node Body} (ranked : Ranked shape rank heap)
    (found : heap.node? id = some node) (same : new.body = node.body) :
    Ranked shape rank (heap.setNode id (some new)) := by
  apply ranked.of_bodies
  intro other later_node later_found
  rw [heap.node?_setNode found] at later_found
  split at later_found
  next own =>
    obtain rfl := Option.some.inj later_found
    exact ⟨node, own ▸ found, same⟩
  · exact ⟨later_node, later_found, rfl⟩

theorem node?_setNode_of_ne (apart : id ≠ above) (new : Option (Node Body)) :
    (heap.setNode id new).node? above = heap.node? above := by
  unfold Heap.node? Heap.setNode
  dsimp only
  rw [getElem?_set_ne apart]

theorem Ranked.free (ranked : Ranked shape rank heap) : Ranked shape rank (heap.free id) := by
  apply ranked.of_bodies
  intro other later_node later_found
  by_cases own : id = other
  · subst own
    have cell : (heap.free id).node? id = none := by
      unfold Heap.node? Heap.free Heap.setNode
      dsimp only
      rw [getElem?_set_self']
      cases heap.cells[id]? with
      | none => rfl
      | some _ => rfl
    rw [cell] at later_found
    cases later_found
  · have same : (heap.free id).node? other = heap.node? other :=
      node?_setNode_of_ne own none
    rw [same] at later_found
    exact ⟨later_node, later_found, rfl⟩

/-- An action that neither changes the object nor looks at it. -/
structure Spares (above : Nat) (heap : Heap Body) (act : Heap Body → Heap Body) : Prop where
  node : (act heap).node? above = heap.node? above
  blind : ∀ new, act (heap.setNode above new) = (act heap).setNode above new

theorem Spares.comp {first second : Heap Body → Heap Body} (spares : Spares above heap first)
    (spares_next : Spares above (first heap) second) :
    Spares above heap (fun heap => second (first heap)) where
  node := spares_next.node.trans spares.node
  blind new := by rw [spares.blind, spares_next.blind]

theorem Spares.of_eq {act other : Heap Body → Heap Body}
    (spares : Spares above heap other) (same : act heap = other heap)
    (same_set : ∀ new, act (heap.setNode above new) = other (heap.setNode above new)) :
    Spares above heap act where
  node := by rw [same, spares.node]
  blind new := by rw [same_set, same, spares.blind]

theorem spares_self : Spares above heap fun heap => heap :=
  ⟨rfl, fun _ => rfl⟩

theorem spares_touch (id : Nat) : Spares above heap fun heap => heap.touch id :=
  ⟨rfl, fun _ => rfl⟩

theorem spares_enter (id : Nat) : Spares above heap fun heap => heap.enter id :=
  ⟨rfl, fun _ => rfl⟩

theorem spares_setNode (apart : id ≠ above) (new : Option (Node Body)) :
    Spares above heap fun heap => heap.setNode id new where
  node := node?_setNode_of_ne apart new
  blind other := by
    unfold Heap.setNode
    dsimp only
    rw [set_comm _ _ (Ne.symm apart)]

theorem spares_free (apart : id ≠ above) :
    Spares above heap fun heap => heap.free id where
  node := node?_setNode_of_ne apart none
  blind other := by
    unfold Heap.free Heap.setNode
    dsimp only
    rw [set_comm _ _ (Ne.symm apart)]

/-- The release of references to objects of a lower rank keeps the ranks. -/
def SparesRanked (shape : Shape Ref Body) (rank : Nat → Nat) (above : Nat)
    (refs : List Ref) (act : Heap Body → Heap Body) : Prop :=
  ∀ heap, Ranked shape rank heap → (∀ target ∈ shape.targets refs, rank target < rank above) →
    Ranked shape rank (act heap) ∧ Spares above heap act

theorem sparesRanked_foldl {act : Heap Body → Ref → Heap Body}
    (each : ∀ ref, SparesRanked shape rank above [ref] fun heap =>
      act heap ref) (refs : List Ref) :
    SparesRanked shape rank above refs fun heap => refs.foldl act heap := by
  induction refs with
  | nil =>
    intro heap ranked _
    exact ⟨ranked, spares_self⟩
  | cons ref refs induction =>
    intro heap ranked below
    rw [targets_cons] at below
    obtain ⟨still_ranked, spares⟩ := each ref heap ranked
      fun target listed => below target (mem_append_left _ listed)
    obtain ⟨last_ranked, spares_rest⟩ := induction (act heap ref) still_ranked
      fun target listed => below target (mem_append_right _ listed)
    exact ⟨last_ranked, spares.comp spares_rest⟩

theorem sparesRanked_releaseWithin (fuel : Nat) (ref : Ref) :
    SparesRanked shape rank above [ref] fun heap =>
      releaseWithin shape fuel heap ref := by
  induction fuel generalizing ref with
  | zero =>
    intro heap ranked _
    exact ⟨ranked, spares_self⟩
  | succ fuel induction =>
    intro heap ranked below
    dsimp only
    cases target : shape.target ref with
    | none =>
      refine ⟨?_, spares_self.of_eq ?_ ?_⟩
      · rwa [releaseWithin_none target]
      · exact releaseWithin_none target
      · exact fun _ => releaseWithin_none target
    | some id =>
      rw [targets_some target] at below
      have lower := below id mem_cons_self
      have apart : id ≠ above := by
        rintro rfl
        exact Nat.lt_irrefl _ lower
      have unmoved (new : Option (Node Body)) : (heap.setNode above new).node? id = heap.node? id :=
        node?_setNode_of_ne (Ne.symm apart) new
      cases found : heap.node? id with
      | none =>
        refine ⟨?_, (spares_touch id).of_eq ?_ ?_⟩
        · rw [releaseWithin_freed target found]
          exact ranked
        · exact releaseWithin_freed target found
        · intro new
          exact releaseWithin_freed target ((unmoved new).trans found)
      | some node =>
        have counted_ranked : Ranked shape rank (heap.setNode id (some node.less)) :=
          ranked.recount found rfl
        have counted : Spares above heap fun heap =>
            heap.setNode id (some node.less) :=
          spares_setNode apart _
        by_cases is_last : node.count = 1
        · obtain ⟨emptied_ranked, emptied⟩ := sparesRanked_foldl induction (shape.slots node.body)
            ((heap.setNode id (some node.less)).enter id)
            counted_ranked fun slot listed =>
              Nat.lt_trans (ranked id node found slot listed) lower
          have through := counted.comp ((spares_enter id).comp (emptied.comp (spares_free apart)))
          refine ⟨?_, through.of_eq ?_ ?_⟩
          · rw [releaseWithin_last target found is_last]
            exact emptied_ranked.free
          · exact releaseWithin_last target found is_last
          · intro new
            exact releaseWithin_last target ((unmoved new).trans found) is_last
        · refine ⟨?_, counted.of_eq ?_ ?_⟩
          · rw [releaseWithin_more target found is_last]
            exact counted_ranked
          · exact releaseWithin_more target found is_last
          · intro new
            exact releaseWithin_more target ((unmoved new).trans found) is_last

variable {ref : Ref}

theorem spares_release (ranked : Ranked shape rank heap)
    (below : ∀ target ∈ shape.targets [ref], rank target < rank above) :
    Spares above heap fun heap => release shape heap ref where
  node := ((sparesRanked_releaseWithin heap.cells.length ref) heap ranked below).2.node
  blind new := by
    unfold release
    rw [Heap.length_setNode]
    exact ((sparesRanked_releaseWithin heap.cells.length ref) heap ranked below).2.blind new

/-! ## Changing a body -/

variable {change : Body → Body}

theorem modifyBody_eq (found : heap.node? id = some node) :
    heap.modifyBody id change =
      heap.setNode id (some { node with body := change node.body }) := by
  rw [Heap.modifyBody, found]

theorem node?_modifyBody (found : heap.node? id = some node) (other : Nat) :
    (heap.modifyBody id change).node? other =
      if other = id then some { node with body := change node.body }
      else heap.node? other := by
  rw [modifyBody_eq found, heap.node?_setNode found]

theorem countOf_modifyBody (found : heap.node? id = some node) (other : Nat) :
    (heap.modifyBody id change).countOf other = heap.countOf other := by
  unfold Heap.countOf
  rw [node?_modifyBody found]
  split
  next own =>
    rw [own, found]
    rfl
  · rfl

theorem touched_modifyBody (found : heap.node? id = some node) :
    (heap.modifyBody id change).touched = heap.touched := by
  rw [modifyBody_eq found]
  rfl

theorem modifyBody_modifyBody {next : Body → Body} (found : heap.node? id = some node) :
    (heap.modifyBody id change).modifyBody id next =
      heap.modifyBody id (next ∘ change) := by
  have changed : (heap.modifyBody id change).node? id =
      some { node with body := change node.body } := by
    rw [node?_modifyBody found, if_pos rfl]
  rw [modifyBody_eq changed, modifyBody_eq found, modifyBody_eq found]
  unfold Heap.setNode
  dsimp only [Function.comp_apply]
  rw [set_set]

theorem retain_modifyBody (found : heap.node? id = some node) :
    retain shape (heap.modifyBody id change) ref =
      (retain shape heap ref).modifyBody id change := by
  cases target : shape.target ref with
  | none => rw [retain_none target, retain_none target]
  | some other =>
    by_cases own : other = id
    · subst own
      have changed : (heap.modifyBody other change).node? other =
          some { node with body := change node.body } := by
        rw [node?_modifyBody found, if_pos rfl]
      have retained : (heap.setNode other
          (some { node with count := node.count + 1 })).node? other =
            some { node with count := node.count + 1 } := by
        rw [heap.node?_setNode found, if_pos rfl]
      rw [retain_some target changed, retain_some target found,
        modifyBody_eq found, modifyBody_eq retained]
      unfold Heap.setNode
      dsimp only
      rw [set_set, set_set]
    · have unchanged : (heap.modifyBody id change).node? other =
          heap.node? other := by
        rw [node?_modifyBody found, if_neg own]
      cases there : heap.node? other with
      | none =>
        rw [retain_freed target (unchanged.trans there), retain_freed target there]
        have same : (heap.touch other).node? id = some node := found
        rw [modifyBody_eq found, modifyBody_eq same]
        rfl
      | some other_node =>
        rw [retain_some target (unchanged.trans there),
          retain_some target there, modifyBody_eq found, modifyBody_eq]
        · exact ((spares_setNode own _).blind _)
        · rw [node?_setNode_of_ne own, found]

/-! ## The objects that references lead to -/

/-- The references from outside lead to the object. -/
inductive Anchored (shape : Shape Ref Body) (heap : Heap Body) (outside : List Nat) : Nat → Prop
  | outside (id : Nat) : id ∈ outside → Anchored shape heap outside id
  | slot (holder : Nat) (node : Node Body) (id : Nat) :
      Anchored shape heap outside holder → heap.node? holder = some node →
      id ∈ shape.targets (shape.slots node.body) →
      Anchored shape heap outside id

theorem Anchored.of_bodies (anchored : Anchored shape later outside id)
    (bodies : ∀ id node, later.node? id = some node →
      ∃ earlier, heap.node? id = some earlier ∧ node.body = earlier.body) :
    Anchored shape heap outside id := by
  induction anchored with
  | outside id listed => exact .outside id listed
  | slot holder node id _ found listed induction =>
    obtain ⟨earlier, was, same⟩ := bodies holder node found
    rw [same] at listed
    exact .slot holder earlier id induction was listed

theorem not_anchored_nil : ¬ Anchored shape heap [] id := by
  intro anchored
  induction anchored with
  | outside id listed => cases listed
  | slot holder node id _ _ _ induction => exact induction

namespace Settled

theorem held_pos_iff (settled : Settled shape heap outside) :
    0 < held shape heap id ↔ ∃ holder node, heap.node? holder = some node ∧
      id ∈ shape.targets (shape.slots node.body) := by
  constructor
  · intro some_slot
    by_contra nobody
    have no_slot : held shape heap id = 0 := by
      apply sum_eq_zero
      intro weight listed
      obtain ⟨cell, cell_listed, rfl⟩ := mem_map.mp listed
      cases cell with
      | none => rfl
      | some node =>
        obtain ⟨holder, found⟩ := getElem?_of_mem cell_listed
        have there : heap.node? holder = some node := by
          rw [Heap.node?, found]
          rfl
        rw [slotWeight_counted (settled.needed holder node there)]
        apply count_eq_zero.mpr
        intro slot
        exact nobody ⟨holder, node, there, slot⟩
    omega
  · rintro ⟨holder, node, found, listed⟩
    have weight := heap.le_total (slotWeight shape id) found
    rw [slotWeight_counted (settled.needed holder node found)] at weight
    have positive := count_pos_iff.mpr listed
    exact Nat.lt_of_lt_of_le positive weight

theorem present_of_slot {holder : Nat} (settled : Settled shape heap outside)
    (found : heap.node? holder = some node)
    (listed : id ∈ shape.targets (shape.slots node.body)) :
    (heap.node? id).isSome := by
  have some_slot := settled.held_pos_iff.mpr ⟨holder, node, found, listed⟩
  rw [settled.present_iff]
  omega

theorem present_of_outside (settled : Settled shape heap outside)
    (listed : id ∈ outside) : (heap.node? id).isSome := by
  have some_outside := count_pos_iff.mpr listed
  rw [settled.present_iff]
  omega

theorem anchored_of_present (settled : Settled shape heap outside)
    (acyclic : Acyclic shape heap) (present : (heap.node? id).isSome) :
    Anchored shape heap outside id := by
  obtain ⟨rank, ranked⟩ := acyclic
  obtain ⟨top, below_top⟩ : ∃ top, ∀ id, (heap.node? id).isSome → rank id ≤ top := by
    refine ⟨((range heap.cells.length).map rank).sum, ?_⟩
    intro id there
    obtain ⟨node, found⟩ := Option.isSome_iff_exists.mp there
    apply single_le_sum
    · exact fun _ _ => Nat.zero_le _
    · apply mem_map_of_mem
      exact mem_range.mpr (Heap.lt_length_of_node? found)
  generalize distance : top - rank id = steps
  induction steps using Nat.strong_induction_on generalizing id with
  | _ steps induction =>
    by_cases listed : id ∈ outside
    · exact .outside id listed
    · have some_slot : 0 < held shape heap id := by
        have references := settled.present_iff.mp present
        rw [count_eq_zero.mpr listed] at references
        omega
      obtain ⟨holder, node, found, slot⟩ :=
        settled.held_pos_iff.mp some_slot
      have there : (heap.node? holder).isSome := by
        rw [found]
        rfl
      have higher := ranked holder node found id slot
      have reaches := below_top holder there
      apply Anchored.slot holder node id _ found slot
      exact induction (top - rank holder) (by omega) there rfl

/-- A release leaves exactly the objects the other references lead to. -/
theorem release_present_iff (settled : Settled shape heap (shape.targets [ref] ++ outside))
    (acyclic : Acyclic shape heap) :
    ((CountedHeap.release shape heap ref).node? id).isSome ↔
      Anchored shape heap outside id := by
  obtain ⟨after, drops⟩ := settled.release
  constructor
  · intro present
    obtain ⟨rank, ranked⟩ := acyclic
    have anchored := after.anchored_of_present ⟨rank, ranked.of_bodies drops.bodies⟩ present
    exact anchored.of_bodies drops.bodies
  · intro anchored
    induction anchored with
    | outside id listed => exact after.present_of_outside listed
    | slot holder node id _ found slot induction =>
      obtain ⟨later_node, later_found⟩ :=
        Option.isSome_iff_exists.mp induction
      obtain ⟨earlier, was, same⟩ :=
        drops.bodies holder later_node later_found
      obtain rfl : earlier = node := Option.some.inj (was.symm.trans found)
      rw [← same] at slot
      exact after.present_of_slot later_found slot

theorem gone_of_unreferenced (settled : Settled shape heap [])
    (acyclic : Acyclic shape heap) (id : Nat) : heap.node? id = none := by
  cases found : heap.node? id with
  | none => rfl
  | some node =>
    have anchored : Anchored shape heap [] id := by
      apply settled.anchored_of_present acyclic
      rw [found]
      rfl
    exact absurd anchored not_anchored_nil

end Settled

end CountedHeap
