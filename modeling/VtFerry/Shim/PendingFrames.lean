import VtFerry.Foundation.CellQueue
import VtFerry.Foundation.Execution

/-!
# The arrays of pending frames

A session keeps the frames that wait for their output in two arrays it manages
itself: the image buffers, and the pointers the client passed with them.  Both
grow together, by two allocations of which either may fail, and both are
shifted when the oldest frame is taken.  Together they are a queue of pairs.
Each buffer in it was retained by its push, and that retain goes to the one who
takes the buffer.
-/

namespace VtFerry.Shim

open List

/-- The fields of `vtf_vt_session`.  Pointers are addresses, null is 0, and an
array that was not allocated is `none`. -/
structure PendingArrays where
  pendingImageBuffers : Option (List Nat)
  pendingSourceFrameRefcons : Option (List Nat)
  pendingCount : Nat
  pendingCapacity : Nat
  deriving DecidableEq, Repr

/-- What the two calls of `malloc` give: a block with anything in it, or
null. -/
structure Allocations where
  newPtr : Option (Nat → Nat)
  newRefconPtr : Option (Nat → Nat)

namespace PendingArrays

/-- The new block, with the pending items copied over. -/
def copied (count capacity : Nat) (contents : Nat → Nat) :
    Option (List Nat) → List Nat
  | none => (range capacity).map contents
  | some items =>
    if 0 < count then
      items.take count ++ ((range capacity).map contents).drop count
    else (range capacity).map contents

/-- Room for one more frame, unless an allocation fails. -/
def withRoom (arrays : PendingArrays) (allocations : Allocations) :
    Option PendingArrays :=
  if arrays.pendingCount = arrays.pendingCapacity then
    let newCapacity :=
      if arrays.pendingCapacity = 0 then 4 else arrays.pendingCapacity * 2
    match allocations.newPtr, allocations.newRefconPtr with
    | some contents, some refconContents =>
      some
        { arrays with
          pendingImageBuffers := some (copied arrays.pendingCount newCapacity
            contents arrays.pendingImageBuffers)
          pendingSourceFrameRefcons := some (copied arrays.pendingCount
            newCapacity refconContents arrays.pendingSourceFrameRefcons)
          pendingCapacity := newCapacity }
    | _, _ => none
  else some arrays

/-- Whether the frame was pushed, the arrays, and what was retained: there is
nothing to retain at null. -/
def vtfPushPendingImageBuffer (arrays : PendingArrays)
    (imageBuffer sourceFrameRefcon : Nat) (allocations : Allocations) :
    Bool × PendingArrays × List Nat :=
  match arrays.withRoom allocations with
  | none => (false, arrays, [])
  | some room =>
    (true,
      { room with
        pendingImageBuffers := room.pendingImageBuffers.map (·.set room.pendingCount imageBuffer)
        pendingSourceFrameRefcons := room.pendingSourceFrameRefcons.map
          (·.set room.pendingCount sourceFrameRefcon)
        pendingCount := room.pendingCount + 1 },
      if imageBuffer = 0 then [] else [imageBuffer])

/-- Of a single frame nothing is moved down. -/
def vtfPopPendingImageBuffer (arrays : PendingArrays) :
    (Nat × Nat) × PendingArrays :=
  match arrays.pendingCount, arrays.pendingImageBuffers with
  | 0, _ => ((0, 0), arrays)
  | _ + 1, none => ((0, 0), arrays)
  | count + 1, some images =>
    ((images.headD 0, (arrays.pendingSourceFrameRefcons.map (·.headD 0)).getD 0),
      { arrays with
        pendingImageBuffers := some (CellQueue.moveDown (count + 1) images)
        pendingSourceFrameRefcons := arrays.pendingSourceFrameRefcons.map
          (CellQueue.moveDown (count + 1))
        pendingCount := count })

/-- What `vtf_finalize_vt_session` releases of the pending frames. -/
def finalized (arrays : PendingArrays) : List Nat :=
  (arrays.pendingImageBuffers.getD []).take arrays.pendingCount

end PendingArrays

inductive PendingCall where
  | push (imageBuffer sourceFrameRefcon : Nat) (allocations : Allocations)
  | pop

/-- A session's arrays, the queue that its calls make, the buffers its pushes
retained and those its pops returned. -/
structure PendingRun where
  arrays : PendingArrays
  queue : List (Nat × Nat)
  retained : List Nat
  handed : List Nat

namespace PendingRun

def fresh : PendingRun where
  arrays := ⟨none, none, 0, 0⟩
  queue := []
  retained := []
  handed := []

/-- A push that succeeds appends to the queue, a pop removes its front. -/
def step (run : PendingRun) : PendingCall → PendingRun
  | .push imageBuffer sourceFrameRefcon allocations =>
    let result := run.arrays.vtfPushPendingImageBuffer imageBuffer sourceFrameRefcon allocations
    { run with
      arrays := result.2.1
      queue := run.queue ++
        if result.1 then [(imageBuffer, sourceFrameRefcon)] else []
      retained := run.retained ++ result.2.2 }
  | .pop =>
    let result := run.arrays.vtfPopPendingImageBuffer
    { run with
      arrays := result.2
      queue := run.queue.tail
      handed := run.handed ++ [result.1.1] }

/-- The arrays are the queue, and each retain is queued or was handed over. -/
structure Queued (run : PendingRun) : Prop where
  images : (run.arrays.pendingImageBuffers.getD []).take
    run.arrays.pendingCount = run.queue.map Prod.fst
  refcons : (run.arrays.pendingSourceFrameRefcons.getD []).take
    run.arrays.pendingCount = run.queue.map Prod.snd
  count : run.arrays.pendingCount = run.queue.length
  count_le : run.arrays.pendingCount ≤ run.arrays.pendingCapacity
  /-- A pop returns the front of the queue, or nulls. -/
  pop : run.arrays.vtfPopPendingImageBuffer.1 = run.queue.head?.getD (0, 0)
  /-- A push succeeds with room left, and otherwise if both allocations do. -/
  pushes : ∀ imageBuffer sourceFrameRefcon allocations,
    (run.arrays.vtfPushPendingImageBuffer imageBuffer sourceFrameRefcon allocations).1 = true ↔
      run.arrays.pendingCount < run.arrays.pendingCapacity ∨
        allocations.newPtr.isSome ∧ allocations.newRefconPtr.isSome
  /-- A push that fails changes nothing and retains nothing. -/
  failed : ∀ imageBuffer sourceFrameRefcon allocations,
    (run.arrays.vtfPushPendingImageBuffer imageBuffer sourceFrameRefcon allocations).1 = false →
      (run.arrays.vtfPushPendingImageBuffer imageBuffer sourceFrameRefcon
        allocations).2 = (run.arrays, [])
  retains : ∀ imageBuffer ≠ 0, run.retained.count imageBuffer =
    (run.queue.map Prod.fst).count imageBuffer + run.handed.count imageBuffer
  finalized : run.arrays.finalized = run.queue.map Prod.fst

end PendingRun

/-! ## One array -/

/-- The first cells of an array hold the items. -/
structure Holds (block : Option (List Nat)) (count capacity : Nat) (items : List Nat) : Prop where
  cells : (block.getD []).length = capacity
  items : (block.getD []).take count = items
  fits : count ≤ capacity

namespace Holds

variable {block : Option (List Nat)} {count capacity : Nat}
variable {held : List Nat}

theorem length (holds : Holds block count capacity held) : held.length = count := by
  rw [← holds.items, length_take, holds.cells]
  exact Nat.min_eq_left holds.fits

theorem allocated (holds : Holds block count capacity held)
    (room : 0 < capacity) : ∃ cells, block = some cells := by
  cases block with
  | none => exact absurd holds.cells (Nat.ne_of_lt room)
  | some cells => exact ⟨cells, rfl⟩

theorem grow (holds : Holds block count capacity held) {larger : Nat}
    (more : count ≤ larger) (contents : Nat → Nat) :
    Holds (some (PendingArrays.copied count larger contents block)) count
      larger held := by
  have fresh : ((range larger).map contents).length = larger := by
    simp
  cases block with
  | none =>
    have empty : count = 0 :=
      Nat.le_zero.mp (Nat.le_trans holds.fits (Nat.le_of_eq holds.cells.symm))
    refine ⟨fresh, ?_, more⟩
    rw [← holds.items, empty, take_zero, take_zero]
  | some old =>
    have length := holds.length
    obtain rfl : old.take count = held := holds.items
    dsimp only [PendingArrays.copied]
    split
    · refine ⟨?_, take_left' length, more⟩
      rw [Option.getD_some, length_append, length_drop, fresh, length]
      omega
    next unused =>
      obtain rfl : count = 0 := Nat.eq_zero_of_not_pos unused
      exact ⟨fresh, rfl, more⟩

theorem write (holds : Holds block count capacity held) (room : count < capacity) (item : Nat) :
    Holds (block.map (·.set count item)) (count + 1) capacity (held ++ [item]) := by
  obtain ⟨cells, rfl⟩ := holds.allocated (Nat.zero_lt_of_lt room)
  have length : cells.length = capacity := holds.cells
  obtain rfl : cells.take count = held := holds.items
  refine ⟨?_, CellQueue.take_set (length ▸ room), room⟩
  rw [Option.map_some, Option.getD_some, length_set, length]

theorem shift (holds : Holds block (count + 1) capacity held) :
    (block.map (·.headD 0)).getD 0 = held.headD 0 ∧
      Holds (block.map (CellQueue.moveDown (count + 1))) count capacity
        held.tail := by
  have fits := holds.fits
  obtain ⟨cells, rfl⟩ := holds.allocated (Nat.zero_lt_of_lt fits)
  have length : cells.length = capacity := holds.cells
  obtain rfl : cells.take (count + 1) = held := holds.items
  have within : count + 1 ≤ cells.length := length ▸ fits
  have moved := CellQueue.take_moveDown (Nat.succ_pos count) within
  have cells_after := CellQueue.length_moveDown within
  cases cells with
  | nil => exact absurd within (Nat.not_succ_le_zero count)
  | cons first rest =>
    exact ⟨rfl, cells_after.trans length, (congrArg tail moved).symm, Nat.le_of_succ_le fits⟩

end Holds

/-! ## Both arrays -/

namespace PendingArrays

/-- The arrays hold the queue. -/
structure Represents (arrays : PendingArrays) (queue : List (Nat × Nat)) :
    Prop where
  images : Holds arrays.pendingImageBuffers arrays.pendingCount
    arrays.pendingCapacity (queue.map Prod.fst)
  refcons : Holds arrays.pendingSourceFrameRefcons arrays.pendingCount
    arrays.pendingCapacity (queue.map Prod.snd)

variable {arrays : PendingArrays} {queue : List (Nat × Nat)}

theorem Represents.withRoom (represents : arrays.Represents queue)
    {allocations : Allocations} {room : PendingArrays}
    (made : arrays.withRoom allocations = some room) :
    room.Represents queue ∧ room.pendingCount < room.pendingCapacity := by
  unfold PendingArrays.withRoom at made
  split at made
  next full =>
    dsimp only at made
    split at made
    · obtain rfl := Option.some.inj made
      have larger : arrays.pendingCount <
          if arrays.pendingCapacity = 0 then 4
          else arrays.pendingCapacity * 2 := by
        split <;> omega
      exact ⟨⟨represents.images.grow (Nat.le_of_lt larger) _,
        represents.refcons.grow (Nat.le_of_lt larger) _⟩, larger⟩
    · cases made
  next unequal =>
    obtain rfl := Option.some.inj made
    exact ⟨represents, Nat.lt_of_le_of_ne represents.images.fits unequal⟩

theorem pushes_iff (imageBuffer sourceFrameRefcon : Nat) (allocations : Allocations)
    (fits : arrays.pendingCount ≤ arrays.pendingCapacity) :
    (arrays.vtfPushPendingImageBuffer imageBuffer sourceFrameRefcon allocations).1 = true ↔
      arrays.pendingCount < arrays.pendingCapacity ∨
        allocations.newPtr.isSome ∧ allocations.newRefconPtr.isSome := by
  obtain ⟨newPtr, newRefconPtr⟩ := allocations
  unfold vtfPushPendingImageBuffer PendingArrays.withRoom
  by_cases full : arrays.pendingCount = arrays.pendingCapacity
  · cases newPtr <;> cases newRefconPtr <;> simp [full]
  · simp [full, Nat.lt_of_le_of_ne fits full]

theorem Represents.pop (represents : arrays.Represents queue) :
    arrays.vtfPopPendingImageBuffer.1 = queue.head?.getD (0, 0) ∧
      arrays.vtfPopPendingImageBuffer.2.Represents queue.tail := by
  obtain ⟨images, refcons⟩ := represents
  have count := images.length
  rw [length_map] at count
  unfold vtfPopPendingImageBuffer
  split
  next none =>
    obtain rfl : queue = [] := length_eq_zero_iff.mp (count.trans none)
    exact ⟨rfl, images, refcons⟩
  next some_pending unallocated =>
    obtain ⟨cells, allocated⟩ := images.allocated
      (Nat.lt_of_lt_of_le (some_pending ▸ Nat.succ_pos _) images.fits)
    cases unallocated.symm.trans allocated
  next fewer cells pending allocated =>
    rw [pending] at images refcons count
    obtain ⟨image, images⟩ := images.shift
    obtain ⟨refcon, refcons⟩ := refcons.shift
    rw [allocated] at image images
    rw [← map_tail] at images refcons
    refine ⟨?_, images, refcons⟩
    cases queue with
    | nil => cases count
    | cons front rest => exact Prod.ext image refcon

end PendingArrays

namespace PendingRun

variable {run : PendingRun}

structure Kept (run : PendingRun) : Prop where
  represents : run.arrays.Represents run.queue
  retains : ∀ imageBuffer ≠ 0, run.retained.count imageBuffer =
    (run.queue.map Prod.fst).count imageBuffer + run.handed.count imageBuffer

theorem Kept.step (kept : run.Kept) (call : PendingCall) : (run.step call).Kept := by
  obtain ⟨represents, retains⟩ := kept
  cases call with
  | push imageBuffer sourceFrameRefcon allocations =>
    unfold PendingRun.step PendingArrays.vtfPushPendingImageBuffer
    dsimp only
    cases made : run.arrays.withRoom allocations with
    | none =>
      simp only [Bool.false_eq_true, if_false, append_nil]
      exact ⟨represents, retains⟩
    | some room =>
      obtain ⟨⟨images, refcons⟩, free⟩ := represents.withRoom made
      simp only [if_true]
      refine ⟨⟨?_, ?_⟩, ?_⟩
      · rw [map_append]
        exact images.write free imageBuffer
      · rw [map_append]
        exact refcons.write free sourceFrameRefcon
      · intro other buffer
        have before := retains other buffer
        have pushed : (if imageBuffer = 0 then [] else [imageBuffer]).count
            other = [imageBuffer].count other := by
          split
          next null =>
            rw [null, count_singleton, count_nil]
            simp [buffer.symm]
          · rfl
        rw [map_append, count_append, count_append, pushed, before]
        dsimp only [map]
        omega
  | pop =>
    obtain ⟨returned, popped⟩ := represents.pop
    refine ⟨popped, ?_⟩
    intro other buffer
    simp only [PendingRun.step, returned, retains other buffer]
    cases run.queue with
    | nil => simp [buffer.symm]
    | cons front rest =>
      rw [map_cons, ← singleton_append, count_append, count_append]
      dsimp only [tail, head?, Option.getD]
      omega

/-- **The pending arrays are a queue**, through every sequence of pushes and
pops and whichever allocations fail. -/
theorem pending_frames_queued (calls : List PendingCall) :
    (Execution.run step fresh calls).Queued := by
  have initial : fresh.Kept :=
    ⟨⟨⟨rfl, rfl, Nat.le_refl 0⟩, ⟨rfl, rfl, Nat.le_refl 0⟩⟩, fun _ _ => rfl⟩
  have kept : (Execution.run step fresh calls).Kept :=
    Execution.invariant_of_step (fun _ call kept => kept.step call) initial calls
  generalize Execution.run step fresh calls = run at kept
  obtain ⟨represents, retains⟩ := kept
  have count := represents.images.length
  rw [length_map] at count
  refine ⟨represents.images.items, represents.refcons.items, count.symm,
    represents.images.fits, represents.pop.1, ?_, ?_, retains,
    represents.images.items⟩
  · intro imageBuffer sourceFrameRefcon allocations
    exact PendingArrays.pushes_iff imageBuffer sourceFrameRefcon allocations represents.images.fits
  · intro imageBuffer sourceFrameRefcon allocations failed
    unfold PendingArrays.vtfPushPendingImageBuffer at failed ⊢
    cases made : run.arrays.withRoom allocations with
    | none => rfl
    | some room =>
      rw [made] at failed
      cases failed

def pushes (newPtr newRefconPtr : Option (Nat → Nat)) (imageBuffer : Nat) : PendingCall :=
  .push imageBuffer (2 * imageBuffer) ⟨newPtr, newRefconPtr⟩

/-- Four frames fill the arrays, a fifth is refused while an allocation fails
and then makes them grow; one frame is taken. -/
theorem arrays_grow :
    let calls := [1, 2, 3, 4].map (pushes (some id) (some id)) ++
      [pushes (some id) none 5, pushes none (some id) 5, pushes (some id) (some id) 5, .pop]
    let run := Execution.run step fresh calls
    run.Queued ∧ run.arrays.pendingCapacity = 8 ∧
      run.queue = [(2, 4), (3, 6), (4, 8), (5, 10)] ∧ run.handed = [1] ∧
      run.arrays.pendingImageBuffers = some [2, 3, 4, 5, 5, 5, 6, 7] :=
  ⟨pending_frames_queued _, by decide, by decide, by decide, by decide⟩

end PendingRun

end VtFerry.Shim
