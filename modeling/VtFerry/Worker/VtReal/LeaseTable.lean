import VtFerry.Worker.VtReal.Effects

/-!
# The VideoToolbox backend's buffers as a lease table

A buffer is a cell: its pool is the group, its slot the slot, and it is held
unless it is recycled.  A second table of the same buffers, held while the
guest may write, says which leases can still be encoded: a lease is sealed
once a frame was accepted under it, and a sealed lease is never writable
again.  `Follows` collects what all requests but `CREATE_BUFFER_POOL` do to
the buffers; it keeps the backend well kept and its sealed leases sealed.
-/

namespace VtFerry

open LeaseTable

/-- The cell of a buffer, held in the given states. -/
def VtRealBuffer.cell (holds : BufferState → Bool) (buffer : VtRealBuffer) :
    Cell where
  group := buffer.poolId
  slot := buffer.slotIndex
  generation := buffer.generation
  held := holds buffer.state

namespace VtRealBuffer

/-- The buffer is as `CREATE_BUFFER_POOL` made it: its slot has the advertised
size, and its pixel buffer wraps the slot. -/
structure Made (buffer : VtRealBuffer) (width height : UInt32) (pixels : PixelBuffer) : Prop where
  columns : buffer.width = width.toInt32
  rows : buffer.height = height.toInt32
  size : buffer.mappedSize = (vtfFillBufferLayout width height buffer.pixelFormat).totalSize.toNat
  wraps : wrapPoolSlot buffer.mappedRegion buffer.mappedOffset width height
    buffer.pixelFormat = some pixels
  pixels : buffer.pixelBuffer = some pixels

def IsMade (buffer : VtRealBuffer) : Prop :=
  ∃ width height pixels, buffer.Made width height pixels

/-- Leases move through generations and states; the slot stays. -/
theorem IsMade.restated {buffer : VtRealBuffer} (made : buffer.IsMade)
    (generation : Nat) (state : BufferState) :
    IsMade { buffer with generation := generation, state := state } := by
  obtain ⟨width, height, pixels, made⟩ := made
  exact ⟨width, height, pixels, made.columns, made.rows, made.size, made.wraps, made.pixels⟩

/-- The pixel buffer is there, and none is made on demand. -/
theorem IsMade.wrapped {buffer : VtRealBuffer} (made : buffer.IsMade)
    (pixelBuffer : PixelBuffer) : (buffer.wrapped pixelBuffer).IsMade := by
  obtain ⟨width, height, pixels, made⟩ := made
  refine ⟨width, height, pixels, made.columns, made.rows, made.size, made.wraps, ?_⟩
  rw [VtRealBuffer.wrapped, made.pixels]
  rfl

end VtRealBuffer

/-- What a request may make of a buffer: its place stays, the generation only
grows, and it becomes writable only under a new generation. -/
structure VtRealBuffer.Becomes (earlier later : VtRealBuffer) : Prop where
  id : later.id = earlier.id
  poolId : later.poolId = earlier.poolId
  slotIndex : later.slotIndex = earlier.slotIndex
  slotOffset : later.slotOffset = earlier.slotOffset
  region : later.mappedRegion = earlier.mappedRegion
  made : earlier.IsMade → later.IsMade
  generation : earlier.generation ≤ later.generation
  writable : later.generation = earlier.generation →
    later.state = .guestWritable → earlier.state = .guestWritable

theorem VtRealBuffer.Becomes.refl (buffer : VtRealBuffer) :
    buffer.Becomes buffer :=
  ⟨rfl, rfl, rfl, rfl, rfl, fun made => made, Nat.le_refl _, fun _ writable => writable⟩

theorem VtRealBuffer.Becomes.trans {first second third : VtRealBuffer}
    (left : first.Becomes second) (right : second.Becomes third) :
    first.Becomes third where
  id := right.id.trans left.id
  poolId := right.poolId.trans left.poolId
  slotIndex := right.slotIndex.trans left.slotIndex
  slotOffset := right.slotOffset.trans left.slotOffset
  region := right.region.trans left.region
  made := right.made ∘ left.made
  generation := Nat.le_trans left.generation right.generation
  writable := by
    intro same writable
    have grown := left.generation
    have grown_too := right.generation
    exact left.writable (by omega) (right.writable (by omega) writable)

namespace VtRealBackend

def tableOf (holds : BufferState → Bool) (backend : VtRealBackend) :
    Table where
  next := backend.nextHostId
  cell id := (backend.buffers.lookup id).map (VtRealBuffer.cell holds)

def leaseTable (backend : VtRealBackend) : Table :=
  backend.tableOf fun state => state ≠ .recycled

def writableTable (backend : VtRealBackend) : Table :=
  backend.tableOf fun state => state = .guestWritable

/-- The lease was given out and no frame can be encoded under it any more. -/
def Sealed (backend : VtRealBackend) (lease : Lease) : Prop :=
  backend.writableTable.Past lease ∧ ¬ backend.writableTable.Current lease

structure WellKept (backend : VtRealBackend) : Prop where
  numbered : ∀ id buffer, backend.buffers.lookup id = some buffer →
    buffer.id = id ∧ id < backend.nextHostId ∧ buffer.poolId < backend.nextHostId
  pools : ∀ poolId pool, backend.pools.lookup poolId = some pool →
    pool.id = poolId ∧ poolId < backend.nextHostId
  housed : ∀ id buffer, backend.buffers.lookup id = some buffer → buffer.state ≠ .recycled →
    ∃ pool, backend.pools.lookup buffer.poolId = some pool
  within : ∀ id buffer pool, backend.buffers.lookup id = some buffer →
    backend.pools.lookup buffer.poolId = some pool →
    buffer.slotIndex < pool.maxBuffers.toNat ∧
      buffer.slotOffset = buffer.slotIndex * pool.slotRegionSize.toNat
  made : ∀ id buffer, backend.buffers.lookup id = some buffer → buffer.IsMade
  apart : ∀ id other buffer bufferToo, backend.buffers.lookup id = some buffer →
    backend.buffers.lookup other = some bufferToo →
    buffer.poolId = bufferToo.poolId →
    buffer.slotIndex = bufferToo.slotIndex → id = other

variable {backend before after : VtRealBackend} {lease : Lease}

theorem fresh_wellKept : fresh.WellKept where
  numbered _ _ found := by cases found
  pools _ _ found := by cases found
  housed _ _ found := by cases found
  within _ _ _ found := by cases found
  made _ _ found := by cases found
  apart _ _ _ _ found := by cases found

theorem cell_eq_some_iff {holds : BufferState → Bool} {id : Nat} {cell : Cell} :
    (backend.tableOf holds).cell id = some cell ↔
      ∃ buffer, backend.buffers.lookup id = some buffer ∧ buffer.cell holds = cell :=
  Option.map_eq_some_iff

theorem current_iff {holds : BufferState → Bool} :
    (backend.tableOf holds).Current lease ↔
      ∃ buffer, backend.buffers.lookup lease.id = some buffer ∧
        buffer.generation = lease.generation ∧
        holds buffer.state = true := by
  constructor
  · rintro ⟨cell, found, generation, held⟩
    obtain ⟨buffer, buffer_found, rfl⟩ := cell_eq_some_iff.mp found
    exact ⟨buffer, buffer_found, generation, held⟩
  · rintro ⟨buffer, found, generation, held⟩
    exact ⟨buffer.cell holds, cell_eq_some_iff.mpr ⟨buffer, found, rfl⟩, generation, held⟩

theorem WellKept.numberedTable (kept : backend.WellKept)
    (holds : BufferState → Bool) : (backend.tableOf holds).Numbered := by
  intro id cell found
  obtain ⟨buffer, buffer_found, -⟩ := cell_eq_some_iff.mp found
  exact (kept.numbered id buffer buffer_found).2.1

/-- The number of slots of a pool. -/
def capacityOf (backend : VtRealBackend) (poolId : Nat) : Nat :=
  match backend.pools.lookup poolId with
  | some pool => pool.maxBuffers.toNat
  | none => 0

theorem WellKept.slotted (kept : backend.WellKept) :
    backend.leaseTable.Slotted backend.capacityOf where
  slot_lt := by
    intro id cell found held
    obtain ⟨buffer, buffer_found, rfl⟩ := cell_eq_some_iff.mp found
    obtain ⟨pool, pool_found⟩ :=
      kept.housed id buffer buffer_found (of_decide_eq_true held)
    have within := kept.within id buffer pool buffer_found pool_found
    simpa [VtRealBuffer.cell, capacityOf, pool_found] using within.1
  distinct := by
    intro id other cell cellToo found found_too group slot
    obtain ⟨buffer, buffer_found, rfl⟩ := cell_eq_some_iff.mp found
    obtain ⟨bufferToo, too_found, rfl⟩ := cell_eq_some_iff.mp found_too
    exact kept.apart id other buffer bufferToo buffer_found too_found group slot

/-! ## Backends that follow one another -/

/-- Every buffer was there before and may become what it is now; pools only
go away, and a held buffer has its pool. -/
structure Follows (before after : VtRealBackend) : Prop where
  next_le : before.nextHostId ≤ after.nextHostId
  pools : ∀ poolId pool, after.pools.lookup poolId = some pool →
    before.pools.lookup poolId = some pool
  buffers : ∀ id later, after.buffers.lookup id = some later →
    ∃ earlier, before.buffers.lookup id = some earlier ∧ earlier.Becomes later
  housed : ∀ id later, after.buffers.lookup id = some later → later.state ≠ .recycled →
    ∃ pool, after.pools.lookup later.poolId = some pool

theorem Follows.trans {middle : VtRealBackend}
    (left : Follows before middle) (right : Follows middle after) :
    Follows before after where
  next_le := Nat.le_trans left.next_le right.next_le
  pools poolId pool found :=
    left.pools poolId pool (right.pools poolId pool found)
  buffers id later found := by
    obtain ⟨between, was_between, becomes⟩ := right.buffers id later found
    obtain ⟨earlier, was, became⟩ := left.buffers id between was_between
    exact ⟨earlier, was, became.trans becomes⟩
  housed := right.housed

theorem WellKept.follow (kept : before.WellKept)
    (follows : Follows before after) : after.WellKept where
  numbered := by
    intro id later found
    obtain ⟨earlier, was, becomes⟩ := follows.buffers id later found
    obtain ⟨own_id, used, pool_used⟩ := kept.numbered id earlier was
    refine ⟨becomes.id.trans own_id, ?_, ?_⟩
    · exact Nat.lt_of_lt_of_le used follows.next_le
    · rw [becomes.poolId]
      exact Nat.lt_of_lt_of_le pool_used follows.next_le
  pools := by
    intro poolId pool found
    obtain ⟨own_id, used⟩ :=
      kept.pools poolId pool (follows.pools poolId pool found)
    exact ⟨own_id, Nat.lt_of_lt_of_le used follows.next_le⟩
  housed := follows.housed
  within := by
    intro id later pool found pool_found
    obtain ⟨earlier, was, becomes⟩ := follows.buffers id later found
    rw [becomes.slotIndex, becomes.slotOffset]
    apply kept.within id earlier pool was
    rw [← becomes.poolId]
    exact follows.pools _ _ pool_found
  made := by
    intro id later found
    obtain ⟨earlier, was, becomes⟩ := follows.buffers id later found
    exact becomes.made (kept.made id earlier was)
  apart := by
    intro id other later laterToo found found_too pool slot
    obtain ⟨earlier, was, becomes⟩ := follows.buffers id later found
    obtain ⟨earlierToo, was_too, becomes_too⟩ :=
      follows.buffers other laterToo found_too
    apply kept.apart id other earlier earlierToo was was_too
    · rw [← becomes.poolId, ← becomes_too.poolId, pool]
    · rw [← becomes.slotIndex, ← becomes_too.slotIndex, slot]

/-- Buffers and pools under used ids were there before, in the same place. -/
structure Descends (before after : VtRealBackend) : Prop where
  buffers : ∀ id later, id < before.nextHostId → after.buffers.lookup id = some later →
    ∃ earlier, before.buffers.lookup id = some earlier ∧ earlier.Becomes later
  pools : ∀ poolId pool, poolId < before.nextHostId → after.pools.lookup poolId = some pool →
    before.pools.lookup poolId = some pool

theorem Follows.descends (follows : Follows before after) :
    Descends before after where
  buffers id later _ := follows.buffers id later
  pools poolId pool _ := follows.pools poolId pool

theorem Sealed.evolve (isSealed : before.Sealed lease)
    (evolves : Table.Evolves before.writableTable after.writableTable) :
    after.Sealed lease := by
  obtain ⟨past, unwritable⟩ := isSealed
  refine ⟨evolves.past past, ?_⟩
  intro writable
  exact unwritable (evolves.current_of_past past writable)

theorem Follows.evolves (follows : Follows before after) :
    Table.Evolves before.writableTable after.writableTable where
  next_le := follows.next_le
  kept := by
    intro id cell _ found
    obtain ⟨later, later_found, rfl⟩ := cell_eq_some_iff.mp found
    obtain ⟨earlier, was, becomes⟩ := follows.buffers id later later_found
    refine ⟨earlier.cell _, cell_eq_some_iff.mpr ⟨earlier, was, rfl⟩, becomes.generation, ?_⟩
    intro generation writable
    exact decide_eq_true (becomes.writable generation (of_decide_eq_true writable))

theorem WellKept.follows_same (kept : before.WellKept) (buffers : after.buffers = before.buffers)
    (pools : after.pools = before.pools)
    (next_le : before.nextHostId ≤ after.nextHostId) :
    Follows before after where
  next_le := next_le
  pools _ _ found := pools ▸ found
  buffers id later found :=
    ⟨later, buffers ▸ found, VtRealBuffer.Becomes.refl later⟩
  housed id later found held := by
    rw [buffers] at found
    rw [pools]
    exact kept.housed id later found held

theorem WellKept.follows_setBuffer {bufferId : Nat}
    {earlier later : VtRealBuffer} (kept : backend.WellKept)
    (found : backend.buffers.lookup bufferId = some earlier)
    (becomes : earlier.Becomes later)
    (housed : later.state ≠ .recycled → ∃ pool, backend.pools.lookup earlier.poolId = some pool) :
    Follows backend (backend.setBuffer bufferId later) where
  next_le := Nat.le_refl _
  pools _ _ found := found
  buffers id buffer written := by
    rw [lookup_setBuffer] at written
    split at written
    next same =>
      cases written
      exact ⟨earlier, same ▸ found, becomes⟩
    · exact ⟨buffer, written, VtRealBuffer.Becomes.refl buffer⟩
  housed id buffer written held := by
    rw [lookup_setBuffer] at written
    split at written
    · cases written
      rw [becomes.poolId]
      exact housed held
    · exact kept.housed id buffer written held

theorem WellKept.follows_removePools (kept : backend.WellKept)
    (poolIds : List Nat) : Follows backend (backend.removePools poolIds) where
  next_le := Nat.le_refl _
  pools poolId pool found := by
    rw [lookup_pools_removePools] at found
    split at found
    · cases found
    · exact found
  buffers id buffer found :=
    ⟨buffer, (lookup_buffers_removePools.mp found).1, VtRealBuffer.Becomes.refl buffer⟩
  housed id buffer found held := by
    obtain ⟨was, left⟩ := lookup_buffers_removePools.mp found
    rw [lookup_pools_removePools, if_neg left]
    exact kept.housed id buffer was held

theorem becomes_freedBy (outputs : List VtRealOutput) (id : Nat)
    (buffer : VtRealBuffer) : buffer.Becomes (freedBy outputs id buffer) := by
  unfold freedBy
  split
  · exact ⟨rfl, rfl, rfl, rfl, rfl, fun made => made.restated _ _, Nat.le_refl _,
      fun _ writable => by cases writable⟩
  · exact VtRealBuffer.Becomes.refl buffer

theorem held_of_freedBy {outputs : List VtRealOutput} {id : Nat} {buffer : VtRealBuffer}
    (held : (freedBy outputs id buffer).state ≠ .recycled) :
    freedBy outputs id buffer = buffer := by
  unfold freedBy at held ⊢
  split
  next freed =>
    rw [if_pos freed] at held
    exact absurd rfl held
  · rfl

theorem WellKept.follows_markAllReusable (kept : backend.WellKept) (outputs : List VtRealOutput) :
    Follows backend (backend.markAllReusable outputs) := by
  have pools : (backend.markAllReusable outputs).pools = backend.pools := by
    rw [markAllReusable_eq]
  have next : (backend.markAllReusable outputs).nextHostId =
      backend.nextHostId := by
    rw [markAllReusable_eq]
  refine ⟨Nat.le_of_eq next.symm, fun _ _ found => pools ▸ found, ?_, ?_⟩
  · intro id later found
    rw [lookup_markAllReusable] at found
    obtain ⟨earlier, was, rfl⟩ := Option.map_eq_some_iff.mp found
    exact ⟨earlier, was, becomes_freedBy outputs id earlier⟩
  · intro id later found held
    rw [lookup_markAllReusable] at found
    obtain ⟨earlier, was, rfl⟩ := Option.map_eq_some_iff.mp found
    have same := held_of_freedBy held
    rw [same] at held ⊢
    rw [pools]
    exact kept.housed id earlier was held

end VtRealBackend

end VtFerry
