import VtFerry.Foundation.Patches
import VtFerry.Worker.Mock.Store

/-!
# The bytes of the mock backend's buffers

A buffer of the mock backend is a window of its pool's memory.  In a sound
store the windows of two buffers do not overlap.  So `WRITE_BUFFER` patches
the bytes of one buffer and leaves those of every other alone, and
`READ_BUFFER` returns a slice of them.
-/

namespace VtFerry

open KeyedList Mock Patches

def Mock.Pool.patched (pool : Pool) (start : Nat) (data : List UInt8) :
    Pool :=
  { pool with backing := MockBackend.overwrite pool.backing start data }

theorem Mock.Pool.patched_backing (pool : Pool) (start : Nat) (data : List UInt8) :
    (pool.patched start data).backing =
      Patch.apply ⟨start, data⟩ pool.backing :=
  rfl

namespace MockBackend

def slotStart (buffer : Buffer) : Nat :=
  buffer.slotIndex.toNat * buffer.totalSize

def contentOf (backend : MockBackend) (id : Nat) : Option (List UInt8) :=
  (backend.findBuffer id).bind fun buffer =>
    (backend.findPool buffer.poolId).bind fun pool =>
      slotBytes pool buffer.slotIndex

def patchSlot (backend : MockBackend) (buffer : Buffer) (offset : Nat)
    (data : List UInt8) : MockBackend :=
  backend.modifyPool buffer.poolId fun pool =>
    pool.patched (slotStart buffer + offset) data

variable {backend : MockBackend} {id : Nat} {buffer : Buffer}

structure SlotIn (buffer : Buffer) (pool : Pool) : Prop where
  size : pool.slotRegionSize.toNat = buffer.totalSize
  range : slotRange buffer.slotIndex pool.slotRegionSize pool.backing.length =
    some (slotStart buffer)
  inside : slotStart buffer + buffer.totalSize ≤ pool.backing.length

theorem Sound.slotIn (sound : backend.Sound) (found : backend.findBuffer id = some buffer) : ∃ pool,
      backend.findPool buffer.poolId = some pool ∧ SlotIn buffer pool := by
  obtain ⟨pool, pool_found, fits⟩ := sound.pool_of (mem_of_find found)
  obtain ⟨start, range⟩ := fits.slot
  have size : buffer.totalSize = pool.slotRegionSize.toNat := fits.size
  obtain ⟨-, start_eq, inside⟩ := slotRange_eq_some_iff.mp range
  have start_is : start = slotStart buffer := by
    rw [slotStart, size]
    exact start_eq
  subst start_is
  refine ⟨pool, pool_found, size.symm, range, ?_⟩
  rw [size]
  exact inside

variable {pool : Pool}

theorem SlotIn.slotBytes (slot : SlotIn buffer pool) :
    slotBytes pool buffer.slotIndex =
      some (window (slotStart buffer) buffer.totalSize pool.backing) := by
  unfold MockBackend.slotBytes
  rw [slot.range, Option.map_some, slot.size]
  rfl

theorem contentOf_eq (found : backend.findBuffer id = some buffer)
    (pool_found : backend.findPool buffer.poolId = some pool)
    (slot : SlotIn buffer pool) :
    backend.contentOf id = some (window (slotStart buffer) buffer.totalSize pool.backing) := by
  unfold contentOf
  rw [found, Option.bind_some, pool_found, Option.bind_some, slot.slotBytes]

theorem Sound.content (sound : backend.Sound)
    (found : backend.findBuffer id = some buffer) : ∃ content,
      backend.contentOf id = some content ∧ content.length = buffer.totalSize := by
  obtain ⟨pool, pool_found, slot⟩ := sound.slotIn found
  exact ⟨_, contentOf_eq found pool_found slot, length_window slot.inside⟩

/-! ## Writing a slot -/

theorem findPool_patchSlot (offset : Nat) (data : List UInt8) (poolId : Nat) :
    (backend.patchSlot buffer offset data).findPool poolId =
      if poolId = buffer.poolId then
        (backend.findPool buffer.poolId).map fun pool =>
          pool.patched (slotStart buffer + offset) data
      else backend.findPool poolId :=
  findPool_modifyPool buffer.poolId poolId fun _ => rfl

variable {offset : Nat} {data : List UInt8}

theorem SlotIn.length_backing (slot : SlotIn buffer pool)
    (fits : offset + data.length ≤ buffer.totalSize) :
    (pool.patched (slotStart buffer + offset) data).backing.length =
      pool.backing.length := by
  have inside := slot.inside
  exact length_overwrite (by omega)

/-- A slot of a pool whose memory was written, but not cut. -/
theorem SlotIn.patched (slot : SlotIn buffer pool) {start : Nat}
    (length : (pool.patched start data).backing.length = pool.backing.length) :
    SlotIn buffer (pool.patched start data) where
  size := slot.size
  range := by
    rw [length]
    exact slot.range
  inside := by
    rw [length]
    exact slot.inside

theorem Sound.contentOf_patchSlot (sound : backend.Sound)
    (found : backend.findBuffer id = some buffer) {content : List UInt8}
    (held : backend.contentOf id = some content)
    (fits : offset + data.length ≤ buffer.totalSize) :
    (backend.patchSlot buffer offset data).contentOf id =
      some (Patch.apply ⟨offset, data⟩ content) := by
  obtain ⟨pool, pool_found, slot⟩ := sound.slotIn found
  have still : (backend.patchSlot buffer offset data).findPool buffer.poolId =
        some (pool.patched (slotStart buffer + offset) data) := by
    rw [findPool_patchSlot, if_pos rfl, pool_found, Option.map_some]
  rw [contentOf_eq found pool_found slot] at held
  obtain rfl := Option.some.inj held
  have there : (backend.patchSlot buffer offset data).findBuffer id =
    some buffer := found
  rw [contentOf_eq there still (slot.patched (slot.length_backing fits))]
  exact congrArg some (window_apply_inside fits slot.inside)

theorem slots_apart {first second : Nat} (size : Nat) (differs : first ≠ second) :
    first * size + size ≤ second * size ∨
      second * size + size ≤ first * size := by
  rcases Nat.lt_or_gt_of_ne differs with below | above
  · left
    rw [← Nat.succ_mul]
    exact Nat.mul_le_mul_right size below
  · right
    rw [← Nat.succ_mul]
    exact Nat.mul_le_mul_right size above

theorem Sound.contentOf_patchSlot_other (sound : backend.Sound)
    (found : backend.findBuffer id = some buffer)
    (fits : offset + data.length ≤ buffer.totalSize) {other : Nat}
    (differs : other ≠ id) :
    (backend.patchSlot buffer offset data).contentOf other =
      backend.contentOf other := by
  cases other_found : backend.findBuffer other with
  | none =>
    unfold contentOf
    rw [show (backend.patchSlot buffer offset data).findBuffer other = none
      from other_found, other_found]
    rfl
  | some second =>
    obtain ⟨pool, pool_found, slot⟩ := sound.slotIn other_found
    have there : (backend.patchSlot buffer offset data).findBuffer other =
      some second := other_found
    by_cases same_pool : second.poolId = buffer.poolId
    · obtain ⟨housing, housing_found, own⟩ := sound.slotIn found
      obtain rfl : pool = housing := by
        rw [same_pool, housing_found] at pool_found
        exact (Option.some.inj pool_found).symm
      have still : (backend.patchSlot buffer offset data).findPool second.poolId =
            some (pool.patched (slotStart buffer + offset) data) := by
        rw [findPool_patchSlot, if_pos same_pool, housing_found, Option.map_some]
      have same_size : second.totalSize = buffer.totalSize :=
        slot.size.symm.trans own.size
      have other_slot : second.slotIndex.toNat ≠ buffer.slotIndex.toNat := by
        intro same_slot
        have same := sound.stored.apart second (mem_of_find other_found)
          buffer (mem_of_find found) same_pool (UInt32.toNat_inj.mp same_slot)
        rw [same] at other_found
        exact differs ((key_of_find other_found).symm.trans (key_of_find found))
      rw [contentOf_eq other_found pool_found slot,
        contentOf_eq there still (slot.patched (own.length_backing fits)),
        Pool.patched_backing]
      refine congrArg some (window_apply_apart ?_ slot.inside)
      have apart := slots_apart buffer.totalSize other_slot
      unfold slotStart
      rw [same_size]
      dsimp only
      omega
    · have still : (backend.patchSlot buffer offset data).findPool second.poolId = some pool := by
        rw [findPool_patchSlot, if_neg same_pool, pool_found]
      rw [contentOf_eq other_found pool_found slot, contentOf_eq there still slot]

/-! ## The two requests -/

def InBounds (size : Nat) (payload : BufferRangePayload) : Prop :=
  payload.offset.toNat + payload.length.toNat ≤ size

variable {payload : BufferRangePayload}

theorem outOfBounds_iff :
    outOfBounds buffer payload = true ↔ ¬ InBounds buffer.totalSize payload := by
  simp only [outOfBounds, InBounds, Bool.or_eq_true, decide_eq_true_eq]
  omega

theorem readBuffer_of_held {capacity : Nat} {source content : List UInt8}
    (sound : backend.Sound) (long : BufferRangePayload.size ≤ source.length)
    (reads : BufferRangePayload.read source = payload)
    (found : backend.findBuffer payload.bufferId.toNat = some buffer)
    (generation : buffer.generation = payload.generation.toNat)
    (held : buffer.state ≠ .recycled)
    (content_is : backend.contentOf payload.bufferId.toNat = some content)
    (inBounds : InBounds buffer.totalSize payload)
    (room : BufferRangePayload.size + payload.length.toNat ≤ capacity) :
    readBuffer capacity source backend =
      ⟨backend, Status.ok, some (.bufferBytes buffer.id buffer.generation
        payload.offset payload.length
        ((content.drop payload.offset.toNat).take payload.length.toNat))⟩ := by
  obtain ⟨pool, pool_found, slot⟩ := sound.slotIn found
  have slot_is := slot.slotBytes
  rw [contentOf_eq found pool_found slot] at content_is
  rw [content_is] at slot_is
  have length : content.length = buffer.totalSize := by
    rw [← Option.some.inj content_is]
    exact length_window slot.inside
  have slice : ((content.drop payload.offset.toNat).take
      payload.length.toNat).length = payload.length.toNat := by
    have bound : payload.offset.toNat + payload.length.toNat ≤
      buffer.totalSize := inBounds
    rw [List.length_take, List.length_drop]
    omega
  unfold readBuffer
  rw [if_neg (Nat.not_lt_of_le long)]
  dsimp only
  rw [reads, found]
  dsimp only
  rw [if_neg (not_not.mpr generation), if_neg held,
    if_neg (mt outOfBounds_iff.mp (not_not.mpr inBounds)), pool_found]
  dsimp only
  rw [slot_is]
  dsimp only
  unfold write
  rw [if_neg]
  rw [ReplyBody.size, slice]
  exact Nat.not_lt_of_le room

theorem writeBuffer_of_writable {source : List UInt8} (sound : backend.Sound)
    (reads : BufferRangePayload.read source = payload)
    (length : source.length = BufferRangePayload.size + payload.length.toNat)
    (found : backend.findBuffer payload.bufferId.toNat = some buffer)
    (generation : buffer.generation = payload.generation.toNat)
    (writable : buffer.state = .guestWritable)
    (inBounds : InBounds buffer.totalSize payload) :
    writeBuffer source backend = ⟨backend.patchSlot buffer payload.offset.toNat
          (source.drop BufferRangePayload.size), Status.ok, some .empty⟩ := by
  obtain ⟨pool, pool_found, slot⟩ := sound.slotIn found
  have pool_id : pool.id = buffer.poolId := key_of_find pool_found
  have accepted : ¬ (outOfBounds buffer payload = true ∨
      source.length ≠ BufferRangePayload.size + payload.length.toNat) := by
    rw [outOfBounds_iff, length]
    simp [inBounds]
  unfold writeBuffer
  rw [if_neg (by omega)]
  dsimp only
  rw [reads, found]
  dsimp only
  rw [if_neg (not_not.mpr generation), if_neg (not_not.mpr writable), if_neg accepted, pool_found]
  dsimp only
  rw [slot.range]
  dsimp only
  rw [pool_id]
  rfl

theorem dispatch_readBuffer (capacity : Nat) (source : List UInt8) :
    dispatch capacity transportVersion ⟨Opcode.readBuffer.code, source⟩
      backend = readBuffer capacity source backend :=
  rfl

theorem dispatch_writeBuffer (capacity : Nat) (source : List UInt8) :
    dispatch capacity transportVersion ⟨Opcode.writeBuffer.code, source⟩
      backend = writeBuffer source backend :=
  rfl

end MockBackend

end VtFerry
