import VtFerry.Worker.VtReal.LeaseTable

/-!
# What the requests of the VideoToolbox backend do to leases

For every request: the backend stays well kept, its buffers make one move of
the lease table, with the lease the reply carries and the leases the request
ends, and what was sealed stays sealed.  A frame the encoder accepts seals its
lease, which is why dequeuing its output can end the lease.
-/

namespace VtFerry

open LeaseTable List

namespace VtRealBackend

/-- One step of a backend, with the leases it gives out and those it ends. -/
structure Advances (before after : VtRealBackend) (granted : List Lease)
    (ends : Lease → Bool) : Prop where
  kept : after.WellKept
  move : Table.Move before.leaseTable after.leaseTable granted ends
  evolves : Table.Evolves before.writableTable after.writableTable
  descends : Descends before after

variable {host : HostCalls} {source : List UInt8}
variable {backend before after : VtRealBackend} {surfaces : Surfaces}
variable {ends : Lease → Bool} {lease : Lease}

theorem WellKept.advances (kept : before.WellKept) {granted : List Lease}
    (follows : Follows before after)
    (move : Table.Move before.leaseTable after.leaseTable granted ends) :
    Advances before after granted ends :=
  ⟨kept.follow follows, move, follows.evolves, follows.descends⟩

theorem WellKept.advances_still (kept : before.WellKept) (follows : Follows before after)
    (still : ∀ id, after.leaseTable.cell id = before.leaseTable.cell id)
    (quiet : ∀ lease, ends lease = false) :
    Advances before after [] ends :=
  kept.advances follows (.extend (kept.numberedTable _)
      ((kept.follow follows).numberedTable _) follows.next_le
      (fun id _ => still id) quiet)

theorem WellKept.advances_same (kept : before.WellKept) (buffers : after.buffers = before.buffers)
    (pools : after.pools = before.pools)
    (next_le : before.nextHostId ≤ after.nextHostId)
    (quiet : ∀ lease, ends lease = false) :
    Advances before after [] ends := by
  refine kept.advances_still (kept.follows_same buffers pools next_le) ?_ quiet
  intro id
  simp only [leaseTable, tableOf, buffers]

/-! ## Creating a pool -/

variable {payload : CreateBufferPoolPayload} {pool : IOSurfacePool} {made : Nat}
variable {buffers : FiniteMap Nat VtRealBuffer} {buffer : VtRealBuffer}

/-- The buffers a pool in the making adds are free and have its slots. -/
theorem SlotsOf.added (kept : backend.WellKept)
    (filled : SlotsOf payload pool made backend buffers) {id : Nat}
    (found : buffers.lookup id = some buffer) :
    (id < backend.nextHostId ∧ backend.buffers.lookup id = some buffer) ∨
      (backend.nextHostId < id ∧ id < backend.nextHostId + 1 + made ∧
        buffer.id = id ∧ buffer.poolId = backend.nextHostId ∧
        buffer.slotIndex = id - (backend.nextHostId + 1) ∧
        buffer.state = .recycled ∧
        buffer.slotOffset = buffer.slotIndex * slotBytes payload ∧
        buffer.IsMade) := by
  rw [filled id] at found
  split at found
  next new =>
    obtain ⟨pixelBuffer, wraps, rfl⟩ := Option.map_eq_some_iff.mp found
    dsimp only at new
    refine Or.inr ⟨by omega, new.2, rfl, rfl, ?_, rfl, rfl, payload.width,
      payload.height, pixelBuffer, rfl, rfl, rfl, wraps, rfl⟩
    simp [slotBuffer]
  · exact Or.inl ⟨(kept.numbered id buffer found).2.1, found⟩

theorem SlotsOf.lookup_old (filled : SlotsOf payload pool made backend buffers)
    {id : Nat} (used : id < backend.nextHostId) :
    buffers.lookup id = backend.buffers.lookup id := by
  rw [filled id, if_neg (by dsimp only; omega)]

/-- A backend with a pool in the making, its record there or not. -/
theorem WellKept.addSlots (kept : backend.WellKept) (pools : FiniteMap Nat VtRealPool)
    (filled : SlotsOf payload pool made backend buffers)
    (old : ∀ poolId, poolId ≠ backend.nextHostId →
      pools.lookup poolId = backend.pools.lookup poolId)
    (new : ∀ record, pools.lookup backend.nextHostId = some record →
      record.id = backend.nextHostId ∧ record.maxBuffers.toNat = made ∧
        record.slotRegionSize.toNat = slotBytes payload) :
    ({ backend with
      nextHostId := backend.nextHostId + 1 + made
      buffers := buffers
      pools := pools } : VtRealBackend).WellKept where
  numbered := by
    intro id buffer found
    rcases filled.added kept found with
      ⟨used, was⟩ | ⟨_, below, own_id, in_pool, _⟩
    · obtain ⟨own_id, -, pool_used⟩ := kept.numbered id buffer was
      exact ⟨own_id, by dsimp only; omega, by dsimp only; omega⟩
    · exact ⟨own_id, below, by dsimp only; omega⟩
  pools := by
    intro poolId record found
    by_cases made_now : poolId = backend.nextHostId
    · subst made_now
      exact ⟨(new record found).1, by dsimp only; omega⟩
    · dsimp only at found ⊢
      rw [old poolId made_now] at found
      obtain ⟨own_id, used⟩ := kept.pools poolId record found
      exact ⟨own_id, by omega⟩
  housed := by
    intro id buffer found held
    rcases filled.added kept found with
      ⟨used, was⟩ | ⟨_, _, _, _, _, recycled, _⟩
    · have pool_used := (kept.numbered id buffer was).2.2
      dsimp only
      rw [old buffer.poolId (Nat.ne_of_lt pool_used)]
      exact kept.housed id buffer was held
    · exact absurd recycled held
  within := by
    intro id buffer record found pool_found
    dsimp only at pool_found
    rcases filled.added kept found with
      ⟨used, was⟩ | ⟨above, below, _, in_pool, slot, _, offset, _⟩
    · have pool_used := (kept.numbered id buffer was).2.2
      rw [old buffer.poolId (Nat.ne_of_lt pool_used)] at pool_found
      exact kept.within id buffer record was pool_found
    · rw [in_pool] at pool_found
      obtain ⟨_, capacity, size⟩ := new record pool_found
      rw [size, capacity]
      exact ⟨by omega, offset⟩
  made := by
    intro id buffer found
    rcases filled.added kept found with ⟨_, was⟩ | ⟨_, _, _, _, _, _, _, made⟩
    · exact kept.made id buffer was
    · exact made
  apart := by
    intro id other buffer bufferToo found found_too pool slot
    rcases filled.added kept found with
      ⟨used, was⟩ | ⟨above, below, _, in_pool, slot_eq, _⟩
    · have pool_used := (kept.numbered id buffer was).2.2
      rcases filled.added kept found_too with
        ⟨used_too, was_too⟩ | ⟨_, _, _, in_pool_too, _, _⟩
      · exact kept.apart id other buffer bufferToo was was_too pool slot
      · omega
    · rcases filled.added kept found_too with
        ⟨used_too, was_too⟩ | ⟨above_too, below_too, _, _, slot_too, _⟩
      · have pool_used := (kept.numbered other bufferToo was_too).2.2
        omega
      · omega

theorem evolves_of_used (next_le : before.nextHostId ≤ after.nextHostId)
    (same : ∀ id, id < before.nextHostId → after.buffers.lookup id = before.buffers.lookup id) :
    Table.Evolves before.writableTable after.writableTable where
  next_le := next_le
  kept id cell used found := by
    obtain ⟨buffer, buffer_found, rfl⟩ := cell_eq_some_iff.mp found
    rw [same id used] at buffer_found
    exact ⟨_, cell_eq_some_iff.mpr ⟨buffer, buffer_found, rfl⟩, Nat.le_refl _, fun _ held => held⟩

theorem WellKept.advances_extend (kept : before.WellKept) (later : after.WellKept)
    (next_le : before.nextHostId ≤ after.nextHostId)
    (same : ∀ id, id < before.nextHostId → after.buffers.lookup id = before.buffers.lookup id)
    (pools : ∀ poolId, poolId < before.nextHostId →
      after.pools.lookup poolId = before.pools.lookup poolId)
    (quiet : ∀ lease, ends lease = false) :
    Advances before after [] ends where
  kept := later
  move := by
    refine .extend (kept.numberedTable _) (later.numberedTable _) next_le ?_ quiet
    intro id used
    exact congrArg (Option.map _) (same id used)
  evolves := evolves_of_used next_le same
  descends :=
    { buffers := fun id later used found =>
        ⟨later, same id used ▸ found, VtRealBuffer.Becomes.refl later⟩
      pools := fun poolId pool used found => pools poolId used ▸ found }

theorem PoolBuild.advances {payload : CreateBufferPoolPayload}
    {entryId : Nat} {pool : IOSurfacePool}
    {built : VtRealBackend × UInt32 × ReplyBody}
    (build : PoolBuild host payload entryId pool backend built)
    (kept : backend.WellKept) (quiet : ∀ lease, ends lease = false) :
    Advances backend built.1 [] ends := by
  cases build with
  | refused _ _ => exact kept.advances_same rfl rfl (Nat.le_refl _) quiet
  | @abandoned _ made buffers _ _ filled =>
    have later := kept.addSlots backend.pools filled (fun _ _ => rfl)
      (fun record found => absurd (kept.pools _ record found).2 (Nat.lt_irrefl _))
    exact kept.advances_extend later (by dsimp only; omega)
      (fun id used => filled.lookup_old used) (fun _ _ => rfl) quiet
  | @built buffers _ _ filled _ =>
    have later := kept.addSlots (backend.pools.insert backend.nextHostId
        (builtPool payload backend.nextHostId entryId pool.spec.slotCount))
      filled
      (fun poolId differs => by simp [differs])
      (fun record found => by
        obtain rfl : builtPool payload backend.nextHostId entryId
          pool.spec.slotCount = record := by simpa using found
        exact ⟨rfl, rfl, rfl⟩)
    exact kept.advances_extend later (by dsimp only; omega) (fun id used => filled.lookup_old used)
      (fun poolId used => by simp [Nat.ne_of_lt used]) quiet

/-! ## Requests on one buffer -/

variable {bufferId : Nat} {later : VtRealBuffer}

theorem tableOf_setBuffer {earlier : VtRealBuffer} {holds : BufferState → Bool}
    (found : backend.buffers.lookup bufferId = some earlier)
    (same : later.cell holds = earlier.cell holds) (id : Nat) :
    ((backend.setBuffer bufferId later).tableOf holds).cell id =
      (backend.tableOf holds).cell id := by
  simp only [tableOf, lookup_setBuffer]
  split
  next here => rw [here, found, Option.map_some, Option.map_some, same]
  · rfl

theorem WellKept.advances_setBuffer {earlier : VtRealBuffer} (kept : backend.WellKept)
    (found : backend.buffers.lookup bufferId = some earlier)
    (becomes : earlier.Becomes later) (held : earlier.state ≠ .recycled)
    (generation : later.generation = earlier.generation)
    (still : later.state ≠ .recycled) (quiet : ∀ lease, ends lease = false) :
    Advances backend (backend.setBuffer bufferId later) [] ends := by
  have follows := kept.follows_setBuffer found becomes
    fun _ => kept.housed bufferId earlier found held
  refine kept.advances_still follows (tableOf_setBuffer found ?_) quiet
  simp [VtRealBuffer.cell, becomes.poolId, becomes.slotIndex, generation, held, still]

theorem becomes_wrapped (buffer : VtRealBuffer) (pixelBuffer : PixelBuffer) :
    buffer.Becomes (buffer.wrapped pixelBuffer) :=
  ⟨rfl, rfl, rfl, rfl, rfl, fun made => made.wrapped _, Nat.le_refl _, fun _ writable => writable⟩

/-- The lease was recycled by this request. -/
def endsByRecycle (source : List UInt8) (served : Served) (lease : Lease) :
    Bool :=
  served.status == Status.ok && (RecycleBufferPayload.read source).bufferId.toNat == lease.id &&
    (RecycleBufferPayload.read source).generation.toNat == lease.generation

theorem leaseTable_setBuffer (backend : VtRealBackend) (bufferId : Nat) (later : VtRealBuffer) :
    (backend.setBuffer bufferId later).leaseTable.cell =
      Function.update backend.leaseTable.cell bufferId
        (some (later.cell fun state => state ≠ .recycled)) := by
  funext id
  by_cases same : id = bufferId
  · simp [leaseTable, tableOf, same]
  · simp [leaseTable, tableOf, same]

theorem WellKept.advances_recycled {buffer : VtRealBuffer} (kept : backend.WellKept)
    (found : backend.buffers.lookup bufferId = some buffer)
    (exactly : ∀ lease, ends lease = true ↔ lease = ⟨bufferId, buffer.generation⟩) :
    Advances backend (backend.setBuffer bufferId { buffer with state := .recycled }) []
      ends := by
  have becomes : buffer.Becomes { buffer with state := .recycled } :=
    ⟨rfl, rfl, rfl, rfl, rfl, fun made => made.restated _ _, Nat.le_refl _,
      fun _ writable => by cases writable⟩
  have follows := kept.follows_setBuffer found becomes fun still => absurd rfl still
  exact kept.advances follows (.letGo (kept.numberedTable _) rfl
    (cell_eq_some_iff.mpr ⟨buffer, found, rfl⟩) (leaseTable_setBuffer ..) exactly)

/-- The reply carries a later lease of the same buffer. -/
def endsBySupersede (served : Served) (lease : Lease) : Bool :=
  match served.body with
  | .lease reply =>
    reply.bufferId == lease.id && lease.generation < reply.generation
  | _ => false

/-- A free buffer goes to its next lease, which the reply may fail to give
out. -/
theorem WellKept.advances_leased {pool : VtRealPool} {poolId : Nat}
    {granted : List Lease} (kept : backend.WellKept)
    (known : backend.pools.lookup poolId = some pool)
    (found : backend.buffers.lookup bufferId = some buffer)
    (inPool : buffer.poolId = pool.id) (free : buffer.state = .recycled)
    (becomes : buffer.Becomes later)
    (generation : later.generation = buffer.generation + 1)
    (writable : later.state = .guestWritable)
    (given : granted = [] ∨ granted = [⟨bufferId, later.generation⟩])
    (older : ∀ lease, ends lease = true →
      lease.id = bufferId ∧ lease.generation < later.generation) :
    Advances backend (backend.setBuffer bufferId later) granted ends := by
  have housed : backend.pools.lookup buffer.poolId = some pool := by
    rw [inPool, (kept.pools poolId pool known).1]
    exact known
  have follows := kept.follows_setBuffer found becomes fun _ => ⟨pool, housed⟩
  have used := (kept.numbered bufferId buffer found).2.1
  refine kept.advances follows
    (.grant (kept.numberedTable _) (Nat.le_refl _) used (leaseTable_setBuffer ..) ?_ ?_ ?_
      given older)
  · simp [VtRealBuffer.cell, writable]
  · intro cell at_id
    obtain ⟨earlier, was, rfl⟩ := cell_eq_some_iff.mp at_id
    obtain rfl : buffer = earlier := by simpa [found] using was
    simp [VtRealBuffer.cell, free, generation]
  · intro none
    simp [leaseTable, tableOf, found] at none

theorem becomes_leased (buffer : VtRealBuffer) : buffer.Becomes buffer.leased :=
  ⟨rfl, rfl, rfl, rfl, rfl, fun made => made.restated _ _, Nat.le_succ _,
    fun same => absurd same (Nat.succ_ne_self _)⟩

/-! ## Encoding -/

theorem sealed_queued (kept : backend.WellKept)
    (found : backend.buffers.lookup bufferId = some buffer)
    (queued : buffer.state = .queuedToHost) :
    backend.Sealed ⟨bufferId, buffer.generation⟩ := by
  refine ⟨⟨(kept.numbered bufferId buffer found).2.1, ?_⟩, ?_⟩
  · intro cell at_id
    obtain ⟨bufferToo, found_too, rfl⟩ := cell_eq_some_iff.mp at_id
    obtain rfl : buffer = bufferToo := by simpa [found] using found_too
    exact Nat.le_refl _
  · intro current
    obtain ⟨bufferToo, found_too, -, writable⟩ := current_iff.mp current
    obtain rfl : buffer = bufferToo := by simpa [found] using found_too
    simp [queued] at writable

theorem becomes_queued (buffer : VtRealBuffer) (pixelBuffer : PixelBuffer) :
    buffer.Becomes
      { buffer.wrapped pixelBuffer with state := .queuedToHost } :=
  ⟨rfl, rfl, rfl, rfl, rfl, fun made => (made.wrapped _).restated _ _,
    Nat.le_refl _, fun _ writable => by cases writable⟩

theorem WellKept.follows_wrapped (kept : backend.WellKept) (pixelBuffer : PixelBuffer)
    (found : backend.buffers.lookup bufferId = some buffer) :
    Follows backend (backend.setBuffer bufferId (buffer.wrapped pixelBuffer)) :=
  kept.follows_setBuffer found (becomes_wrapped _ _)
    fun held => kept.housed bufferId buffer found held

theorem WellKept.follows_queued (kept : backend.WellKept) (pixelBuffer : PixelBuffer)
    (found : backend.buffers.lookup bufferId = some buffer)
    (writable : buffer.state = .guestWritable) :
    Follows backend (backend.setBuffer bufferId
        { buffer.wrapped pixelBuffer with state := .queuedToHost }) :=
  kept.follows_setBuffer found (becomes_queued _ _)
    fun _ => kept.housed bufferId buffer found (by simp [writable])

variable {frames : List EncoderFrame}

theorem Encodes.follows (encodes : Encodes before after frames) (kept : before.WellKept) :
    Follows before after := by
  induction encodes with
  | done => exact kept.follows_same rfl rfl (Nat.le_refl _)
  | wrapped pixelBuffer found _ induction =>
    have first := kept.follows_wrapped pixelBuffer found
    exact first.trans (induction (kept.follow first))
  | queued pixelBuffer found writable _ _ _ induction =>
    have first := kept.follows_queued pixelBuffer found writable
    exact first.trans (induction (kept.follow first))

theorem Encodes.still (encodes : Encodes before after frames) (id : Nat) :
    after.leaseTable.cell id = before.leaseTable.cell id := by
  induction encodes with
  | done => rfl
  | wrapped _ found _ induction =>
    refine induction.trans (tableOf_setBuffer found ?_ id)
    rfl
  | queued _ found writable _ _ _ induction =>
    refine induction.trans (tableOf_setBuffer found ?_ id)
    simp [VtRealBuffer.cell, VtRealBuffer.wrapped, writable]

theorem Encodes.frames_sealed (encodes : Encodes before after frames) (kept : before.WellKept) :
    ∀ frame ∈ frames, after.Sealed frame.frame.lease := by
  induction encodes with
  | done => exact fun _ none => absurd none not_mem_nil
  | wrapped pixelBuffer found _ induction =>
    exact induction (kept.follow (kept.follows_wrapped pixelBuffer found))
  | @queued backend after frames bufferId buffer frame pixelBuffer found
      writable names _ rest induction =>
      have first := kept.follows_queued pixelBuffer found writable
      have later := kept.follow first
      intro other member
      rcases mem_cons.mp member with rfl | accepted
      · have queued := sealed_queued later
          (backend.lookup_setBuffer bufferId _ bufferId |>.trans (if_pos rfl))
          rfl
        have own_id := (kept.numbered bufferId buffer found).1
        have lease_eq : other.frame.lease = ⟨bufferId, buffer.generation⟩ := by
          rw [names, FrameContext.lease, own_id]
        rw [lease_eq]
        exact queued.evolve (rest.follows later).evolves
      · exact induction later other accepted

/-- Each accepted frame was encoded under a lease of its own, writable until
then. -/
theorem Encodes.frames_fresh (encodes : Encodes before after frames) (kept : before.WellKept) :
    (∀ frame ∈ frames, before.writableTable.Current frame.frame.lease) ∧
      (frames.map fun frame => frame.frame.lease).Nodup := by
  induction encodes with
  | done => exact ⟨fun _ none => absurd none not_mem_nil, nodup_nil⟩
  | @wrapped backend after frames bufferId buffer pixelBuffer found _
      induction =>
      obtain ⟨writable, distinct⟩ :=
        induction (kept.follow (kept.follows_wrapped pixelBuffer found))
      refine ⟨?_, distinct⟩
      intro frame accepted
      have cells : ∀ id, (backend.setBuffer bufferId
          (buffer.wrapped pixelBuffer)).writableTable.cell id =
            backend.writableTable.cell id := tableOf_setBuffer found rfl
      obtain ⟨cell, at_id, rest⟩ := writable frame accepted
      exact ⟨cell, (cells _).symm.trans at_id, rest⟩
  | @queued backend after frames bufferId buffer frame pixelBuffer found
      writable names _ _ induction =>
      obtain ⟨later_writable, distinct⟩ :=
        induction (kept.follow (kept.follows_queued pixelBuffer found writable))
      have own_id := (kept.numbered bufferId buffer found).1
      have lease_eq : frame.frame.lease = ⟨bufferId, buffer.generation⟩ := by
        rw [names, FrameContext.lease, own_id]
      have elsewhere : ∀ other ∈ frames, other.frame.lease.id ≠ bufferId ∧
            backend.writableTable.Current other.frame.lease := by
        intro other accepted
        obtain ⟨bufferToo, at_id, generation, held⟩ :=
          current_iff.mp (later_writable other accepted)
        rw [lookup_setBuffer] at at_id
        split at at_id
        · cases at_id
          simp at held
        next differs =>
          exact ⟨differs, current_iff.mpr ⟨bufferToo, at_id, generation, held⟩⟩
      refine ⟨?_, ?_⟩
      · intro other member
        rcases mem_cons.mp member with rfl | accepted
        · rw [lease_eq]
          exact current_iff.mpr ⟨buffer, found, rfl, by simp [writable]⟩
        · exact (elsewhere other accepted).2
      · rw [map_cons, nodup_cons]
        refine ⟨?_, distinct⟩
        intro repeated
        obtain ⟨other, accepted, same⟩ := mem_map.mp repeated
        apply (elsewhere other accepted).1
        rw [same, lease_eq]

theorem Encodes.advances (encodes : Encodes before after frames)
    (kept : before.WellKept) (quiet : ∀ lease, ends lease = false) :
    Advances before after [] ends :=
  kept.advances_still (encodes.follows kept) encodes.still quiet

/-! ## Dequeuing -/

/-- Every output in the queue was encoded under a sealed lease. -/
def OutputsSealed (backend : VtRealBackend) : Prop :=
  ∀ id output, backend.outputState.items.lookup id = some output → backend.Sealed output.lease

variable {sessionId count : Nat}

theorem OutputsSealed.taken (isSealed : backend.OutputsSealed) {output : VtRealOutput}
    (taken : output ∈ backend.takenOutputs sessionId count) :
    backend.Sealed output.lease := by
  obtain ⟨⟨id, found⟩, collected, rfl⟩ := mem_map.mp taken
  obtain ⟨ticket, _, looked⟩ := mem_filterMap.mp collected
  obtain ⟨item, item_found, pair⟩ := Option.map_eq_some_iff.mp looked
  cases pair
  exact isSealed id _ item_found

theorem afterTaking_lookup (backend : VtRealBackend) (sessionId count id : Nat) :
    (backend.afterTaking sessionId count).buffers.lookup id = (backend.buffers.lookup id).map
        (freedBy (backend.takenOutputs sessionId count) id) :=
  lookup_markAllReusable _ _ id

theorem WellKept.follows_afterTaking (kept : backend.WellKept) (sessionId count : Nat) :
    Follows backend (backend.afterTaking sessionId count) := by
  have popped : Follows backend
      { backend with
        outputState := (backend.outputState.pop sessionId count).2 } :=
    kept.follows_same rfl rfl (Nat.le_refl _)
  exact popped.trans ((kept.follow popped).follows_markAllReusable _)

theorem afterTaking_advances (kept : backend.WellKept)
    (isSealed : backend.OutputsSealed) (exactly : ∀ lease, ends lease = true ↔
      lease ∈ (backend.takenOutputs sessionId count).map VtRealOutput.lease) :
    Advances backend (backend.afterTaking sessionId count) [] ends := by
  have follows := kept.follows_afterTaking sessionId count
  have next : (backend.afterTaking sessionId count).nextHostId =
      backend.nextHostId :=
    congrArg (·.nextHostId) (afterTaking_eq ..)
  refine kept.advances follows (.shrink (kept.numberedTable _) next ?_ ?_ ?_)
  · intro id cell at_id
    obtain ⟨later, found, rfl⟩ := cell_eq_some_iff.mp at_id
    rw [afterTaking_lookup] at found
    obtain ⟨earlier, was, rfl⟩ := Option.map_eq_some_iff.mp found
    refine ⟨_, cell_eq_some_iff.mpr ⟨earlier, was, rfl⟩, ?_, ?_⟩
    · unfold freedBy
      split
      · rfl
      · rfl
    · intro held
      rwa [held_of_freedBy (of_decide_eq_true held)] at held
  · intro lease _ ended current
    obtain ⟨later, found, generation, held⟩ := current_iff.mp current
    rw [afterTaking_lookup] at found
    obtain ⟨earlier, was, rfl⟩ := Option.map_eq_some_iff.mp found
    have same := held_of_freedBy (of_decide_eq_true held)
    rw [same] at generation held
    have taken := (exactly lease).mp ended
    obtain ⟨output, output_taken, output_lease⟩ := mem_map.mp taken
    have unwritable := (isSealed.taken output_taken).2
    rw [output_lease] at unwritable
    have queued : earlier.state = .queuedToHost := by
      cases state : earlier.state with
      | recycled => simp [state] at held
      | guestWritable =>
        exact absurd (current_iff.mpr ⟨earlier, was, generation, by simp [state]⟩) unwritable
      | queuedToHost => rfl
    have freed : freedBy (backend.takenOutputs sessionId count) lease.id
        earlier = { earlier with state := .recycled } := by
      refine if_pos ⟨queued, ?_⟩
      rw [generation]
      exact taken
    rw [freed] at same
    rw [← same] at queued
    cases queued
  · intro lease current gone
    obtain ⟨earlier, was, generation, held⟩ := current_iff.mp current
    rw [exactly]
    by_contra untaken
    apply gone
    refine current_iff.mpr ⟨earlier, ?_, generation, held⟩
    rw [afterTaking_lookup, was, Option.map_some]
    refine congrArg some (if_neg ?_)
    rintro ⟨-, taken⟩
    rw [generation] at taken
    exact untaken taken

/-- The lease is that of an output this request dequeued. -/
def endsByDequeue (backend : VtRealBackend) (sessionId count : Nat)
    (served : Served) (lease : Lease) : Bool :=
  served.status == Status.ok &&
    ((backend.takenOutputs sessionId count).map VtRealOutput.lease).contains lease

/-! ## Destroying -/

theorem removePools_advances (kept : backend.WellKept) {poolIds : List Nat}
    (exactly : ∀ lease, ends lease = true ↔
      ∃ buffer, backend.buffers.lookup lease.id = some buffer ∧ buffer.poolId ∈ poolIds) :
    Advances backend (backend.removePools poolIds) [] ends := by
  refine kept.advances (kept.follows_removePools poolIds)
    (.dropGroups poolIds (kept.numberedTable _) rfl ?_ ?_)
  · intro id
    simp only [leaseTable, tableOf, removePools, FiniteMap.lookup_retain, Option.filter_map,
      contains_eq_mem, decide_not]
    rfl
  · intro lease
    simp [exactly, leaseTable, tableOf, VtRealBuffer.cell]

/-- The lease's buffer belongs to the pool this request destroyed. -/
def endsByPool (backend : VtRealBackend) (source : List UInt8)
    (served : Served) (lease : Lease) : Bool :=
  served.status == Status.ok && (backend.buffers.lookup lease.id).any fun buffer =>
      buffer.poolId == (HandlePayload.read source).handle.toNat

theorem WellKept.advances_unknown {poolId : Nat} (kept : backend.WellKept)
    (unknown : backend.pools.lookup poolId = none)
    (only : ∀ lease, ends lease = true → ∃ buffer,
      backend.buffers.lookup lease.id = some buffer ∧ buffer.poolId = poolId) :
    Advances backend backend [] ends := by
  refine kept.advances (kept.follows_same rfl rfl (Nat.le_refl _))
    (.shrink (kept.numberedTable _) rfl ?_ ?_ ?_)
  · intro id cell found
    exact ⟨cell, found, rfl, fun held => held⟩
  · intro lease _ ended current
    obtain ⟨buffer, found, -, held⟩ := current_iff.mp current
    obtain ⟨pool, pool_found⟩ :=
      kept.housed lease.id buffer found (of_decide_eq_true held)
    obtain ⟨bufferToo, found_too, in_pool⟩ := only lease ended
    obtain rfl : buffer = bufferToo := by simpa [found] using found_too
    rw [in_pool, unknown] at pool_found
    cases pool_found
  · intro lease current gone
    exact absurd current gone

/-- The lease's buffer belongs to a pool of the encode session this request
destroyed. -/
def endsBySession (backend : VtRealBackend) (source : List UInt8)
    (served : Served) (lease : Lease) : Bool :=
  let sessionId := (HandlePayload.read source).handle.toNat
  served.status == Status.ok && (backend.decodeSessions.lookup sessionId).isNone &&
    (backend.buffers.lookup lease.id).any fun buffer =>
      (backend.pools.lookup buffer.poolId).any (·.sessionId == sessionId)

/-! ## All requests -/

/-- A request of this kind, served like this, ends the lease: it recycles it,
gives out a newer one on the same buffer, destroys its pool or session, or
dequeues its output. -/
def endedBy (opcode : Option Opcode) (source : List UInt8)
    (backend : VtRealBackend) (served : Served) (lease : Lease) : Bool :=
  match opcode with
  | some .recycleBuffer => endsByRecycle source served lease
  | some .allocBuffer => endsBySupersede served lease
  | some .destroyBufferPool => endsByPool backend source served lease
  | some .destroySession => endsBySession backend source served lease
  | some .dequeueOutput =>
    endsByDequeue backend (HandlePayload.read source).handle.toNat 1 served lease
  | some .dequeueOutputBatch =>
    endsByDequeue backend (DequeueOutputBatchPayload.read source).sessionId.toNat
      (OutputQueue.batchLimit (DequeueOutputBatchPayload.read source).maxOutputs) served lease
  | _ => false

def endsLease (host : HostCalls) (request : Request) (response : List UInt8)
    (backend : VtRealBackend) (surfaces : Surfaces) (lease : Lease) : Bool :=
  endedBy (Opcode.ofCode? request.opcode) request.payload backend
    (dispatch host request response backend surfaces) lease

section Effects

variable {opcode : Option Opcode} {served : Served}

theorem endedBy_of_leaseless (calm : leaseless opcode = true)
    (lease : Lease) : endedBy opcode source backend served lease = false := by
  unfold endedBy
  split
  all_goals first
    | rfl
    | cases calm

theorem endedBy_of_refused {status : UInt32} (failed : status ≠ Status.ok) (lease : Lease) :
    endedBy opcode source backend (.plain backend surfaces status) lease =
      false := by
  unfold endedBy
  split
  · simp [endsByRecycle, Served.plain, failed]
  · rfl
  · simp [endsByPool, Served.plain, failed]
  · simp [endsBySession, Served.plain, failed]
  · simp [endsByDequeue, Served.plain, failed]
  · simp [endsByDequeue, Served.plain, failed]
  · rfl

theorem endedBy_dequeue (limits : dequeueLimits opcode source = some (sessionId, count)) :
    endedBy opcode source backend served =
      endsByDequeue backend sessionId count served := by
  unfold dequeueLimits at limits
  split at limits
  · cases limits
    rfl
  · cases limits
    rfl
  · cases limits

theorem Effect.advances (effect : Effect host source backend surfaces opcode served)
    (kept : backend.WellKept) (isSealed : backend.OutputsSealed) :
    Advances backend served.backend served.leases (endedBy opcode source backend served) := by
  have next_le := effect.next_le
  cases effect with
  | refused failed => exact kept.advances_same rfl rfl next_le (endedBy_of_refused failed)
  | answered calm other =>
    rw [Served.leases_of_other other]
    exact kept.advances_same rfl rfl next_le (endedBy_of_leaseless calm)
  | entryClaimed _ _ _ _ build =>
    rw [Served.leases_of_other build.body]
    exact build.advances kept fun _ => rfl
  | decodeDestroyed known =>
    refine kept.advances_same rfl rfl next_le ?_
    intro lease
    simp [endedBy, endsBySession, known]
  | @encodeDestroyed sessionId named absent _ =>
    have removed : (backend.removeSession sessionId).WellKept :=
      kept.follow (kept.follows_same rfl rfl (Nat.le_refl _))
    have exactly : ∀ lease,
        endsBySession backend source (.plain backend surfaces Status.ok) lease = true ↔
          ∃ buffer, backend.buffers.lookup lease.id = some buffer ∧
            buffer.poolId ∈ backend.poolsOfSession sessionId := by
      intro lease
      subst named
      simp only [mem_poolsOfSession]
      simp [endsBySession, Served.plain, absent, Option.any_eq_true]
    have advances := removePools_advances removed exactly
    exact ⟨advances.kept, advances.move, advances.evolves,
      advances.descends.buffers, advances.descends.pools⟩
  | poolUnknown unknown =>
    apply kept.advances_unknown unknown
    intro lease ended
    simpa [endedBy, endsByPool, Served.plain, Option.any_eq_true] using ended
  | poolDestroyed named =>
    apply removePools_advances kept
    intro lease
    simp [endedBy, endsByPool, Served.plain, Option.any_eq_true, named]
  | unwrapped _ known found inPool free =>
    exact kept.advances_leased known found inPool free (becomes_leased _) rfl
      rfl (Or.inl rfl) (fun _ ended => by cases ended)
  | leased known found inPool free id generation _ _ =>
    refine kept.advances_leased known found inPool free
      ((becomes_leased _).trans (becomes_wrapped _ _)) rfl rfl (Or.inr ?_) ?_
    · simp only [Served.leases, Served.ok, id, generation]
      rfl
    · intro lease ended
      simp only [endedBy, endsBySupersede, Served.ok, Bool.and_eq_true,
        beq_iff_eq, decide_eq_true_eq, id, generation] at ended
      exact ⟨ended.1.symm, ended.2⟩
  | read _ found _ held =>
    exact kept.advances_setBuffer found (becomes_wrapped _ _) held rfl held fun _ => rfl
  | written _ found _ writable =>
    exact kept.advances_setBuffer found (becomes_wrapped _ _)
      (by simp [writable]) rfl (by simp [VtRealBuffer.wrapped, writable])
      fun _ => rfl
  | recycled named found generation _ =>
    apply kept.advances_recycled found
    rintro ⟨id, other⟩
    rw [named, generation]
    simp only [endedBy, endsByRecycle, Served.plain, beq_self_eq_true,
      Bool.true_and, Bool.and_eq_true, beq_iff_eq, Lease.mk.injEq]
    exact and_congr eq_comm eq_comm
  | encoded encodes named =>
    apply encodes.advances kept
    rcases named with rfl | ⟨rfl, _⟩
    · exact fun _ => rfl
    · exact fun _ => rfl
  | dequeued limits answers other =>
    rw [Served.leases_of_other other, endedBy_dequeue limits]
    dsimp only
    rw [← afterTaking_eq]
    apply afterTaking_advances kept isSealed
    intro lease
    rcases answers with rfl | none
    · simp [endsByDequeue]
    · simp [endsByDequeue, none]
  | released calm _ _ | configured calm _ _ _ =>
    exact kept.advances_same rfl rfl next_le (endedBy_of_leaseless calm)
  | decodedDequeued dequeue =>
    cases dequeue with
    | _ => exact kept.advances_same rfl rfl next_le fun _ => rfl
  | _ => exact kept.advances_same rfl rfl next_le fun _ => rfl

theorem Effect.launched (effect : Effect host source backend surfaces opcode served)
    (kept : backend.WellKept) :
    ∀ frame ∈ served.encoded, served.backend.Sealed frame.frame.lease := by
  rcases effect.encodes with none | encodes
  · intro frame accepted
    rw [none] at accepted
    cases accepted
  · exact encodes.frames_sealed kept

theorem Effect.frames_fresh (effect : Effect host source backend surfaces opcode served)
    (kept : backend.WellKept) :
    (∀ frame ∈ served.encoded, backend.writableTable.Current frame.frame.lease) ∧
      (served.encoded.map fun frame => frame.frame.lease).Nodup := by
  rcases effect.encodes with none | encodes
  · rw [none]
    exact ⟨fun _ accepted => absurd accepted not_mem_nil, nodup_nil⟩
  · exact encodes.frames_fresh kept

/-! ## Requests that name an ended lease -/

theorem current_of_found (found : backend.buffers.lookup lease.id = some buffer)
    (generation : buffer.generation = lease.generation)
    (held : buffer.state ≠ .recycled) : backend.leaseTable.Current lease :=
  current_iff.mpr ⟨buffer, found, generation, decide_eq_true held⟩

/-- A request that names a lease which is not current is refused and changes
nothing. -/
theorem dispatch_refused {request : Request} (ended : ¬ backend.leaseTable.Current lease)
    (names : request.namedLease = some lease) (host : HostCalls)
    (response : List UInt8) (surfaces : Surfaces) :
    ∃ status, status ≠ Status.ok ∧ dispatch host request response backend surfaces =
        .plain backend surfaces status := by
  have effect := dispatch_effect host request response backend surfaces
  unfold Request.namedLease at names
  dsimp only at names
  generalize dispatch host request response backend surfaces = served at effect ⊢
  generalize Opcode.ofCode? request.opcode = opcode at effect names
  cases effect with
  | refused failed => exact ⟨_, failed, rfl⟩
  | read named found generation held | recycled named found generation held =>
    cases names
    exact absurd (current_of_found (named ▸ found) generation held) ended
  | written named found generation writable =>
    cases names
    exact absurd (current_of_found (named ▸ found) generation (by simp [writable])) ended
  | encoded _ named =>
    rcases named with rfl | ⟨rfl, buffer, found, generation, writable⟩
    · cases names
    · cases names
      exact absurd (current_of_found found generation (by simp [writable])) ended
  | answered calm _ | released calm _ _ | configured calm _ _ _ =>
    split at names
    all_goals first
      | cases names; done
      | cases calm
  | dequeued limits _ _ =>
    split at names
    all_goals first
      | cases names; done
      | cases limits
  | _ => cases names

end Effects

end VtRealBackend

end VtFerry
