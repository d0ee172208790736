import VtFerry.Shim.LayoutAgreement
import VtFerry.Worker.LeaseHistory
import VtFerry.Worker.Mock.Leases
import VtFerry.Worker.PoolFailures

/-!
# The sizes in pool replies

The reply to `CREATE_BUFFER_POOL` gives the size of the region of all slots
and, on the VideoToolbox backend, the offset of each slot; the reply to
`ALLOC_BUFFER` gives the offset of the leased slot.  All of them are 32-bit
products of the size of a slot.  Within the advertised dimensions the size of a
slot is exact; the products are exact exactly when the whole region has a
32-bit size.
-/

namespace VtFerry

open Execution LittleEndian VtRealBackend

/-- A worker that makes pools and leases, as one client sees it. -/
structure PoolService (State Call : Type) where
  step : State → Call → State
  operation : Call → Option Opcode × List UInt8
  reply : State → Call → Option ReplyBody

/-- The sizes in the reply `made` to the request that leads to `state`, and in
all later leases of the pool, are exact for slots of `size` bytes. -/
structure PoolService.SizesExact {State Call : Type}
    (service : PoolService State Call) (state : State)
    (made : CreateBufferPoolReply) (size : Nat) : Prop where
  slot : made.layout.totalSize.toNat = size
  region : made.bufferRegionSize.toNat = made.slotCount.toNat * size
  leases : ∀ lease ∈ made.bufferLeases, lease.slotOffset.toNat = lease.slotIndex * size
  later : ∀ calls call lease,
    service.reply (run service.step state calls) call = some (.lease lease) →
      (service.operation call).1 = some .allocBuffer →
      (HandlePayload.read (service.operation call).2).handle.toNat = made.poolId →
      lease.slotOffset.toNat = lease.slotIndex * size

/-- The size of a slot of the pool, as a number. -/
def CreateBufferPoolReply.slotSize (made : CreateBufferPoolReply) : Nat :=
  exactTotalSize made.width made.height made.pixelFormat

/-! ## Products of 32-bit numbers -/

theorem toNat_mul_eq_iff (count size : UInt32) :
    (count * size).toNat = count.toNat * size.toNat ↔
      count.toNat * size.toNat < 2 ^ 32 := by
  rw [UInt32.toNat_mul]
  exact Nat.mod_eq_iff_lt (by decide)

theorem offset_exact {count size index : Nat} (below : index < count)
    (fits : count * size < 2 ^ 32) :
    (UInt32.ofNat (index * size)).toNat = index * size := by
  rw [UInt32.toNat_ofNat', Nat.mod_eq_of_lt]
  exact Nat.lt_of_le_of_lt (Nat.mul_le_mul_right size (Nat.le_of_lt below)) fits

variable {made : CreateBufferPoolReply}

theorem PoolService.sizesExact_iff {State Call : Type} {service : PoolService State Call}
    {state : State} {size : Nat} (slot : made.layout.totalSize.toNat = size)
    (region : made.bufferRegionSize = made.slotCount * made.layout.totalSize)
    (leases : ∀ lease ∈ made.bufferLeases, Placed size made.slotCount.toNat lease)
    (later : ∀ calls call lease, service.reply (run service.step state calls) call =
          some (.lease lease) →
        (service.operation call).1 = some .allocBuffer →
        (HandlePayload.read (service.operation call).2).handle.toNat = made.poolId →
        lease.slotIndex < made.slotCount.toNat ∧
          lease.slotOffset = UInt32.ofNat (lease.slotIndex * size)) :
    service.SizesExact state made size ↔ made.slotCount.toNat * size < 2 ^ 32 := by
  have product := toNat_mul_eq_iff made.slotCount made.layout.totalSize
  rw [slot, ← region] at product
  refine ⟨fun sizes => product.mp sizes.region, fun fits => ?_⟩
  refine ⟨slot, product.mpr fits, ?_, ?_⟩
  · intro lease listed
    obtain ⟨below, offset⟩ := leases lease listed
    rw [offset]
    exact offset_exact below fits
  · intro calls call lease replied allocates named
    obtain ⟨below, offset⟩ := later calls call lease replied allocates named
    rw [offset]
    exact offset_exact below fits

/-! ## The size of a slot -/

theorem exactTotalSize_lt (pixelFormat : UInt32) {width height : UInt32}
    (wide : width ≤ 7680) (tall : height ≤ 4320) :
    exactTotalSize width height pixelFormat < 2 ^ 32 := by
  have columns : width.toNat ≤ 7680 := wide
  have rows : height.toNat ≤ 4320 := tall
  have samples : sampleBytes pixelFormat ≤ 4 := by
    unfold sampleBytes
    split
    · decide
    · split <;> decide
  have packed := Nat.mul_le_mul columns samples
  have aligned : exactStride width pixelFormat < _ :=
    Rounding.roundUp_lt_add (by decide) _
  have row : exactStride width pixelFormat ≤ 30783 := by omega
  have luma := Nat.mul_le_mul row rows
  have chroma : exactStride width pixelFormat * (height.toNat / 2) ≤ _ :=
    Nat.mul_le_mul row (Nat.div_le_div_right rows)
  unfold exactTotalSize
  split
  · omega
  · omega

theorem slotSize_exact (pixelFormat : UInt32) {width height : UInt32}
    (wide : width ≤ 7680) (tall : height ≤ 4320) :
    (vtfFillBufferLayout width height pixelFormat).totalSize.toNat =
      exactTotalSize width height pixelFormat := by
  have fits := exactTotalSize_lt pixelFormat wide tall
  rw [vtfFillBufferLayout_eq]
  by_cases empty : height = 0
  · subst empty
    unfold layoutWith exactTotalSize
    split
    · simp [biplanarLayout]
    · simp
  · exact (layoutWith_tiles (UInt32.pos_iff_ne_zero.mpr empty) fits).size

/-! ## The mock backend -/

def mockService : PoolService MockBackend MockBackend.MockRequest where
  step backend request := (backend.serve request).backend
  operation request :=
    (Opcode.ofCode? request.request.opcode, request.request.payload)
  reply backend request := (backend.serve request).reply

namespace MockBackend

open Mock

variable {backend : MockBackend} {poolId : Nat} {shape : Shape}

/-- The pool, while it exists, has the slots of `shape`. -/
structure KeepsPool (poolId : Nat) (shape : Shape) (backend : MockBackend) : Prop where
  kept : backend.WellKept
  used : poolId < backend.nextHostId
  pool : ∀ now, backend.shapeOf poolId = some now →
    now.capacity = shape.capacity ∧ now.size = shape.size

theorem KeepsPool.step (keeps : backend.KeepsPool poolId shape) (request : MockRequest) :
    (backend.serve request).backend.KeepsPool poolId shape := by
  have advances := serve_advances keeps.kept request
  refine ⟨advances.kept, ?_, ?_⟩
  · exact Nat.lt_of_lt_of_le keeps.used advances.move.evolves.next_le
  · intro now found
    obtain ⟨count, was⟩ := advances.pools poolId now keeps.used found
    exact keeps.pool { now with count := count } was

theorem KeepsPool.run (keeps : backend.KeepsPool poolId shape) (requests : List MockRequest) :
    (run mockService.step backend requests).KeepsPool poolId
      shape := by
  apply invariant_of_step
  · intro state request keeps
    exact keeps.step request
  · exact keeps

theorem reply_write {capacity : Nat} {body reply : ReplyBody}
    (replied : (backend.write capacity body).reply = some reply) :
    body = reply := by
  unfold write at replied
  split at replied
  · cases replied
  · exact Option.some.inj replied

variable {lease : AllocBufferReply}

theorem KeepsPool.placed (keeps : backend.KeepsPool poolId shape) (buffer : Buffer) {now : Shape}
    (found : backend.shapeOf poolId = some now) (below : buffer.slotIndex.toNat < now.capacity)
    (size : buffer.place.size = now.size) (is : leaseReply buffer = .lease lease) :
    lease.slotIndex < shape.capacity ∧
      lease.slotOffset = UInt32.ofNat (lease.slotIndex * shape.size.toNat) := by
  obtain ⟨capacity, same⟩ := keeps.pool now found
  cases is
  refine ⟨capacity ▸ below, ?_⟩
  rw [← same, ← size]
  simp [Buffer.place]

variable {request : MockRequest}

theorem KeepsPool.leases (keeps : backend.KeepsPool poolId shape)
    (replied : (backend.serve request).reply = some (.lease lease))
    (allocates : Opcode.ofCode? request.request.opcode = some .allocBuffer)
    (named : (HandlePayload.read request.request.payload).handle.toNat = poolId) :
    lease.slotIndex < shape.capacity ∧
      lease.slotOffset = UInt32.ofNat (lease.slotIndex * shape.size.toNat) := by
  have step : Step _ _ backend _ (backend.serve request) := serve_step request
  rw [allocates] at step
  generalize backend.serve request = served at step replied
  cases step with
  | refused => cases replied
  | answered calm => cases calm
  | done calm => cases calm
  | taken _ _ calm => cases calm
  | @reused pool buffer found free own =>
    obtain ⟨⟨_, inPool, _⟩, _⟩ := findBuffer_reissue keeps.kept free
    obtain ⟨now, at_pool, below, size⟩ := keeps.kept.housed buffer.place
      (List.mem_map_of_mem (List.mem_of_find?_eq_some free))
    rw [show buffer.place.pool = poolId from inPool.trans (own.trans named)] at at_pool
    unfold reuseBuffer at replied
    dsimp only at replied
    split at replied
    · cases replied
    · exact keeps.placed (reissue buffer) at_pool
        (Nat.lt_of_lt_of_le below (keeps.kept.counted poolId now at_pool))
        size (reply_write replied)
  | @slotOpened pool start found below range own =>
    rw [own, named] at found
    exact keeps.placed (newBuffer pool backend.nextHostId)
      (congrArg (Option.map Pool.shape) found) below rfl
      (reply_write replied)

theorem serve_pool (creates : Opcode.ofCode? request.request.opcode = some .createBufferPool)
    (replied : (backend.serve request).reply = some (.pool made)) :
    ∃ payload, poolReply payload backend.nextHostId = .pool made ∧
      (backend.serve request).backend = { backend with
        nextHostId := backend.nextHostId + 1
        pools := backend.pools ++ [newPool payload backend.nextHostId] } := by
  unfold serve dispatch at replied ⊢
  dsimp only at replied ⊢
  rw [creates] at replied ⊢
  split at replied
  · cases replied
  next current =>
    rw [if_neg current]
    dsimp only at replied ⊢
    unfold createBufferPool at replied ⊢
    split at replied
    · cases replied
    next room =>
      rw [if_neg room]
      split at replied
      · cases replied
      next whole =>
        rw [if_neg whole]
        dsimp only at replied ⊢
        split at replied
        · cases replied
        next known =>
          rw [if_neg known]
          split at replied
          · cases replied
          next fits =>
            rw [if_neg fits, write_backend]
            exact ⟨_, reply_write replied, rfl⟩

theorem WellKept.keepsPool (kept : backend.WellKept)
    (creates : Opcode.ofCode? request.request.opcode = some .createBufferPool)
    (replied : (backend.serve request).reply = some (.pool made)) :
    ∃ payload, poolReply payload backend.nextHostId = .pool made ∧
      (backend.serve request).backend.KeepsPool made.poolId
        (newPool payload backend.nextHostId).shape := by
  obtain ⟨payload, reply, after⟩ := serve_pool creates replied
  refine ⟨payload, reply, (serve_advances kept request).kept, ?_, ?_⟩
  · cases reply
    rw [after]
    exact Nat.lt_succ_self _
  · cases reply
    intro now found
    have unused : backend.shapeOf backend.nextHostId = none := by
      cases was : backend.findPool backend.nextHostId with
      | none => rw [shapeOf, was, Option.map_none]
      | some pool =>
        have numbered := kept.poolsNumbered pool.id
          (List.mem_map_of_mem (KeyedList.mem_of_find was))
        rw [KeyedList.key_of_find was] at numbered
        exact absurd numbered (Nat.lt_irrefl _)
    rw [after, shapeOf_addPool, unused, Option.none_or] at found
    obtain rfl := Option.some.inj ((if_pos rfl).symm.trans found)
    exact ⟨rfl, rfl⟩

end MockBackend

/-! ## The VideoToolbox backend -/

namespace WorkerProcess

/-- What connection `id` answers, where `CREATE_BUFFER_POOL` may be served in
two critical sections. -/
def replyTo (process : WorkerProcess) (id : Nat) :
    WorkerEvent → Option ReplyBody
  | .request target host request response =>
    (process.serving id target).map fun connection =>
      (connection.backend.dispatch host request response process.surfaces).body
  | .buildPool target host =>
    if target = id then
      (process.connections.lookup id).bind fun connection =>
        match connection.work with
        | .building payload entryId pool =>
          some (VtRealBackend.buildPool host payload entryId pool connection.backend).2.2
        | _ => none
    else none
  | _ => none

def operation : WorkerEvent → Option Opcode × List UInt8
  | .request _ _ request _ => (Opcode.ofCode? request.opcode, request.payload)
  | .buildPool _ _ => (some .createBufferPool, [])
  | _ => (none, [])

def service (id : Nat) : PoolService WorkerProcess WorkerEvent where
  step := step
  operation := operation
  reply process := process.replyTo id

variable {process : WorkerProcess} {id poolId : Nat} {count size : UInt32}

structure KeepsPool (id poolId : Nat) (count size : UInt32) (process : WorkerProcess) : Prop where
  kept : process.Kept
  opened : id < process.nextConnection
  used : ∀ connection, process.connections.lookup id = some connection →
    poolId < connection.backend.nextHostId
  pool : ∀ connection pool, process.connections.lookup id = some connection →
    connection.backend.pools.lookup poolId = some pool →
    pool.maxBuffers = count ∧ pool.slotRegionSize = size

theorem KeepsPool.step (keeps : process.KeepsPool id poolId count size) (event : WorkerEvent) :
    (process.step event).KeepsPool id poolId count size := by
  have opened := Nat.lt_of_lt_of_le keeps.opened (process.step_flight event).nextConnection
  have moves : ∀ after, (process.step event).connections.lookup id = some after →
      ∃ before granted ends, process.connections.lookup id = some before ∧
          Advances before.backend after.backend granted ends := by
    intro after isOpen
    rcases process.step_connection event id after isOpen with
      ⟨before, found, move⟩ | ⟨new, _, _⟩
    · exact ⟨before, _, _, found, move.advances_any
        (keeps.kept.connections id before found) found isOpen⟩
    · exact absurd keeps.opened (by omega)
  refine ⟨keeps.kept.step event, opened, ?_, ?_⟩
  · intro after isOpen
    obtain ⟨before, _, _, found, advances⟩ := moves after isOpen
    exact Nat.lt_of_lt_of_le (keeps.used before found) advances.move.evolves.next_le
  · intro after pool isOpen pool_found
    obtain ⟨before, _, _, found, advances⟩ := moves after isOpen
    exact keeps.pool before pool found (advances.descends.pools poolId pool
      (keeps.used before found) pool_found)

theorem KeepsPool.run (keeps : process.KeepsPool id poolId count size) (events : List WorkerEvent) :
    (run WorkerProcess.step process events).KeepsPool id poolId
      count size := by
  apply invariant_of_step
  · intro state event keeps
    exact keeps.step event
  · exact keeps

variable {event : WorkerEvent}

theorem KeepsPool.leases (keeps : process.KeepsPool id poolId count size)
    (replied : process.replyTo id event = some (.lease lease))
    (allocates : (operation event).1 = some .allocBuffer)
    (named : (HandlePayload.read (operation event).2).handle.toNat = poolId) :
    lease.slotIndex < count.toNat ∧
      lease.slotOffset = UInt32.ofNat (lease.slotIndex * size.toNat) := by
  cases event with
  | request target host request response =>
    obtain ⟨connection, serves, body⟩ := Option.map_eq_some_iff.mp replied
    obtain ⟨_, isOpen, _⟩ := serving_eq_some_iff.mp serves
    have kept := (keeps.kept.connections id connection isOpen).backend
    have effect := dispatch_effect host request response connection.backend process.surfaces
    rw [show Opcode.ofCode? request.opcode = _ from allocates] at effect
    generalize connection.backend.dispatch host request response
      process.surfaces = served at effect body
    cases effect with
    | leased known found inPool _ _ _ slot offset =>
      cases body
      rw [show (HandlePayload.read request.payload).handle.toNat = poolId from named] at known
      obtain ⟨maxBuffers, regionSize⟩ := keeps.pool connection _ isOpen known
      rw [← (kept.pools poolId _ known).1, ← inPool] at known
      obtain ⟨below, at_offset⟩ := kept.within _ _ _ found known
      rw [slot, offset, at_offset, ← maxBuffers, ← regionSize]
      exact ⟨below, rfl⟩
    | answered _ other | dequeued _ _ other => exact absurd body (other lease)
    | _ => cases body
  | _ => cases allocates

theorem replyTo_pool (creates : (operation event).1 = some .createBufferPool)
    (replied : process.replyTo id event = some (.pool made)) :
    ∃ before after host payload entryId pool, process.connections.lookup id = some before ∧
        (process.step event).connections.lookup id = some after ∧
        after.backend = (VtRealBackend.buildPool host payload entryId pool before.backend).1 ∧
        (VtRealBackend.buildPool host payload entryId pool before.backend).2.2 = .pool made := by
  cases event with
  | request target host request response =>
    obtain ⟨before, serves, body⟩ := Option.map_eq_some_iff.mp replied
    obtain ⟨_, isOpen, _⟩ := serving_eq_some_iff.mp serves
    have after := step_request serves host request response
    have served : before.backend.dispatch host request response
        process.surfaces = createBufferPool host request.payload
          before.backend process.surfaces := by
      unfold dispatch
      rw [show Opcode.ofCode? request.opcode = _ from creates]
    rw [served] at body after
    rcases createBufferPool_cases host request.payload before.backend process.surfaces with
      ⟨_, _, _, refused⟩ | ⟨entryId, entry, _, _, _, _, built⟩
    · rw [refused] at body
      cases body
    · rw [built] at body after
      exact ⟨before, _, host, _, entryId, entry.pool, isOpen, after, rfl, body⟩
  | buildPool target host =>
    dsimp only [replyTo] at replied
    split at replied
    next same =>
      subst same
      obtain ⟨before, isOpen, body⟩ := Option.bind_eq_some_iff.mp replied
      split at body
      next payload entryId pool building =>
        refine ⟨before,
          { before with
            backend := (VtRealBackend.buildPool host payload entryId pool before.backend).1
            work := .idle },
          host, payload, entryId, pool, isOpen, ?_, rfl,
          Option.some.inj body⟩
        dsimp only [WorkerProcess.step, onConnection]
        rw [isOpen]
        dsimp only [WorkerProcess.buildPool]
        rw [building]
        exact AList.lookup_insert _
      · cases body
    · cases replied
  | _ => cases creates

theorem Kept.keepsPool (kept : process.Kept)
    (creates : (operation event).1 = some .createBufferPool)
    (replied : process.replyTo id event = some (.pool made)) :
    ∃ payload pool poolId leases, made = builtReply payload pool poolId leases ∧
        (∀ lease ∈ leases, Placed (slotBytes payload) pool.spec.slotCount.toNat lease) ∧
        (process.step event).KeepsPool id made.poolId made.slotCount
          made.layout.totalSize := by
  obtain ⟨before, after, host, payload, entryId, pool, isOpen, open_after,
    backend, body⟩ := replyTo_pool creates replied
  have outcome := buildPool_cases host payload entryId pool before.backend
  generalize VtRealBackend.buildPool host payload entryId pool
    before.backend = result at outcome backend body
  cases outcome with
  | refused => cases body
  | abandoned => cases body
  | @built buffers leases _ _ placed =>
    cases body
    refine ⟨payload, pool, _, leases, rfl, placed, kept.step event, ?_, ?_, ?_⟩
    · exact Nat.lt_of_lt_of_le (kept.numbered.connections id before isOpen)
        (process.step_flight event).nextConnection
    · intro connection found
      obtain rfl := Option.some.inj (open_after.symm.trans found)
      rw [backend]
      dsimp only [builtReply]
      omega
    · intro connection record found pool_found
      obtain rfl := Option.some.inj (open_after.symm.trans found)
      rw [backend] at pool_found
      dsimp only [builtReply] at pool_found
      rw [AList.lookup_insert] at pool_found
      obtain rfl := Option.some.inj pool_found
      exact ⟨rfl, rfl⟩

end WorkerProcess

/-! ## Both workers -/

/-- Within the advertised dimensions the sizes of a pool are exact exactly when
its slots together have a 32-bit size. -/
theorem pool_sizes_exact_iff (made : CreateBufferPoolReply)
    (wide : made.width ≤ 7680) (tall : made.height ≤ 4320) :
    (∀ maxOutputCount maxOutputBytes requests request,
      let backend := run mockService.step
        (MockBackend.resetFromEnv maxOutputCount maxOutputBytes) requests
      (mockService.operation request).1 = some .createBufferPool →
      mockService.reply backend request = some (.pool made) →
      (mockService.SizesExact (mockService.step backend request) made made.slotSize ↔
        made.slotCount.toNat * made.slotSize < 2 ^ 32)) ∧
    ∀ surfaces events id event,
      let service := WorkerProcess.service id
      let process := run service.step (WorkerProcess.started surfaces) events
      (service.operation event).1 = some .createBufferPool →
      service.reply process event = some (.pool made) →
      (service.SizesExact (service.step process event) made made.slotSize ↔
        made.slotCount.toNat * made.slotSize < 2 ^ 32) := by
  constructor
  · intro maxOutputCount maxOutputBytes requests request backend creates replied
    have kept : backend.WellKept := by
      apply invariant_of_step
      · intro earlier call kept
        exact (MockBackend.serve_advances kept call).kept
      · exact MockBackend.resetFromEnv_wellKept maxOutputCount maxOutputBytes
    obtain ⟨payload, reply, keeps⟩ := kept.keepsPool creates replied
    cases reply
    have exact_size := slotSize_exact payload.pixelFormat wide tall
    rw [vtfFillBufferLayout_eq, ← fillBufferLayout_eq] at exact_size
    refine PoolService.sizesExact_iff exact_size rfl (by simp) ?_
    intro calls call lease leased allocates named
    have placed := (keeps.run calls).leases leased allocates named
    rwa [show (MockBackend.newPool payload _).shape.size.toNat = _ from
      exact_size] at placed
  · intro surfaces events id event service process creates replied
    obtain ⟨payload, pool, poolId, leases, rfl, placed, keeps⟩ :=
      (WorkerProcess.run_kept surfaces events).keepsPool creates replied
    have exact_size : slotBytes payload = _ :=
      slotSize_exact payload.pixelFormat wide tall
    rw [exact_size] at placed
    refine PoolService.sizesExact_iff exact_size rfl placed ?_
    intro calls call lease leased allocates named
    have at_slot := (keeps.run calls).leases leased allocates named
    rwa [show (builtReply payload pool poolId leases).layout.totalSize.toNat =
      _ from exact_size] at at_slot

/-- A client connected to a worker with a surface of slots of the largest
dimensions. -/
def largestStart (slotCount : UInt32) : WorkerProcess :=
  run (WorkerProcess.service 0).step (WorkerProcess.started (WorkerProcess.loadedSurfaces
      [⟨⟨7680, 4320, PixelFormat.bgra, slotCount, 1⟩, 0⟩] fun _ _ => 0))
    [.connect]

def largestRequest (slotCount : UInt32) : WorkerEvent :=
  .request 0 {} (createPoolRequest (u64Bytes 0 ++ u32Bytes slotCount ++
    u32Bytes PixelFormat.bgra ++ u32Bytes 7680 ++ u32Bytes 4320 ++
    u64Bytes 0)) []

/-- With 32 slots everything fits. -/
theorem largest_region_exact :
    ∃ made, (WorkerProcess.service 0).reply (largestStart 32) (largestRequest 32) =
        some (.pool made) ∧
      made.slotCount = 32 ∧
      (WorkerProcess.service 0).SizesExact ((WorkerProcess.service 0).step (largestStart 32)
          (largestRequest 32)) made made.slotSize := by
  obtain ⟨made, replied, wide, tall, count, fits⟩ : ∃ made,
      (WorkerProcess.service 0).reply (largestStart 32) (largestRequest 32) =
        some (.pool made) ∧ made.width ≤ 7680 ∧ made.height ≤ 4320 ∧
        made.slotCount = 32 ∧
        made.slotCount.toNat * made.slotSize < 2 ^ 32 :=
    ⟨_, rfl, by decide, by decide, rfl, by decide⟩
  exact ⟨made, replied, count, ((pool_sizes_exact_iff made wide tall).2 _
    [.connect] 0 (largestRequest 32) rfl replied).mpr fits⟩

/-- With 33 slots, of the 64 that are allowed, the size of the region is
reported as 84475904 bytes. -/
theorem largest_region_wraps :
    ∃ made, (WorkerProcess.service 0).reply (largestStart 33) (largestRequest 33) =
        some (.pool made) ∧
      made.width = 7680 ∧ made.height = 4320 ∧ made.slotCount = 33 ∧
      made.slotCount.toNat * made.slotSize = 4379443200 ∧
      made.bufferRegionSize = 84475904 ∧
      ¬ (WorkerProcess.service 0).SizesExact ((WorkerProcess.service 0).step (largestStart 33)
          (largestRequest 33)) made made.slotSize := by
  refine ⟨_, rfl, rfl, rfl, rfl, by decide, by decide, ?_⟩
  intro sizes
  have region := sizes.region
  revert region
  decide

end VtFerry
