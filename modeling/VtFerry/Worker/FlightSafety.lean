import VtFerry.Worker.LeaseCarriers
import VtFerry.Worker.LeaseSafety

/-!
# Memory the encoder still reads

While a frame is in flight the encoder reads its slot.  As long as no request
recycles the lease of such a frame or removes its pool, and its connection
stays open, the lease stays current and the pool keeps its directory entry; so
the slot is not given out, and the entry is neither unclaimed nor claimed by
another pool.
-/

namespace VtFerry

open Execution LeaseTable VtRealBackend

/-- The lease the frame was encoded under. -/
def FrameInFlight.lease (flight : FrameInFlight) : Lease :=
  flight.frame.frame.lease

namespace VtRealBackend

variable {host : HostCalls} {request : Request} {response : List UInt8}
variable {backend : VtRealBackend} {surfaces : Surfaces} {lease : Lease}

def InPool (backend : VtRealBackend) (lease : Lease) (poolId : Nat) : Prop :=
  ∃ buffer, backend.buffers.lookup lease.id = some buffer ∧ buffer.poolId = poolId

def InSession (backend : VtRealBackend) (lease : Lease) (sessionId : Nat) :
    Prop :=
  ∃ buffer pool, backend.buffers.lookup lease.id = some buffer ∧
    backend.pools.lookup buffer.poolId = some pool ∧
    pool.sessionId = sessionId

/-- The request succeeds, and recycles the lease or destroys the pool of its
buffer or the session of that pool. -/
def Takes (backend : VtRealBackend) (request : Request) (served : Served) (lease : Lease) :
    Prop :=
  let handle := (HandlePayload.read request.payload).handle.toNat
  served.status = Status.ok ∧
    match Opcode.ofCode? request.opcode with
    | some .recycleBuffer => request.namedLease = some lease
    | some .destroyBufferPool => backend.InPool lease handle
    | some .destroySession => backend.InSession lease handle
    | _ => False

theorem allocBuffer_current {source : List UInt8} (current : backend.leaseTable.Current lease) :
    (allocBuffer host source backend surfaces).backend.leaseTable.Current
      lease := by
  obtain ⟨held, at_id, generation, notFree⟩ := current_iff.mp current
  have elsewhere {bufferId : Nat} {buffer later : VtRealBuffer}
      (found : backend.buffers.lookup bufferId = some buffer)
      (free : buffer.state = .recycled) :
      (backend.setBuffer bufferId later).leaseTable.Current lease := by
    apply current_iff.mpr
    refine ⟨held, ?_, generation, notFree⟩
    rw [lookup_setBuffer, if_neg ?_]
    · exact at_id
    · intro same
      rw [same, found] at at_id
      cases at_id
      simp [free] at notFree
  have effect := @allocBuffer_effect host source backend surfaces
  generalize allocBuffer host source backend surfaces = served at effect ⊢
  cases effect with
  | refused _ => exact current
  | answered calm _ => cases calm
  | unwrapped _ _ found _ free | leased _ found _ free _ _ _ _ =>
    exact elsewhere found free
  | encoded _ named => simp at named
  | dequeued limits _ _ => cases limits
  | released calm _ _ => cases calm
  | configured calm _ _ _ => cases calm

theorem not_endsByDequeue {sessionId count : Nat} {served : Served}
    (uncarried : ∀ key output, backend.outputState.items.lookup key = some output →
      output.lease ≠ lease) :
    endsByDequeue backend sessionId count served lease = false := by
  rw [endsByDequeue, Bool.and_eq_false_iff]
  right
  rw [Bool.eq_false_iff, ne_eq, List.contains_iff_mem, List.mem_map]
  rintro ⟨output, taken, same⟩
  obtain ⟨⟨key, found⟩, collected, rfl⟩ := List.mem_map.mp taken
  obtain ⟨ticket, _, looked⟩ := List.mem_filterMap.mp collected
  obtain ⟨item, item_found, pair⟩ := Option.map_eq_some_iff.mp looked
  cases pair
  exact uncarried key _ item_found same

/-- A request that ends a current lease which no output carries takes it. -/
theorem takes_of_ends (current : backend.leaseTable.Current lease)
    (uncarried : ∀ key output, backend.outputState.items.lookup key = some output →
      output.lease ≠ lease)
    (gone : ¬ (dispatch host request response backend surfaces).backend.leaseTable.Current lease)
    (ended : endsLease host request response backend surfaces lease = true) :
    backend.Takes request (dispatch host request response backend surfaces) lease := by
  unfold endsLease endedBy at ended
  unfold Takes
  dsimp only at ended ⊢
  cases code : Opcode.ofCode? request.opcode with
  | none => simp [code] at ended
  | some opcode =>
    rw [code] at ended
    cases opcode with
    | recycleBuffer =>
      simp only [endsByRecycle, Bool.and_eq_true, beq_iff_eq] at ended
      obtain ⟨⟨accepted, id⟩, generation⟩ := ended
      exact ⟨accepted, by simp only [Request.namedLease, code, id, generation]⟩
    | allocBuffer =>
      refine absurd ?_ gone
      unfold dispatch
      rw [code]
      exact allocBuffer_current current
    | destroyBufferPool =>
      simp only [endsByPool, Bool.and_eq_true, Option.any_eq_true, beq_iff_eq] at ended
      obtain ⟨accepted, buffer, found, inPool⟩ := ended
      exact ⟨accepted, buffer, found, inPool⟩
    | destroySession =>
      simp only [endsBySession, Bool.and_eq_true, Option.any_eq_true, beq_iff_eq] at ended
      obtain ⟨⟨accepted, _⟩, buffer, found, pool, known, owner⟩ := ended
      exact ⟨accepted, buffer, pool, found, known, owner⟩
    | dequeueOutput | dequeueOutputBatch =>
      dsimp only at ended
      rw [not_endsByDequeue uncarried] at ended
      cases ended
    | _ => cases ended

theorem slotOf_same {before after : VtRealBackend}
    (kept : before.WellKept) (later_kept : after.WellKept)
    (descends : Descends before after)
    (current : before.leaseTable.Current lease)
    (still : after.leaseTable.Current lease) :
    after.slotOf lease.id = before.slotOf lease.id ∧
      ∀ later, after.buffers.lookup lease.id = some later →
        ∃ earlier, before.buffers.lookup lease.id = some earlier ∧
          later.poolId = earlier.poolId := by
  obtain ⟨buffer, found, _, _⟩ := current_iff.mp current
  obtain ⟨later, later_found, _, held⟩ := current_iff.mp still
  obtain ⟨_, used, pool_used⟩ := kept.numbered lease.id buffer found
  obtain ⟨earlier, was, becomes⟩ :=
    descends.buffers lease.id later used later_found
  obtain rfl : buffer = earlier := Option.some.inj (found.symm.trans was)
  obtain ⟨pool, pool_found⟩ := later_kept.housed lease.id later later_found (of_decide_eq_true held)
  have pool_was := descends.pools buffer.poolId pool pool_used (becomes.poolId ▸ pool_found)
  refine ⟨?_, ?_⟩
  · simp only [slotOf, found, later_found, Option.bind_some,
      becomes.slotIndex, pool_found, pool_was]
  · intro other other_found
    obtain rfl : later = other :=
      Option.some.inj (later_found.symm.trans other_found)
    exact ⟨buffer, found, becomes.poolId⟩

end VtRealBackend

/-- The connection still has the frame's buffer under its lease, in the slot
the encoder reads, in a pool that keeps its entry. -/
structure Connection.Grounds (connection : Connection) (flight : FrameInFlight) : Prop where
  current : connection.backend.leaseTable.Current flight.lease
  slot : connection.backend.slotOf flight.lease.id = flight.slot
  kept : ∀ buffer, connection.backend.buffers.lookup flight.lease.id = some buffer →
    buffer.poolId ∉ connection.work.swept

namespace WorkerProcess

variable {process : WorkerProcess} {id : Nat}

/-- The event takes the buffer of a frame in flight: its connection recycles
the lease, removes the buffer's pool or closes. -/
def Disturbs (process : WorkerProcess) (event : WorkerEvent) : Prop :=
  ∃ key flight connection, process.inFlight.lookup key = some flight ∧
    process.connections.lookup flight.connection = some connection ∧
    match event with
    | .request id host request response => id = flight.connection ∧
        connection.backend.Takes request (connection.backend.dispatch host request response
          process.surfaces) flight.lease
    | .detachPool id source => id = flight.connection ∧
        connection.backend.InPool flight.lease (HandlePayload.read source).handle.toNat
    | .releaseSession id source => id = flight.connection ∧
        connection.backend.InSession flight.lease (HandlePayload.read source).handle.toNat
    | .disconnect id => id = flight.connection
    | _ => False

/-- Every frame in flight has its connection, and its buffer there. -/
def Grounded (process : WorkerProcess) : Prop :=
  ∀ key flight, process.inFlight.lookup key = some flight → ∃ connection,
      process.connections.lookup flight.connection = some connection ∧ connection.Grounds flight

def IsOpen (id : Nat) (process : WorkerProcess) : Prop :=
  ∃ connection, process.connections.lookup id = some connection

variable {after : Connection}

theorem IsOpen.set {next : WorkerProcess} {target : Nat}
    (isOpen : process.IsOpen id) (connections : next.connections =
      process.connections.insert target after) : next.IsOpen id := by
  unfold IsOpen
  rw [connections, FiniteMap.lookup_insert_eq]
  split
  · exact ⟨after, rfl⟩
  · exact isOpen

theorem IsOpen.moves {next : WorkerProcess} {event : WorkerEvent}
    (isOpen : process.IsOpen id) (moves : process.Moves event next)
    (stays : event ≠ .disconnect id) : next.IsOpen id := by
  cases moves with
  | still => exact isOpen
  | serves => exact isOpen.set (launch_connections ..)
  | lands => exact isOpen
  | disconnects =>
    obtain ⟨before, found⟩ := isOpen
    refine ⟨before, ?_⟩
    dsimp only [disconnect]
    rw [FiniteMap.lookup_erase_eq, if_neg ?_]
    · exact found
    · rintro rfl
      exact stays rfl
  | _ => exact isOpen.set rfl

theorem IsOpen.step (isOpen : process.IsOpen id) (event : WorkerEvent)
    (stays : event ≠ .disconnect id) : (process.step event).IsOpen id :=
  isOpen.moves (process.step_moves event) stays

variable {event : WorkerEvent} {key : Nat} {flight : FrameInFlight}

theorem current_of_undisturbed {before : Connection} (kept : process.Kept)
    (once : process.CarriedOnce) (undisturbed : ¬ process.Disturbs event)
    (flying : process.inFlight.lookup key = some flight)
    (found : process.connections.lookup flight.connection = some before)
    (isOpen : (process.step event).connections.lookup flight.connection =
      some after) (grounds : before.Grounds flight)
    (move : ConnectionMove process flight.connection before event after) :
    after.backend.leaseTable.Current flight.lease := by
  have advances := move.advances_any (kept.connections flight.connection before found) found isOpen
  by_contra gone
  have ended := advances.move.covered flight.lease grounds.current gone
  have uncarried (other : Nat) (output : VtRealOutput)
      (queued : before.backend.outputState.items.lookup other =
        some output) : output.lease ≠ flight.lease := by
    intro same
    have twice := once flight.connection (.flight key) (.output other)
      flight.lease ⟨flight, flying, rfl, rfl⟩ ⟨before, output, found, queued, same⟩
    cases twice
  cases event with
  | request target host request response =>
    unfold WorkerProcess.ends at ended
    dsimp only at ended
    split at ended
    · cases ended
    next connection serves =>
      rw [step_request serves] at isOpen
      cases isOpen
      obtain ⟨rfl, found_too, _⟩ := serving_eq_some_iff.mp serves
      obtain rfl : before = connection :=
        Option.some.inj (found.symm.trans found_too)
      have takes := takes_of_ends grounds.current uncarried gone ended
      exact undisturbed ⟨key, flight, before, flying, found, rfl, takes⟩
  | detachPool target source =>
    cases move with
    | unchanged => exact gone grounds.current
    | detachPool _ _ =>
      obtain ⟨buffer, at_id, inPool⟩ :=
        (loses_removePools found isOpen rfl flight.lease).mp ended
      exact undisturbed ⟨key, flight, before, flying, found, rfl, buffer,
        at_id, List.mem_singleton.mp inPool⟩
  | sweepPools target =>
    cases move with
    | unchanged => exact gone grounds.current
    | sweepPools sweeping =>
      obtain ⟨buffer, at_id, inPool⟩ :=
        (loses_removePools found isOpen rfl flight.lease).mp ended
      apply grounds.kept buffer at_id
      rw [sweeping]
      exact inPool
  | _ => cases ended

theorem unswept_of_undisturbed {before : Connection} {buffer : VtRealBuffer}
    (undisturbed : ¬ process.Disturbs event)
    (flying : process.inFlight.lookup key = some flight)
    (found : process.connections.lookup flight.connection = some before)
    (at_id : before.backend.buffers.lookup flight.lease.id = some buffer)
    (unswept : buffer.poolId ∉ before.work.swept)
    (move : ConnectionMove process flight.connection before event after) :
    buffer.poolId ∉ after.work.swept := by
  cases move with
  | claimEntry _ _ _ | buildPool _ | detachPool _ _ | releaseDetached _
  | sweepPools _ => exact List.not_mem_nil
  | releaseSession _ _ =>
    intro swept
    obtain ⟨pool, known, owner⟩ :=
      mem_poolsOfSession.mp swept
    exact undisturbed ⟨key, flight, before, flying, found, rfl, buffer, pool, at_id, known, owner⟩
  | _ => exact unswept

theorem current_of_writable {backend : VtRealBackend} {lease : Lease}
    (writable : backend.writableTable.Current lease) :
    backend.leaseTable.Current lease := by
  obtain ⟨buffer, found, generation, held⟩ :=
    current_iff.mp writable
  apply current_of_found found generation
  rw [of_decide_eq_true held]
  decide

theorem launched_grounds (kept : process.Kept) (launched : process.Launches event flight) :
    ∃ after, (process.step event).connections.lookup flight.connection =
      some after ∧ after.Grounds flight := by
  obtain ⟨host, request, response, connection, rfl, found, idle, accepted, slot⟩ := launched
  have backend_kept := (kept.connections _ connection found).backend
  refine ⟨_, step_request (serving_eq_some_iff.mpr ⟨rfl, found, idle⟩) host
    request response, ?_, slot.symm, ?_⟩
  · have writable := ((dispatch_effect ..).frames_fresh
      backend_kept).1 flight.frame accepted
    obtain ⟨cell, at_id, rest⟩ := current_of_writable writable
    rcases (dispatch_effect host request response
        connection.backend process.surfaces).encodes with none | encodes
    · rw [none] at accepted
      cases accepted
    · exact ⟨cell, (encodes.still _).trans at_id, rest⟩
  · intro buffer _
    dsimp only
    rw [idle]
    exact List.not_mem_nil

theorem Grounded.still (grounded : process.Grounded) (kept : process.Kept)
    (once : process.CarriedOnce) (undisturbed : ¬ process.Disturbs event)
    (flying : process.inFlight.lookup key = some flight) :
    ∃ after, (process.step event).connections.lookup flight.connection =
      some after ∧ after.Grounds flight := by
  obtain ⟨before, found, grounds⟩ := grounded key flight flying
  have stays : event ≠ .disconnect flight.connection := by
    rintro rfl
    exact undisturbed ⟨key, flight, before, flying, found, rfl⟩
  obtain ⟨after, isOpen⟩ := IsOpen.step ⟨before, found⟩ event stays
  refine ⟨after, isOpen, ?_⟩
  rcases process.step_connection event flight.connection after isOpen with
    ⟨was, was_found, move⟩ | ⟨new, _, _⟩
  · obtain rfl : before = was :=
      Option.some.inj (found.symm.trans was_found)
    have still := current_of_undisturbed kept once undisturbed flying found isOpen grounds move
    have before_kept := kept.connections flight.connection before found
    have advances := move.advances_any before_kept found isOpen
    obtain ⟨slot, places⟩ := slotOf_same before_kept.backend
      advances.kept advances.descends grounds.current still
    refine ⟨still, slot.trans grounds.slot, ?_⟩
    intro later at_id
    obtain ⟨buffer, was_at_id, place⟩ := places later at_id
    rw [place]
    exact unswept_of_undisturbed undisturbed flying found was_at_id
      (grounds.kept buffer was_at_id) move
  · have below := (kept.flights key flight flying).1
    omega

theorem Grounded.step (grounded : process.Grounded) (kept : process.Kept)
    (once : process.CarriedOnce) (undisturbed : ¬ process.Disturbs event) :
    (process.step event).Grounded := by
  intro key flight flying
  rcases (process.step_flight event).comes key flight flying with earlier | launched
  · exact grounded.still kept once undisturbed earlier
  · exact launched_grounds kept launched

/-! ## Safety -/

/-- The invariant of executions that disturb no frame in flight. -/
structure FlightsSafe (process : WorkerProcess) : Prop where
  owned : process.Owned
  kept : process.Kept
  once : process.CarriedOnce
  grounded : process.Grounded

theorem started_flightsSafe (surfaces : Surfaces) :
    (started surfaces).FlightsSafe where
  owned := started_owned surfaces
  kept := started_kept surfaces
  once := started_once surfaces
  grounded _ _ flying := by cases flying

theorem FlightsSafe.step (safe : process.FlightsSafe) (undisturbed : ¬ process.Disturbs event) :
    (process.step event).FlightsSafe where
  owned := safe.owned.step event
  kept := safe.kept.step event
  once := safe.once.step safe.kept event
  grounded := safe.grounded.step safe.kept safe.once undisturbed

/-- The entry of every frame in flight is claimed and held by one pool of the
frame's connection, the pool of its buffer, and by nothing else. -/
def EntriesHeld (process : WorkerProcess) : Prop :=
  ∀ key flight entryId slot, process.inFlight.lookup key = some flight →
    flight.slot = some (entryId, slot) →
    process.surfaces.directory.Claimed entryId ∧
    ∃ connection buffer, process.connections.lookup flight.connection = some connection ∧
      connection.backend.buffers.lookup flight.lease.id = some buffer ∧
      process.LivePool flight.connection buffer.poolId entryId ∧
      ∀ id claimant, process.Holds id claimant entryId →
        id = flight.connection ∧ claimant = .pool buffer.poolId

/-- No lease the event gives out is for a slot with a frame in flight. -/
def AllocatesFreeSlots (process : WorkerProcess) (event : WorkerEvent) :
    Prop :=
  ∀ id lease connection key flight place, lease ∈ process.grants id event →
    (process.step event).connections.lookup id = some connection →
    connection.backend.slotOf lease.id = some place →
    process.inFlight.lookup key = some flight → flight.slot ≠ some place

theorem slotOf_eq_some {backend : VtRealBackend} {bufferId entryId slot : Nat}
    (place : backend.slotOf bufferId = some (entryId, slot)) :
    ∃ buffer, backend.buffers.lookup bufferId = some buffer ∧ buffer.slotIndex = slot ∧
      backend.PoolHolds buffer.poolId entryId := by
  obtain ⟨buffer, at_id, pool_place⟩ := Option.bind_eq_some_iff.mp place
  obtain ⟨pool, known, entry_place⟩ := Option.bind_eq_some_iff.mp pool_place
  obtain ⟨held, entry, pair⟩ := Option.map_eq_some_iff.mp entry_place
  cases pair
  exact ⟨buffer, at_id, rfl, pool, known, entry⟩

theorem FlightsSafe.entriesHeld (safe : process.FlightsSafe) :
    process.EntriesHeld := by
  intro key flight entryId slot flying at_slot
  obtain ⟨connection, found, grounds⟩ := safe.grounded key flight flying
  obtain ⟨buffer, at_id, _, pool_holds⟩ :=
    slotOf_eq_some (grounds.slot.trans at_slot)
  have holds : process.Holds flight.connection (.pool buffer.poolId)
      entryId :=
    ⟨connection, found, pool_holds, grounds.kept buffer at_id⟩
  refine ⟨safe.owned.exclusive.claimed_of_holds
    (flight.connection, .pool buffer.poolId) entryId holds, connection,
    buffer, found, at_id, holds, ?_⟩
  intro id claimant held
  have same := safe.owned.exclusive.owner_unique (id, claimant)
    (flight.connection, .pool buffer.poolId) entryId held holds
  cases same
  exact ⟨rfl, rfl⟩

theorem FlightsSafe.allocatesFreeSlots (safe : process.FlightsSafe)
    (undisturbed : ¬ process.Disturbs event) :
    process.AllocatesFreeSlots event := by
  rintro id lease connection key flight ⟨entryId, slot⟩ granted isOpen place flying same
  obtain ⟨after, after_open, grounds⟩ := safe.grounded.still safe.kept safe.once undisturbed flying
  cases event with
  | request target host request response =>
    unfold grants at granted
    dsimp only at granted
    split at granted
    · cases granted
    next before serves =>
      obtain ⟨rfl, found, idle⟩ := serving_eq_some_iff.mp serves
      have before_kept := safe.kept.connections target before found
      have advances := (dispatch_effect host request response
        before.backend process.surfaces).advances before_kept.backend
        before_kept.outputs
      obtain ⟨fresh, current⟩ := advances.move.fresh lease granted
      rw [step_request serves] at isOpen
      cases isOpen
      obtain ⟨buffer, at_id, slot_eq, pool_holds⟩ := slotOf_eq_some place
      obtain ⟨bufferToo, at_id_too, slot_eq_too, pool_holds_too⟩ :=
        slotOf_eq_some (grounds.slot.trans same)
      have owned := safe.owned.step (.request target host request response)
      have holder := owned.exclusive.owner_unique (target, .pool buffer.poolId)
        (flight.connection, .pool bufferToo.poolId) entryId
        ⟨_, step_request serves host request response, pool_holds, by simp [idle, PoolWork.swept]⟩
        ⟨after, after_open, pool_holds_too, grounds.kept bufferToo at_id_too⟩
      obtain ⟨rfl, claimants⟩ := Prod.mk.inj holder
      have pools := Claimant.pool.inj claimants
      rw [step_request serves] at after_open
      cases after_open
      have same_id := advances.kept.apart lease.id flight.lease.id buffer
        bufferToo at_id at_id_too pools (slot_eq.trans slot_eq_too.symm)
      obtain ⟨held, held_at, generation, _⟩ :=
        current_iff.mp current
      obtain ⟨heldToo, heldToo_at, generation_too, _⟩ :=
        current_iff.mp grounds.current
      rw [← same_id] at heldToo_at
      obtain rfl : held = heldToo :=
        Option.some.inj (held_at.symm.trans heldToo_at)
      have same_lease : lease = flight.lease := by
        cases lease
        simp only at same_id generation
        rw [same_id, ← generation, generation_too]
      obtain ⟨was, was_found, was_grounds⟩ :=
        safe.grounded key flight flying
      obtain rfl : before = was :=
        Option.some.inj (found.symm.trans was_found)
      apply fresh
      rw [same_lease]
      exact was_grounds.current.past (before_kept.backend.numberedTable _)
  | _ => cases granted

/-- In every execution in which no event takes the buffer of a frame in
flight, the entries of frames in flight stay claimed by the pools of their
buffers, and no event gives out a slot with a frame in flight. -/
theorem encoder_memory_not_reused (surfaces : Surfaces) (events : List WorkerEvent)
    (undisturbed : Execution.Obeys WorkerProcess.step
      (fun process event => ¬ process.Disturbs event) (started surfaces)
      events) :
    let process := run WorkerProcess.step (started surfaces) events
    process.EntriesHeld ∧ ∀ event, ¬ process.Disturbs event →
        process.AllocatesFreeSlots event := by
  intro process
  have safe : process.FlightsSafe := invariant_of_obeys
    (fun _ _ safe undisturbed => FlightsSafe.step safe undisturbed)
    (started_flightsSafe surfaces) undisturbed
  exact ⟨safe.entriesHeld, fun event rule => safe.allocatesFreeSlots rule⟩

/-! ## Runs that take a frame's buffer -/

open LittleEndian

def encodeSessionRequest : Request where
  opcode := Opcode.createSession.code
  payload := u32Bytes sessionKindEncode ++ u32Bytes Codec.avc1 ++
    u32Bytes 16 ++ u32Bytes 16 ++ u32Bytes PixelFormat.bgra ++
    List.replicate 16 0

def prepareRequest (sessionId : UInt64) : Request where
  opcode := Opcode.prepareSession.code
  payload := u64Bytes sessionId

def encodeRequest (sessionId bufferId generation : UInt64) : Request where
  opcode := Opcode.encodeFrame.code
  payload := EncodeFramePayload.bytes
    { sessionId := sessionId
      imageBufferProxyId := 1
      imageBufferHostId := bufferId
      imageBufferGeneration := generation
      timing := ⟨0, 600, 600, 1⟩ }

/-- A connection makes a pool and a session, and has a frame accepted. -/
def oneFrameInFlight : List WorkerEvent :=
  [.connect, .request 0 {} twoSlotRequest [], .request 0 {} encodeSessionRequest [],
    .request 0 {} (prepareRequest 4) [], .request 0 {} (allocRequest 1) [],
    .request 0 {} (encodeRequest 4 3 1) []]

def twoSlotStart : WorkerProcess :=
  started (loadedSurfaces [twoSlotPool] fun _ _ => 0)

theorem other_slot_allocated :
    (run WorkerProcess.step twoSlotStart oneFrameInFlight).AllocatesFreeSlots
        (.request 0 {} (allocRequest 1) []) := by
  have quiet : Execution.Obeys WorkerProcess.step
      (fun process event => ¬ process.Disturbs event) twoSlotStart
      oneFrameInFlight := by
    refine ⟨?_, ?_, ?_, ?_, ?_, ?_, trivial⟩
    all_goals
      rintro ⟨key, flight, connection, flying, _⟩
      cases flying
  apply (encoder_memory_not_reused _ oneFrameInFlight quiet).2
  rintro ⟨key, flight, connection, _, _, _, _, takes⟩
  exact takes

def FliesAt (process : WorkerProcess) (key : Nat) (place : Nat × Nat) :
    Prop :=
  ∃ flight, process.inFlight.lookup key = some flight ∧ flight.slot = some place

/-- The slot of a frame in flight is given out after its lease is recycled,
and its entry is unclaimed when its connection closes. -/
theorem recycled_slot_allocated :
    ¬ (run WorkerProcess.step twoSlotStart (oneFrameInFlight ++
        [.request 0 {} (recycleRequest 1 3 1) []])).AllocatesFreeSlots
          (.request 0 {} (allocRequest 1) []) ∧
    ¬ (run WorkerProcess.step twoSlotStart (oneFrameInFlight ++ [.disconnect 0])).EntriesHeld := by
  refine ⟨?_, ?_⟩
  · intro free
    obtain ⟨flight, flying, slot⟩ : FliesAt (run WorkerProcess.step
        twoSlotStart (oneFrameInFlight ++ [.request 0 {} (recycleRequest 1 3 1) []])) 0 (0, 1) :=
      ⟨_, rfl, rfl⟩
    exact free 0 ⟨3, 2⟩ _ 0 flight (0, 1) (by decide) rfl rfl flying slot
  · intro held
    obtain ⟨flight, flying, slot⟩ : FliesAt (run WorkerProcess.step
        twoSlotStart (oneFrameInFlight ++ [.disconnect 0])) 0 (0, 1) :=
      ⟨_, rfl, rfl⟩
    obtain ⟨⟨entry, present, claimed⟩, _⟩ := held 0 flight 0 1 flying slot
    cases present
    cases claimed

end WorkerProcess

end VtFerry
