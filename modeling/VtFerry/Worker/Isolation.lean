import VtFerry.Worker.FlightSafety
import VtFerry.Worker.MemoryWrites

/-!
# Guests do not share memory

Connections claim entries of one directory, and the memory of all surfaces is
shared.  A buffer is mapped at the surface of the entry that its pool holds, and
an entry is held once.  So as long as entries have surfaces of their own, what
one connection does leaves the buffers of the others as they are.
-/

namespace VtFerry

namespace IOSurfacePoolDirectory

/-- The surface of an entry. -/
def surfaceOf (directory : IOSurfacePoolDirectory) (entryId : Nat) : Option Nat :=
  directory.entries[entryId]?.map (·.pool.surface)

variable (directory : IOSurfacePoolDirectory) (entryId : Nat)

theorem surfaceOf_setClaimed (id : Nat) (claimed : Bool) :
    (directory.setClaimed id claimed).surfaceOf entryId = directory.surfaceOf entryId := by
  rw [surfaceOf, surfaceOf, setClaimed, List.getElem?_modify]
  cases directory.entries[entryId]? with
  | none => rfl
  | some entry =>
    by_cases same : id = entryId
    · simp [same]
    · simp [same]

theorem surfaceOf_releaseEntries (ids : List Nat) :
    (directory.releaseEntries ids).surfaceOf entryId = directory.surfaceOf entryId := by
  induction ids generalizing directory with
  | nil => rfl
  | cons id ids induction => exact (induction _).trans (surfaceOf_setClaimed ..)

end IOSurfacePoolDirectory

open IOSurfacePoolDirectory LeaseTable

variable {directory : IOSurfacePoolDirectory}

namespace VtRealBackend

variable {backend before after : VtRealBackend} {host : HostCalls} {source : List UInt8}
variable {surfaces : Surfaces} {opcode : Option Opcode} {served : Served}

def MappedIn (directory : IOSurfacePoolDirectory) (buffer : VtRealBuffer) (pool : VtRealPool) :
    Prop :=
  ∃ entryId, pool.iosurfaceEntryId = some entryId ∧
    directory.surfaceOf entryId = some buffer.mappedRegion

def Mapped (directory : IOSurfacePoolDirectory) (backend : VtRealBackend) : Prop :=
  ∀ id buffer pool, backend.buffers.lookup id = some buffer →
    backend.pools.lookup buffer.poolId = some pool → MappedIn directory buffer pool

/-- Buffers under used ids are where they were. -/
theorem Mapped.descend (mapped : before.Mapped directory) (kept : before.WellKept)
    (descends : Descends before after)
    (new : ∀ id buffer pool, before.nextHostId ≤ id → after.buffers.lookup id = some buffer →
      after.pools.lookup buffer.poolId = some pool → MappedIn directory buffer pool) :
    after.Mapped directory := by
  intro id buffer pool found inPool
  by_cases used : id < before.nextHostId
  · obtain ⟨earlier, was, becomes⟩ := descends.buffers id buffer used found
    rw [becomes.poolId] at inPool
    rw [MappedIn, becomes.region]
    have pool_used := (kept.numbered id earlier was).2.2
    exact mapped id earlier pool was (descends.pools _ pool pool_used inPool)
  · exact new id buffer pool (Nat.not_lt.mp used) found inPool

theorem Mapped.still (mapped : before.Mapped directory) (kept : before.WellKept)
    (descends : Descends before after) (later : after.WellKept)
    (next : after.nextHostId = before.nextHostId) : after.Mapped directory := by
  refine mapped.descend kept descends fun id buffer _ beyond found => ?_
  have used := (later.numbered id buffer found).2.1
  omega

variable {pool : IOSurfacePool}

theorem SlotsOf.mapped {payload : CreateBufferPoolPayload} {made id : Nat}
    {buffers : FiniteMap Nat VtRealBuffer} {buffer : VtRealBuffer}
    (filled : SlotsOf payload pool made backend buffers) (kept : backend.WellKept)
    (beyond : backend.nextHostId ≤ id) (found : buffers.lookup id = some buffer) :
    buffer.poolId = backend.nextHostId ∧ buffer.mappedRegion = pool.surface := by
  rw [filled id] at found
  split at found
  · obtain ⟨_, _, rfl⟩ := Option.map_eq_some_iff.mp found
    exact ⟨rfl, rfl⟩
  · exact absurd (kept.numbered id buffer found).2.1 (Nat.not_lt.mpr beyond)

variable {entryId : Nat}

theorem PoolBuild.mapped {payload : CreateBufferPoolPayload}
    {built : VtRealBackend × UInt32 × ReplyBody}
    (build : PoolBuild host payload entryId pool backend built) (kept : backend.WellKept)
    (mapped : backend.Mapped directory)
    (surface : directory.surfaceOf entryId = some pool.surface) : built.1.Mapped directory := by
  have advances : Advances backend built.1 [] fun _ => false := build.advances kept fun _ => rfl
  refine mapped.descend kept advances.descends fun id buffer record beyond found inPool => ?_
  cases build with
  | refused => exact absurd (kept.numbered id buffer found).2.1 (Nat.not_lt.mpr beyond)
  | abandoned _ _ filled =>
    rw [(filled.mapped kept beyond found).1] at inPool
    exact absurd (kept.pools _ record inPool).2 (Nat.lt_irrefl _)
  | built _ filled =>
    obtain ⟨own, region⟩ := filled.mapped kept beyond found
    rw [own] at inPool
    cases (AList.lookup_insert _).symm.trans inPool
    exact ⟨entryId, rfl, region ▸ surface⟩

theorem Effect.mapped {granted : List Lease} {ends : Lease → Bool}
    (effect : Effect host source backend surfaces opcode served) (kept : backend.WellKept)
    (advances : Advances backend served.backend granted ends) (mapped : backend.Mapped directory)
    (same : ∀ entryId, surfaces.directory.surfaceOf entryId = directory.surfaceOf entryId) :
    served.backend.Mapped directory := by
  have still := mapped.still kept advances.descends advances.kept
  cases effect with
  | idSpent | decodeOpened | encodeOpened => exact mapped
  | entryClaimed _ _ present _ build =>
    exact build.mapped kept mapped ((same _).symm.trans (congrArg (Option.map _) present))
  | decodedDequeued dequeue =>
    cases dequeue with
    | _ => exact mapped
  | _ => exact still rfl

theorem Effect.surfaceOf (effect : Effect host source backend surfaces opcode served)
    (entryId : Nat) :
    served.surfaces.directory.surfaceOf entryId = surfaces.directory.surfaceOf entryId := by
  cases effect with
  | entryClaimed => exact surfaceOf_setClaimed ..
  | encodeDestroyed | poolDestroyed => exact surfaceOf_releaseEntries ..
  | decodedDequeued dequeue =>
    cases dequeue with
    | _ => rfl
  | _ => rfl

end VtRealBackend

/-- Buffers are mapped at the surface of their pool's entry, and so will those of
a pool that is being built. -/
structure Connection.Mapped (directory : IOSurfacePoolDirectory) (connection : Connection) :
    Prop where
  backend : connection.backend.Mapped directory
  building : ∀ payload entryId pool, connection.work = .building payload entryId pool →
    directory.surfaceOf entryId = some pool.surface

namespace WorkerProcess

/-- The entries have the surfaces they had at the start, and the connections'
buffers are mapped there. -/
structure Mapped (directory : IOSurfacePoolDirectory) (process : WorkerProcess) : Prop where
  kept : process.Kept
  same : ∀ entryId, process.surfaces.directory.surfaceOf entryId = directory.surfaceOf entryId
  connections : ∀ id connection, process.connections.lookup id = some connection →
    connection.Mapped directory

variable {process : WorkerProcess} {event : WorkerEvent} {id : Nat} {before after : Connection}

theorem surfaceOf_taken {shape : PoolShape} {before after : IOSurfacePoolDirectory}
    (taken : before.takeMatching shape = (some (entryId, pool), after)) :
    before.surfaceOf entryId = some pool.surface ∧
      ∀ other, after.surfaceOf other = before.surfaceOf other := by
  rcases before.takeMatching_cases shape with
    ⟨_, missed⟩ | ⟨_, entry, _, present, _, _, found⟩
  · cases missed.symm.trans taken
  · cases found.symm.trans taken
    exact ⟨congrArg (Option.map _) present, fun _ => surfaceOf_setClaimed ..⟩

theorem step_surfaceOf (process : WorkerProcess) (event : WorkerEvent) (entryId : Nat) :
    (process.step event).surfaces.directory.surfaceOf entryId =
      process.surfaces.directory.surfaceOf entryId := by
  have moves := process.step_moves event
  generalize process.step event = next at *
  cases moves with
  | serves _ _ =>
    rw [afterServing, launch_surfaces]
    exact (VtRealBackend.dispatch_effect ..).surfaceOf entryId
  | claims _ _ _ taken => exact (surfaceOf_taken taken).2 entryId
  | releases | sweeps | disconnects => exact surfaceOf_releaseEntries ..
  | _ => rfl

theorem Mapped.move (mapped : process.Mapped directory)
    (found : process.connections.lookup id = some before)
    (isOpen : (process.step event).connections.lookup id = some after)
    (move : ConnectionMove process id before event after) : after.Mapped directory := by
  obtain ⟨own, building⟩ := mapped.connections id before found
  have keeps := mapped.kept.connections id before found
  have advances := move.advances_any keeps found isOpen
  have still := own.still keeps.backend advances.descends advances.kept
  cases move with
  | @request host request response _ =>
    have effect := VtRealBackend.dispatch_effect host request response before.backend
      process.surfaces
    exact ⟨effect.mapped keeps.backend advances own mapped.same, building⟩
  | claimEntry _ _ taken =>
    refine ⟨still rfl, ?_⟩
    rintro _ _ _ ⟨⟩
    exact (mapped.same _).symm.trans (surfaceOf_taken taken).1
  | buildPool work =>
    have surface := building _ _ _ work
    exact ⟨(VtRealBackend.buildPool_cases ..).mapped keeps.backend own surface, nofun⟩
  | detachPool | releaseDetached | releaseSession | sweepPools => exact ⟨still rfl, nofun⟩
  | _ => exact ⟨still rfl, building⟩

theorem Mapped.step (mapped : process.Mapped directory) (event : WorkerEvent) :
    (process.step event).Mapped directory := by
  refine ⟨mapped.kept.step event, fun entryId => ?_, fun id after isOpen => ?_⟩
  · exact (process.step_surfaceOf event entryId).trans (mapped.same entryId)
  · rcases process.step_connection event id after isOpen with
      ⟨before, found, move⟩ | ⟨_, _, rfl⟩
    · exact mapped.move found isOpen move
    · exact ⟨nofun, nofun⟩

theorem run_mapped (surfaces : Surfaces) (events : List WorkerEvent) :
    (Execution.run step (started surfaces) events).Mapped surfaces.directory :=
  Execution.invariant_of_step (fun _ event mapped => mapped.step event)
    ⟨started_kept surfaces, fun _ => rfl, nofun⟩ events

theorem Mapped.surfaceOf {bufferId : Nat} {buffer : VtRealBuffer}
    (mapped : process.Mapped directory) (found : process.connections.lookup id = some before)
    (inMap : before.backend.buffers.lookup bufferId = some buffer)
    (live : process.LivePool id buffer.poolId entryId) :
    directory.surfaceOf entryId = some buffer.mappedRegion := by
  obtain ⟨_, same, ⟨pool, inPool, has⟩, _⟩ := live
  cases found.symm.trans same
  obtain ⟨_, also, surface⟩ :=
    (mapped.connections id before found).backend bufferId buffer pool inMap
    inPool
  cases has.symm.trans also
  exact surface

/-- As long as entries have surfaces of their own, no event changes a byte of a
buffer in a live pool of a connection, unless it is a request of this
connection. -/
theorem buffers_isolated (surfaces : Surfaces) (events : List WorkerEvent) (event : WorkerEvent)
    (distinct : ∀ first second region, surfaces.directory.surfaceOf first = some region →
      surfaces.directory.surfaceOf second = some region → first = second) :
    let process := Execution.run step (started surfaces) events
    ∀ id connection bufferId buffer entryId, process.connections.lookup id = some connection →
      connection.backend.buffers.lookup bufferId = some buffer →
      process.LivePool id buffer.poolId entryId →
      (∀ host request response, event ≠ .request id host request response) →
      buffer.content (process.step event).surfaces.memory =
        buffer.content process.surfaces.memory := by
  intro process id connection bufferId buffer entryId found inMap live other
  have mapped : process.Mapped surfaces.directory := run_mapped surfaces events
  have later := mapped.step event
  have owned : (process.step event).Owned := (run_owned surfaces events).step event
  have moves := process.step_moves event
  generalize process.step event = next at *
  cases moves with
  | @serves acting host request response actor known idle =>
    have apart : id ≠ acting := by
      rintro rfl
      exact other _ _ _ rfl
    have kept := (mapped.kept.connections acting actor known).backend
    have inside := VtRealBackend.dispatch_writesInside kept host request response process.surfaces
    generalize actor.backend.dispatch host request response process.surfaces = served at *
    apply List.map_congr_left
    intro index _
    rcases inside buffer.mappedRegion (buffer.mappedOffset + index) with
      same | ⟨writtenId, written, inActor, writable, region, _⟩
    · rw [afterServing, launch_surfaces]
      exact same
    exfalso
    have set : (process.afterServing acting actor served).connections =
        process.connections.insert acting { actor with backend := served.backend } :=
      launch_connections ..
    have actorLater := (congrArg (·.lookup acting) set).trans (AList.lookup_insert _)
    have ownLater := (congrArg (·.lookup id) set).trans (AList.lookup_insert_ne apart)
    obtain ⟨pool, inPool⟩ := (later.kept.connections acting _ actorLater).backend.housed writtenId
      written inActor (by simp [writable])
    obtain ⟨held, has, surface⟩ :=
      (later.connections acting _ actorLater).backend writtenId written pool inActor inPool
    obtain rfl := distinct held entryId _ surface (region ▸ mapped.surfaceOf found inMap live)
    obtain ⟨_, known, holds⟩ := live
    have unique := owned.exclusive.owner_unique (id, .pool buffer.poolId)
      (acting, .pool written.poolId) held ⟨_, ownLater.trans known, holds⟩
      ⟨_, actorLater, ⟨pool, inPool, has⟩, by simp [idle, PoolWork.swept]⟩
    exact apart (congrArg Prod.fst unique)
  | _ => rfl

/-- Two guests have a pool each, and one of them is given a slot, which is
cleared. -/
theorem other_guest_kept :
    let process := Execution.run step (started (loadedSurfaces
        [twoSlotPool, { twoSlotPool with surface := 1 }] fun _ _ => 7))
      [.connect, .connect, .request 0 {} twoSlotRequest [], .request 1 {} twoSlotRequest []]
    ∃ connection buffer, process.connections.lookup 0 = some connection ∧
      connection.backend.buffers.lookup 2 = some buffer ∧
      buffer.content (process.step (.request 1 {} (allocRequest 1) [])).surfaces.memory =
        buffer.content process.surfaces.memory := by
  refine ⟨_, _, rfl, rfl, buffers_isolated _ _ _ ?_ 0 _ 2 _ 0 rfl rfl
    ⟨_, rfl, ⟨_, rfl, rfl⟩, nofun⟩ nofun⟩
  intro first second region one two
  match first, second with
  | 0, 0 | 1, 1 => rfl
  | 0, 1 => cases (one.trans two.symm : some 0 = some 1)
  | 1, 0 => cases (one.trans two.symm : some 1 = some 0)
  | _ + 2, _ => cases one
  | _, _ + 2 => cases two

end WorkerProcess

end VtFerry
