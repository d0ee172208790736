import VtFerry.Worker.SurfaceOwnership

/-!
# Failed pool creation

`CREATE_BUFFER_POOL` claims its directory entry first and has several ways to
fail afterwards, none of which gives the entry back.  A failed request changes
nothing exactly when it never got that far, and as long as no request fails
that way every claimed entry is held by a live pool or by a pool request
between two of its critical sections.
-/

namespace VtFerry

open LittleEndian

/-- If the reply is an error, claims, pools and buffers are as before. -/
def Served.FailsCleanly (served : Served) (backend : VtRealBackend) (surfaces : Surfaces) : Prop :=
  served.status ≠ Status.ok → (∀ entryId, served.surfaces.directory.Claimed entryId ↔
      surfaces.directory.Claimed entryId) ∧
    served.backend.pools = backend.pools ∧
    served.backend.buffers = backend.buffers

namespace VtRealBackend

variable {host : HostCalls} {source : List UInt8}
variable {backend : VtRealBackend} {surfaces : Surfaces}

def createPoolRequest (source : List UInt8) : Request where
  opcode := Opcode.createBufferPool.code
  payload := source

theorem dispatch_createPoolRequest (host : HostCalls)
    (source response : List UInt8) (backend : VtRealBackend)
    (surfaces : Surfaces) :
    dispatch host (createPoolRequest source) response backend surfaces =
      createBufferPool host source backend surfaces := by
  simp [dispatch, createPoolRequest]

theorem LeaksEntry.claims (leaks : LeaksEntry host source backend surfaces.directory) :
    (createBufferPool host source backend surfaces).status ≠ Status.ok ∧
      ∃ entryId, ¬ surfaces.directory.Claimed entryId ∧ (createBufferPool host source backend
          surfaces).surfaces.directory.Claimed entryId := by
  obtain ⟨reaches, entryId, entry, found, present, blocked⟩ := leaks
  rcases createBufferPool_cases host source backend surfaces with
    ⟨_, _, refused, _⟩ |
    ⟨taken, takenEntry, _, takenFound, takenPresent, unclaimed, result⟩
  · rcases refused with notReached | noMatch
    · exact absurd reaches notReached
    · rw [found] at noMatch
      cases noMatch
  · rw [found] at takenFound
    cases takenFound
    rw [present] at takenPresent
    cases takenPresent
    have inRange : entryId < surfaces.directory.entries.length :=
      (List.getElem?_eq_some_iff.1 present).1
    rw [result]
    refine ⟨?_, entryId, ?_, ?_⟩
    · have outcome := buildPool_cases host
        (CreateBufferPoolPayload.read source) entryId entry.pool backend
      generalize buildPool host (CreateBufferPoolPayload.read source)
        entryId entry.pool backend = built at outcome
      cases outcome with
      | refused failed _ => exact failed
      | abandoned failed _ _ => exact failed
      | built builds _ => exact absurd builds blocked
    · exact IOSurfacePoolDirectory.not_claimed_of_unclaimed present unclaimed
    · exact (IOSurfacePoolDirectory.claimed_setClaimed_true inRange).2 (Or.inl rfl)

theorem createBufferPool_failsCleanly_iff :
    (createBufferPool host source backend surfaces).FailsCleanly backend surfaces ↔
      ¬ LeaksEntry host source backend surfaces.directory := by
  constructor
  · intro clean leaks
    obtain ⟨failed, entryId, unclaimed, claimed⟩ := leaks.claims
    exact unclaimed (((clean failed).1 entryId).1 claimed)
  · intro noLeak failed
    rcases createBufferPool_cases host source backend surfaces with
      ⟨_, _, _, result⟩ |
      ⟨entryId, entry, reaches, found, present, _, result⟩
    · rw [result]
      exact ⟨fun _ => Iff.rfl, rfl, rfl⟩
    · rw [result] at failed
      have builds : PoolBuilds host (CreateBufferPoolPayload.read source)
          entry.pool := by
        by_contra blocked
        exact noLeak ⟨reaches, entryId, entry, found, present, blocked⟩
      have outcome := buildPool_cases host
        (CreateBufferPoolPayload.read source) entryId entry.pool backend
      generalize buildPool host (CreateBufferPoolPayload.read source)
        entryId entry.pool backend = built at outcome failed
      cases outcome with
      | refused _ blocked | abandoned _ blocked _ => exact absurd builds blocked
      | built _ _ => exact absurd rfl failed

end VtRealBackend

namespace WorkerProcess

/-- The directory as `load` makes it, over any memory. -/
def loadedSurfaces (pools : List IOSurfacePool) (memory : HostMemory) :
    Surfaces where
  directory := IOSurfacePoolDirectory.load pools
  memory := memory

theorem not_claimed_loaded (pools : List IOSurfacePool) (entryId : Nat) :
    ¬ (IOSurfacePoolDirectory.load pools).Claimed entryId := by
  rintro ⟨entry, present, claimed⟩
  have member := List.mem_of_getElem? present
  simp only [IOSurfacePoolDirectory.load, List.mem_map] at member
  obtain ⟨pool, _, rfl⟩ := member
  cases claimed

/-- Ids are sound and every claimed entry has an owner. -/
structure Accounted (process : WorkerProcess) : Prop where
  numbered : process.Numbered
  covered : Covered (fun owner : Nat × Claimant => process.Holds owner.1 owner.2)
    process.surfaces.directory.Claimed

theorem loaded_accounted (pools : List IOSurfacePool) (memory : HostMemory) :
    (started (loadedSurfaces pools memory)).Accounted := by
  refine ⟨started_numbered _, ?_⟩
  intro entryId claimed
  exact absurd claimed (not_claimed_loaded pools entryId)

theorem Accounted.step {process : WorkerProcess} {event : WorkerEvent}
    (accounted : process.Accounted) (noLeak : ¬ process.Leaks event) :
    (process.step event).Accounted := by
  obtain ⟨numbered, transfers⟩ := step_accounts accounted.numbered event
  exact ⟨numbered, transfers.covered noLeak accounted.covered⟩

/-- A failed `CREATE_BUFFER_POOL` changes no claim, pool or buffer exactly when
it does not leak; in every execution without leaks each claimed entry is held
by a live pool, or by a pool request between its critical sections. -/
theorem failed_creation_leaves_no_claim (host : HostCalls)
    (source response : List UInt8) (backend : VtRealBackend)
    (surfaces : Surfaces) (pools : List IOSurfacePool) (memory : HostMemory)
    (events : List WorkerEvent) :
    ((VtRealBackend.dispatch host (VtRealBackend.createPoolRequest source)
        response backend surfaces).FailsCleanly backend surfaces ↔
      ¬ VtRealBackend.LeaksEntry host source backend surfaces.directory) ∧
    (let start := started (loadedSurfaces pools memory)
    let process := Execution.run WorkerProcess.step start events
    Execution.Obeys WorkerProcess.step (fun process event => ¬ process.Leaks event) start events →
      ∀ entryId, process.surfaces.directory.Claimed entryId →
        (∃ id poolId, process.LivePool id poolId entryId) ∨
          ∃ id, process.Holds id .request entryId) := by
  constructor
  · rw [VtRealBackend.dispatch_createPoolRequest]
    exact VtRealBackend.createBufferPool_failsCleanly_iff
  · intro start process noLeaks entryId claimed
    have accounted : process.Accounted := Execution.invariant_of_obeys
      (fun process event (accounted : Accounted process) noLeak =>
        accounted.step noLeak) (loaded_accounted pools memory) noLeaks
    obtain ⟨⟨id, claimant⟩, held⟩ := accounted.covered entryId claimed
    cases claimant with
    | pool poolId => exact Or.inl ⟨id, poolId, held⟩
    | request => exact Or.inr ⟨id, held⟩

def twoSlotPool : IOSurfacePool where
  spec :=
    { width := 16
      height := 16
      pixelFormat := PixelFormat.bgra
      slotCount := 2
      iosurfaceId := 1 }
  surface := 0

def twoSlotRequest : Request :=
  VtRealBackend.createPoolRequest
    (u64Bytes 0 ++ u32Bytes 2 ++ u32Bytes PixelFormat.bgra ++ u32Bytes 16 ++
      u32Bytes 16 ++ u64Bytes 0)

def wrapsFirstSlot : HostCalls where
  wrapSlot slot := slot == 0

/-- When the second slot cannot be wrapped the request fails, but the entry is
claimed and the first slot's buffer stays; the entry is still claimed when no
connection is open. -/
theorem second_slot_failure_leaks :
    ¬ (VtRealBackend.dispatch wrapsFirstSlot twoSlotRequest [] .fresh
        (loadedSurfaces [twoSlotPool] fun _ _ => 0)).FailsCleanly .fresh
        (loadedSurfaces [twoSlotPool] fun _ _ => 0) ∧
    (let process := Execution.run WorkerProcess.step
      (started (loadedSurfaces [twoSlotPool] fun _ _ => 0))
      [.connect, .request 0 wrapsFirstSlot twoSlotRequest [], .disconnect 0]
    process.surfaces.directory.Claimed 0 ∧ ∀ id, process.connections.lookup id = none) := by
  refine ⟨?_, ⟨_, rfl, rfl⟩, ?_⟩
  · intro clean
    obtain ⟨_, _, buffers⟩ := clean (by decide)
    have lookup := congrArg (fun map => (map.lookup 2).isSome) buffers
    revert lookup
    decide
  · intro id
    rfl

end WorkerProcess

end VtFerry
