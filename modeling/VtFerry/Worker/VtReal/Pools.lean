import VtFerry.Worker.VtReal.Served

/-!
# Buffer pools of the VideoToolbox backend

`CREATE_BUFFER_POOL` claims a directory entry and then builds the pool over
it, one buffer per slot; `DESTROY_BUFFER_POOL`, `DESTROY_SESSION` and dropping
the backend give entries back.  Each of these requests takes the directory
lock once.  The parts before and after that critical section are definitions
of their own, so that other backends may run in between.
-/

namespace VtFerry

namespace VtRealBackend

/-! ## Creating a pool -/

/-- The buffer of one slot, as the slot loop inserts it. -/
def slotBuffer (payload : CreateBufferPoolPayload)
    (poolId region slotBytes slotIndex bufferId : Nat)
    (pixelBuffer : PixelBuffer) : VtRealBuffer where
  id := bufferId
  poolId := poolId
  generation := 0
  slotIndex := slotIndex
  slotOffset := slotIndex * slotBytes
  pixelBuffer := some pixelBuffer
  mappedRegion := region
  mappedOffset := slotIndex * slotBytes
  mappedSize := slotBytes
  pixelFormat := payload.pixelFormat
  width := payload.width.toInt32
  height := payload.height.toInt32
  state := .recycled

/-- The slot loop: `remaining` slots from `slotIndex` on.  A slot that cannot
be wrapped ends it with a status; the buffers made so far stay. -/
def fillSlots (host : HostCalls) (payload : CreateBufferPoolPayload)
    (poolId region slotBytes : Nat) :
    Nat → Nat → VtRealBackend → List PoolBufferLeaseReply →
      VtRealBackend × Except UInt32 (List PoolBufferLeaseReply)
  | 0, _, backend, leases => (backend, .ok leases)
  | remaining + 1, slotIndex, backend, leases =>
    match wrapPoolSlot region (slotIndex * slotBytes) payload.width
        payload.height payload.pixelFormat with
    | none => (backend, .error Status.unsupportedCodecOrFormat)
    | some pixelBuffer =>
      if host.wrapSlot slotIndex then
        let bufferId := backend.nextHostId
        fillSlots host payload poolId region slotBytes remaining (slotIndex + 1)
          { backend with
            nextHostId := backend.nextHostId + 1
            buffers := backend.buffers.insert bufferId
              (slotBuffer payload poolId region slotBytes slotIndex bufferId pixelBuffer) }
          (leases ++
            [{ bufferId := bufferId
               generation := 0
               slotIndex := slotIndex
               slotOffset := UInt32.ofNat (slotIndex * slotBytes) }])
      else (backend, .error Status.internalFailure)

def builtPool (payload : CreateBufferPoolPayload) (poolId entryId : Nat)
    (slotCount : UInt32) : VtRealPool where
  id := poolId
  sessionId := payload.sessionId.toNat
  width := payload.width
  height := payload.height
  pixelFormat := payload.pixelFormat
  maxBuffers := slotCount
  slotRegionSize :=
    (vtfFillBufferLayout payload.width payload.height payload.pixelFormat).totalSize
  iosurfaceEntryId := some entryId

/-- `CREATE_BUFFER_POOL` after `take_matching` has claimed `entryId`. -/
def buildPool (host : HostCalls) (payload : CreateBufferPoolPayload)
    (entryId : Nat) (pool : IOSurfacePool) (backend : VtRealBackend) :
    VtRealBackend × UInt32 × ReplyBody :=
  let layout :=
    vtfFillBufferLayout payload.width payload.height payload.pixelFormat
  let slotCount := pool.spec.slotCount
  if slotCount.toNat > maxPoolSlots then
    (backend, Status.unsupportedCodecOrFormat, .empty)
  else if !host.lockSurface then
    (backend, Status.internalFailure, .empty)
  else
    let poolId := backend.nextHostId
    let backend := { backend with nextHostId := backend.nextHostId + 1 }
    match fillSlots host payload poolId pool.surface layout.totalSize.toNat
        slotCount.toNat 0 backend [] with
    | (backend, .error status) => (backend, status, .empty)
    | (backend, .ok leases) =>
      ({ backend with
         pools := backend.pools.insert poolId (builtPool payload poolId entryId slotCount) },
        Status.ok,
        .pool
          { poolId := poolId
            width := payload.width
            height := payload.height
            pixelFormat := payload.pixelFormat
            slotCount := slotCount
            bufferRegionSize := slotCount * layout.totalSize
            layout := layout
            regionSize := layout.totalSize.toNat
            sourceHandle := pool.spec.iosurfaceId
            bufferLeases := leases })

/-- The session named by `CREATE_BUFFER_POOL`, if any, must exist. -/
def sessionKnown (backend : VtRealBackend) (sessionId : Nat) : Bool :=
  sessionId == 0 || (backend.sessions.lookup sessionId).isSome

def poolShape (payload : CreateBufferPoolPayload) : PoolShape where
  width := payload.width
  height := payload.height
  pixelFormat := payload.pixelFormat

def createBufferPool (host : HostCalls) (source : List UInt8)
    (backend : VtRealBackend) (surfaces : Surfaces) : Served :=
  if source.length < CreateBufferPoolPayload.size then
    .plain backend surfaces Status.internalFailure
  else
    let payload := CreateBufferPoolPayload.read source
    if !backend.sessionKnown payload.sessionId.toNat then
      .plain backend surfaces Status.invalidHandle
    else
      match surfaces.directory.takeMatching (poolShape payload) with
      | (none, directory) =>
        .plain backend { surfaces with directory := directory } Status.unsupportedCodecOrFormat
      | (some (entryId, pool), directory) =>
        let built := buildPool host payload entryId pool backend
        { backend := built.1
          surfaces := { surfaces with directory := directory }
          status := built.2.1
          body := built.2.2
          encoded := []
          decoded := [] }

/-! ## Destroying pools -/

/-- The entries held by the given pools. -/
def entriesOf (backend : VtRealBackend) (poolIds : List Nat) : List Nat :=
  poolIds.filterMap fun poolId =>
    (backend.pools.lookup poolId).bind (·.iosurfaceEntryId)

def allEntries (backend : VtRealBackend) : List Nat :=
  backend.pools.values.filterMap (·.iosurfaceEntryId)

def poolsOfSession (backend : VtRealBackend) (sessionId : Nat) : List Nat :=
  (backend.pools.entries.filter fun entry =>
    entry.2.sessionId == sessionId).map (·.1)

def removePools (backend : VtRealBackend) (poolIds : List Nat) :
    VtRealBackend :=
  { backend with
    pools := poolIds.foldl (fun pools poolId => pools.erase poolId) backend.pools
    buffers := backend.buffers.retain fun _ buffer =>
      !poolIds.contains buffer.poolId }

/-- `DESTROY_SESSION` up to the release of the directory entries: the encode
session, its queue and its outputs are gone, its pools are still there. -/
def removeSession (backend : VtRealBackend) (sessionId : Nat) :
    VtRealBackend :=
  { backend with
    sessions := backend.sessions.erase sessionId
    outputState :=
      { backend.outputState with
        lanes := backend.outputState.lanes.erase sessionId
        items := backend.outputState.items.retain fun _ output =>
          output.reply.sessionId != sessionId } }

def destroySession (source : List UInt8) (backend : VtRealBackend) (surfaces : Surfaces) : Served :=
  if source.length < HandlePayload.size then
    .plain backend surfaces Status.internalFailure
  else
    let sessionId := (HandlePayload.read source).handle.toNat
    if (backend.decodeSessions.lookup sessionId).isSome then
      .plain { backend with
        decodeSessions := backend.decodeSessions.erase sessionId }
        surfaces Status.ok
    else if (backend.sessions.lookup sessionId).isNone then
      .plain backend surfaces Status.invalidHandle
    else
      let backend := backend.removeSession sessionId
      let poolIds := backend.poolsOfSession sessionId
      let directory :=
        surfaces.directory.releaseEntries (backend.entriesOf poolIds)
      .plain (backend.removePools poolIds)
        { surfaces with directory := directory } Status.ok

def destroyBufferPool (source : List UInt8) (backend : VtRealBackend)
    (surfaces : Surfaces) : Served :=
  if source.length < HandlePayload.size then
    .plain backend surfaces Status.internalFailure
  else
    let poolId := (HandlePayload.read source).handle.toNat
    match backend.pools.lookup poolId with
    | none => .plain backend surfaces Status.ok
    | some _ =>
      let directory :=
        surfaces.directory.releaseEntries (backend.entriesOf [poolId])
      .plain (backend.removePools [poolId])
        { surfaces with directory := directory } Status.ok

/-- `Drop`: the shared state after the backend is gone. -/
def drop (backend : VtRealBackend) (surfaces : Surfaces) : Surfaces :=
  { surfaces with
    directory := surfaces.directory.releaseEntries backend.allEntries }

end VtRealBackend

end VtFerry
