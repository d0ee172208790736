import VtFerry.Foundation.KeyedList
import VtFerry.Worker.VtReal.Served

/-!
# The mock backend

`MockBackend` serves the encode side of the protocol without a host framework:
a pool's slots are ranges of one byte vector, a lease is a buffer record, and
an encoded frame becomes an output at once.  Its tables are vectors searched
from the front.  A request that fails has no reply; the status may be left
zero, which the connection loop then replaces.  As for the other backend,
fewer than 2^64 ids and generations are taken to be given out, so that their
counters are natural numbers.
-/

namespace VtFerry

/-- The size of a reply record on the wire, with the bytes that follow it. -/
def ReplyBody.size : ReplyBody → Nat
  | .empty => 0
  | .hello _ _ => 48
  | .caps _ => 40
  | .session _ => 24
  | .pool _ => 21096
  | .lease _ => 112
  | .bufferBytes _ _ _ _ bytes => 24 + bytes.length
  | .output _ => 232
  | .outputs _ _ => 16 + maxOutputBatch * 232
  | .outputBytes _ _ bytes => 16 + bytes.length
  | .drained _ _ => 16
  | .decodedFrame _ => 88
  | .decodedBytes _ _ bytes => 16 + bytes.length
  | .decodedChunk _ _ _ _ bytes => 24 + bytes.length

namespace Mock

def maxSessions : Nat := 32
def maxPools : Nat := 64
def maxBuffers : Nat := 256
def maxOutputs : Nat := 128
def defaultPoolBuffers : UInt32 := 4
def encodeOutputFlagSync : UInt32 := 1

structure Session where
  id : Nat
  codec : UInt32
  width : UInt32
  height : UInt32
  pixelFormat : UInt32
  prepared : Bool
  framesEncoded : Nat
  deriving DecidableEq, Repr

structure Pool where
  id : Nat
  sessionId : Nat
  width : UInt32
  height : UInt32
  pixelFormat : UInt32
  maxBuffers : UInt32
  bufferCount : UInt32
  slotRegionSize : UInt32
  backing : List UInt8
  deriving DecidableEq, Repr

/-- The states are those of the other backend, under other numbers. -/
structure Buffer where
  id : Nat
  poolId : Nat
  generation : Nat
  slotIndex : UInt32
  width : UInt32
  height : UInt32
  pixelFormat : UInt32
  state : BufferState
  totalSize : Nat
  deriving DecidableEq, Repr

structure Output where
  reply : DequeueOutputReply
  sourceBufferId : Nat
  sourceBufferGeneration : Nat
  sampleData : List UInt8
  dequeued : Bool
  deriving DecidableEq, Repr

end Mock

open KeyedList Mock

structure MockBackend where
  nextHostId : Nat
  nextOutputId : Nat
  maxOutputCount : Nat
  maxOutputBytes : Nat
  outputBytesTotal : Nat
  sessions : List Mock.Session
  pools : List Mock.Pool
  buffers : List Mock.Buffer
  outputs : List Mock.Output
  deriving DecidableEq, Repr

namespace MockBackend

/-- `reset_from_env`, given the two numbers the environment may set. -/
def resetFromEnv (maxOutputCount maxOutputBytes : Nat) : MockBackend where
  nextHostId := 1000
  nextOutputId := 5000
  maxOutputCount := min maxOutputCount maxOutputs
  maxOutputBytes := maxOutputBytes
  outputBytesTotal := 0
  sessions := []
  pools := []
  buffers := []
  outputs := []

/-- A dispatched request: the backend after it, the status, and the reply if
the dispatch returned `Ok`. -/
structure Served where
  backend : MockBackend
  status : UInt32
  reply : Option ReplyBody
  deriving DecidableEq, Repr

def refuse (backend : MockBackend) (status : UInt32) : Served :=
  ⟨backend, status, none⟩

def write (backend : MockBackend) (capacity : Nat) (body : ReplyBody) :
    Served :=
  if capacity < body.size then ⟨backend, Status.ok, none⟩
  else ⟨backend, Status.ok, some body⟩

def findSession (backend : MockBackend) (id : Nat) : Option Mock.Session :=
  find Session.id backend.sessions id

def findPool (backend : MockBackend) (id : Nat) : Option Pool :=
  find Pool.id backend.pools id

def findBuffer (backend : MockBackend) (id : Nat) : Option Buffer :=
  find Buffer.id backend.buffers id

/-- The test of `find_recyclable_buffer_idx`. -/
def recyclable (poolId : Nat) (buffer : Buffer) : Bool :=
  buffer.poolId == poolId && buffer.state == .recycled

def modifyBuffer (backend : MockBackend) (id : Nat) (change : Buffer → Buffer) : MockBackend :=
  { backend with
    buffers := modifyFirst (fun buffer => buffer.id == id) change backend.buffers }

def modifyPool (backend : MockBackend) (id : Nat) (change : Pool → Pool) :
    MockBackend :=
  { backend with
    pools := modifyFirst (fun pool => pool.id == id) change backend.pools }

/-! ## Slots -/

/-- `slot_range`: where a slot starts, if it lies inside the backing. -/
def slotRange (slotIndex slotRegionSize : UInt32) (backingLength : Nat) :
    Option Nat :=
  if slotRegionSize = 0 then none
  else
    let start := slotIndex.toNat * slotRegionSize.toNat
    if start + slotRegionSize.toNat > backingLength then none else some start

def slotBytes (pool : Pool) (slotIndex : UInt32) : Option (List UInt8) :=
  (slotRange slotIndex pool.slotRegionSize pool.backing.length).map
    fun start => (pool.backing.drop start).take pool.slotRegionSize.toNat

def overwrite (backing : List UInt8) (offset : Nat) (bytes : List UInt8) :
    List UInt8 :=
  backing.take offset ++ bytes ++ backing.drop (offset + bytes.length)

def alignSize (value alignment : Nat) : Nat :=
  if alignment = 0 then value
  else
    let remainder := value % alignment
    if remainder = 0 then value else value + (alignment - remainder)

def fillBufferLayout (width height pixelFormat : UInt32) :
    BufferLayoutReply :=
  if pixelFormat = PixelFormat.nv12 ∨ pixelFormat = PixelFormat.nv12Full then
    biplanarLayout (UInt32.ofNat (alignSize width.toNat 64)) width height
  else if pixelFormat = PixelFormat.p010 ∨ pixelFormat = PixelFormat.p010Full then
    biplanarLayout (UInt32.ofNat (alignSize (width.toNat * 2) 64)) width height
  else
    let stride := UInt32.ofNat (alignSize (width.toNat * 4) 64)
    { totalSize := stride * height
      planes :=
        [{ offset := 0, width := width, height := height,
           bytesPerRow := stride }] }

/-! ## Sessions and pools -/

def createSession (capacity : Nat) (source : List UInt8) (backend : MockBackend) : Served :=
  if backend.sessions.length ≥ maxSessions then
    backend.refuse Status.internalFailure
  else if source.length < CreateSessionPayload.size then
    backend.refuse Status.internalFailure
  else
    let payload := CreateSessionPayload.read source
    let session : Mock.Session :=
      { id := backend.nextHostId
        codec := payload.codec
        width := payload.width
        height := payload.height
        pixelFormat := payload.pixelFormat
        prepared := false
        framesEncoded := 0 }
    write
      { backend with
        nextHostId := backend.nextHostId + 1
        sessions := backend.sessions ++ [session] }
      capacity
      (.session
        { sessionId := backend.nextHostId
          negotiatedWidth := payload.width
          negotiatedHeight := payload.height
          pixelFormat := payload.pixelFormat })

/-- The number of slots of a new pool. -/
def poolBuffers (payload : CreateBufferPoolPayload) : UInt32 :=
  if payload.bufferCount = 0 then defaultPoolBuffers else payload.bufferCount

def poolLayout (payload : CreateBufferPoolPayload) : BufferLayoutReply :=
  fillBufferLayout payload.width payload.height payload.pixelFormat

def backingSize (payload : CreateBufferPoolPayload) : Nat :=
  (poolBuffers payload).toNat * (poolLayout payload).totalSize.toNat

def newPool (payload : CreateBufferPoolPayload) (id : Nat) : Pool where
  id := id
  sessionId := payload.sessionId.toNat
  width := payload.width
  height := payload.height
  pixelFormat := payload.pixelFormat
  maxBuffers := poolBuffers payload
  bufferCount := 0
  slotRegionSize := (poolLayout payload).totalSize
  backing := List.replicate (backingSize payload) 0

/-- No mappable handle is exposed: the regions of the reply stay zeroed. -/
def poolReply (payload : CreateBufferPoolPayload) (id : Nat) : ReplyBody :=
  .pool
    { poolId := id
      width := payload.width
      height := payload.height
      pixelFormat := payload.pixelFormat
      slotCount := poolBuffers payload
      bufferRegionSize := poolBuffers payload * (poolLayout payload).totalSize
      layout := poolLayout payload
      regionSize := 0
      sourceHandle := 0
      bufferLeases := [] }

def createBufferPool (capacity : Nat) (source : List UInt8) (backend : MockBackend) : Served :=
  if backend.pools.length ≥ maxPools then
    backend.refuse Status.internalFailure
  else if source.length < CreateBufferPoolPayload.size then
    backend.refuse Status.internalFailure
  else
    let payload := CreateBufferPoolPayload.read source
    if payload.sessionId ≠ 0 ∧ (backend.findSession payload.sessionId.toNat).isNone then
      backend.refuse Status.invalidHandle
    else if backingSize payload ≥ 2 ^ 64 then backend.refuse Status.ok
    else
      write
        { backend with
          nextHostId := backend.nextHostId + 1
          pools := backend.pools ++ [newPool payload backend.nextHostId] }
        capacity (poolReply payload backend.nextHostId)

def removePoolsForSession (backend : MockBackend) (sessionId : Nat) :
    MockBackend :=
  let poolIds := (backend.pools.filter fun pool =>
    pool.sessionId == sessionId).map Pool.id
  { backend with
    pools := backend.pools.filter fun pool => pool.sessionId != sessionId
    buffers := poolIds.foldl (fun buffers poolId => buffers.filter fun buffer =>
        buffer.poolId != poolId)
      backend.buffers }

def removeOutputsForSession (backend : MockBackend) (sessionId : Nat) :
    MockBackend :=
  let removed := (backend.outputs.filter fun output =>
    output.reply.sessionId == sessionId).map fun output =>
      output.reply.sampleSize.toNat
  { backend with
    outputs := backend.outputs.filter fun output =>
      output.reply.sessionId != sessionId
    outputBytesTotal := backend.outputBytesTotal - removed.sum }

def destroySession (source : List UInt8) (backend : MockBackend) : Served :=
  if source.length < HandlePayload.size then
    backend.refuse Status.internalFailure
  else
    let sessionId := (HandlePayload.read source).handle.toNat
    if (backend.findSession sessionId).isNone then
      backend.refuse Status.invalidHandle
    else
      let removed := (backend.removeOutputsForSession sessionId).removePoolsForSession sessionId
      ⟨{ removed with
          sessions := removed.sessions.filter fun session =>
            session.id != sessionId },
        Status.ok, some .empty⟩

def setProperty (source : List UInt8) (backend : MockBackend) : Served :=
  if source.length < SetPropertyPayload.size then
    backend.refuse Status.internalFailure
  else if (backend.findSession (SetPropertyPayload.read source).sessionId.toNat).isNone then
    backend.refuse Status.invalidHandle
  else ⟨backend, Status.ok, some .empty⟩

def prepareSession (source : List UInt8) (backend : MockBackend) : Served :=
  if source.length < HandlePayload.size then
    backend.refuse Status.internalFailure
  else
    let sessionId := (HandlePayload.read source).handle.toNat
    if (backend.findSession sessionId).isNone then
      backend.refuse Status.invalidHandle
    else
      ⟨{ backend with
          sessions := modifyFirst (fun session => session.id == sessionId)
            (fun session => { session with prepared := true })
            backend.sessions },
        Status.ok, some .empty⟩

def drain (capacity : Nat) (source : List UInt8) (backend : MockBackend) :
    Served :=
  if source.length < HandlePayload.size then
    backend.refuse Status.internalFailure
  else
    let sessionId := (HandlePayload.read source).handle.toNat
    if (backend.findSession sessionId).isNone then
      backend.refuse Status.invalidHandle
    else
      backend.write capacity (.drained sessionId (backend.outputs.filter fun output =>
          output.reply.sessionId == sessionId).length)

/-! ## Leases -/

def zeroSlot (backend : MockBackend) (poolId start : Nat) : MockBackend :=
  backend.modifyPool poolId fun pool =>
    { pool with
      backing := overwrite pool.backing start (List.replicate pool.slotRegionSize.toNat 0) }

def leaseReply (buffer : Buffer) : ReplyBody :=
  let layout :=
    fillBufferLayout buffer.width buffer.height buffer.pixelFormat
  .lease
    { bufferId := buffer.id
      generation := buffer.generation
      width := buffer.width
      height := buffer.height
      pixelFormat := buffer.pixelFormat
      slotIndex := buffer.slotIndex.toNat
      slotOffset := buffer.slotIndex * layout.totalSize
      layout := layout }

def reissue (buffer : Buffer) : Buffer :=
  { buffer with
    generation := buffer.generation + 1
    state := .guestWritable }

/-- `ALLOC_BUFFER` where the pool has a recycled buffer. -/
def reuseBuffer (capacity : Nat) (pool : Pool) (buffer : Buffer) (backend : MockBackend) : Served :=
  let leased :=
    { backend with
      buffers := modifyFirst (recyclable pool.id) reissue backend.buffers }
  match slotRange buffer.slotIndex pool.slotRegionSize pool.backing.length with
  | none => leased.refuse Status.internalFailure
  | some start =>
    (leased.zeroSlot pool.id start).write capacity (leaseReply (reissue buffer))

def newBuffer (pool : Pool) (id : Nat) : Buffer where
  id := id
  poolId := pool.id
  generation := 1
  slotIndex := pool.bufferCount
  width := pool.width
  height := pool.height
  pixelFormat := pool.pixelFormat
  state := .guestWritable
  totalSize := pool.slotRegionSize.toNat

/-- The backend with the next slot of a pool zeroed and in use. -/
def openSlot (backend : MockBackend) (pool : Pool) (start : Nat) :
    MockBackend :=
  { (backend.zeroSlot pool.id start).modifyPool pool.id
      fun pool => { pool with bufferCount := pool.bufferCount + 1 } with
    nextHostId := backend.nextHostId + 1
    buffers := backend.buffers ++ [newBuffer pool backend.nextHostId] }

/-- `ALLOC_BUFFER` where the pool has no recycled buffer. -/
def openBuffer (capacity : Nat) (pool : Pool) (backend : MockBackend) :
    Served :=
  if pool.bufferCount ≥ pool.maxBuffers ∨ backend.buffers.length ≥ Mock.maxBuffers then
    backend.refuse Status.resourceExhausted
  else
    match slotRange pool.bufferCount pool.slotRegionSize pool.backing.length with
    | none => backend.refuse Status.internalFailure
    | some start =>
      (backend.openSlot pool start).write capacity (leaseReply (newBuffer pool backend.nextHostId))

def allocBuffer (capacity : Nat) (source : List UInt8) (backend : MockBackend) : Served :=
  if source.length < HandlePayload.size then
    backend.refuse Status.internalFailure
  else
    match backend.findPool (HandlePayload.read source).handle.toNat with
    | none => backend.refuse Status.invalidHandle
    | some pool =>
      match backend.buffers.find? (recyclable pool.id) with
      | some buffer => reuseBuffer capacity pool buffer backend
      | none => openBuffer capacity pool backend

/-- A byte range outside a buffer. -/
def outOfBounds (buffer : Buffer) (payload : BufferRangePayload) : Bool :=
  payload.offset.toNat > buffer.totalSize ||
    payload.length.toNat > buffer.totalSize - payload.offset.toNat

def readBuffer (capacity : Nat) (source : List UInt8) (backend : MockBackend) : Served :=
  if source.length < BufferRangePayload.size then
    backend.refuse Status.internalFailure
  else
    let payload := BufferRangePayload.read source
    match backend.findBuffer payload.bufferId.toNat with
    | none => backend.refuse Status.invalidHandle
    | some buffer =>
      if buffer.generation ≠ payload.generation.toNat then
        backend.refuse Status.staleGeneration
      else if buffer.state = .recycled then
        backend.refuse Status.invalidState
      else if outOfBounds buffer payload then
        backend.refuse Status.boundsViolation
      else
        match backend.findPool buffer.poolId with
        | none => backend.refuse Status.invalidHandle
        | some pool =>
          match slotBytes pool buffer.slotIndex with
          | none => backend.refuse Status.internalFailure
          | some bytes =>
            backend.write capacity
              (.bufferBytes buffer.id buffer.generation payload.offset payload.length
                ((bytes.drop payload.offset.toNat).take payload.length.toNat))

def writeBuffer (source : List UInt8) (backend : MockBackend) : Served :=
  if source.length < BufferRangePayload.size then
    backend.refuse Status.boundsViolation
  else
    let payload := BufferRangePayload.read source
    match backend.findBuffer payload.bufferId.toNat with
    | none => backend.refuse Status.invalidHandle
    | some buffer =>
      if buffer.generation ≠ payload.generation.toNat then
        backend.refuse Status.staleGeneration
      else if buffer.state ≠ .guestWritable then
        backend.refuse Status.invalidState
      else if outOfBounds buffer payload ∨ source.length ≠
          BufferRangePayload.size + payload.length.toNat then
        backend.refuse Status.boundsViolation
      else
        match backend.findPool buffer.poolId with
        | none => backend.refuse Status.invalidHandle
        | some pool =>
          match slotRange buffer.slotIndex pool.slotRegionSize pool.backing.length with
          | none => backend.refuse Status.internalFailure
          | some start =>
            ⟨backend.modifyPool pool.id fun pool =>
                { pool with
                  backing := overwrite pool.backing (start + payload.offset.toNat)
                    (source.drop BufferRangePayload.size) },
              Status.ok, some .empty⟩

def recycleBuffer (source : List UInt8) (backend : MockBackend) : Served :=
  if source.length < RecycleBufferPayload.size then
    backend.refuse Status.internalFailure
  else
    let payload := RecycleBufferPayload.read source
    match backend.findPool payload.poolId.toNat, backend.findBuffer payload.bufferId.toNat with
    | some pool, some buffer =>
      if pool.id ≠ buffer.poolId then backend.refuse Status.invalidHandle
      else if buffer.generation ≠ payload.generation.toNat then
        backend.refuse Status.staleGeneration
      else if buffer.state = .recycled then
        backend.refuse Status.invalidState
      else
        ⟨backend.modifyBuffer buffer.id fun buffer =>
            { buffer with state := .recycled },
          Status.ok, some .empty⟩
    | _, _ => backend.refuse Status.invalidHandle

/-! ## Encoding -/

/-- `reply_seed`, of which the last byte is used. -/
def replySeed (sessionId outputId index : Nat) : UInt8 :=
  UInt8.ofNat ((sessionId * 131 + outputId * 17 + index * 29) % 2 ^ 64)

/-- The NAL unit of a mock frame: its type, the first bytes of the picture,
and a filling to 24 bytes. -/
def mockNalUnit (sync : Bool) (sessionId outputId : Nat) (picture : List UInt8) : List UInt8 :=
  let start : List UInt8 := (if sync then 0x65 else 0x41) :: picture.take 8
  start ++ (List.range (24 - start.length)).map fun index =>
    replySeed sessionId outputId (start.length + index)

def mockOutput (session : Mock.Session) (buffer : Buffer)
    (payload : EncodeFramePayload) (outputId : Nat) (nalUnit : List UInt8) :
    Output where
  reply :=
    { sessionId := payload.sessionId.toNat
      outputId := outputId
      codec := session.codec
      width := session.width
      height := session.height
      pixelFormat := session.pixelFormat
      timing := payload.timing
      sampleSize := UInt32.ofNat (4 + nalUnit.length)
      sampleFlags :=
        if session.framesEncoded = 0 then encodeOutputFlagSync else 0
      nalHeaderLength := 4
      parameterSetSizes := [4, 4]
      parameterSetData := [0x67, 0x64, 0x00, 0x1f, 0x68, 0xee, 0x3c, 0x80] }
  sourceBufferId := buffer.id
  sourceBufferGeneration := buffer.generation
  sampleData := (LittleEndian.u32Bytes (UInt32.ofNat nalUnit.length)).reverse ++ nalUnit
  dequeued := false

/-- `ENCODE_FRAME` once the slot's bytes are at hand. -/
def encodePicture (session : Mock.Session) (buffer : Buffer)
    (payload : EncodeFramePayload) (picture : List UInt8)
    (backend : MockBackend) : Served :=
  let nalUnit := mockNalUnit (session.framesEncoded == 0)
    payload.sessionId.toNat backend.nextOutputId
    (picture.take (min 8 buffer.totalSize))
  let sampleSize := 4 + nalUnit.length
  if backend.outputs.length ≥ backend.maxOutputCount then
    backend.refuse Status.resourceExhausted
  else if sampleSize > backend.maxOutputBytes ∨
      backend.outputBytesTotal > backend.maxOutputBytes - sampleSize then
    backend.refuse Status.resourceExhausted
  else
    let queued := backend.modifyBuffer buffer.id fun buffer =>
      { buffer with state := .queuedToHost }
    ⟨{ queued with
        nextOutputId := backend.nextOutputId + 1
        outputBytesTotal := backend.outputBytesTotal + sampleSize
        outputs := backend.outputs ++
          [mockOutput session buffer payload backend.nextOutputId nalUnit]
        sessions := modifyFirst (fun session =>
            session.id == payload.sessionId.toNat)
          (fun session =>
            { session with framesEncoded := session.framesEncoded + 1 })
          backend.sessions },
      Status.ok, some .empty⟩

def encodeFrame (source : List UInt8) (backend : MockBackend) : Served :=
  if source.length < EncodeFramePayload.size then
    backend.refuse Status.internalFailure
  else
    let payload := EncodeFramePayload.read source
    match backend.findSession payload.sessionId.toNat with
    | none => backend.refuse Status.invalidHandle
    | some session =>
      if !session.prepared then backend.refuse Status.invalidState
      else if payload.imageBufferProxyId = 0 then
        backend.refuse Status.invalidHandle
      else
        match backend.findBuffer payload.imageBufferHostId.toNat with
        | none => backend.refuse Status.invalidHandle
        | some buffer =>
          if buffer.generation ≠ payload.imageBufferGeneration.toNat then
            backend.refuse Status.staleGeneration
          else if buffer.state ≠ .guestWritable then
            backend.refuse Status.invalidState
          else
            match backend.findPool buffer.poolId with
            | none => backend.refuse Status.invalidHandle
            | some pool =>
              match slotBytes pool buffer.slotIndex with
              | none => backend.refuse Status.internalFailure
              | some picture =>
                encodePicture session buffer payload picture backend

/-! ## Outputs -/

/-- The test of `dequeue_output_idx`. -/
def undelivered (sessionId : Nat) (output : Output) : Bool :=
  output.reply.sessionId == sessionId && !output.dequeued

/-- `dequeue_output_idx`. -/
def takeOutput (sessionId : Nat) (backend : MockBackend) :
    Option (DequeueOutputReply × MockBackend) :=
  (backend.outputs.find? (undelivered sessionId)).map fun output =>
    (output.reply,
      { backend with
        outputs := modifyFirst (undelivered sessionId)
          (fun output => { output with dequeued := true })
          backend.outputs })

def dequeueOutput (capacity : Nat) (source : List UInt8) (backend : MockBackend) : Served :=
  if source.length < HandlePayload.size then
    backend.refuse Status.internalFailure
  else
    match backend.takeOutput (HandlePayload.read source).handle.toNat with
    | none => backend.refuse Status.timeout
    | some (reply, taken) => taken.write capacity (.output reply)

/-- The loop of `DEQUEUE_OUTPUT_BATCH`. -/
def takeOutputs (sessionId : Nat) :
    Nat → MockBackend → List DequeueOutputReply → MockBackend × List DequeueOutputReply
  | 0, backend, replies => (backend, replies)
  | remaining + 1, backend, replies =>
    match backend.takeOutput sessionId with
    | none => (backend, replies)
    | some (reply, taken) =>
      takeOutputs sessionId remaining taken (replies ++ [reply])

def dequeueOutputBatch (capacity : Nat) (source : List UInt8) (backend : MockBackend) : Served :=
  if source.length < DequeueOutputBatchPayload.size then
    backend.refuse Status.internalFailure
  else
    let payload := DequeueOutputBatchPayload.read source
    let sessionId := payload.sessionId.toNat
    let (taken, replies) := takeOutputs sessionId
      (OutputQueue.batchLimit payload.maxOutputs) backend []
    if replies.isEmpty then taken.refuse Status.timeout
    else taken.write capacity (.outputs sessionId replies)

def readOutput (capacity : Nat) (source : List UInt8) (backend : MockBackend) : Served :=
  if source.length < HandlePayload.size then
    backend.refuse Status.internalFailure
  else
    let outputId := (HandlePayload.read source).handle.toNat
    match backend.outputs.find? fun output =>
        output.reply.outputId == outputId && output.dequeued with
    | none => backend.refuse Status.invalidHandle
    | some output =>
      backend.write capacity (.outputBytes output.reply.outputId output.reply.sampleSize
          output.sampleData)

/-- A queued source buffer is writable again once its output is released. -/
def unqueue (generation : Nat) (buffer : Buffer) : Buffer :=
  if buffer.generation = generation ∧ buffer.state = .queuedToHost then
    { buffer with state := .guestWritable }
  else buffer

/-- `release_output` and its request. -/
def releaseOutput (source : List UInt8) (backend : MockBackend) : Served :=
  if source.length < HandlePayload.size then
    backend.refuse Status.internalFailure
  else
    let outputId := (HandlePayload.read source).handle.toNat
    let isNamed (output : Output) : Bool := output.reply.outputId == outputId
    match backend.outputs.find? isNamed with
    | none => backend.refuse Status.invalidHandle
    | some output =>
      let freed := backend.modifyBuffer output.sourceBufferId
        (unqueue output.sourceBufferGeneration)
      ⟨{ freed with
          outputs := backend.outputs.eraseP isNamed
          outputBytesTotal :=
            backend.outputBytesTotal - output.reply.sampleSize.toNat },
        Status.ok, some .empty⟩

/-! ## Dispatch -/

def capabilities (backend : MockBackend) : GetCapsReply where
  codecBits := 1 ||| 2
  pixelFormatBits := 1 ||| 2 ||| 4
  sessionFeatureBits := 1 ||| 2
  maxWidth := 7680
  maxHeight := 4320
  maxInflightFrames := UInt32.ofNat backend.maxOutputCount

/-- `dispatch`, for a request header's version and opcode and a response buffer
of `capacity` bytes. -/
def dispatch (capacity : Nat) (version : UInt16) (request : Request)
    (backend : MockBackend) : Served :=
  let source := request.payload
  if version ≠ transportVersion then
    backend.refuse Status.unsupportedVersion
  else
    match Opcode.ofCode? request.opcode with
    | none => backend.refuse Status.unsupportedOpcode
    | some opcode =>
      match opcode with
      | .hello =>
        backend.write capacity (.hello transportVersion.toUInt32 "vt-ferry-host-worker")
      | .ping => ⟨backend, Status.ok, some .empty⟩
      | .getCaps => backend.write capacity (.caps backend.capabilities)
      | .createSession => createSession capacity source backend
      | .createBufferPool => createBufferPool capacity source backend
      | .allocBuffer => allocBuffer capacity source backend
      | .readBuffer => readBuffer capacity source backend
      | .writeBuffer => writeBuffer source backend
      | .recycleBuffer => recycleBuffer source backend
      | .setProperty => setProperty source backend
      | .prepareSession => prepareSession source backend
      | .encodeFrame => encodeFrame source backend
      | .dequeueOutput => dequeueOutput capacity source backend
      | .dequeueOutputBatch => dequeueOutputBatch capacity source backend
      | .readOutput => readOutput capacity source backend
      | .releaseOutput => releaseOutput source backend
      | .destroySession => destroySession source backend
      | .drain => drain capacity source backend
      | _ => backend.refuse Status.unsupportedOpcode

end MockBackend

end VtFerry
