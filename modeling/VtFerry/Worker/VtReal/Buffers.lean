import VtFerry.Worker.VtReal.Served

/-!
# Leases, reads, writes and encodes of the VideoToolbox backend

A buffer is leased by `ALLOC_BUFFER`, which bumps its generation and zeroes
its slot, written while it is guest-writable, queued to the encoder by
`ENCODE_FRAME`, and free again once it is recycled or its output is dequeued.
-/

namespace VtFerry

namespace VtRealBackend

def setBuffer (backend : VtRealBackend) (bufferId : Nat) (buffer : VtRealBuffer) : VtRealBackend :=
  { backend with buffers := backend.buffers.insert bufferId buffer }

/-- `vtf_ensure_source_pixel_buffer`: the buffer with its pixel buffer, or
the status of the failed wrap. -/
def vtfEnsureSourcePixelBuffer (host : HostCalls) (buffer : VtRealBuffer) :
    Except UInt32 (VtRealBuffer × PixelBuffer) :=
  match buffer.pixelBuffer with
  | some pixelBuffer => .ok (buffer, pixelBuffer)
  | none =>
    match vtfWrapSourceSlotBytes buffer.mappedRegion buffer.mappedOffset
        buffer.width.toInt64.toUInt64.toNat
        buffer.height.toInt64.toUInt64.toNat buffer.pixelFormat with
    | none => .error Status.unsupportedCodecOrFormat
    | some pixelBuffer =>
      if host.wrapStatus = 0 then
        .ok ({ buffer with pixelBuffer := some pixelBuffer }, pixelBuffer)
      else if 0 < host.wrapStatus then .error host.wrapStatus.toUInt32
      else .error Status.internalFailure

def freeBuffers (backend : VtRealBackend) (poolId : Nat) :
    List (Sigma fun _ : Nat => VtRealBuffer) :=
  backend.buffers.entries.filter fun entry =>
    entry.2.poolId == poolId && entry.2.state == .recycled

def allocBuffer (host : HostCalls) (source : List UInt8)
    (backend : VtRealBackend) (surfaces : Surfaces) : Served :=
  if source.length < HandlePayload.size then
    .plain backend surfaces Status.internalFailure
  else
    match backend.pools.lookup (HandlePayload.read source).handle.toNat with
    | none => .plain backend surfaces Status.invalidHandle
    | some pool =>
      let free := backend.freeBuffers pool.id
      match free[host.firstBuffer % free.length]? with
      | none => .plain backend surfaces Status.resourceExhausted
      | some ⟨bufferId, buffer⟩ =>
        let leased :=
          { buffer with
            generation := buffer.generation + 1
            state := .guestWritable }
        match vtfEnsureSourcePixelBuffer host leased with
        | .error status =>
          .plain (backend.setBuffer bufferId leased) surfaces status
        | .ok (ready, pixelBuffer) =>
          let memory :=
            if host.nulls.base then surfaces.memory
            else surfaces.memory.writeRange pixelBuffer.region
              pixelBuffer.base (List.replicate ready.mappedSize 0)
          .ok (backend.setBuffer bufferId ready)
            { surfaces with memory := memory }
            (.lease
              { bufferId := bufferId
                generation := ready.generation
                width := pool.width
                height := pool.height
                pixelFormat := pool.pixelFormat
                slotIndex := ready.slotIndex
                slotOffset := UInt32.ofNat ready.slotOffset
                layout := vtfFillBufferLayout pool.width pool.height pool.pixelFormat })

/-- A byte range that lies inside the mapped slot. -/
def rangeFits (buffer : VtRealBuffer) (payload : BufferRangePayload) : Bool :=
  payload.offset.toNat ≤ buffer.mappedSize &&
    payload.length.toNat ≤ buffer.mappedSize - payload.offset.toNat

/-- `READ_BUFFER`.  Where the pixels cannot be copied the reply still carries
`length` bytes: whatever the response buffer held. -/
def readBuffer (host : HostCalls) (source response : List UInt8)
    (backend : VtRealBackend) (surfaces : Surfaces) : Served :=
  if source.length < BufferRangePayload.size then
    .plain backend surfaces Status.internalFailure
  else
    let payload := BufferRangePayload.read source
    let bufferId := payload.bufferId.toNat
    match backend.buffers.lookup bufferId with
    | none => .plain backend surfaces Status.invalidHandle
    | some buffer =>
      if buffer.generation ≠ payload.generation.toNat then
        .plain backend surfaces Status.staleGeneration
      else if buffer.state = .recycled then
        .plain backend surfaces Status.invalidState
      else if !rangeFits buffer payload then
        .plain backend surfaces Status.boundsViolation
      else if response.length < BufferRangePayload.size + payload.length.toNat then
        .plain backend surfaces Status.internalFailure
      else
        match vtfEnsureSourcePixelBuffer host buffer with
        | .error status => .plain backend surfaces status
        | .ok (ready, pixelBuffer) =>
          let flat := vtfCopyPixelBufferToBytes surfaces.memory host.nulls
            pixelBuffer (List.replicate ready.mappedSize 0)
            ready.width.toUInt32 ready.height.toUInt32 ready.pixelFormat
          let bytes :=
            match flat with
            | some flat =>
              (flat.drop payload.offset.toNat).take payload.length.toNat
            | none =>
              (response.drop BufferRangePayload.size).take payload.length.toNat
          .ok (backend.setBuffer bufferId ready) surfaces
            (.bufferBytes ready.id ready.generation payload.offset payload.length bytes)

def writeBuffer (host : HostCalls) (source : List UInt8)
    (backend : VtRealBackend) (surfaces : Surfaces) : Served :=
  if source.length < BufferRangePayload.size then
    .plain backend surfaces Status.boundsViolation
  else
    let payload := BufferRangePayload.read source
    let bufferId := payload.bufferId.toNat
    if source.length ≠ BufferRangePayload.size + payload.length.toNat then
      .plain backend surfaces Status.boundsViolation
    else
      match backend.buffers.lookup bufferId with
      | none => .plain backend surfaces Status.invalidHandle
      | some buffer =>
        if buffer.generation ≠ payload.generation.toNat then
          .plain backend surfaces Status.staleGeneration
        else if buffer.state ≠ .guestWritable then
          .plain backend surfaces Status.invalidState
        else if !rangeFits buffer payload then
          .plain backend surfaces Status.boundsViolation
        else
          match vtfEnsureSourcePixelBuffer host buffer with
          | .error status => .plain backend surfaces status
          | .ok (ready, _) =>
            .plain (backend.setBuffer bufferId ready)
              { surfaces with
                memory := surfaces.memory.writeRange ready.mappedRegion
                  (ready.mappedOffset + payload.offset.toNat)
                  (source.drop BufferRangePayload.size) }
              Status.ok

def recycleBuffer (source : List UInt8) (backend : VtRealBackend) (surfaces : Surfaces) : Served :=
  if source.length < RecycleBufferPayload.size then
    .plain backend surfaces Status.internalFailure
  else
    let payload := RecycleBufferPayload.read source
    let bufferId := payload.bufferId.toNat
    match backend.pools.lookup payload.poolId.toNat, backend.buffers.lookup bufferId with
    | some _, some buffer =>
      if buffer.poolId ≠ payload.poolId.toNat then
        .plain backend surfaces Status.invalidHandle
      else if buffer.generation ≠ payload.generation.toNat then
        .plain backend surfaces Status.staleGeneration
      else if buffer.state = .recycled then
        .plain backend surfaces Status.invalidState
      else
        .plain (backend.setBuffer bufferId
          { buffer with state := .recycled }) surfaces Status.ok
    | _, _ => .plain backend surfaces Status.invalidHandle

def markSourceBufferReusable (backend : VtRealBackend)
    (bufferId generation : Nat) : VtRealBackend :=
  { backend with
    buffers := backend.buffers.modify bufferId fun buffer =>
      if buffer.generation = generation ∧ buffer.state = .queuedToHost then
        { buffer with state := .recycled }
      else buffer }

/-- `encode_frame_payload` for the frame with the given index of a request:
the new backend, the status, and the frame if the encoder accepted it. -/
def encodeFramePayload (host : HostCalls) (index : Nat)
    (payload : EncodeFramePayload) (backend : VtRealBackend) :
    VtRealBackend × UInt32 × Option EncoderFrame :=
  let bufferId := payload.imageBufferHostId.toNat
  match backend.sessions.lookup payload.sessionId.toNat with
  | none => (backend, Status.invalidHandle, none)
  | some session =>
    if !session.prepared then (backend, Status.invalidState, none)
    else if payload.imageBufferProxyId = 0 then
      (backend, Status.invalidHandle, none)
    else
      match backend.buffers.lookup bufferId with
      | none => (backend, Status.invalidHandle, none)
      | some buffer =>
        if buffer.generation ≠ payload.imageBufferGeneration.toNat then
          (backend, Status.staleGeneration, none)
        else if buffer.state ≠ .guestWritable then
          (backend, Status.invalidState, none)
        else
          match vtfEnsureSourcePixelBuffer host buffer with
          | .error status => (backend, status, none)
          | .ok (ready, _) =>
            if !host.lockPixels index then
              (backend.setBuffer bufferId ready, Status.internalFailure, none)
            else if !host.encodeFrame index then
              (backend.setBuffer bufferId
                  { ready with state := .guestWritable },
                Status.internalFailure, none)
            else
              (backend.setBuffer bufferId
                  { ready with state := .queuedToHost },
                Status.ok,
                some
                  { context := session.context
                    frame :=
                      { bufferId := ready.id
                        bufferGeneration := ready.generation }
                    timing := payload.timing })

def encodeFrame (host : HostCalls) (source : List UInt8)
    (backend : VtRealBackend) (surfaces : Surfaces) : Served :=
  if source.length < EncodeFramePayload.size then
    .plain backend surfaces Status.internalFailure
  else
    let (backend, status, frame) :=
      encodeFramePayload host 0 (EncodeFramePayload.read source) backend
    { backend := backend
      surfaces := surfaces
      status := status
      body := .empty
      encoded := frame.toList
      decoded := [] }

/-- The frame loop of `ENCODE_FRAME_BATCH`: it stops at the first frame that
names another session or is refused. -/
def encodeFrames (host : HostCalls) (sessionId : UInt64) :
    List EncodeFramePayload → Nat → VtRealBackend → List EncoderFrame →
      VtRealBackend × UInt32 × List EncoderFrame
  | [], _, backend, accepted => (backend, Status.ok, accepted)
  | payload :: rest, index, backend, accepted =>
    if payload.sessionId ≠ sessionId then
      (backend, Status.invalidHandle, accepted)
    else
      let (backend, status, frame) :=
        encodeFramePayload host index payload backend
      if status ≠ Status.ok then (backend, status, accepted ++ frame.toList)
      else encodeFrames host sessionId rest (index + 1) backend (accepted ++ frame.toList)

def encodeFrameBatch (host : HostCalls) (source : List UInt8)
    (backend : VtRealBackend) (surfaces : Surfaces) : Served :=
  if source.length < EncodeFrameBatchPayload.size then
    .plain backend surfaces Status.internalFailure
  else
    let payload := EncodeFrameBatchPayload.read source
    let frameCount := min payload.frameCount.toNat maxEncodeBatch
    let (backend, status, accepted) :=
      encodeFrames host payload.sessionId (payload.frames.take frameCount) 0 backend []
    { backend := backend
      surfaces := surfaces
      status := status
      body := .empty
      encoded := accepted
      decoded := [] }

end VtRealBackend

end VtFerry
