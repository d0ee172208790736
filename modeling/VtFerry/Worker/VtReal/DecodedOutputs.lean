import VtFerry.Worker.VtReal.Served

/-!
# Decoded frames of the VideoToolbox backend

The requests that take decoded frames off the decode queue: dequeue, read
whole or in chunks, and release.
-/

namespace VtFerry

namespace VtRealBackend

/-- The reply that reports a decode error that has no frame. -/
def decodeErrorReply (sessionId : Nat) (status : Int32) :
    DequeueDecodedFrameReply where
  sessionId := sessionId
  outputId := 0
  bufferHostId := 0
  width := 0
  height := 0
  pixelFormat := 0
  timing :=
    { ptsValue := 0, ptsTimescale := 0, durationValue := 0,
      durationTimescale := 0 }
  status := status.toUInt32

/-- The reply for a decoded frame; a session in chunked mode also names the
output as its buffer. -/
def decodedFrameReply (sessionId outputId : Nat) (chunkedOutput : Bool)
    (output : VtRealDecodedOutput) : DequeueDecodedFrameReply where
  sessionId := sessionId
  outputId := outputId
  bufferHostId := if chunkedOutput then outputId else 0
  width := UInt32.ofNat output.imageBuffer.width
  height := UInt32.ofNat output.imageBuffer.height
  pixelFormat := output.imageBuffer.pixelFormat
  timing := output.timing
  status := output.status.toUInt32

def dequeueDecodedFrame (source : List UInt8) (backend : VtRealBackend)
    (surfaces : Surfaces) : Served :=
  if source.length < HandlePayload.size then
    .plain backend surfaces Status.internalFailure
  else
    let sessionId := (HandlePayload.read source).handle.toNat
    match backend.decodeSessions.lookup sessionId with
    | none => .plain backend surfaces Status.invalidHandle
    | some session =>
      let (outputIds, queue) :=
        backend.decodedOutputState.queue.pop sessionId 1
      let state := { backend.decodedOutputState with queue := queue }
      match outputIds with
      | [] =>
        let (error, state) := state.takeDecodeError sessionId
        let backend := { backend with decodedOutputState := state }
        match error with
        | some status =>
          .ok backend surfaces (.decodedFrame (decodeErrorReply sessionId status))
        | none => .plain backend surfaces Status.timeout
      | _ :: _ =>
        let backend := { backend with decodedOutputState := state }
        match queue.collect outputIds with
        | [] => .plain backend surfaces Status.timeout
        | (outputId, output) :: _ =>
          .ok backend surfaces (.decodedFrame (decodedFrameReply sessionId outputId
              session.chunkedOutput output))

def releaseDecodedFrame (source : List UInt8) (backend : VtRealBackend)
    (surfaces : Surfaces) : Served :=
  if source.length < SessionOutputPayload.size then
    .plain backend surfaces Status.internalFailure
  else
    let outputId := (SessionOutputPayload.read source).outputId.toNat
    let state := backend.decodedOutputState
    match state.queue.items.lookup outputId with
    | none => .plain backend surfaces Status.invalidHandle
    | some _ =>
      .plain { backend with
        decodedOutputState :=
          { state with queue := state.queue.discard outputId } }
        surfaces Status.ok

/-- The sizes of `ReadDecodedFrameReply` and `ReadDecodedFrameChunkReply`. -/
def readDecodedFrameReplySize : Nat := 16
def readDecodedFrameChunkReplySize : Nat := 24

/-- `READ_DECODED_FRAME`: the rows are copied straight into the response
buffer, whose other bytes are sent as they are. -/
def readDecodedFrame (host : HostCalls) (source response : List UInt8)
    (backend : VtRealBackend) (surfaces : Surfaces) : Served :=
  if source.length < SessionOutputPayload.size then
    .plain backend surfaces Status.internalFailure
  else
    let payload := SessionOutputPayload.read source
    let outputId := payload.outputId.toNat
    match backend.decodeSessions.lookup payload.sessionId.toNat with
    | none => .plain backend surfaces Status.invalidHandle
    | some session =>
      if session.chunkedOutput then
        .plain backend surfaces Status.invalidState
      else
        match backend.decodedOutputState.queue.items.lookup outputId with
        | none => .plain backend surfaces Status.invalidHandle
        | some output =>
          let image := output.imageBuffer
          let width := UInt32.ofNat image.width
          let height := UInt32.ofNat image.height
          let sampleSize :=
            (vtfFillBufferLayout width height image.pixelFormat).totalSize.toNat
          if sampleSize > maxDecodedFrameBytes then
            .plain backend surfaces Status.resourceExhausted
          else if response.length < readDecodedFrameReplySize + sampleSize then
            .plain backend surfaces Status.internalFailure
          else if !host.lockPixels 0 then
            .plain backend surfaces Status.internalFailure
          else
            match vtfCopyPixelBufferToBytes surfaces.memory host.nulls
                image (response.drop readDecodedFrameReplySize) width
                height image.pixelFormat with
            | none => .plain backend surfaces Status.internalFailure
            | some copied =>
              .ok backend surfaces (.decodedBytes outputId
                output.status.toUInt32 (copied.take sampleSize))

def readDecodedFrameChunk (host : HostCalls) (source response : List UInt8)
    (backend : VtRealBackend) (surfaces : Surfaces) : Served :=
  if source.length < ReadDecodedFrameChunkPayload.size then
    .plain backend surfaces Status.internalFailure
  else
    let payload := ReadDecodedFrameChunkPayload.read source
    let outputId := payload.outputId.toNat
    match backend.decodeSessions.lookup payload.sessionId.toNat with
    | none => .plain backend surfaces Status.invalidHandle
    | some session =>
      if !session.chunkedOutput then
        .plain backend surfaces Status.invalidState
      else
        match backend.decodedOutputState.queue.items.lookup outputId with
        | none => .plain backend surfaces Status.invalidHandle
        | some output =>
          let image := output.imageBuffer
          let layout := vtfFillBufferLayout (UInt32.ofNat image.width)
            (UInt32.ofNat image.height) image.pixelFormat
          let total := layout.totalSize.toNat
          let offset := payload.offset.toNat
          let length := payload.length.toNat
          if total < offset ∨ total - offset < length then
            .plain backend surfaces Status.boundsViolation
          else if response.length < readDecodedFrameChunkReplySize + length then
            .plain backend surfaces Status.internalFailure
          else if !host.lockPixels 0 then
            .plain backend surfaces Status.internalFailure
          else
            match vtfCopyPixelBufferByteRange surfaces.memory host.nulls
                image layout offset length with
            | none => .plain backend surfaces Status.internalFailure
            | some bytes =>
              .ok backend surfaces (.decodedChunk outputId
                payload.offset payload.length output.status.toUInt32
                bytes)

end VtRealBackend

end VtFerry
