import VtFerry.Worker.VtReal.Served

/-!
# Decoding in the VideoToolbox backend

Encoded frames arrive inline or in chunks.  Chunks are assembled per session
in `pendingEncodedFrames`; the final chunk hands the assembled frame to the
decoder.  Decoded frames wait in the decode queue until they are dequeued,
read and released.
-/

namespace VtFerry

namespace VtRealBackend

/-! ## Handing frames to the decoder -/

/-- `dispatch_decode_assembled_frame`: the status, and the frame if
`VTDecompressionSessionDecodeFrame` was called on it. -/
def dispatchDecodeAssembledFrame (host : HostCalls) (backend : VtRealBackend)
    (sessionId : Nat) (bytes : List UInt8) (timing : Timing) :
    UInt32 × Option DecoderFrame :=
  match backend.decodeSessions.lookup sessionId with
  | none => (Status.invalidHandle, none)
  | some session =>
    match session.formatDescription, session.vtSession with
    | some format, some _ =>
      if !host.createSample then (Status.internalFailure, none)
      else
        (if host.decodeFrame then Status.ok else Status.internalFailure, some
            { sessionId := sessionId
              bytes := bytes
              timing := timing
              format := format })
    | _, _ => (Status.invalidState, none)

def enqueueEncodedFrame (host : HostCalls) (source : List UInt8)
    (backend : VtRealBackend) (surfaces : Surfaces) : Served :=
  if source.length < EnqueueEncodedFramePayload.size then
    .plain backend surfaces Status.internalFailure
  else
    let payload := EnqueueEncodedFramePayload.read source
    if payload.encodedSize.toNat > maxEncodedFrameBytes then
      .plain backend surfaces Status.boundsViolation
    else if payload.encodedSize = 0 then
      .plain backend surfaces Status.boundsViolation
    else if source.length ≠ EnqueueEncodedFramePayload.size + payload.encodedSize.toNat then
      .plain backend surfaces Status.boundsViolation
    else
      let (status, frame) := backend.dispatchDecodeAssembledFrame host payload.sessionId.toNat
        (source.drop EnqueueEncodedFramePayload.size) payload.timing
      { backend := backend
        surfaces := surfaces
        status := status
        body := .empty
        encoded := []
        decoded := frame.toList }

/-! ## Chunked frames -/

def maxChunkedEncodedFrameBytes : Nat := 64 * 1024 * 1024

/-- The checks of `ENQUEUE_ENCODED_FRAME_CHUNK` on the request alone: the
status of the first that fails.  A sum past 32 bits is a failed `checked_add`. -/
def checkChunk (source : List UInt8) : Option UInt32 :=
  let payload := EnqueueEncodedFrameChunkPayload.read source
  if source.length < EnqueueEncodedFrameChunkPayload.size then
    some Status.internalFailure
  else if source.length ≠ EnqueueEncodedFrameChunkPayload.size + payload.chunkLength.toNat then
    some Status.boundsViolation
  else if payload.totalEncodedSize = 0 ∨
      payload.totalEncodedSize.toNat > maxChunkedEncodedFrameBytes then
    some Status.boundsViolation
  else if 2 ^ 32 ≤ payload.chunkOffset.toNat + payload.chunkLength.toNat ∨
      payload.chunkOffset.toNat + payload.chunkLength.toNat > payload.totalEncodedSize.toNat then
    some Status.boundsViolation
  else if payload.chunkLength = 0 ∧ payload.isFinalChunk = 0 then
    some Status.boundsViolation
  else none

/-- The assembly after a chunk joined it, or the status that refuses it: a
chunk at offset 0 starts over, any other must continue what is there. -/
def joinChunk (payload : EnqueueEncodedFrameChunkPayload)
    (data : List UInt8) (pending : Option PendingEncodedFrame) :
    Except UInt32 PendingEncodedFrame :=
  if payload.chunkOffset = 0 then
    .ok
      { bytes := data
        totalSize := payload.totalEncodedSize
        timing := payload.timing }
  else
    match pending with
    | none => .error Status.invalidState
    | some pending =>
      if pending.totalSize ≠ payload.totalEncodedSize then
        .error Status.invalidState
      else if pending.bytes.length ≠ payload.chunkOffset.toNat then
        .error Status.invalidState
      else .ok { pending with bytes := pending.bytes ++ data }

def enqueueEncodedFrameChunk (host : HostCalls) (source : List UInt8)
    (backend : VtRealBackend) (surfaces : Surfaces) : Served :=
  match checkChunk source with
  | some status => .plain backend surfaces status
  | none =>
    let payload := EnqueueEncodedFrameChunkPayload.read source
    let sessionId := payload.sessionId.toNat
    if (backend.decodeSessions.lookup sessionId).isNone then
      .plain backend surfaces Status.invalidHandle
    else
      match joinChunk payload (source.drop EnqueueEncodedFrameChunkPayload.size)
          (backend.pendingEncodedFrames.lookup sessionId) with
      | .error status => .plain backend surfaces status
      | .ok joined =>
        if payload.isFinalChunk = 0 then
          .plain { backend with
            pendingEncodedFrames :=
              backend.pendingEncodedFrames.insert sessionId joined }
            surfaces Status.ok
        else
          let backend :=
            { backend with
              pendingEncodedFrames :=
                backend.pendingEncodedFrames.erase sessionId }
          if UInt32.ofNat joined.bytes.length ≠ joined.totalSize then
            .plain backend surfaces Status.invalidState
          else
            let (status, frame) :=
              backend.dispatchDecodeAssembledFrame host sessionId joined.bytes joined.timing
            { backend := backend
              surfaces := surfaces
              status := status
              body := .empty
              encoded := []
              decoded := frame.toList }

/-! ## Decode formats and output modes -/

/-- The parameter sets cut out of the packed data, one size after another. -/
def cutParameterSets : List UInt32 → List UInt8 → List (List UInt8)
  | [], _ => []
  | size :: sizes, data =>
    data.take size.toNat :: cutParameterSets sizes (data.drop size.toNat)

/-- The old decompression session is dropped before a new one is made. -/
def setDecodeFormat (host : HostCalls) (source : List UInt8)
    (backend : VtRealBackend) (surfaces : Surfaces) : Served :=
  if source.length < SetDecodeFormatPayload.size then
    .plain backend surfaces Status.internalFailure
  else
    let payload := SetDecodeFormatPayload.read source
    let sessionId := payload.sessionId.toNat
    let sizes := payload.parameterSetSizes.take payload.parameterSetCount.toNat
    if payload.parameterSetCount.toNat > maxParameterSets then
      .plain backend surfaces Status.boundsViolation
    else if (sizes.map UInt32.toNat).sum > maxParameterSetBytes then
      .plain backend surfaces Status.boundsViolation
    else if payload.parameterSetCount = 0 then
      .plain backend surfaces Status.boundsViolation
    else
      match backend.decodeSessions.lookup sessionId with
      | none => .plain backend surfaces Status.invalidHandle
      | some session =>
        if payload.codec ≠ Codec.avc1 ∧ payload.codec ≠ Codec.hvc1 then
          .plain backend surfaces Status.unsupportedCodecOrFormat
        else if !host.createFormat then
          .plain backend surfaces Status.unsupportedCodecOrFormat
        else
          let format : FormatDescription :=
            { codec := payload.codec
              parameterSets :=
                cutParameterSets sizes payload.parameterSetData
              nalHeaderLength := payload.nalHeaderLength.toInt32 }
          let needsNew := session.vtSession.isNone || !host.acceptFormat
          if needsNew && !host.createDecompression then
            .plain { backend with
              decodeSessions := backend.decodeSessions.insert sessionId
                { session with vtSession := none } }
              surfaces Status.unsupportedCodecOrFormat
          else
            .plain { backend with
              decodeSessions := backend.decodeSessions.insert sessionId
                { session with
                  vtSession :=
                    if needsNew then some format else session.vtSession
                  formatDescription := some format } }
              surfaces Status.ok

def bindDecodeOutputPool (source : List UInt8) (backend : VtRealBackend)
    (surfaces : Surfaces) : Served :=
  if source.length < BindDecodeOutputPoolPayload.size then
    .plain backend surfaces Status.internalFailure
  else
    let payload := BindDecodeOutputPoolPayload.read source
    let sessionId := payload.sessionId.toNat
    if payload.poolId ≠ 0 then .plain backend surfaces Status.boundsViolation
    else
      match backend.decodeSessions.lookup sessionId with
      | none => .plain backend surfaces Status.invalidHandle
      | some session =>
        if session.chunkedOutput then
          .plain backend surfaces Status.invalidState
        else
          .plain { backend with
            decodeSessions := backend.decodeSessions.insert sessionId
              { session with chunkedOutput := true } }
            surfaces Status.ok

end VtRealBackend

end VtFerry
