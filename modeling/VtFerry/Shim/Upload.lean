import VtFerry.Foundation.Pieces
import VtFerry.Protocol.Payload
import VtFerry.Worker.Server

/-!
# Uploads of the guest

The transport wrappers that carry bulk data and the entry points that use
them: `VTCompressionSessionEncodeFrame`, which uploads a pixel buffer in
`WRITE_BUFFER` chunks, and `VTDecompressionSessionDecodeFrame`, which sends an
encoded frame inline or in chunks.  `send` stands for `send_request_bytes`; a
`Caller` keeps the requests that were passed to it.  Both entry points are
modelled up to the point where they start to collect outputs.
-/

namespace VtFerry

open LittleEndian Pieces

namespace Shim

def writeBufferChunkBytes : Nat :=
  1024 * 1024

theorem writeBufferChunkBytes_pos : 0 < writeBufferChunkBytes := by decide

/-- `send_request_bytes`: the transport afterwards, and the reply payload or
an error. -/
abbrev Send (State : Type) :=
  State → Request → State × Except Int32 (List UInt8)

/-- The transport and the requests passed to it so far. -/
structure Caller (State : Type) where
  transport : State
  sent : List Request

variable {State : Type} (send : Send State)

def sendRequestBytes (request : Request) (caller : Caller State) :
    Caller State × Except Int32 (List UInt8) :=
  let result := send caller.transport request
  ({ transport := result.1, sent := caller.sent ++ [request] }, result.2)

/-- `let _ = send_request_bytes(..)?`. -/
def sendUnit (request : Request) (caller : Caller State) :
    Caller State × Except Int32 Unit :=
  let result := sendRequestBytes send request caller
  (result.1, result.2.map fun _ => ())

/-! ## Transport wrappers -/

def writeBufferRequest (bufferId generation : UInt64) (offset : Nat)
    (piece : List UInt8) : Request where
  opcode := Opcode.writeBuffer.code
  payload :=
    BufferRangePayload.bytes
      { bufferId := bufferId
        generation := generation
        offset := UInt32.ofNat offset
        length := UInt32.ofNat piece.length } ++ piece

def writeBuffer (bufferId generation : UInt64) (bytes : List UInt8)
    (caller : Caller State) : Caller State × Except Int32 Unit :=
  sendPieces writeBufferChunkBytes writeBufferChunkBytes_pos (fun offset piece => sendUnit send
      (writeBufferRequest bufferId generation offset piece))
    0 bytes caller

def encodeFrame (payload : EncodeFramePayload) (caller : Caller State) :
    Caller State × Except Int32 Unit :=
  sendUnit send ⟨Opcode.encodeFrame.code, payload.bytes⟩ caller

def enqueueEncodedFrame (payload : EnqueueEncodedFramePayload)
    (encodedBytes : List UInt8) (caller : Caller State) :
    Caller State × Except Int32 Unit :=
  if payload.encodedSize.toNat ≠ encodedBytes.length then
    (caller, .error (-12902))
  else
    sendUnit send ⟨Opcode.enqueueEncodedFrame.code, payload.bytes ++ encodedBytes⟩ caller

/-- One chunk of a frame of `total` bytes, with the head's session, timing and
flags. -/
def chunkRequest (head : EnqueueEncodedFrameChunkPayload) (total offset : Nat)
    (piece : List UInt8) : Request where
  opcode := Opcode.enqueueEncodedFrameChunk.code
  payload :=
    EnqueueEncodedFrameChunkPayload.bytes
      { head with
        chunkOffset := UInt32.ofNat offset
        chunkLength := UInt32.ofNat piece.length
        totalEncodedSize := UInt32.ofNat total
        isFinalChunk := if offset + piece.length = total then 1 else 0 } ++
      piece

def enqueueEncodedFrameChunked (head : EnqueueEncodedFrameChunkPayload)
    (encodedBytes : List UInt8) (caller : Caller State) :
    Caller State × Except Int32 Unit :=
  if encodedBytes.isEmpty then (caller, .error (-12902))
  else if encodedBytes.length > 2 ^ 32 - 1 then (caller, .error (-12902))
  else
    sendPieces maxEncodedFrameBytes (by decide) (fun offset piece => sendUnit send
        (chunkRequest head encodedBytes.length offset piece))
      0 encodedBytes caller

/-! ## Encoding a pixel buffer -/

/-- `CMTime`, as far as it is sent. -/
structure Time where
  value : Int64
  timescale : Int32
  deriving DecidableEq, Repr

/-- `vtf_vt_session`. -/
structure CompressionSession where
  proxyId : UInt64
  invalidated : Bool
  prepared : Bool
  pendingCount : Nat
  deriving DecidableEq, Repr

/-- `VTF_CV_BUFFER_STATE_*` of a pixel buffer proxy. -/
inductive ImageState where
  | guestWritable
  | queuedToHost
  | recycled
  deriving DecidableEq, Repr

/-- `vtf_cv_pixel_buffer`.  A backing store that is there holds the whole
image. -/
structure ImageBuffer where
  proxyId : UInt64
  hostId : UInt64
  hostGeneration : UInt64
  state : ImageState
  mappedBackingActive : Bool
  totalSize : Nat
  backingStore : Option (List UInt8)
  backed : ∀ bytes, backingStore = some bytes → totalSize ≤ bytes.length

/-- The store `vtf_ensure_backing_store` leaves for a buffer that is not
mapped. -/
def ImageBuffer.ensuredStore (image : ImageBuffer) : List UInt8 :=
  image.backingStore.getD (List.replicate (max image.totalSize 1) 0)

def ImageBuffer.uploaded (image : ImageBuffer) : List UInt8 :=
  image.ensuredStore.take image.totalSize

def vtfPrepareSessionIfNeeded (session : CompressionSession)
    (caller : Caller State) : CompressionSession × Caller State × Int32 :=
  if session.prepared then (session, caller, 0)
  else
    match sendRequestBytes send ⟨Opcode.prepareSession.code, u64Bytes session.proxyId⟩ caller with
    | (caller, .ok _) => ({ session with prepared := true }, caller, 0)
    | (caller, .error _) => (session, caller, -12902)

/-- The upload of `VTCompressionSessionEncodeFrame`. -/
def uploadImage (image : ImageBuffer) (caller : Caller State) :
    Caller State × Except Int32 Unit :=
  if image.mappedBackingActive then (caller, .ok ())
  else writeBuffer send image.proxyId image.hostGeneration image.uploaded caller

def encodePayload (session : CompressionSession) (image : ImageBuffer)
    (presentation duration : Time) : EncodeFramePayload where
  sessionId := session.proxyId
  imageBufferProxyId := image.proxyId
  imageBufferHostId := image.hostId
  imageBufferGeneration := image.hostGeneration
  timing :=
    { ptsValue := presentation.value
      ptsTimescale := presentation.timescale
      durationValue := duration.value
      durationTimescale := duration.timescale }

/-- What `VTCompressionSessionEncodeFrame` leaves. -/
structure EncodeCall (State : Type) where
  session : CompressionSession
  imageState : ImageState
  caller : Caller State
  status : Int32

/-- `VTCompressionSessionEncodeFrame` for a session and an image that are not
null.  `pushed` is false when `vtf_push_pending_image_buffer` finds no
memory. -/
def compressionSessionEncodeFrame (pushed : Bool)
    (session : CompressionSession) (image : ImageBuffer)
    (presentation duration : Time) (caller : Caller State) :
    EncodeCall State :=
  if session.invalidated then ⟨session, image.state, caller, -12903⟩
  else if image.state ≠ .guestWritable then
    ⟨session, image.state, caller, -12902⟩
  else
    let (session, caller, prepareStatus) :=
      vtfPrepareSessionIfNeeded send session caller
    if prepareStatus ≠ 0 then ⟨session, image.state, caller, prepareStatus⟩
    else
      match uploadImage send image caller with
      | (caller, .error _) => ⟨session, image.state, caller, -12902⟩
      | (caller, .ok ()) =>
        if !pushed then ⟨session, image.state, caller, -12904⟩
        else
          let session :=
            { session with pendingCount := session.pendingCount + 1 }
          match encodeFrame send (encodePayload session image presentation duration) caller with
          | (caller, .ok ()) => ⟨session, .queuedToHost, caller, 0⟩
          | (caller, .error _) => ⟨session, .queuedToHost, caller, -12902⟩

/-! ## Decoding a frame -/

/-- `vtf_vt_decompression_session`. -/
structure DecompressionSession where
  proxyId : UInt64
  invalidated : Bool
  formatSet : Bool
  deriving DecidableEq, Repr

/-- `vtf_cm_sample_buffer` and its block buffer; `none` where one of the
pointers is null. -/
structure SampleBuffer where
  data : Option (List UInt8)
  presentationTimestamp : Time
  deriving DecidableEq, Repr

/-- The status of a wrapper, zero when it succeeded. -/
def statusOf : Except Int32 Unit → Int32
  | .ok () => 0
  | .error status => status

def vtfDecompressionEnqueueInline (session : DecompressionSession)
    (sample : SampleBuffer) (encodedBytes : List UInt8)
    (caller : Caller State) : Caller State × Int32 :=
  let result := enqueueEncodedFrame send
    { sessionId := session.proxyId
      encodedSize := UInt32.ofNat encodedBytes.length
      flags := 0
      timing :=
        { ptsValue := sample.presentationTimestamp.value
          ptsTimescale := sample.presentationTimestamp.timescale
          durationValue := 0
          durationTimescale := 0 } }
    encodedBytes caller
  (result.1, statusOf result.2)

def vtfDecompressionEnqueueChunked (session : DecompressionSession)
    (sample : SampleBuffer) (encodedBytes : List UInt8)
    (caller : Caller State) : Caller State × Int32 :=
  let result := enqueueEncodedFrameChunked send
    { sessionId := session.proxyId
      timing :=
        { ptsValue := sample.presentationTimestamp.value
          ptsTimescale := sample.presentationTimestamp.timescale
          durationValue := 0
          durationTimescale := 0 }
      chunkOffset := 0
      chunkLength := 0
      totalEncodedSize := 0
      isFinalChunk := 0
      flags := 0 }
    encodedBytes caller
  (result.1, statusOf result.2)

/-- `VTDecompressionSessionDecodeFrame` for a session and a sample that are
not null. -/
def decompressionSessionDecodeFrame (session : DecompressionSession)
    (sample : SampleBuffer) (caller : Caller State) : Caller State × Int32 :=
  if session.invalidated then (caller, -12903)
  else
    match sample.data with
    | none => (caller, -12902)
    | some encodedBytes =>
      if encodedBytes.length = 0 then (caller, -12902)
      else if !session.formatSet then (caller, -12903)
      else if encodedBytes.length ≤ maxEncodedFrameBytes then
        vtfDecompressionEnqueueInline send session sample encodedBytes caller
      else
        vtfDecompressionEnqueueChunked send session sample encodedBytes caller

end Shim

end VtFerry
