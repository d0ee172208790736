import VtFerry.Foundation.LeaseTable
import VtFerry.Worker.VtReal.State

/-!
# Replies of the VideoToolbox backend

A served request leaves a new backend and shared state, a status, a reply body
and the frames it handed to the encoder and the decoder.  Most requests share
one shape: a payload that is too short is refused with a fixed status, and the
rest works on the decoded payload.
-/

namespace VtFerry

structure CreateSessionReply where
  sessionId : Nat
  negotiatedWidth : UInt32
  negotiatedHeight : UInt32
  pixelFormat : UInt32
  deriving DecidableEq, Repr

structure PoolBufferLeaseReply where
  bufferId : Nat
  generation : Nat
  slotIndex : Nat
  slotOffset : UInt32
  deriving DecidableEq, Repr

/-- `CreateBufferPoolReply`; every shared region has the size of a slot and
names the surface by `sourceHandle`. -/
structure CreateBufferPoolReply where
  poolId : Nat
  width : UInt32
  height : UInt32
  pixelFormat : UInt32
  slotCount : UInt32
  bufferRegionSize : UInt32
  layout : BufferLayoutReply
  regionSize : Nat
  sourceHandle : UInt32
  bufferLeases : List PoolBufferLeaseReply
  deriving DecidableEq, Repr

structure AllocBufferReply where
  bufferId : Nat
  generation : Nat
  width : UInt32
  height : UInt32
  pixelFormat : UInt32
  slotIndex : Nat
  slotOffset : UInt32
  layout : BufferLayoutReply
  deriving DecidableEq, Repr

structure GetCapsReply where
  codecBits : UInt64
  pixelFormatBits : UInt64
  sessionFeatureBits : UInt64
  maxWidth : UInt32
  maxHeight : UInt32
  maxInflightFrames : UInt32
  deriving DecidableEq, Repr

structure DequeueDecodedFrameReply where
  sessionId : Nat
  outputId : Nat
  bufferHostId : Nat
  width : UInt32
  height : UInt32
  pixelFormat : UInt32
  timing : Timing
  status : UInt32
  deriving DecidableEq, Repr

/-- The payload of a reply, before it is laid out in the response buffer. -/
inductive ReplyBody where
  | empty
  | hello (workerAbiVersion : UInt32) (workerName : String)
  | caps (reply : GetCapsReply)
  | session (reply : CreateSessionReply)
  | pool (reply : CreateBufferPoolReply)
  | lease (reply : AllocBufferReply)
  | bufferBytes (bufferId generation : Nat) (offset length : UInt32)
      (bytes : List UInt8)
  | output (reply : DequeueOutputReply)
  | outputs (sessionId : Nat) (replies : List DequeueOutputReply)
  | outputBytes (outputId : Nat) (sampleSize : UInt32) (bytes : List UInt8)
  | drained (sessionId pendingOutputs : Nat)
  | decodedFrame (reply : DequeueDecodedFrameReply)
  | decodedBytes (outputId : Nat) (status : UInt32) (bytes : List UInt8)
  | decodedChunk (outputId : Nat) (offset length : UInt32)
      (status : UInt32) (bytes : List UInt8)
  deriving DecidableEq, Repr

/-- A frame `encode_frame` accepted: the encoder reads its slot until the
callback for it runs. -/
structure EncoderFrame where
  context : SessionCallbackContext
  frame : FrameContext
  timing : Timing
  deriving DecidableEq, Repr

/-- A frame handed to `VTDecompressionSessionDecodeFrame`. -/
structure DecoderFrame where
  sessionId : Nat
  bytes : List UInt8
  timing : Timing
  format : FormatDescription
  deriving DecidableEq, Repr

structure Served where
  backend : VtRealBackend
  surfaces : Surfaces
  status : UInt32
  body : ReplyBody
  encoded : List EncoderFrame
  decoded : List DecoderFrame

namespace Served

def plain (backend : VtRealBackend) (surfaces : Surfaces) (status : UInt32) : Served :=
  { backend := backend
    surfaces := surfaces
    status := status
    body := .empty
    encoded := []
    decoded := [] }

def ok (backend : VtRealBackend) (surfaces : Surfaces) (body : ReplyBody) :
    Served :=
  { backend := backend
    surfaces := surfaces
    status := Status.ok
    body := body
    encoded := []
    decoded := [] }

def leases (served : Served) : List LeaseTable.Lease :=
  match served.body with
  | .lease reply => [⟨reply.bufferId, reply.generation⟩]
  | _ => []

end Served

/-- The lease named by a request that reads, writes, encodes or recycles a
buffer. -/
def Request.namedLease (request : Request) : Option LeaseTable.Lease :=
  let range := BufferRangePayload.read request.payload
  let frame := EncodeFramePayload.read request.payload
  let recycled := RecycleBufferPayload.read request.payload
  match Opcode.ofCode? request.opcode with
  | some .readBuffer => some ⟨range.bufferId.toNat, range.generation.toNat⟩
  | some .writeBuffer => some ⟨range.bufferId.toNat, range.generation.toNat⟩
  | some .encodeFrame =>
    some ⟨frame.imageBufferHostId.toNat, frame.imageBufferGeneration.toNat⟩
  | some .recycleBuffer =>
    some ⟨recycled.bufferId.toNat, recycled.generation.toNat⟩
  | _ => none

end VtFerry
