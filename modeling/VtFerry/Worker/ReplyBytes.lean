import VtFerry.Worker.Mock
import VtFerry.Worker.Server

/-!
# Replies on the wire

The reply records of the protocol crate as the bytes `bytemuck::bytes_of`
gives: little-endian fields in declaration order, fixed arrays padded with the
zeroes of `zeroed`, and the bytes a reply carries behind its record.
-/

namespace VtFerry

open LittleEndian

/-- A fixed array of `size` bytes of which the first are given. -/
def arrayBytes (size : Nat) (bytes : List UInt8) : List UInt8 :=
  bytes.take size ++ List.replicate (size - bytes.length) 0

@[simp] theorem length_arrayBytes (size : Nat) (bytes : List UInt8) :
    (arrayBytes size bytes).length = size := by
  simp only [arrayBytes, List.length_append, List.length_take, List.length_replicate]
  omega

/-- A host id, a generation or a count: a number the wire holds as `u64`. -/
def idBytes (value : Nat) : List UInt8 :=
  encode 8 value

def sizeBytes (value : Nat) : List UInt8 :=
  encode 4 value

/-- A `reserved` field, or one that keeps the zero of `zeroed`. -/
def unusedBytes (size : Nat) : List UInt8 :=
  List.replicate size 0

def hostBackingKindIosurface : UInt32 := 1

def sharedRegionSourceIosurface : UInt32 := 4

def helloReplyBytes (workerAbiVersion : UInt32) (workerName : String) :
    List UInt8 :=
  u32Bytes workerAbiVersion ++ unusedBytes 12 ++ arrayBytes 32 workerName.toUTF8.data.toList

def GetCapsReply.bytes (reply : GetCapsReply) : List UInt8 :=
  u64Bytes reply.codecBits ++ u64Bytes reply.pixelFormatBits ++
    u64Bytes reply.sessionFeatureBits ++ u32Bytes reply.maxWidth ++
    u32Bytes reply.maxHeight ++ u32Bytes reply.maxInflightFrames ++
    unusedBytes 4

def CreateSessionReply.bytes (reply : CreateSessionReply) : List UInt8 :=
  idBytes reply.sessionId ++ u32Bytes reply.negotiatedWidth ++
    u32Bytes reply.negotiatedHeight ++ u32Bytes reply.pixelFormat ++
    unusedBytes 4

/-- One of the four arrays of a layout: a field of each plane. -/
def BufferLayoutReply.planeBytes (reply : BufferLayoutReply)
    (field : LayoutPlane → UInt32) : List UInt8 :=
  arrayBytes 16 (reply.planes.flatMap fun plane => u32Bytes (field plane))

def BufferLayoutReply.bytes (reply : BufferLayoutReply) : List UInt8 :=
  sizeBytes reply.planes.length ++ u32Bytes reply.totalSize ++
    reply.planeBytes (·.offset) ++ reply.planeBytes (·.width) ++
    reply.planeBytes (·.height) ++ reply.planeBytes (·.bytesPerRow)

/-- `SharedRegionReply`: a writable region of the pool's surface. -/
def sharedRegionBytes (reply : CreateBufferPoolReply) : List UInt8 :=
  unusedBytes 8 ++ idBytes reply.regionSize ++ unusedBytes 8 ++ u32Bytes 1 ++
    u32Bytes sharedRegionSourceIosurface ++ idBytes reply.sourceHandle.toNat ++
    unusedBytes 256

def PoolBufferLeaseReply.bytes (reply : PoolBufferLeaseReply) : List UInt8 :=
  idBytes reply.bufferId ++ idBytes reply.generation ++
    sizeBytes reply.slotIndex ++ u32Bytes reply.slotOffset ++
    u32Bytes hostBackingKindIosurface ++ unusedBytes 4

/-- Regions and leases are filled slot by slot. -/
def CreateBufferPoolReply.bytes (reply : CreateBufferPoolReply) :
    List UInt8 :=
  idBytes reply.poolId ++ u32Bytes reply.width ++ u32Bytes reply.height ++
    u32Bytes reply.pixelFormat ++ u32Bytes reply.slotCount ++
    u32Bytes reply.bufferRegionSize ++ u32Bytes hostBackingKindIosurface ++
    reply.layout.bytes ++
    arrayBytes (maxPoolSlots * 296) (reply.bufferLeases.flatMap fun _ => sharedRegionBytes reply) ++
    arrayBytes (maxPoolSlots * 32) (reply.bufferLeases.flatMap PoolBufferLeaseReply.bytes)

def AllocBufferReply.bytes (reply : AllocBufferReply) : List UInt8 :=
  idBytes reply.bufferId ++ idBytes reply.generation ++
    u32Bytes reply.width ++ u32Bytes reply.height ++
    u32Bytes reply.pixelFormat ++ sizeBytes reply.slotIndex ++
    u32Bytes reply.slotOffset ++ u32Bytes hostBackingKindIosurface ++
    reply.layout.bytes

def DequeueOutputReply.bytes (reply : DequeueOutputReply) : List UInt8 :=
  idBytes reply.sessionId ++ idBytes reply.outputId ++ u32Bytes reply.codec ++
    u32Bytes reply.width ++ u32Bytes reply.height ++
    u32Bytes reply.pixelFormat ++ i64Bytes reply.timing.ptsValue ++
    i32Bytes reply.timing.ptsTimescale ++
    i32Bytes reply.timing.durationTimescale ++
    i64Bytes reply.timing.durationValue ++ u32Bytes reply.sampleSize ++
    u32Bytes reply.sampleFlags ++ sizeBytes reply.parameterSetSizes.length ++
    u32Bytes reply.nalHeaderLength ++
    arrayBytes (4 * maxParameterSets) (reply.parameterSetSizes.flatMap u32Bytes) ++
    arrayBytes maxParameterSetBytes reply.parameterSetData ++ unusedBytes 16

def DequeueDecodedFrameReply.bytes (reply : DequeueDecodedFrameReply) :
    List UInt8 :=
  idBytes reply.sessionId ++ idBytes reply.outputId ++ unusedBytes 8 ++
    idBytes reply.bufferHostId ++ unusedBytes 8 ++ u32Bytes reply.width ++
    u32Bytes reply.height ++ u32Bytes reply.pixelFormat ++ unusedBytes 4 ++
    i64Bytes reply.timing.ptsValue ++ i32Bytes reply.timing.ptsTimescale ++
    i32Bytes reply.timing.durationTimescale ++
    i64Bytes reply.timing.durationValue ++ u32Bytes reply.status ++
    unusedBytes 4

/-- The first bytes of the response buffer, up to the length that a request
reports. -/
def ReplyBody.bytes : ReplyBody → List UInt8
  | .empty => []
  | .hello workerAbiVersion workerName =>
    helloReplyBytes workerAbiVersion workerName
  | .caps reply => reply.bytes
  | .session reply => reply.bytes
  | .pool reply => reply.bytes
  | .lease reply => reply.bytes
  | .bufferBytes bufferId generation offset length bytes =>
    (idBytes bufferId ++ idBytes generation ++ u32Bytes offset ++ u32Bytes length) ++ bytes
  | .output reply => reply.bytes
  | .outputs sessionId replies =>
    idBytes sessionId ++ sizeBytes replies.length ++ unusedBytes 4 ++
      arrayBytes (maxOutputBatch * 232) (replies.flatMap DequeueOutputReply.bytes)
  | .outputBytes outputId sampleSize bytes =>
    (idBytes outputId ++ u32Bytes sampleSize ++ unusedBytes 4) ++ bytes
  | .drained sessionId pendingOutputs =>
    idBytes sessionId ++ sizeBytes pendingOutputs ++ unusedBytes 4
  | .decodedFrame reply => reply.bytes
  | .decodedBytes outputId status bytes =>
    (idBytes outputId ++ sizeBytes bytes.length ++ u32Bytes status) ++ bytes
  | .decodedChunk outputId offset length status bytes =>
    (idBytes outputId ++ u32Bytes offset ++ u32Bytes length ++
      u32Bytes status ++ unusedBytes 4) ++ bytes

@[simp] theorem length_idBytes (value : Nat) : (idBytes value).length = 8 :=
  length_encode 8 value

@[simp] theorem length_sizeBytes (value : Nat) : (sizeBytes value).length = 4 :=
  length_encode 4 value

@[simp] theorem length_unusedBytes (size : Nat) : (unusedBytes size).length = size :=
  List.length_replicate

@[simp] theorem BufferLayoutReply.length_bytes (reply : BufferLayoutReply) :
    reply.bytes.length = 72 := by
  simp [bytes, planeBytes, u32Bytes]

@[simp] theorem DequeueOutputReply.length_bytes (reply : DequeueOutputReply) :
    reply.bytes.length = 232 := by
  simp [bytes, u32Bytes, i32Bytes, u64Bytes, i64Bytes, maxParameterSets, maxParameterSetBytes]

theorem ReplyBody.length_bytes (body : ReplyBody) : body.bytes.length = body.size := by
  cases body with
  | empty => rfl
  | hello workerAbiVersion workerName => simp [bytes, size, helloReplyBytes, u32Bytes]
  | caps reply => simp [bytes, size, GetCapsReply.bytes, u32Bytes, u64Bytes]
  | session reply => simp [bytes, size, CreateSessionReply.bytes, u32Bytes]
  | pool reply => simp [bytes, size, CreateBufferPoolReply.bytes, u32Bytes, maxPoolSlots]
  | lease reply => simp [bytes, size, AllocBufferReply.bytes, u32Bytes]
  | bufferBytes bufferId generation offset length bytes
  | outputBytes outputId sampleSize bytes
  | decodedBytes outputId status bytes
  | decodedChunk outputId offset length status bytes =>
    simp [-List.append_assoc, ReplyBody.bytes, size, u32Bytes]
  | output reply => exact reply.length_bytes
  | outputs sessionId replies => simp [-List.append_assoc, bytes, size]
  | drained sessionId pendingOutputs => simp [bytes, size]
  | decodedFrame reply =>
    simp [bytes, size, DequeueDecodedFrameReply.bytes, u32Bytes, i32Bytes, u64Bytes, i64Bytes]

end VtFerry
