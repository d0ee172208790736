import VtFerry.Protocol.Message

/-!
# Request payloads

The packed little-endian records that follow a request header, with the
fields the two workers and the guest shim use.  `size` is the `size_of` of the
record and `read` is `bytemuck::pod_read_unaligned` on its first `size` bytes.
Records that have the same fields share one definition: the nine requests
whose payload is a single handle, the two that name an output of a session,
and the two that name a byte range of a buffer.
-/

namespace VtFerry

open LittleEndian

def sessionKindEncode : UInt32 := 1
def sessionKindDecode : UInt32 := 2

def maxPoolSlots : Nat := 64
def maxEncodeBatch : Nat := 32
def maxOutputBatch : Nat := 24
def maxParameterSets : Nat := 4
def maxParameterSetBytes : Nat := 128

def maxEncodedFrameBytes : Nat := 4 * 1024 * 1024

def maxDecodedFrameBytes : Nat := 1500000

/-- `HelloPayload`, of which no field is read. -/
def helloPayloadSize : Nat := 16

/-- The payload of `ALLOC_BUFFER`, `PREPARE_SESSION`, `DEQUEUE_OUTPUT`,
`READ_OUTPUT`, `RELEASE_OUTPUT`, `DESTROY_SESSION`, `DRAIN`,
`DEQUEUE_DECODED_FRAME` and `DESTROY_BUFFER_POOL`: one handle. -/
structure HandlePayload where
  handle : UInt64
  deriving DecidableEq, Repr

namespace HandlePayload

def size : Nat := 8

def read (source : List UInt8) : HandlePayload where
  handle := u64At source 0

end HandlePayload

structure CreateSessionPayload where
  kind : UInt32
  codec : UInt32
  width : UInt32
  height : UInt32
  pixelFormat : UInt32
  deriving DecidableEq, Repr

namespace CreateSessionPayload

def size : Nat := 36

def read (source : List UInt8) : CreateSessionPayload where
  kind := u32At source 0
  codec := u32At source 4
  width := u32At source 8
  height := u32At source 12
  pixelFormat := u32At source 16

end CreateSessionPayload

structure CreateBufferPoolPayload where
  sessionId : UInt64
  bufferCount : UInt32
  pixelFormat : UInt32
  width : UInt32
  height : UInt32
  deriving DecidableEq, Repr

namespace CreateBufferPoolPayload

def size : Nat := 32

def read (source : List UInt8) : CreateBufferPoolPayload where
  sessionId := u64At source 0
  bufferCount := u32At source 8
  pixelFormat := u32At source 12
  width := u32At source 16
  height := u32At source 20

end CreateBufferPoolPayload

/-- `ReadBufferPayload` and `WriteBufferPayload`: a byte range of a lease. -/
structure BufferRangePayload where
  bufferId : UInt64
  generation : UInt64
  offset : UInt32
  length : UInt32
  deriving DecidableEq, Repr

namespace BufferRangePayload

def size : Nat := 24

def read (source : List UInt8) : BufferRangePayload where
  bufferId := u64At source 0
  generation := u64At source 8
  offset := u32At source 16
  length := u32At source 20

def bytes (payload : BufferRangePayload) : List UInt8 :=
  u64Bytes payload.bufferId ++ (u64Bytes payload.generation ++
    (u32Bytes payload.offset ++ u32Bytes payload.length))

@[simp] theorem length_bytes (payload : BufferRangePayload) : payload.bytes.length = size := by
  simp [bytes, u32Bytes, u64Bytes, size]

@[simp] theorem read_bytes_append (payload : BufferRangePayload)
    (rest : List UInt8) : read (payload.bytes ++ rest) = payload := by
  obtain ⟨bufferId, generation, offset, length⟩ := payload
  simp only [read, bytes, u32At, u64At, u32Bytes, u64Bytes, List.append_assoc]
  simp (disch := decide) [word_skip]

end BufferRangePayload

structure RecycleBufferPayload where
  poolId : UInt64
  bufferId : UInt64
  generation : UInt64
  deriving DecidableEq, Repr

namespace RecycleBufferPayload

def size : Nat := 24

def read (source : List UInt8) : RecycleBufferPayload where
  poolId := u64At source 0
  bufferId := u64At source 8
  generation := u64At source 16

end RecycleBufferPayload

structure Timing where
  ptsValue : Int64
  ptsTimescale : Int32
  durationValue : Int64
  durationTimescale : Int32
  deriving DecidableEq, Repr

structure EncodeFramePayload where
  sessionId : UInt64
  imageBufferProxyId : UInt64
  imageBufferHostId : UInt64
  imageBufferGeneration : UInt64
  timing : Timing
  deriving DecidableEq, Repr

namespace EncodeFramePayload

def size : Nat := 56

def read (source : List UInt8) : EncodeFramePayload where
  sessionId := u64At source 0
  imageBufferProxyId := u64At source 8
  imageBufferHostId := u64At source 16
  imageBufferGeneration := u64At source 24
  timing :=
    { ptsValue := i64At source 32
      ptsTimescale := i32At source 40
      durationTimescale := i32At source 44
      durationValue := i64At source 48 }

def bytes (payload : EncodeFramePayload) : List UInt8 :=
  u64Bytes payload.sessionId ++ (u64Bytes payload.imageBufferProxyId ++
    (u64Bytes payload.imageBufferHostId ++ (u64Bytes payload.imageBufferGeneration ++
        (i64Bytes payload.timing.ptsValue ++ (i32Bytes payload.timing.ptsTimescale ++
            (i32Bytes payload.timing.durationTimescale ++
              i64Bytes payload.timing.durationValue))))))

@[simp] theorem length_bytes (payload : EncodeFramePayload) : payload.bytes.length = size := by
  simp [bytes, u32Bytes, u64Bytes, i32Bytes, i64Bytes, size]

end EncodeFramePayload

structure EncodeFrameBatchPayload where
  sessionId : UInt64
  frameCount : UInt32
  frames : List EncodeFramePayload
  deriving DecidableEq, Repr

namespace EncodeFrameBatchPayload

def size : Nat := 16 + maxEncodeBatch * EncodeFramePayload.size

def read (source : List UInt8) : EncodeFrameBatchPayload where
  sessionId := u64At source 0
  frameCount := u32At source 8
  frames := (List.range maxEncodeBatch).map fun index =>
    EncodeFramePayload.read (source.drop (16 + index * EncodeFramePayload.size))

end EncodeFrameBatchPayload

structure DequeueOutputBatchPayload where
  sessionId : UInt64
  maxOutputs : UInt32
  deriving DecidableEq, Repr

namespace DequeueOutputBatchPayload

def size : Nat := 16

def read (source : List UInt8) : DequeueOutputBatchPayload where
  sessionId := u64At source 0
  maxOutputs := u32At source 8

end DequeueOutputBatchPayload

structure ReleaseOutputBatchPayload where
  outputCount : UInt32
  outputIds : List UInt64
  deriving DecidableEq, Repr

namespace ReleaseOutputBatchPayload

def size : Nat := 8 + maxOutputBatch * 8

def read (source : List UInt8) : ReleaseOutputBatchPayload where
  outputCount := u32At source 0
  outputIds := (List.range maxOutputBatch).map fun index =>
    u64At source (8 + index * 8)

end ReleaseOutputBatchPayload

structure EnqueueEncodedFramePayload where
  sessionId : UInt64
  encodedSize : UInt32
  flags : UInt32
  timing : Timing
  deriving DecidableEq, Repr

namespace EnqueueEncodedFramePayload

def size : Nat := 64

def read (source : List UInt8) : EnqueueEncodedFramePayload where
  sessionId := u64At source 0
  encodedSize := u32At source 32
  flags := u32At source 36
  timing :=
    { ptsValue := i64At source 40
      ptsTimescale := i32At source 48
      durationTimescale := i32At source 52
      durationValue := i64At source 56 }

/-- The shim leaves the three buffer handles zero. -/
def bytes (payload : EnqueueEncodedFramePayload) : List UInt8 :=
  u64Bytes payload.sessionId ++ (u64Bytes 0 ++ (u64Bytes 0 ++ (u64Bytes 0 ++
    (u32Bytes payload.encodedSize ++ (u32Bytes payload.flags ++
      (i64Bytes payload.timing.ptsValue ++ (i32Bytes payload.timing.ptsTimescale ++
          (i32Bytes payload.timing.durationTimescale ++
            i64Bytes payload.timing.durationValue))))))))

@[simp] theorem length_bytes (payload : EnqueueEncodedFramePayload) :
    payload.bytes.length = size := by
  simp [bytes, u32Bytes, u64Bytes, i32Bytes, i64Bytes, size]

end EnqueueEncodedFramePayload

structure EnqueueEncodedFrameChunkPayload where
  sessionId : UInt64
  timing : Timing
  chunkOffset : UInt32
  chunkLength : UInt32
  totalEncodedSize : UInt32
  isFinalChunk : UInt32
  flags : UInt32
  deriving DecidableEq, Repr

namespace EnqueueEncodedFrameChunkPayload

def size : Nat := 56

def read (source : List UInt8) : EnqueueEncodedFrameChunkPayload where
  sessionId := u64At source 0
  timing :=
    { ptsValue := i64At source 8
      durationValue := i64At source 16
      ptsTimescale := i32At source 44
      durationTimescale := i32At source 48 }
  chunkOffset := u32At source 24
  chunkLength := u32At source 28
  totalEncodedSize := u32At source 32
  isFinalChunk := u32At source 36
  flags := u32At source 40

def bytes (payload : EnqueueEncodedFrameChunkPayload) : List UInt8 :=
  u64Bytes payload.sessionId ++ (i64Bytes payload.timing.ptsValue ++
    (i64Bytes payload.timing.durationValue ++
      (u32Bytes payload.chunkOffset ++ (u32Bytes payload.chunkLength ++
        (u32Bytes payload.totalEncodedSize ++
          (u32Bytes payload.isFinalChunk ++ (u32Bytes payload.flags ++
            (i32Bytes payload.timing.ptsTimescale ++
              (i32Bytes payload.timing.durationTimescale ++ u32Bytes 0)))))))))

@[simp] theorem length_bytes (payload : EnqueueEncodedFrameChunkPayload) :
    payload.bytes.length = size := by
  simp [bytes, u32Bytes, u64Bytes, i32Bytes, i64Bytes, size]

@[simp] theorem read_bytes_append (payload : EnqueueEncodedFrameChunkPayload)
    (rest : List UInt8) : read (payload.bytes ++ rest) = payload := by
  obtain ⟨sessionId, timing, chunkOffset, chunkLength, totalEncodedSize,
    isFinalChunk, flags⟩ := payload
  obtain ⟨ptsValue, ptsTimescale, durationValue, durationTimescale⟩ := timing
  simp only [read, bytes, u32At, u64At, i32At, i64At, u32Bytes, u64Bytes,
    i32Bytes, i64Bytes, List.append_assoc]
  simp (disch := decide) [word_skip]

end EnqueueEncodedFrameChunkPayload

/-- `ReleaseDecodedFramePayload` and `ReadDecodedFramePayload`. -/
structure SessionOutputPayload where
  sessionId : UInt64
  outputId : UInt64
  deriving DecidableEq, Repr

namespace SessionOutputPayload

def size : Nat := 16

def read (source : List UInt8) : SessionOutputPayload where
  sessionId := u64At source 0
  outputId := u64At source 8

def bytes (payload : SessionOutputPayload) : List UInt8 :=
  u64Bytes payload.sessionId ++ u64Bytes payload.outputId

@[simp] theorem length_bytes (payload : SessionOutputPayload) : payload.bytes.length = size := by
  simp [bytes, u64Bytes, size]

@[simp] theorem read_bytes (payload : SessionOutputPayload) : read payload.bytes = payload := by
  obtain ⟨sessionId, outputId⟩ := payload
  have last := word_encode_append 8 outputId.toNat []
  rw [List.append_nil] at last
  simp only [read, bytes, u64At, u64Bytes]
  simp (disch := decide) [word_skip, last]

end SessionOutputPayload

structure BindDecodeOutputPoolPayload where
  sessionId : UInt64
  poolId : UInt64
  deriving DecidableEq, Repr

namespace BindDecodeOutputPoolPayload

def size : Nat := 32

def read (source : List UInt8) : BindDecodeOutputPoolPayload where
  sessionId := u64At source 0
  poolId := u64At source 8

/-- The fields and sixteen reserved bytes. -/
def bytes (payload : BindDecodeOutputPoolPayload) : List UInt8 :=
  u64Bytes payload.sessionId ++ (u64Bytes payload.poolId ++ List.replicate 16 0)

@[simp] theorem length_bytes (payload : BindDecodeOutputPoolPayload) :
    payload.bytes.length = size := by
  simp [bytes, u64Bytes, size]

@[simp] theorem read_bytes (payload : BindDecodeOutputPoolPayload) :
    read payload.bytes = payload := by
  obtain ⟨sessionId, poolId⟩ := payload
  simp only [read, bytes, u64At, u64Bytes]
  simp (disch := decide) [word_skip]

end BindDecodeOutputPoolPayload

structure ReadDecodedFrameChunkPayload where
  sessionId : UInt64
  outputId : UInt64
  offset : UInt32
  length : UInt32
  deriving DecidableEq, Repr

namespace ReadDecodedFrameChunkPayload

def size : Nat := 24

def read (source : List UInt8) : ReadDecodedFrameChunkPayload where
  sessionId := u64At source 0
  outputId := u64At source 8
  offset := u32At source 16
  length := u32At source 20

def bytes (payload : ReadDecodedFrameChunkPayload) : List UInt8 :=
  u64Bytes payload.sessionId ++ (u64Bytes payload.outputId ++
    (u32Bytes payload.offset ++ u32Bytes payload.length))

@[simp] theorem length_bytes (payload : ReadDecodedFrameChunkPayload) :
    payload.bytes.length = size := by
  simp [bytes, u32Bytes, u64Bytes, size]

@[simp] theorem read_bytes (payload : ReadDecodedFrameChunkPayload) :
    read payload.bytes = payload := by
  obtain ⟨sessionId, outputId, offset, length⟩ := payload
  have last := word_encode_append 4 length.toNat []
  rw [List.append_nil] at last
  simp only [read, bytes, u32At, u64At, u32Bytes, u64Bytes]
  simp (disch := decide) [word_skip, last]

end ReadDecodedFrameChunkPayload

structure SetDecodeFormatPayload where
  sessionId : UInt64
  codec : UInt32
  nalHeaderLength : UInt32
  parameterSetCount : UInt32
  parameterSetSizes : List UInt32
  parameterSetData : List UInt8
  deriving DecidableEq, Repr

namespace SetDecodeFormatPayload

def size : Nat := 48 + maxParameterSetBytes

def read (source : List UInt8) : SetDecodeFormatPayload where
  sessionId := u64At source 0
  codec := u32At source 8
  nalHeaderLength := u32At source 20
  parameterSetCount := u32At source 24
  parameterSetSizes := (List.range maxParameterSets).map fun index =>
    u32At source (32 + index * 4)
  parameterSetData := (source.drop 48).take maxParameterSetBytes

end SetDecodeFormatPayload

/-- The fields of `SetPropertyPayload` that decide whether a property is
accepted; the numbers it carries are only handed to the codec. -/
structure SetPropertyPayload where
  sessionId : UInt64
  valueKind : UInt32
  key : List UInt8
  text : List UInt8
  arrayCount : UInt32
  dictPairCount : UInt32
  dictKeys : List (List UInt8)
  deriving DecidableEq, Repr

namespace SetPropertyPayload

def size : Nat := 288

/-- The bytes of a fixed-size text field before its first NUL. -/
def payloadCstr (field : List UInt8) : List UInt8 :=
  field.takeWhile (· ≠ 0)

def read (source : List UInt8) : SetPropertyPayload where
  sessionId := u64At source 0
  valueKind := u32At source 24
  key := payloadCstr ((source.drop 56).take 64)
  text := payloadCstr ((source.drop 120).take 64)
  arrayCount := u32At source 184
  dictPairCount := u32At source 188
  dictKeys :=
    [payloadCstr ((source.drop 208).take 32), payloadCstr ((source.drop 240).take 32)]

end SetPropertyPayload

end VtFerry
