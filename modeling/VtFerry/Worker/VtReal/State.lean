import VtFerry.Worker.Directory
import VtFerry.Worker.OutputQueue
import VtFerry.Worker.PixelCopy

/-!
# The VideoToolbox backend's state

One `VtRealBackend` serves one connection.  What it shares with the other
backends of the worker process is in `Surfaces`: the directory of surfaces and
the memory behind them.  `HostCalls` holds what the host frameworks answer to
the calls a request makes, and `Served` what serving a request leaves behind.
Ids and generations, `u64` in the source, are natural numbers: a backend is
taken to give out fewer than 2^64 of each.
-/

namespace VtFerry

/-- The `state` of a source buffer: 0, 1 and 2 in the source. -/
inductive BufferState where
  | recycled
  | guestWritable
  | queuedToHost
  deriving DecidableEq, Repr

structure VtRealBuffer where
  id : Nat
  poolId : Nat
  generation : Nat
  slotIndex : Nat
  slotOffset : Nat
  pixelBuffer : Option PixelBuffer
  /-- `mapped_bytes`, as a surface region and an offset in it. -/
  mappedRegion : Nat
  mappedOffset : Nat
  mappedSize : Nat
  pixelFormat : UInt32
  width : Int32
  height : Int32
  state : BufferState
  deriving DecidableEq, Repr

structure VtRealPool where
  id : Nat
  sessionId : Nat
  width : UInt32
  height : UInt32
  pixelFormat : UInt32
  maxBuffers : UInt32
  slotRegionSize : UInt32
  iosurfaceEntryId : Option Nat
  deriving DecidableEq, Repr

structure VtRealSession where
  context : SessionCallbackContext
  prepared : Bool
  deriving DecidableEq, Repr

/-- A `CMVideoFormatDescription` made from parameter sets. -/
structure FormatDescription where
  codec : UInt32
  parameterSets : List (List UInt8)
  nalHeaderLength : Int32
  deriving DecidableEq, Repr

structure VtRealDecodeSession where
  formatDescription : Option FormatDescription
  /-- The decompression session, by the format it was created with. -/
  vtSession : Option FormatDescription
  chunkedOutput : Bool
  deriving DecidableEq, Repr

structure PendingEncodedFrame where
  bytes : List UInt8
  totalSize : UInt32
  timing : Timing
  deriving DecidableEq, Repr

structure VtRealBackend where
  sessions : FiniteMap Nat VtRealSession
  decodeSessions : FiniteMap Nat VtRealDecodeSession
  buffers : FiniteMap Nat VtRealBuffer
  pools : FiniteMap Nat VtRealPool
  pendingEncodedFrames : FiniteMap Nat PendingEncodedFrame
  nextHostId : Nat
  outputState : OutputQueue
  decodedOutputState : DecodedOutputQueue

namespace VtRealBackend

/-- A backend as a connection gets it: `new`, then `reset_from_env`. -/
def fresh : VtRealBackend where
  sessions := ∅
  decodeSessions := ∅
  buffers := ∅
  pools := ∅
  pendingEncodedFrames := ∅
  nextHostId := 1
  outputState := OutputQueue.new
  decodedOutputState := DecodedOutputQueue.new

end VtRealBackend

structure Surfaces where
  directory : IOSurfacePoolDirectory
  memory : HostMemory

/-- What the host frameworks answer while one request is served. -/
structure HostCalls where
  /-- `VTCompressionSessionCreate` gives a session. -/
  createCompression : Bool := true
  /-- `OwnedIOSurface::lock_read_write` succeeds. -/
  lockSurface : Bool := true
  /-- The slots whose `CVPixelBufferCreateWith..` call succeeds. -/
  wrapSlot : Nat → Bool := fun _ => true
  /-- The status of a wrap made on demand; zero when it succeeds. -/
  wrapStatus : Int32 := 0
  /-- Where the buffer map's iteration starts, for `ALLOC_BUFFER`. -/
  firstBuffer : Nat := 0
  /-- Base addresses CoreVideo answers with null. -/
  nulls : NullAddresses := {}
  /-- `lock_base_address` succeeds, for the frame with the given index. -/
  lockPixels : Nat → Bool := fun _ => true
  /-- `encode_frame` accepts the frame with the given index. -/
  encodeFrame : Nat → Bool := fun _ => true
  /-- `VTCompressionSessionPrepareToEncodeFrames` succeeds. -/
  prepare : Bool := true
  /-- `VTSessionSetProperty` succeeds. -/
  setProperty : Bool := true
  /-- The drain call of a session succeeds. -/
  drain : Bool := true
  /-- The format description is made from the parameter sets. -/
  createFormat : Bool := true
  /-- The existing decompression session accepts the new format. -/
  acceptFormat : Bool := true
  /-- `VTDecompressionSessionCreate` gives a session. -/
  createDecompression : Bool := true
  /-- The block buffer and the sample buffer of an encoded frame are made. -/
  createSample : Bool := true
  /-- `VTDecompressionSessionDecodeFrame` succeeds. -/
  decodeFrame : Bool := true

end VtFerry
