import Mathlib.Data.List.Defs
import VtFerry.Foundation.CellQueue
import VtFerry.Foundation.FiniteMap
import VtFerry.Shim.Collection

/-!
# Guest objects

The reference-counted objects the shim hands to its client: pools, pixel
buffers and sample buffers, named by handles.  The last release of an object
runs its finalizer, which talks to the worker: a pool is destroyed, a pixel
buffer recycled, the output behind a sample released.  `Guest` is the state of
the shim for one compression session, with its transport and a history of the
frames it took and gave out; `ClientCall` is what a client may do with the
objects without touching the session.
-/

namespace VtFerry

namespace Shim

/-- `vtf_cv_pixel_buffer_pool`. -/
structure PoolObject where
  proxyId : UInt64
  refcount : Nat
  deriving DecidableEq, Repr

/-- `vtf_cv_pixel_buffer`. -/
structure PixelBufferObject where
  image : ImageBuffer
  poolRef : Nat
  poolHostId : UInt64
  recycled : Bool
  refcount : Nat

/-- `vtf_cm_format_description`. -/
structure VideoFormat where
  codecType : UInt32
  width : Int32
  height : Int32
  nalHeaderLength : Int32
  parameterSets : List (List UInt8)
  deriving DecidableEq, Repr

/-- `vtf_cm_sample_buffer` and its block buffer. -/
structure SampleObject where
  data : List UInt8
  format : VideoFormat
  presentation : Time
  totalSampleSize : Nat
  notSync : Bool
  outputId : UInt64
  sourceImageBuffer : Option Nat
  refcount : Nat
  deriving DecidableEq, Repr

/-- `vtf_vt_session`.  A pending frame is an image buffer and a refcon. -/
structure SessionObject where
  proxyId : UInt64
  invalidated : Bool
  prepared : Bool
  outputCallback : Bool
  codecType : UInt32
  width : UInt32
  height : UInt32
  pixelFormat : UInt32
  pixelBufferPool : Option Nat
  pending : CellQueue (Nat × Nat)

/-- The part of the session that uploads and encodes look at. -/
def SessionObject.core (session : SessionObject) : CompressionSession where
  proxyId := session.proxyId
  invalidated := session.invalidated
  prepared := session.prepared
  pendingCount := session.pending.count

/-- What the environment variables of the shim select. -/
structure Config where
  outputPollInterval : Nat := 4
  outputBatchSize : Nat := maxOutputBatch
  deferOutputReleases : Bool := false
  outputReleaseBatchSize : Nat := maxOutputBatch
  /-- `vtf_requested_pool_buffer_count`. -/
  poolBufferCount : UInt32 := 4

namespace Config

/-- `vtf_output_batch_size`. -/
def batchSize (config : Config) : Nat :=
  min config.outputBatchSize maxOutputBatch

/-- `output_release_batch_size`. -/
def releaseBatchSize (config : Config) : Nat :=
  max 1 (min config.outputReleaseBatchSize maxOutputBatch)

end Config

/-- What a client does with pools, pixel buffers and samples. -/
inductive ClientCall where
  | createPool (width height pixelFormat : UInt32)
  | retainPool (pool : Nat)
  | releasePool (pool : Nat)
  | createPixelBuffer (pool : Nat)
  | retainPixelBuffer (buffer : Nat)
  | releasePixelBuffer (buffer : Nat)
  | retainSample (sample : Nat)
  | releaseSample (sample : Nat)
  deriving DecidableEq, Repr

/-- One invocation of the output callback: the pending frame it was given, if
there was one, and the sample. -/
structure Fired where
  frame : Option (Nat × Nat)
  outputId : UInt64
  sample : Nat
  deriving DecidableEq, Repr

/-- What happened to frames and outputs so far. -/
structure History where
  /-- Frames pushed on the pending queue. -/
  pushed : List (Nat × Nat) := []
  /-- Outputs the worker returned from dequeues. -/
  taken : List UInt64 := []
  /-- Invocations of the output callback. -/
  fired : List Fired := []
  /-- Outputs taken and given up when their delivery failed. -/
  dropped : List UInt64 := []

/-- The shim with one compression session. -/
structure Guest (State : Type) where
  caller : Caller State
  session : SessionObject
  pools : FiniteMap Nat PoolObject
  buffers : FiniteMap Nat PixelBufferObject
  samples : FiniteMap Nat SampleObject
  nextHandle : Nat
  /-- `DEFERRED_OUTPUT_RELEASES`. -/
  deferredReleases : List UInt64
  /-- What the client does in the next invocations of its callback. -/
  reactions : List (List ClientCall)
  history : History

namespace Guest

variable {State : Type} (send : Send State) (config : Config)

/-! ## Reference counts -/

def retainPool (pool : Nat) (guest : Guest State) : Guest State :=
  { guest with
    pools := guest.pools.modify pool fun object =>
      { object with refcount := object.refcount + 1 } }

def retainPixelBuffer (buffer : Nat) (guest : Guest State) : Guest State :=
  { guest with
    buffers := guest.buffers.modify buffer fun object =>
      { object with refcount := object.refcount + 1 } }

def retainSample (sample : Nat) (guest : Guest State) : Guest State :=
  { guest with
    samples := guest.samples.modify sample fun object =>
      { object with refcount := object.refcount + 1 } }

def setImageState (buffer : Nat) (state : ImageState) (guest : Guest State) :
    Guest State :=
  { guest with
    buffers := guest.buffers.modify buffer fun object =>
      { object with image := { object.image with state := state } } }

def finalizePool (pool : Nat) (object : PoolObject) (guest : Guest State) :
    Guest State :=
  let guest := { guest with pools := guest.pools.erase pool }
  if object.proxyId ≠ 0 then
    { guest with
      caller := (destroyBufferPool send object.proxyId guest.caller).1 }
  else guest

def releasePool (pool : Nat) (guest : Guest State) : Guest State :=
  match guest.pools.lookup pool with
  | none => guest
  | some object =>
    if object.refcount = 1 then guest.finalizePool send pool object
    else
      { guest with
        pools := guest.pools.insert pool
          { object with refcount := object.refcount - 1 } }

def recyclePixelBuffer (buffer : Nat) (guest : Guest State) : Guest State :=
  match guest.buffers.lookup buffer with
  | none => guest
  | some object =>
    if object.recycled then guest
    else
      match recycleBuffer send object.poolHostId object.image.proxyId
          object.image.hostGeneration guest.caller with
      | (caller, .ok ()) =>
        { guest with
          caller := caller
          buffers := guest.buffers.insert buffer
            { object with recycled := true } }
      | (caller, .error _) => { guest with caller := caller }

def finalizePixelBuffer (buffer : Nat) (object : PixelBufferObject)
    (guest : Guest State) : Guest State :=
  let guest := guest.recyclePixelBuffer send buffer
  let guest := { guest with buffers := guest.buffers.erase buffer }
  guest.releasePool send object.poolRef

def releasePixelBuffer (buffer : Nat) (guest : Guest State) : Guest State :=
  match guest.buffers.lookup buffer with
  | none => guest
  | some object =>
    if object.refcount = 1 then
      guest.finalizePixelBuffer send buffer object
    else
      { guest with
        buffers := guest.buffers.insert buffer
          { object with refcount := object.refcount - 1 } }

def flushDeferredReleases (guest : Guest State) : Guest State :=
  { guest with
    caller := (releaseChunks send (guest.deferredReleases.toChunks maxOutputBatch) guest.caller).1
    deferredReleases := [] }

/-- `release_output`, whose callers ignore its result. -/
def releaseOutput (outputId : UInt64) (guest : Guest State) : Guest State :=
  if config.deferOutputReleases then
    let guest :=
      { guest with deferredReleases := guest.deferredReleases ++ [outputId] }
    if config.releaseBatchSize ≤ guest.deferredReleases.length then
      guest.flushDeferredReleases send
    else guest
  else
    { guest with caller := (releaseOutputNow send outputId guest.caller).1 }

/-- The part of `vtf_finalize_sample_buffer` about the source image. -/
def finalizeSource (source : Option Nat) (guest : Guest State) :
    Guest State :=
  match source with
  | none => guest
  | some buffer =>
    (guest.setImageState buffer .guestWritable).releasePixelBuffer send buffer

def finalizeSample (sample : Nat) (object : SampleObject) (guest : Guest State) : Guest State :=
  let guest := { guest with samples := guest.samples.erase sample }
  let guest :=
    if object.outputId ≠ 0 then
      guest.releaseOutput send config object.outputId
    else guest
  guest.finalizeSource send object.sourceImageBuffer

def releaseSample (sample : Nat) (guest : Guest State) : Guest State :=
  match guest.samples.lookup sample with
  | none => guest
  | some object =>
    if object.refcount = 1 then
      guest.finalizeSample send config sample object
    else
      { guest with
        samples := guest.samples.insert sample
          { object with refcount := object.refcount - 1 } }

/-! ## Pools and pixel buffers -/

def addPool (poolId : UInt64) (guest : Guest State) : Guest State :=
  { guest with
    pools := guest.pools.insert guest.nextHandle
      { proxyId := poolId, refcount := 1 }
    nextHandle := guest.nextHandle + 1 }

/-- `CVPixelBufferPoolCreate`. -/
def createPool (width height pixelFormat : UInt32) (guest : Guest State) :
    Guest State :=
  match createBufferPool send
      { sessionId := 0
        bufferCount := 0
        pixelFormat := pixelFormat
        width := width
        height := height } guest.caller with
  | (caller, .ok poolId) => { guest with caller := caller }.addPool poolId
  | (caller, .error _) => { guest with caller := caller }

/-- The image of `vtf_create_pixel_buffer_from_lease`. -/
def leasedImage (lease : LeasedBuffer) : ImageBuffer where
  proxyId := lease.bufferId
  hostId := lease.bufferId
  hostGeneration := lease.generation
  state := .guestWritable
  mappedBackingActive := false
  totalSize := lease.totalSize.toNat
  backingStore := none
  backed := by
    intro bytes none
    cases none

def createPixelBuffer (pool : Nat) (guest : Guest State) : Guest State :=
  match guest.pools.lookup pool with
  | none => guest
  | some poolObject =>
    match allocBuffer send poolObject.proxyId guest.caller with
    | (caller, .error _) => { guest with caller := caller }
    | (caller, .ok lease) =>
      let guest := { guest with caller := caller }.retainPool pool
      { guest with
        buffers := guest.buffers.insert guest.nextHandle
          { image := leasedImage lease
            poolRef := pool
            poolHostId := poolObject.proxyId
            recycled := false
            refcount := 1 }
        nextHandle := guest.nextHandle + 1 }

def clientCall (guest : Guest State) : ClientCall → Guest State
  | .createPool width height pixelFormat =>
    guest.createPool send width height pixelFormat
  | .retainPool pool => guest.retainPool pool
  | .releasePool pool => guest.releasePool send pool
  | .createPixelBuffer pool => guest.createPixelBuffer send pool
  | .retainPixelBuffer buffer => guest.retainPixelBuffer buffer
  | .releasePixelBuffer buffer => guest.releasePixelBuffer send buffer
  | .retainSample sample => guest.retainSample sample
  | .releaseSample sample => guest.releaseSample send config sample

/-- The client's part of an invocation of its callback. -/
def react (guest : Guest State) : Guest State :=
  match guest.reactions with
  | [] => guest
  | calls :: later =>
    calls.foldl (clientCall send config) { guest with reactions := later }

end Guest

end Shim

end VtFerry
