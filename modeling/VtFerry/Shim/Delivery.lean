import VtFerry.Foundation.Execution
import VtFerry.Shim.Objects

/-!
# Delivery of encoded outputs to the client

`VTCompressionSessionEncodeFrame` and `VTCompressionSessionCompleteFrames`
with the collection of outputs: outputs are dequeued, one by one or in
batches, and each is read, paired with the oldest pending frame and given to
the client's callback.  The dequeue loop runs as long as the worker has
outputs, so it takes fuel; without any left a call has not returned.  A
deadline is the number of polls that are made before it passes.
-/

namespace VtFerry

namespace Shim

/-- The loop of `vtf_create_video_format_description`: the sets cut out of the
data, up to the first that is empty or does not fit. -/
def cutParameterSets : List UInt32 → List UInt8 → List (List UInt8)
  | [], _ => []
  | size :: sizes, data =>
    if size = 0 ∨ data.length < size.toNat then []
    else data.take size.toNat :: cutParameterSets sizes (data.drop size.toNat)

/-- The format description of an output; a reply without a codec has the
codec of the session. -/
def DequeuedOutput.format (output : DequeuedOutput) (codecType : UInt32) :
    VideoFormat where
  codecType := if output.codec ≠ 0 then output.codec else codecType
  width := output.width.toInt32
  height := output.height.toInt32
  nalHeaderLength := output.nalHeaderLength.toInt32
  parameterSets := cutParameterSets
    (output.parameterSetSizes.take (min output.parameterSetCount.toNat 4))
    output.parameterSetData

def encodeOutputFlagSync : UInt32 := 1

namespace Guest

variable {State : Type} (send : Send State) (config : Config)

/-! ## One output -/

/-- The pending frame of the next output, taken off the queue. -/
def popPending (guest : Guest State) : Option (Nat × Nat) × Guest State :=
  (guest.session.pending.pop.1,
    { guest with
      session :=
        { guest.session with pending := guest.session.pending.pop.2 } })

/-- The sample buffer of an output, which retains its source image; the
reference of the pending queue is released. -/
def makeSample (output : DequeuedOutput) (bytes : List UInt8)
    (source : Option Nat) (guest : Guest State) : Guest State :=
  let guest :=
    { guest with
      samples := guest.samples.insert guest.nextHandle
        { data := bytes.drop readOutputReplySize
          format := output.format guest.session.codecType
          presentation := output.presentation
          totalSampleSize := (sampleSizeOf bytes).toNat
          notSync := output.sampleFlags &&& encodeOutputFlagSync = 0
          outputId := output.outputId
          sourceImageBuffer := source
          refcount := 1 }
      nextHandle := guest.nextHandle + 1 }
  match source with
  | none => guest
  | some buffer =>
    (guest.retainPixelBuffer buffer).releasePixelBuffer send buffer

/-- The callback is invoked and the client reacts. -/
def invokeCallback (fired : Fired) (guest : Guest State) : Guest State :=
  { guest with
    history :=
      { guest.history with
        fired := guest.history.fired ++ [fired] } }.react send config

/-- After the callback the source image is recycled and marked writable. -/
def returnSource (source : Option Nat) (guest : Guest State) : Guest State :=
  match source with
  | none => guest
  | some buffer =>
    (guest.recyclePixelBuffer send buffer).setImageState buffer .guestWritable

def deliverOneOutput (output : DequeuedOutput) (guest : Guest State) :
    Guest State × Except Int32 Unit :=
  match readOutput send output.outputId guest.caller with
  | (caller, .error _) => ({ guest with caller := caller }, .error (-12902))
  | (caller, .ok bytes) =>
    let (frame, guest) := { guest with caller := caller }.popPending
    let source := frame.map Prod.fst
    let sample := guest.nextHandle
    let guest := guest.makeSample send output bytes source
    let guest := guest.invokeCallback send config
      { frame := frame, outputId := output.outputId, sample := sample }
    let guest := guest.returnSource send source
    (guest.releaseSample send config sample, .ok ())

/-! ## The dequeue loop -/

/-- The outputs of a dequeue, delivered one by one; the first failure gives up
the rest. -/
def deliverBatch :
    List DequeuedOutput → Guest State → Guest State × Except Int32 Unit
  | [], guest => (guest, .ok ())
  | output :: rest, guest =>
    match guest.deliverOneOutput send config output with
    | (guest, .error status) =>
      ({ guest with
         history :=
           { guest.history with
             dropped := guest.history.dropped ++ (output :: rest).map (·.outputId) } },
        .error status)
    | (guest, .ok ()) => guest.deliverBatch rest

/-- What a dequeue leaves. -/
def dequeued (caller : Caller State)
    (result : Except Int32 (List DequeuedOutput)) (guest : Guest State) :
    Guest State × Except Int32 (List DequeuedOutput) :=
  let taken :=
    match result with
    | .ok outputs => outputs.map (·.outputId)
    | .error _ => []
  ({ guest with
     caller := caller
     history :=
       { guest.history with taken := guest.history.taken ++ taken } },
    result)

def dequeueReadyOutputs (guest : Guest State) :
    Guest State × Except Int32 (List DequeuedOutput) :=
  let sessionId := guest.session.proxyId
  let single (caller : Caller State) :=
    let result := dequeueOutput send sessionId caller
    guest.dequeued result.1 (result.2.map fun output => [output])
  if config.batchSize > 1 then
    match dequeueOutputBatch send sessionId config.batchSize guest.caller with
    | (caller, .ok outputs) => guest.dequeued caller (.ok outputs)
    | (caller, .error status) =>
      if status ≠ Status.unsupportedOpcode.toInt32 then
        guest.dequeued caller (.error status)
      else single caller
  else single guest.caller

/-- `vtf_handle_dequeue_status`: whether to poll again, and how often then. -/
def handleDequeueStatus (polls : Option Nat) (status : Int32)
    (guest : Guest State) : Except Int32 (Option (Option Nat)) :=
  if status = Status.timeout.toInt32 then
    match polls with
    | none => .ok none
    | some polls =>
      if guest.session.pending.count = 0 then .ok none
      else
        match polls with
        | 0 => .error (-12902)
        | polls + 1 => .ok (some (some polls))
  else .error (-12902)

/-- The loop of `vtf_deliver_session_outputs`. -/
def deliverLoop : Nat → Option Nat → Nat → Guest State → Guest State × Option (Except Int32 Nat)
  | 0, _, _, guest => (guest, none)
  | fuel + 1, polls, delivered, guest =>
    match guest.dequeueReadyOutputs send config with
    | (guest, .ok []) => (guest, some (.ok delivered))
    | (guest, .ok (output :: rest)) =>
      match guest.deliverBatch send config (output :: rest) with
      | (guest, .error status) => (guest, some (.error status))
      | (guest, .ok ()) =>
        guest.deliverLoop fuel polls (delivered + (rest.length + 1))
    | (guest, .error status) =>
      match guest.handleDequeueStatus polls status with
      | .error status => (guest, some (.error status))
      | .ok none => (guest, some (.ok delivered))
      | .ok (some polls) => guest.deliverLoop fuel polls delivered

/-- `vtf_deliver_session_outputs`.  Nothing ever queues an encode, so
`vtf_flush_pending_encodes` returns at once. -/
def deliverSessionOutputs (fuel : Nat) (polls : Option Nat)
    (guest : Guest State) : Guest State × Option (Except Int32 Nat) :=
  if guest.session.outputCallback then
    guest.deliverLoop send config fuel polls 0
  else (guest, some (.ok 0))

/-! ## Entry points -/

/-- What `VTCompressionSessionEncodeFrame` leaves when it starts to collect
outputs, or returns before that. -/
def afterEncode (buffer refcon : Nat) (object : PixelBufferObject)
    (call : EncodeCall State) (guest : Guest State) : Guest State :=
  let queued := call.session.pendingCount ≠ guest.session.pending.count
  { guest with
    caller := call.caller
    session :=
      { guest.session with
        prepared := call.session.prepared
        pending :=
          if queued then guest.session.pending.push (buffer, refcon)
          else guest.session.pending }
    buffers := guest.buffers.insert buffer
      { object with
        image := { object.image with state := call.imageState }
        refcount :=
          if queued then object.refcount + 1 else object.refcount }
    history :=
      { guest.history with
        pushed :=
          if queued then guest.history.pushed ++ [(buffer, refcon)]
          else guest.history.pushed } }

/-- `VTCompressionSessionEncodeFrame`.  `memory` is false when the pending
queue cannot grow. -/
def encodeFrame (memory : Bool) (fuel : Nat) (buffer refcon : Nat)
    (presentation duration : Time) (guest : Guest State) :
    Guest State × Option Int32 :=
  match guest.buffers.lookup buffer with
  | none => (guest, some (-12902))
  | some object =>
    let call := compressionSessionEncodeFrame send memory guest.session.core
      object.image presentation duration guest.caller
    let guest := guest.afterEncode buffer refcon object call
    if call.status ≠ 0 then (guest, some call.status)
    else if config.outputPollInterval ≠ 0 ∧
        guest.session.pending.count % config.outputPollInterval = 0 then
      match guest.deliverSessionOutputs send config fuel none with
      | (guest, none) => (guest, none)
      | (guest, some (.ok _)) => (guest, some 0)
      | (guest, some (.error status)) => (guest, some status)
    else (guest, some 0)

def completeFrames (fuel polls : Nat) (guest : Guest State) :
    Guest State × Option Int32 :=
  if guest.session.invalidated then (guest, some (-12903))
  else
    match drain send guest.session.proxyId guest.caller with
    | (caller, .error _) => ({ guest with caller := caller }, some (-12902))
    | (caller, .ok reply) =>
      let guest := { guest with caller := caller }
      if !guest.session.outputCallback then
        (guest, some (if reply.sessionId = guest.session.proxyId then 0
          else -12902))
      else
        match guest.deliverSessionOutputs send config fuel (some polls) with
        | (guest, none) => (guest, none)
        | (guest, some (.ok _)) => (guest, some 0)
        | (guest, some (.error status)) => (guest, some status)

def getPixelBufferPool (guest : Guest State) : Guest State :=
  if guest.session.invalidated ∨ guest.session.pixelBufferPool.isSome then
    guest
  else
    match createBufferPool send
        { sessionId := guest.session.proxyId
          bufferCount := config.poolBufferCount
          pixelFormat := guest.session.pixelFormat
          width := guest.session.width
          height := guest.session.height } guest.caller with
    | (caller, .error _) => { guest with caller := caller }
    | (caller, .ok poolId) =>
      let pool := guest.nextHandle
      let guest := { guest with caller := caller }.addPool poolId
      { guest with
        session := { guest.session with pixelBufferPool := some pool } }

end Guest

/-- The calls of a client on one session and its objects. -/
inductive GuestCall where
  | client (call : ClientCall)
  | getPixelBufferPool
  | encodeFrame (memory : Bool) (fuel buffer refcon : Nat)
      (presentation duration : Time)
  | completeFrames (fuel polls : Nat)

namespace Guest

variable {State : Type} (send : Send State) (config : Config)

def step (guest : Guest State) : GuestCall → Guest State
  | .client call => guest.clientCall send config call
  | .getPixelBufferPool => guest.getPixelBufferPool send config
  | .encodeFrame memory fuel buffer refcon presentation duration =>
    (guest.encodeFrame send config memory fuel buffer refcon presentation duration).1
  | .completeFrames fuel polls => (guest.completeFrames send config fuel polls).1

/-- The guest after `VTCompressionSessionCreate` gave it a session. -/
def opened (caller : Caller State) (session : SessionObject)
    (reactions : List (List ClientCall)) : Guest State where
  caller := caller
  session := { session with
    invalidated := false
    prepared := false
    pixelBufferPool := none
    pending := .empty }
  pools := ∅
  buffers := ∅
  samples := ∅
  nextHandle := 0
  deferredReleases := []
  reactions := reactions
  history := {}

end Guest

end Shim

end VtFerry
