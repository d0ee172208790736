import VtFerry.Foundation.TicketQueue
import VtFerry.Protocol.Payload
import VtFerry.Worker.Layout

/-!
# Output queues and codec callbacks

What the codec callbacks make of a finished frame and the queues they put it
in.  Both queues are ticketed queues: the encode queue numbers its outputs
from 50000, the decode queue from 70000 and keeps, per session, the last
decode error that has no output.  Handles and ids are unbounded numbers: the
source only compares and increments them.
-/

namespace VtFerry

namespace Codec

/-- `'avc1'` -/
def avc1 : UInt32 := 0x61766331
/-- `'hvc1'` -/
def hvc1 : UInt32 := 0x68766331

end Codec

/-- `DequeueOutputReply`; the parameter-set arrays are given by their used
parts, so `parameter_set_count` is the length of `parameterSetSizes`. -/
structure DequeueOutputReply where
  sessionId : Nat
  outputId : Nat
  codec : UInt32
  width : UInt32
  height : UInt32
  pixelFormat : UInt32
  timing : Timing
  sampleSize : UInt32
  sampleFlags : UInt32
  nalHeaderLength : UInt32
  parameterSetSizes : List UInt32
  parameterSetData : List UInt8
  deriving DecidableEq, Repr

structure VtRealOutput where
  reply : DequeueOutputReply
  sourceBufferId : Nat
  sourceBufferGeneration : Nat
  /-- The bytes of `VtRealOutputStorage::Inline`. -/
  storage : List UInt8
  deriving DecidableEq, Repr

structure SessionCallbackContext where
  sessionId : Nat
  codec : UInt32
  pixelFormat : UInt32
  width : UInt32
  height : UInt32
  deriving DecidableEq, Repr

structure FrameContext where
  bufferId : Nat
  bufferGeneration : Nat
  deriving DecidableEq, Repr

/-- What the format description of a sample answers. -/
structure FormatParameterSets where
  probeStatus : Int32
  nalHeaderLength : Int32
  /-- One entry per index; `none` when fetching that set fails. -/
  sets : List (Option (List UInt8))
  deriving DecidableEq, Repr

/-- What the encoder hands to the compression callback. -/
structure EncodedSample where
  status : Int32
  /-- `none` for a null sample buffer or data buffer. -/
  data : Option (List UInt8)
  timing : Timing
  format : Option FormatParameterSets
  /-- The sample carries `NotSync = false`. -/
  sync : Bool
  deriving DecidableEq, Repr

/-- The loop that packs parameter sets until one is missing or does not fit. -/
def packParameterSets :
    List (Option (List UInt8)) → List UInt32 → List UInt8 → List UInt32 × List UInt8
  | [], sizes, data => (sizes, data)
  | none :: _, sizes, data => (sizes, data)
  | some set :: rest, sizes, data =>
    if data.length + set.length > maxParameterSetBytes then (sizes, data)
    else packParameterSets rest (sizes ++ [UInt32.ofNat set.length]) (data ++ set)

/-- The output `vtf_vt_compression_output_callback` makes of a sample, or
`none` where it returns before drawing an output id. -/
def compressionOutput (context : SessionCallbackContext)
    (frame : FrameContext) (sample : EncodedSample) : Option VtRealOutput :=
  if sample.status ≠ 0 then none
  else
    match sample.data with
    | none => none
    | some bytes =>
      if bytes.length = 0 then none
      else
        let fetched : Option FormatParameterSets :=
          if context.codec = Codec.avc1 ∨ context.codec = Codec.hvc1 then
            sample.format.filter fun format => format.probeStatus = 0
          else none
        let packed : List UInt32 × List UInt8 :=
          match fetched with
          | none => ([], [])
          | some format =>
            packParameterSets (format.sets.take maxParameterSets) [] []
        some
          { reply :=
              { sessionId := context.sessionId
                outputId := 0
                codec := context.codec
                width := context.width
                height := context.height
                pixelFormat := context.pixelFormat
                timing := sample.timing
                sampleSize := UInt32.ofNat bytes.length
                sampleFlags := if sample.sync then 1 else 0
                nalHeaderLength :=
                  match fetched with
                  | none => 0
                  | some format => format.nalHeaderLength.toUInt32
                parameterSetSizes := packed.1
                parameterSetData := packed.2 }
            sourceBufferId := frame.bufferId
            sourceBufferGeneration := frame.bufferGeneration
            storage := bytes }

theorem compressionOutput_spec {context : SessionCallbackContext}
    {frame : FrameContext} {sample : EncodedSample} {output : VtRealOutput}
    (made : compressionOutput context frame sample = some output) :
    output.reply.sessionId = context.sessionId ∧ output.sourceBufferId = frame.bufferId ∧
      output.sourceBufferGeneration = frame.bufferGeneration := by
  unfold compressionOutput at made
  split at made
  · cases made
  split at made
  · cases made
  split at made
  · cases made
  · cases made
    exact ⟨rfl, rfl, rfl⟩

abbrev OutputQueue := TicketQueue Nat VtRealOutput

namespace OutputQueue

def new : OutputQueue where
  items := ∅
  lanes := ∅
  next := 50000

/-- An output goes to the queue of its session and carries its own id. -/
def labels : TicketQueue.Labels Nat VtRealOutput where
  laneOf output := output.reply.sessionId
  stamp id output :=
    { output with reply := { output.reply with outputId := id } }
  laneOf_stamp _ _ := rfl

def batchLimit (maxOutputs : UInt32) : Nat :=
  max (min maxOutputs.toNat maxOutputBatch) 1

end OutputQueue

structure VtRealDecodedOutput where
  sessionId : Nat
  timing : Timing
  status : Int32
  imageBuffer : PixelBuffer
  deriving DecidableEq, Repr

/-- What the decoder hands to the decompression callback. -/
structure DecodedSample where
  status : Int32
  imageBuffer : Option PixelBuffer
  timing : Timing
  deriving DecidableEq, Repr

/-- `vtf_vt_decompression_output_callback`: the output to enqueue, or the
error to record. -/
def decompressionOutput (sessionId : Nat) (sample : DecodedSample) :
    Except Int32 VtRealDecodedOutput :=
  match sample.imageBuffer with
  | none => .error (if sample.status ≠ 0 then sample.status else -12911)
  | some image =>
    if sample.status ≠ 0 then .error sample.status
    else .ok
      { sessionId := sessionId
        timing := sample.timing
        status := sample.status
        imageBuffer := image }

theorem decompressionOutput_session {sessionId : Nat}
    {sample : DecodedSample} {output : VtRealDecodedOutput}
    (made : decompressionOutput sessionId sample = .ok output) :
    output.sessionId = sessionId := by
  unfold decompressionOutput at made
  split at made
  · cases made
  split at made
  · cases made
  · cases made
    rfl

structure DecodedOutputQueue where
  queue : TicketQueue Nat VtRealDecodedOutput
  decodeErrors : FiniteMap Nat Int32

namespace DecodedOutputQueue

def new : DecodedOutputQueue where
  queue := { items := ∅, lanes := ∅, next := 70000 }
  decodeErrors := ∅

def labels : TicketQueue.Labels Nat VtRealDecodedOutput where
  laneOf output := output.sessionId
  stamp _ output := output
  laneOf_stamp _ _ := rfl

def recordDecodeError (state : DecodedOutputQueue) (sessionId : Nat)
    (status : Int32) : DecodedOutputQueue :=
  if status = 0 then state
  else { state with decodeErrors := state.decodeErrors.insert sessionId status }

def takeDecodeError (state : DecodedOutputQueue) (sessionId : Nat) :
    Option Int32 × DecodedOutputQueue :=
  (state.decodeErrors.lookup sessionId,
    { state with decodeErrors := state.decodeErrors.erase sessionId })

end DecodedOutputQueue

end VtFerry
