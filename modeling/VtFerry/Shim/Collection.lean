import VtFerry.Shim.Upload

/-!
# Collecting encoded outputs: the transport

The transport wrappers that take encoded outputs from the worker and give
leases, outputs and pools back.  Replies are read from their bytes at the
offsets of the protocol's records; a reply that is shorter than its record is
an error.
-/

namespace VtFerry

open LittleEndian

namespace Shim

/-- `DequeueOutputReply`, as far as the guest reads it. -/
structure DequeuedOutput where
  outputId : UInt64
  codec : UInt32
  width : UInt32
  height : UInt32
  presentation : Time
  sampleFlags : UInt32
  parameterSetCount : UInt32
  nalHeaderLength : UInt32
  parameterSetSizes : List UInt32
  parameterSetData : List UInt8
  deriving DecidableEq, Repr

namespace DequeuedOutput

def size : Nat := 232

def read (source : List UInt8) : DequeuedOutput where
  outputId := u64At source 8
  codec := u32At source 16
  width := u32At source 20
  height := u32At source 24
  presentation :=
    { value := i64At source 32
      timescale := i32At source 40 }
  sampleFlags := u32At source 60
  parameterSetCount := u32At source 64
  nalHeaderLength := u32At source 68
  parameterSetSizes := (List.range maxParameterSets).map fun index =>
    u32At source (72 + index * 4)
  parameterSetData := (source.drop 88).take maxParameterSetBytes

end DequeuedOutput

def outputBatchReplySize : Nat :=
  16 + maxOutputBatch * DequeuedOutput.size

def outputCount (source : List UInt8) : UInt32 :=
  u32At source 8

def batchedOutputs (source : List UInt8) : List DequeuedOutput :=
  (List.range (min (outputCount source).toNat maxOutputBatch)).map fun index =>
    DequeuedOutput.read (source.drop (16 + index * DequeuedOutput.size))

/-- `DrainReply`, of which only the session is read. -/
structure DrainReply where
  sessionId : UInt64
  deriving DecidableEq, Repr

namespace DrainReply

def size : Nat := 16

def read (source : List UInt8) : DrainReply where
  sessionId := u64At source 0

end DrainReply

/-- The size of `ReadOutputReply`, and the `sample_size` in it. -/
def readOutputReplySize : Nat := 16

def sampleSizeOf (source : List UInt8) : UInt32 :=
  u32At source 8

/-- `AllocBufferReply`, as far as a pixel buffer proxy is made from it. -/
structure LeasedBuffer where
  bufferId : UInt64
  generation : UInt64
  totalSize : UInt32
  deriving DecidableEq, Repr

namespace LeasedBuffer

def size : Nat := 112

def read (source : List UInt8) : LeasedBuffer where
  bufferId := u64At source 0
  generation := u64At source 8
  totalSize := u32At source 44

end LeasedBuffer

variable {State : Type} (send : Send State)

/-- `send_request`: a reply that is too short is an error. -/
def sendRequest {Reply : Type} (size : Nat) (read : List UInt8 → Reply)
    (request : Request) (caller : Caller State) :
    Caller State × Except Int32 Reply :=
  match sendRequestBytes send request caller with
  | (caller, .error status) => (caller, .error status)
  | (caller, .ok bytes) =>
    if bytes.length < size then (caller, .error (-12902))
    else (caller, .ok (read bytes))

def handleRequest (opcode : Opcode) (handle : UInt64) : Request where
  opcode := opcode.code
  payload := u64Bytes handle

def batchRequest (sessionId : UInt64) (maxOutputs : Nat) : Request where
  opcode := Opcode.dequeueOutputBatch.code
  payload := u64Bytes sessionId ++ (u32Bytes (UInt32.ofNat maxOutputs) ++ u32Bytes 0)

def dequeueOutput (sessionId : UInt64) (caller : Caller State) :
    Caller State × Except Int32 DequeuedOutput :=
  sendRequest send DequeuedOutput.size DequeuedOutput.read
    (handleRequest .dequeueOutput sessionId) caller

def dequeueOutputBatch (sessionId : UInt64) (maxOutputs : Nat) (caller : Caller State) :
    Caller State × Except Int32 (List DequeuedOutput) :=
  sendRequest send outputBatchReplySize batchedOutputs (batchRequest sessionId maxOutputs) caller

/-- `read_output`: the whole reply. -/
def readOutput (outputId : UInt64) (caller : Caller State) :
    Caller State × Except Int32 (List UInt8) :=
  sendRequest send readOutputReplySize id (handleRequest .readOutput outputId) caller

def drain (sessionId : UInt64) (caller : Caller State) :
    Caller State × Except Int32 DrainReply :=
  sendRequest send DrainReply.size DrainReply.read (handleRequest .drain sessionId) caller

def recycleRequest (poolId bufferId generation : UInt64) : Request where
  opcode := Opcode.recycleBuffer.code
  payload := u64Bytes poolId ++ (u64Bytes bufferId ++ u64Bytes generation)

def recycleBuffer (poolId bufferId generation : UInt64)
    (caller : Caller State) : Caller State × Except Int32 Unit :=
  sendUnit send (recycleRequest poolId bufferId generation) caller

def allocBuffer (poolId : UInt64) (caller : Caller State) :
    Caller State × Except Int32 LeasedBuffer :=
  sendRequest send LeasedBuffer.size LeasedBuffer.read (handleRequest .allocBuffer poolId) caller

def destroyBufferPool (poolId : UInt64) (caller : Caller State) :
    Caller State × Except Int32 Unit :=
  sendUnit send (handleRequest .destroyBufferPool poolId) caller

def releaseOutputNow (outputId : UInt64) (caller : Caller State) :
    Caller State × Except Int32 Unit :=
  sendUnit send (handleRequest .releaseOutput outputId) caller

/-- The loop over ids of `release_output_batch_now`: the first error ends
it. -/
def releaseOutputsNow :
    List UInt64 → Caller State → Caller State × Except Int32 Unit
  | [], caller => (caller, .ok ())
  | outputId :: rest, caller =>
    match releaseOutputNow send outputId caller with
    | (caller, .error status) => (caller, .error status)
    | (caller, .ok ()) => releaseOutputsNow rest caller

def releaseBatchRequest (outputIds : List UInt64) : Request where
  opcode := Opcode.releaseOutputBatch.code
  payload := u32Bytes (UInt32.ofNat outputIds.length) ++ (u32Bytes 0 ++
    (outputIds.flatMap u64Bytes ++ List.replicate (8 * (maxOutputBatch - outputIds.length)) 0))

def releaseOutputBatchNow (outputIds : List UInt64)
    (caller : Caller State) : Caller State × Except Int32 Unit :=
  if outputIds.isEmpty then (caller, .ok ())
  else
    match sendUnit send (releaseBatchRequest outputIds) caller with
    | (caller, .ok ()) => (caller, .ok ())
    | (caller, .error status) =>
      if status = Status.unsupportedOpcode.toInt32 then
        releaseOutputsNow send outputIds caller
      else (caller, .error status)

/-- The loop over chunks of `flush_deferred_output_releases`. -/
def releaseChunks :
    List (List UInt64) → Caller State → Caller State × Except Int32 Unit
  | [], caller => (caller, .ok ())
  | chunk :: rest, caller =>
    match releaseOutputBatchNow send chunk caller with
    | (caller, .error status) => (caller, .error status)
    | (caller, .ok ()) => releaseChunks rest caller

/-! ## Pools -/

/-- The sizes of `CreateBufferPoolReply` and of its compact form. -/
def poolReplySize : Nat :=
  104 + maxPoolSlots * 296 + maxPoolSlots * 32

def compactPoolReplySize : Nat :=
  112 + maxPoolSlots * 32

def compactPoolReplyFormat : UInt32 := 1

def poolPayloadBytes (payload : CreateBufferPoolPayload) : List UInt8 :=
  u64Bytes payload.sessionId ++ (u32Bytes payload.bufferCount ++
    (u32Bytes payload.pixelFormat ++ (u32Bytes payload.width ++
      (u32Bytes payload.height ++ (u32Bytes 0 ++ u32Bytes 0)))))

/-- `create_buffer_pool`: the id of the new pool. -/
def createBufferPool (payload : CreateBufferPoolPayload)
    (caller : Caller State) : Caller State × Except Int32 UInt64 :=
  match sendRequestBytes send ⟨Opcode.createBufferPool.code, poolPayloadBytes payload⟩ caller with
  | (caller, .error status) => (caller, .error status)
  | (caller, .ok bytes) =>
    if poolReplySize ≤ bytes.length then (caller, .ok (u64At bytes 0))
    else if compactPoolReplySize ≤ bytes.length ∧ u32At bytes 32 = compactPoolReplyFormat then
      (caller, .ok (u64At bytes 0))
    else (caller, .error Status.internalFailure.toInt32)

end Shim

end VtFerry
