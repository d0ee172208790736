import VtFerry.Worker.VtReal.Buffers

/-!
# Encoded outputs of the VideoToolbox backend

The requests that take outputs off the encode queue.  A dequeue pops output
ids in one critical section and looks the outputs up in the next; the source
buffers of what it returns become reusable.
-/

namespace VtFerry

namespace VtRealBackend

def markAllReusable (backend : VtRealBackend) (outputs : List VtRealOutput) :
    VtRealBackend :=
  outputs.foldl (fun backend output =>
      backend.markSourceBufferReusable output.sourceBufferId output.sourceBufferGeneration)
    backend

/-- `DEQUEUE_OUTPUT` and its batch form up to the end of the queue lock. -/
def popOutputs (backend : VtRealBackend) (sessionId count : Nat) :
    List Nat × VtRealBackend :=
  let result := backend.outputState.pop sessionId count
  (result.1, { backend with outputState := result.2 })

/-- The rest of `DEQUEUE_OUTPUT`. -/
def answerDequeue (backend : VtRealBackend) (surfaces : Surfaces) (outputIds : List Nat) : Served :=
  match (backend.outputState.collect outputIds).map Prod.snd with
  | [] => .plain backend surfaces Status.timeout
  | output :: _ =>
    .ok (backend.markAllReusable [output]) surfaces (.output output.reply)

/-- The rest of `DEQUEUE_OUTPUT_BATCH`. -/
def answerDequeueBatch (backend : VtRealBackend) (surfaces : Surfaces)
    (sessionId : Nat) (outputIds : List Nat) : Served :=
  let outputs := (backend.outputState.collect outputIds).map Prod.snd
  if outputs.isEmpty then .plain backend surfaces Status.timeout
  else
    .ok (backend.markAllReusable outputs) surfaces (.outputs sessionId (outputs.map (·.reply)))

def dequeueOutput (source : List UInt8) (backend : VtRealBackend) (surfaces : Surfaces) : Served :=
  if source.length < HandlePayload.size then
    .plain backend surfaces Status.internalFailure
  else
    let popped := backend.popOutputs (HandlePayload.read source).handle.toNat 1
    popped.2.answerDequeue surfaces popped.1

def dequeueOutputBatch (source : List UInt8) (backend : VtRealBackend)
    (surfaces : Surfaces) : Served :=
  if source.length < DequeueOutputBatchPayload.size then
    .plain backend surfaces Status.internalFailure
  else
    let payload := DequeueOutputBatchPayload.read source
    let popped := backend.popOutputs payload.sessionId.toNat
      (OutputQueue.batchLimit payload.maxOutputs)
    popped.2.answerDequeueBatch surfaces payload.sessionId.toNat popped.1

def readOutputReplySize : Nat := 16

def readOutput (source response : List UInt8) (backend : VtRealBackend)
    (surfaces : Surfaces) : Served :=
  if source.length < HandlePayload.size then
    .plain backend surfaces Status.internalFailure
  else
    let outputId := (HandlePayload.read source).handle.toNat
    match backend.outputState.items.lookup outputId with
    | none => .plain backend surfaces Status.invalidHandle
    | some output =>
      let sampleSize := output.reply.sampleSize
      if response.length < readOutputReplySize + sampleSize.toNat then
        .plain backend surfaces Status.internalFailure
      else
        .ok backend surfaces (.outputBytes outputId sampleSize output.storage)

def releaseOutputId (backend : VtRealBackend) (outputId : Nat) :
    VtRealBackend × UInt32 :=
  match backend.outputState.items.lookup outputId with
  | none => (backend, Status.invalidHandle)
  | some _ =>
    ({ backend with outputState := backend.outputState.discard outputId }, Status.ok)

def releaseOutput (source : List UInt8) (backend : VtRealBackend) (surfaces : Surfaces) : Served :=
  if source.length < HandlePayload.size then
    .plain backend surfaces Status.internalFailure
  else
    let (backend, status) :=
      backend.releaseOutputId (HandlePayload.read source).handle.toNat
    .plain backend surfaces status

/-- The loop of `RELEASE_OUTPUT_BATCH`: it stops at the first unknown id. -/
def releaseOutputIds : List UInt64 → VtRealBackend → VtRealBackend × UInt32
  | [], backend => (backend, Status.ok)
  | outputId :: rest, backend =>
    let (backend, status) := backend.releaseOutputId outputId.toNat
    if status ≠ Status.ok then (backend, status)
    else releaseOutputIds rest backend

def releaseOutputBatch (source : List UInt8) (backend : VtRealBackend)
    (surfaces : Surfaces) : Served :=
  if source.length < ReleaseOutputBatchPayload.size then
    .plain backend surfaces Status.internalFailure
  else
    let payload := ReleaseOutputBatchPayload.read source
    let outputCount := min payload.outputCount.toNat maxOutputBatch
    let (backend, status) :=
      releaseOutputIds (payload.outputIds.take outputCount) backend
    .plain backend surfaces status

/-- `DRAIN`: a decode session first, then an encode session. -/
def drain (host : HostCalls) (source : List UInt8) (backend : VtRealBackend)
    (surfaces : Surfaces) : Served :=
  if source.length < HandlePayload.size then
    .plain backend surfaces Status.internalFailure
  else
    let sessionId := (HandlePayload.read source).handle.toNat
    match backend.decodeSessions.lookup sessionId with
    | some session =>
      if session.vtSession.isSome && !host.drain then
        .plain backend surfaces Status.internalFailure
      else
        .ok backend surfaces (.drained sessionId
          (backend.decodedOutputState.queue.lane sessionId).length)
    | none =>
      match backend.sessions.lookup sessionId with
      | none => .plain backend surfaces Status.invalidHandle
      | some _ =>
        if !host.drain then
          .plain backend surfaces Status.internalFailure
        else
          .ok backend surfaces (.drained sessionId (backend.outputState.lane sessionId).length)

end VtRealBackend

end VtFerry
