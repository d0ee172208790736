import VtFerry.Worker.VtReal.Dispatch

/-!
# The worker process

Any number of connections, each with its own backend, share one directory of
surfaces and one encoder.  An event serves a whole request, or one of the
critical sections into which the directory lock cuts a pool request, or one
step of an encoder callback; an execution interleaves them in any order.
Events that are not enabled change nothing.  A frame is in flight from the
request that had it accepted by the encoder until its callback starts.
-/

namespace VtFerry

/-- Where a connection is inside a pool request. -/
inductive PoolWork where
  | idle
  /-- `CREATE_BUFFER_POOL` has claimed an entry. -/
  | building (payload : CreateBufferPoolPayload) (entryId : Nat)
      (pool : IOSurfacePool)
  /-- `DESTROY_BUFFER_POOL` has removed its pool and has entries to release. -/
  | releasing (entryIds : List Nat)
  /-- `DESTROY_SESSION` has released entries and has pools to remove. -/
  | sweeping (poolIds : List Nat)
  deriving DecidableEq, Repr

structure Connection where
  backend : VtRealBackend
  /-- Encoder callbacks at work on the backend's output queue, by thread. -/
  callbacks : FiniteMap Nat (TicketQueue.Producer VtRealOutput)
  work : PoolWork

namespace Connection

def accepted : Connection where
  backend := VtRealBackend.fresh
  callbacks := ∅
  work := .idle

end Connection

namespace VtRealBackend

/-- The directory entry and slot behind a buffer. -/
def slotOf (backend : VtRealBackend) (bufferId : Nat) :
    Option (Nat × Nat) :=
  (backend.buffers.lookup bufferId).bind fun buffer =>
    (backend.pools.lookup buffer.poolId).bind fun pool =>
      pool.iosurfaceEntryId.map fun entryId => (entryId, buffer.slotIndex)

end VtRealBackend

/-- A frame the encoder accepted, with the entry and slot it reads. -/
structure FrameInFlight where
  connection : Nat
  frame : EncoderFrame
  slot : Option (Nat × Nat)
  deriving DecidableEq, Repr

structure WorkerProcess where
  surfaces : Surfaces
  connections : FiniteMap Nat Connection
  nextConnection : Nat
  inFlight : FiniteMap Nat FrameInFlight
  nextFrame : Nat

inductive WorkerEvent where
  | connect
  | request (connection : Nat) (host : HostCalls) (request : Request)
      (response : List UInt8)
  /-- `CREATE_BUFFER_POOL` up to the end of its directory lock. -/
  | claimEntry (connection : Nat) (source : List UInt8)
  /-- The rest of `CREATE_BUFFER_POOL`. -/
  | buildPool (connection : Nat) (host : HostCalls)
  /-- `DESTROY_BUFFER_POOL` up to its directory lock. -/
  | detachPool (connection : Nat) (source : List UInt8)
  /-- The directory lock of `DESTROY_BUFFER_POOL`. -/
  | releaseDetached (connection : Nat)
  /-- `DESTROY_SESSION` up to the end of its directory lock. -/
  | releaseSession (connection : Nat) (source : List UInt8)
  /-- The rest of `DESTROY_SESSION`. -/
  | sweepPools (connection : Nat)
  /-- The encoder calls back for a frame in flight, on some thread. -/
  | encoderCallback (frame thread : Nat) (sample : EncodedSample)
  /-- The next critical section of a callback. -/
  | callbackStep (connection thread : Nat)
  /-- Copying the sample fails, and the callback returns. -/
  | callbackFails (connection thread : Nat)
  | decoderCallback (connection sessionId : Nat) (sample : DecodedSample)
  | disconnect (connection : Nat)

namespace WorkerProcess

def started (surfaces : Surfaces) : WorkerProcess where
  surfaces := surfaces
  connections := ∅
  nextConnection := 0
  inFlight := ∅
  nextFrame := 0

def setConnection (process : WorkerProcess) (id : Nat) (connection : Connection) : WorkerProcess :=
  { process with connections := process.connections.insert id connection }

def launch (id : Nat) (backend : VtRealBackend) :
    List EncoderFrame → WorkerProcess → WorkerProcess
  | [], process => process
  | frame :: frames, process =>
    launch id backend frames
      { process with
        inFlight := process.inFlight.insert process.nextFrame
          { connection := id
            frame := frame
            slot := backend.slotOf frame.frame.bufferId }
        nextFrame := process.nextFrame + 1 }

/-- The process after a connection served a request. -/
def afterServing (process : WorkerProcess) (id : Nat)
    (connection : Connection) (served : Served) : WorkerProcess :=
  launch id served.backend served.encoded
    { process.setConnection id { connection with backend := served.backend }
      with surfaces := served.surfaces }

def onConnection (process : WorkerProcess) (id : Nat)
    (act : Connection → WorkerProcess) : WorkerProcess :=
  match process.connections.lookup id with
  | none => process
  | some connection => act connection

def whenIdle (process : WorkerProcess) (id : Nat)
    (act : Connection → WorkerProcess) : WorkerProcess :=
  process.onConnection id fun connection =>
    if connection.work = .idle then act connection else process

/-! ## The critical sections of pool requests -/

def claimEntry (process : WorkerProcess) (id : Nat) (source : List UInt8)
    (connection : Connection) : WorkerProcess :=
  let payload := CreateBufferPoolPayload.read source
  if source.length < CreateBufferPoolPayload.size ∨
      connection.backend.sessionKnown payload.sessionId.toNat = false then
    process
  else
    match process.surfaces.directory.takeMatching (VtRealBackend.poolShape payload) with
    | (none, _) => process
    | (some (entryId, pool), directory) =>
      { process.setConnection id
          { connection with work := .building payload entryId pool }
        with surfaces := { process.surfaces with directory := directory } }

def buildPool (process : WorkerProcess) (id : Nat) (host : HostCalls)
    (connection : Connection) : WorkerProcess :=
  match connection.work with
  | .building payload entryId pool =>
    process.setConnection id
      { connection with
        backend := (VtRealBackend.buildPool host payload entryId pool connection.backend).1
        work := .idle }
  | _ => process

def detachPool (process : WorkerProcess) (id : Nat) (source : List UInt8)
    (connection : Connection) : WorkerProcess :=
  let poolId := (HandlePayload.read source).handle.toNat
  if source.length < HandlePayload.size ∨ connection.backend.pools.lookup poolId = none then process
  else
    process.setConnection id
      { connection with
        backend := connection.backend.removePools [poolId]
        work := .releasing (connection.backend.entriesOf [poolId]) }

def releaseDetached (process : WorkerProcess) (id : Nat)
    (connection : Connection) : WorkerProcess :=
  match connection.work with
  | .releasing entryIds =>
    { process.setConnection id { connection with work := .idle }
      with surfaces :=
        { process.surfaces with
          directory := process.surfaces.directory.releaseEntries entryIds } }
  | _ => process

def releaseSession (process : WorkerProcess) (id : Nat) (source : List UInt8)
    (connection : Connection) : WorkerProcess :=
  let sessionId := (HandlePayload.read source).handle.toNat
  if source.length < HandlePayload.size ∨
      (connection.backend.decodeSessions.lookup sessionId).isSome ∨
      connection.backend.sessions.lookup sessionId = none then process
  else
    let backend := connection.backend.removeSession sessionId
    let poolIds := backend.poolsOfSession sessionId
    { process.setConnection id
        { connection with backend := backend, work := .sweeping poolIds }
      with surfaces :=
        { process.surfaces with
          directory := process.surfaces.directory.releaseEntries (backend.entriesOf poolIds) } }

def sweepPools (process : WorkerProcess) (id : Nat) (connection : Connection) : WorkerProcess :=
  match connection.work with
  | .sweeping poolIds =>
    process.setConnection id
      { connection with
        backend := connection.backend.removePools poolIds
        work := .idle }
  | _ => process

/-! ## Codec callbacks -/

/-- The callback for a frame in flight starts: the frame is in flight no
longer, and a thread of its connection sets out to queue the output. -/
def encoderCallback (process : WorkerProcess) (key thread : Nat)
    (sample : EncodedSample) : WorkerProcess :=
  match process.inFlight.lookup key with
  | none => process
  | some flight =>
    let landed := { process with inFlight := process.inFlight.erase key }
    match process.connections.lookup flight.connection,
        compressionOutput flight.frame.context flight.frame.frame sample with
    | some connection, some output =>
      if (connection.callbacks.lookup thread).isSome then process
      else landed.setConnection flight.connection
        { connection with
          callbacks := connection.callbacks.insert thread
            { item := output, stage := .started } }
    | _, _ => landed

def callbackStep (process : WorkerProcess) (id thread : Nat)
    (connection : Connection) : WorkerProcess :=
  match connection.callbacks.lookup thread with
  | none => process
  | some producer =>
    let result := TicketQueue.advance OutputQueue.labels connection.backend.outputState producer
    process.setConnection id
      { connection with
        backend := { connection.backend with outputState := result.1 }
        callbacks :=
          match result.2 with
          | some moved => connection.callbacks.insert thread moved
          | none => connection.callbacks.erase thread }

def callbackFails (process : WorkerProcess) (id thread : Nat)
    (connection : Connection) : WorkerProcess :=
  match connection.callbacks.lookup thread with
  | none => process
  | some producer =>
    if producer.mayAbandon then
      process.setConnection id
        { connection with callbacks := connection.callbacks.erase thread }
    else process

/-- The decompression callback, run to its end. -/
def decoderCallback (process : WorkerProcess) (id sessionId : Nat)
    (sample : DecodedSample) (connection : Connection) : WorkerProcess :=
  let decoded := connection.backend.decodedOutputState
  let queued :=
    match decompressionOutput sessionId sample with
    | .error status => decoded.recordDecodeError sessionId status
    | .ok output =>
      { decoded with
        queue := (decoded.queue.drawTicket.store decoded.queue.next
          output).push sessionId decoded.queue.next }
  process.setConnection id
    { connection with
      backend := { connection.backend with decodedOutputState := queued } }

/-! ## The transition function -/

/-- The connection closes: its thread ends and drops the backend. -/
def disconnect (process : WorkerProcess) (id : Nat) (connection : Connection) : WorkerProcess :=
  { process with
    surfaces := connection.backend.drop process.surfaces
    connections := process.connections.erase id }

def step (process : WorkerProcess) : WorkerEvent → WorkerProcess
  | .connect =>
    { process.setConnection process.nextConnection .accepted
      with nextConnection := process.nextConnection + 1 }
  | .request id host request response =>
    process.whenIdle id fun connection =>
      process.afterServing id connection
        (connection.backend.dispatch host request response process.surfaces)
  | .claimEntry id source => process.whenIdle id (process.claimEntry id source)
  | .buildPool id host => process.onConnection id (process.buildPool id host)
  | .detachPool id source => process.whenIdle id (process.detachPool id source)
  | .releaseDetached id => process.onConnection id (process.releaseDetached id)
  | .releaseSession id source =>
    process.whenIdle id (process.releaseSession id source)
  | .sweepPools id => process.onConnection id (process.sweepPools id)
  | .encoderCallback key thread sample =>
    process.encoderCallback key thread sample
  | .callbackStep id thread =>
    process.onConnection id (process.callbackStep id thread)
  | .callbackFails id thread =>
    process.onConnection id (process.callbackFails id thread)
  | .decoderCallback id sessionId sample =>
    process.onConnection id (process.decoderCallback id sessionId sample)
  | .disconnect id => process.whenIdle id (process.disconnect id)

end WorkerProcess

end VtFerry
