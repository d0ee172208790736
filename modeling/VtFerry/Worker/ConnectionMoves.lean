import VtFerry.Worker.EntryTransfers

/-!
# What an event does to one connection

`Moves` lists everything an event can do to the process, and `ConnectionMove`
what becomes of the one connection it changes.  `step_connection` says where
the record of an open connection comes from, `step_flight` where a frame in
flight comes from.
-/

namespace VtFerry

/-- The decode queue after the decompression callback ran on a sample. -/
def DecodedOutputQueue.received (decoded : DecodedOutputQueue)
    (sessionId : Nat) (sample : DecodedSample) : DecodedOutputQueue :=
  match decompressionOutput sessionId sample with
  | .error status => decoded.recordDecodeError sessionId status
  | .ok output =>
    { decoded with
      queue := (decoded.queue.drawTicket.store decoded.queue.next
        output).push sessionId decoded.queue.next }

/-- The event changes the record of one connection and nothing else. -/
def WorkerEvent.isLocal : WorkerEvent → Bool
  | .buildPool _ _ | .detachPool _ _ | .sweepPools _ => true
  | .callbackStep _ _ | .callbackFails _ _ | .decoderCallback _ _ _ => true
  | _ => false

namespace WorkerProcess

variable (process : WorkerProcess) (id : Nat) (before : Connection)

/-- How the record of connection `id` changes with an event. -/
inductive ConnectionMove : WorkerEvent → Connection → Prop
  | unchanged {event : WorkerEvent} :
      ConnectionMove event before
  | request {host : HostCalls} {request : Request} {response : List UInt8}
      (idle : before.work = .idle) :
      ConnectionMove (.request id host request response)
        { before with
          backend := (before.backend.dispatch host request response process.surfaces).backend }
  | claimEntry {source : List UInt8} {entryId : Nat} {pool : IOSurfacePool}
      {directory : IOSurfacePoolDirectory} (idle : before.work = .idle)
      (known : before.backend.sessionKnown
        (CreateBufferPoolPayload.read source).sessionId.toNat = true)
      (taken : process.surfaces.directory.takeMatching
        (VtRealBackend.poolShape (CreateBufferPoolPayload.read source)) =
          (some (entryId, pool), directory)) :
      ConnectionMove (.claimEntry id source)
        { before with
          work := .building (CreateBufferPoolPayload.read source) entryId pool }
  | buildPool {host : HostCalls} {payload : CreateBufferPoolPayload}
      {entryId : Nat} {pool : IOSurfacePool}
      (building : before.work = .building payload entryId pool) :
      ConnectionMove (.buildPool id host)
        { before with
          backend := (VtRealBackend.buildPool host payload entryId pool before.backend).1
          work := .idle }
  | detachPool {source : List UInt8} {pool : VtRealPool}
      (idle : before.work = .idle)
      (known : before.backend.pools.lookup (HandlePayload.read source).handle.toNat = some pool) :
      ConnectionMove (.detachPool id source)
        { before with
          backend := before.backend.removePools [(HandlePayload.read source).handle.toNat]
          work := .releasing (before.backend.entriesOf [(HandlePayload.read source).handle.toNat]) }
  | releaseDetached {entryIds : List Nat}
      (releasing : before.work = .releasing entryIds) :
      ConnectionMove (.releaseDetached id)
        { before with work := .idle }
  | releaseSession {source : List UInt8} (idle : before.work = .idle)
      (live : (before.backend.sessions.lookup (HandlePayload.read source).handle.toNat).isSome) :
      ConnectionMove (.releaseSession id source)
        { before with
          backend := before.backend.removeSession (HandlePayload.read source).handle.toNat
          work := .sweeping ((before.backend.removeSession
            (HandlePayload.read source).handle.toNat).poolsOfSession
              (HandlePayload.read source).handle.toNat) }
  | sweepPools {poolIds : List Nat}
      (sweeping : before.work = .sweeping poolIds) :
      ConnectionMove (.sweepPools id)
        { before with
          backend := before.backend.removePools poolIds
          work := .idle }
  | encoderCallback {key thread : Nat} {sample : EncodedSample}
      {flight : FrameInFlight} {output : VtRealOutput}
      (flying : process.inFlight.lookup key = some flight)
      (mine : flight.connection = id)
      (made : compressionOutput flight.frame.context flight.frame.frame sample = some output)
      (free : before.callbacks.lookup thread = none) :
      ConnectionMove (.encoderCallback key thread sample)
        { before with
          callbacks := before.callbacks.insert thread
            { item := output, stage := .started } }
  | callbackStep {thread : Nat}
      {producer : TicketQueue.Producer VtRealOutput}
      (found : before.callbacks.lookup thread = some producer) :
      ConnectionMove (.callbackStep id thread)
        { before with
          backend :=
            { before.backend with
              outputState := (TicketQueue.advance OutputQueue.labels
                before.backend.outputState producer).1 }
          callbacks :=
            match (TicketQueue.advance OutputQueue.labels
                before.backend.outputState producer).2 with
            | some moved => before.callbacks.insert thread moved
            | none => before.callbacks.erase thread }
  | callbackFails {thread : Nat}
      {producer : TicketQueue.Producer VtRealOutput}
      (found : before.callbacks.lookup thread = some producer)
      (fails : producer.mayAbandon = true) :
      ConnectionMove (.callbackFails id thread)
        { before with callbacks := before.callbacks.erase thread }
  | decoderCallback {sessionId : Nat} {sample : DecodedSample} :
      ConnectionMove (.decoderCallback id sessionId sample)
        { before with
          backend :=
            { before.backend with
              decodedOutputState :=
                before.backend.decodedOutputState.received sessionId sample } }

/-- Where the record `after` of connection `id` comes from. -/
def Comes (process : WorkerProcess) (event : WorkerEvent) (id : Nat) (after : Connection) : Prop :=
  (∃ before, process.connections.lookup id = some before ∧
    ConnectionMove process id before event after) ∨
  (id = process.nextConnection ∧ event = .connect ∧ after = .accepted)

variable {process id before} {next : WorkerProcess} {event : WorkerEvent}
variable {after : Connection}

theorem comes_of_same (found : process.connections.lookup id = some after) :
    process.Comes event id after :=
  Or.inl ⟨after, found, .unchanged⟩

variable {target : Nat}

theorem comes_of_set {set : Connection}
    (found : process.connections.lookup target = some before)
    (connections : next.connections = process.connections.insert target set)
    (move : ConnectionMove process target before event set)
    (isOpen : next.connections.lookup id = some after) :
    process.Comes event id after := by
  rw [connections, FiniteMap.lookup_insert_eq] at isOpen
  split at isOpen
  next same =>
    cases isOpen
    rw [same]
    exact Or.inl ⟨before, found, move⟩
  · exact comes_of_same isOpen

/-! ## Every event -/

variable {backend : VtRealBackend} {frames : List EncoderFrame}

theorem launch_eq :
    launch id backend frames process =
      { process with
        inFlight := (launch id backend frames process).inFlight
        nextFrame := (launch id backend frames process).nextFrame } := by
  induction frames generalizing process with
  | nil => rfl
  | cons frame frames induction => exact induction

@[simp] theorem launch_connections :
    (launch id backend frames process).connections = process.connections := by
  rw [launch_eq]

@[simp] theorem launch_surfaces :
    (launch id backend frames process).surfaces = process.surfaces := by
  rw [launch_eq]

@[simp] theorem launch_nextConnection :
    (launch id backend frames process).nextConnection = process.nextConnection := by
  rw [launch_eq]

variable {motive : WorkerProcess → Prop} {act : Connection → WorkerProcess}

theorem onConnection_cases (same : motive process)
    (acts : ∀ connection, process.connections.lookup id = some connection →
      motive (act connection)) :
    motive (process.onConnection id act) := by
  unfold onConnection
  cases found : process.connections.lookup id with
  | none => exact same
  | some connection => exact acts connection found

theorem whenIdle_cases (same : motive process)
    (acts : ∀ connection, process.connections.lookup id = some connection →
      connection.work = .idle → motive (act connection)) :
    motive (process.whenIdle id act) := by
  apply onConnection_cases same
  intro connection found
  split
  next idle => exact acts connection found idle
  · exact same

/-- Everything an event can do. -/
inductive Moves (process : WorkerProcess) :
    WorkerEvent → WorkerProcess → Prop
  | still {event : WorkerEvent} : Moves process event process
  | connects : Moves process .connect (process.step .connect)
  | serves {id : Nat} {host : HostCalls} {request : Request}
      {response : List UInt8} {connection : Connection}
      (found : process.connections.lookup id = some connection)
      (idle : connection.work = .idle) :
      Moves process (.request id host request response) (process.afterServing id connection
          (connection.backend.dispatch host request response process.surfaces))
  | claims {id : Nat} {source : List UInt8} {connection : Connection}
      {entryId : Nat} {pool : IOSurfacePool}
      {directory : IOSurfacePoolDirectory}
      (found : process.connections.lookup id = some connection)
      (idle : connection.work = .idle)
      (known : connection.backend.sessionKnown
        (CreateBufferPoolPayload.read source).sessionId.toNat = true)
      (taken : process.surfaces.directory.takeMatching
        (VtRealBackend.poolShape (CreateBufferPoolPayload.read source)) =
          (some (entryId, pool), directory)) :
      Moves process (.claimEntry id source)
        { process.setConnection id
            { connection with
              work := .building (CreateBufferPoolPayload.read source) entryId pool }
          with surfaces := { process.surfaces with directory := directory } }
  | sets {event : WorkerEvent} {id : Nat} {before after : Connection}
      (within : event.isLocal = true)
      (found : process.connections.lookup id = some before)
      (move : ConnectionMove process id before event after) :
      Moves process event (process.setConnection id after)
  | releases {id : Nat} {connection : Connection} {entryIds : List Nat}
      (found : process.connections.lookup id = some connection)
      (releasing : connection.work = .releasing entryIds) :
      Moves process (.releaseDetached id)
        { process.setConnection id { connection with work := .idle }
          with surfaces :=
            { process.surfaces with
              directory := process.surfaces.directory.releaseEntries entryIds } }
  | sweeps {id : Nat} {source : List UInt8} {connection : Connection}
      {sessionId : Nat} (named : (HandlePayload.read source).handle.toNat = sessionId)
      (found : process.connections.lookup id = some connection)
      (idle : connection.work = .idle)
      (live : (connection.backend.sessions.lookup sessionId).isSome) :
      Moves process (.releaseSession id source)
        { process.setConnection id
            { connection with
              backend := connection.backend.removeSession sessionId
              work := .sweeping ((connection.backend.removeSession
                sessionId).poolsOfSession sessionId) }
          with surfaces :=
            { process.surfaces with
              directory := process.surfaces.directory.releaseEntries
                ((connection.backend.removeSession sessionId).entriesOf
                  ((connection.backend.removeSession sessionId).poolsOfSession sessionId)) } }
  /-- A frame is dropped, or its connection has closed. -/
  | lands {key thread : Nat} {sample : EncodedSample}
      {flight : FrameInFlight}
      (flying : process.inFlight.lookup key = some flight)
      (lost : ∀ connection output, process.connections.lookup flight.connection = some connection →
        compressionOutput flight.frame.context flight.frame.frame sample ≠ some output) :
      Moves process (.encoderCallback key thread sample)
        { process with inFlight := process.inFlight.erase key }
  | takesOver {key thread : Nat} {sample : EncodedSample}
      {flight : FrameInFlight} {connection : Connection}
      {output : VtRealOutput}
      (flying : process.inFlight.lookup key = some flight)
      (found : process.connections.lookup flight.connection = some connection)
      (made : compressionOutput flight.frame.context flight.frame.frame sample = some output)
      (free : connection.callbacks.lookup thread = none) :
      Moves process (.encoderCallback key thread sample)
        (setConnection { process with inFlight := process.inFlight.erase key } flight.connection
          { connection with
            callbacks := connection.callbacks.insert thread
              { item := output, stage := .started } })
  | disconnects {id : Nat} {connection : Connection}
      (found : process.connections.lookup id = some connection)
      (idle : connection.work = .idle) :
      Moves process (.disconnect id) (process.disconnect id connection)

theorem encoderCallback_moves (process : WorkerProcess) (key thread : Nat)
    (sample : EncodedSample) :
    process.Moves (.encoderCallback key thread sample)
      (process.encoderCallback key thread sample) := by
  unfold encoderCallback
  split
  · exact .still
  next flight flying =>
    dsimp only
    split
    next connection output found made =>
      split
      · exact .still
      next free =>
        rw [Bool.not_eq_true, Option.isSome_eq_false_iff, Option.isNone_iff_eq_none] at free
        exact .takesOver flying found made free
    next lost => exact .lands flying lost

theorem step_moves (process : WorkerProcess) (event : WorkerEvent) :
    process.Moves event (process.step event) := by
  have still {event : WorkerEvent} : process.Moves event process := .still
  cases event with
  | connect => exact .connects
  | request target host request response =>
    apply whenIdle_cases still
    exact fun connection found idle => .serves found idle
  | claimEntry target source =>
    apply whenIdle_cases still
    intro connection found idle
    unfold claimEntry
    dsimp only
    split
    · exact still
    next checked =>
      have known := (not_or.mp checked).2
      rw [Bool.not_eq_false] at known
      split
      · exact still
      next taken => exact .claims found idle known taken
  | buildPool target host =>
    apply onConnection_cases still
    intro connection found
    unfold buildPool
    split
    next building => exact .sets rfl found (.buildPool building)
    · exact still
  | detachPool target source =>
    apply whenIdle_cases still
    intro connection found idle
    unfold detachPool
    dsimp only
    split
    · exact still
    next enabled =>
      obtain ⟨pool, known⟩ := Option.ne_none_iff_exists'.mp (not_or.mp enabled).2
      exact .sets rfl found (.detachPool idle known)
  | releaseDetached target =>
    apply onConnection_cases still
    intro connection found
    unfold releaseDetached
    split
    next releasing => exact .releases found releasing
    · exact still
  | releaseSession target source =>
    apply whenIdle_cases still
    intro connection found idle
    unfold releaseSession
    dsimp only
    split
    · exact still
    next live =>
      simp only [not_or] at live
      exact .sweeps rfl found idle (Option.isSome_iff_ne_none.mpr live.2.2)
  | sweepPools target =>
    apply onConnection_cases still
    intro connection found
    unfold sweepPools
    split
    next sweeping => exact .sets rfl found (.sweepPools sweeping)
    · exact still
  | encoderCallback key thread sample =>
    exact process.encoderCallback_moves key thread sample
  | callbackStep target thread =>
    apply onConnection_cases still
    intro connection found
    unfold callbackStep
    split
    · exact still
    next producer running => exact .sets rfl found (.callbackStep running)
  | callbackFails target thread =>
    apply onConnection_cases still
    intro connection found
    unfold callbackFails
    split
    · exact still
    next producer running =>
      split
      next fails => exact .sets rfl found (.callbackFails running fails)
      · exact still
  | decoderCallback target sessionId sample =>
    apply onConnection_cases still
    exact fun connection found => .sets rfl found .decoderCallback
  | disconnect target =>
    apply whenIdle_cases still
    exact fun connection found idle => .disconnects found idle

theorem Moves.comes (moves : process.Moves event next)
    (isOpen : next.connections.lookup id = some after) :
    process.Comes event id after := by
  cases moves with
  | still | lands => exact comes_of_same isOpen
  | connects =>
    dsimp only [step, setConnection] at isOpen
    rw [FiniteMap.lookup_insert_eq] at isOpen
    split at isOpen
    next same =>
      cases isOpen
      exact Or.inr ⟨same, rfl, rfl⟩
    · exact comes_of_same isOpen
  | serves found idle =>
    exact comes_of_set found (launch_connections ..) (.request idle) isOpen
  | claims found idle known taken =>
    exact comes_of_set found rfl (.claimEntry idle known taken) isOpen
  | sets _ found move => exact comes_of_set found rfl move isOpen
  | releases found releasing =>
    exact comes_of_set found rfl (.releaseDetached releasing) isOpen
  | sweeps named found idle live =>
    subst named
    exact comes_of_set found rfl (.releaseSession idle live) isOpen
  | takesOver flying found made free =>
    exact comes_of_set found rfl (.encoderCallback flying rfl made free) isOpen
  | disconnects =>
    dsimp only [disconnect] at isOpen
    exact comes_of_same (FiniteMap.lookup_of_erase isOpen)

theorem step_connection (process : WorkerProcess) (event : WorkerEvent)
    (id : Nat) (after : Connection)
    (isOpen : (process.step event).connections.lookup id = some after) :
    process.Comes event id after :=
  (process.step_moves event).comes isOpen

/-! ## Frames in flight -/

/-- The event is a request that had the frame accepted. -/
def Launches (process : WorkerProcess) (event : WorkerEvent) (flight : FrameInFlight) : Prop :=
  ∃ host request response connection, event = .request flight.connection host request response ∧
    process.connections.lookup flight.connection = some connection ∧
    connection.work = .idle ∧
    flight.frame ∈ (connection.backend.dispatch host request response process.surfaces).encoded ∧
    flight.slot = (connection.backend.dispatch host request response
      process.surfaces).backend.slotOf flight.frame.frame.bufferId

theorem launch_inFlight {key : Nat} {flight : FrameInFlight}
    (flying : (launch target backend frames process).inFlight.lookup key = some flight) :
    process.inFlight.lookup key = some flight ∨
      (flight.connection = target ∧ flight.frame ∈ frames ∧
        flight.slot = backend.slotOf flight.frame.frame.bufferId) := by
  induction frames generalizing process with
  | nil => exact Or.inl flying
  | cons frame frames induction =>
    rcases induction flying with earlier | ⟨mine, accepted, slot⟩
    · dsimp only at earlier
      rw [FiniteMap.lookup_insert_eq] at earlier
      split at earlier
      · cases earlier
        exact Or.inr ⟨rfl, List.mem_cons_self, rfl⟩
      · exact Or.inl earlier
    · exact Or.inr ⟨mine, List.mem_cons_of_mem _ accepted, slot⟩

/-- Every frame in flight in `next` was so before or was just launched, and
connections are numbered on. -/
structure KeepsFlights (process : WorkerProcess) (event : WorkerEvent)
    (next : WorkerProcess) : Prop where
  nextConnection : process.nextConnection ≤ next.nextConnection
  comes : ∀ key flight, next.inFlight.lookup key = some flight →
    process.inFlight.lookup key = some flight ∨ process.Launches event flight

theorem keepsFlights_of_same (nextConnection : process.nextConnection ≤ next.nextConnection)
    (same : next.inFlight = process.inFlight) :
    process.KeepsFlights event next := by
  refine ⟨nextConnection, ?_⟩
  intro key flight flying
  rw [same] at flying
  exact Or.inl flying

theorem Moves.keepsFlights (moves : process.Moves event next) :
    process.KeepsFlights event next := by
  cases moves with
  | connects => exact keepsFlights_of_same (Nat.le_succ _) rfl
  | serves found idle =>
    refine ⟨?_, ?_⟩
    · rw [afterServing, launch_nextConnection]
      exact Nat.le_refl _
    intro key flight flying
    rcases launch_inFlight flying with earlier | ⟨rfl, accepted, slot⟩
    · exact Or.inl earlier
    · exact Or.inr ⟨_, _, _, _, rfl, found, idle, accepted, slot⟩
  | lands | takesOver =>
    exact ⟨Nat.le_refl _, fun _ _ flying =>
      Or.inl (FiniteMap.lookup_of_erase flying)⟩
  | _ => exact keepsFlights_of_same (Nat.le_refl _) rfl

theorem step_flight (process : WorkerProcess) (event : WorkerEvent) :
    process.KeepsFlights event (process.step event) :=
  (process.step_moves event).keepsFlights

end WorkerProcess

end VtFerry
