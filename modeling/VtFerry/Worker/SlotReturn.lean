import VtFerry.Worker.FlightSafety
import VtFerry.Worker.VtReal.Returns

/-!
# Slots come back from the encoder

A buffer that is queued to the host comes back when the output of its frame is
dequeued.  As long as every callback produces an output, and no output is
released or removed with its session before it was dequeued, each queued
buffer has its frame in flight, in a callback or in an output queue.  So when
nothing is in flight and all queues are empty, no buffer is queued.
-/

namespace VtFerry

open Execution LeaseTable List

namespace Connection

variable {connection after : Connection} {lease : Lease} {poolId : Nat}

def sweeps (connection : Connection) : List Nat :=
  match connection.work with
  | .sweeping poolIds => poolIds
  | _ => []

def Uses (connection : Connection) (outputId : Nat) : Prop :=
  (∃ sessionId, outputId ∈ connection.backend.outputState.lane sessionId) ∨
    ∃ thread producer, connection.callbacks.lookup thread = some producer ∧
        producer.stage = .stored outputId

/-- An output under the lease is queued, or a callback will queue it. -/
inductive Awaits (connection : Connection) (lease : Lease) : Prop
  | callback (thread : Nat) (producer : TicketQueue.Producer VtRealOutput)
      (running : connection.callbacks.lookup thread = some producer)
      (stored : ∀ ticket, producer.stage = .stored ticket →
        connection.backend.outputState.items.lookup ticket = some producer.item)
      (same : producer.item.lease = lease)
  | queued (outputId : Nat) (output : VtRealOutput)
      (waits : outputId ∈ connection.backend.outputState.lane output.reply.sessionId)
      (stored : connection.backend.outputState.items.lookup outputId = some output)
      (same : output.lease = lease)

/-- The request releases no output that is used, and destroys no session with
outputs of surviving buffers. -/
structure Tidy (connection : Connection) (opcode : Option Opcode) (source : List UInt8) : Prop where
  released : ∀ outputId ∈ releasedOutputs opcode source, ¬ connection.Uses outputId
  settled : ∀ sessionId, destroyedSession opcode source = some sessionId →
    connection.backend.SettledSession sessionId

theorem Awaits.stays (awaits : connection.Awaits lease)
    (callbacks : after.callbacks = connection.callbacks)
    (stays : ∀ outputId output, connection.Uses outputId →
      connection.backend.outputState.items.lookup outputId = some output →
      output.lease = lease →
      VtRealBackend.StaysQueued connection.backend.outputState
        after.backend.outputState outputId output) :
    after.Awaits lease := by
  cases awaits with
  | callback thread producer running stored same =>
    refine .callback thread producer (callbacks ▸ running) ?_ same
    intro ticket stage
    have used : connection.Uses ticket :=
      .inr ⟨thread, producer, running, stage⟩
    exact (stays ticket producer.item used (stored ticket stage) same).1
  | queued outputId output waits stored same =>
    have kept := stays outputId output (.inl ⟨_, waits⟩) stored same
    exact .queued outputId output (kept.2 waits) kept.1 same

theorem Awaits.of_same (awaits : connection.Awaits lease)
    (callbacks : after.callbacks = connection.callbacks)
    (queue : after.backend.outputState = connection.backend.outputState) :
    after.Awaits lease :=
  awaits.stays callbacks fun _ _ _ stored _ =>
    VtRealBackend.staysQueued_of_same queue stored

variable {event : TicketQueue.Event Nat VtRealOutput}
variable {changed : TicketQueue.Traffic Nat VtRealOutput}

/-- An awaited output is awaited until it is dequeued: the last section of its
callback queues it. -/
theorem Awaits.change (awaits : connection.Awaits lease) (located : connection.traffic.Located)
    (change : TicketQueue.Traffic.Change OutputQueue.labels connection.traffic event changed)
    (queue : after.backend.outputState = changed.queue)
    (callbacks : after.callbacks = changed.producers)
    (goesOn : ∀ thread, event ≠ .abandon thread)
    (own : event.isConsumer = false) : after.Awaits lease := by
  have keeps (ticket : Nat) : event ≠ .discard ticket := by
    rintro rfl
    cases own
  cases awaits with
  | callback thread producer running stored same =>
    have kept {ticket : Nat} (ready : producer.stage = .stored ticket) :
        after.backend.outputState.items.lookup ticket =
          some producer.item := by
      rw [queue]
      obtain ⟨item, stage⟩ := producer
      cases ready
      exact change.kept (stored ticket rfl) (keeps ticket)
        (located.past_of_storing running).unstored
    cases change.fate running (goesOn thread) with
    | waits still =>
      rw [← callbacks] at still
      exact .callback thread producer still (fun _ => kept) same
    | draws drawn =>
      rw [← callbacks] at drawn
      exact .callback thread _ drawn (fun _ stored => by cases stored) same
    | stores moved filled =>
      rw [← callbacks] at moved
      refine .callback thread _ moved ?_ same
      rintro _ ⟨rfl⟩
      rw [queue]
      exact filled
    | @pushes ticket ready queued =>
      exact .queued ticket producer.item (queue ▸ queued) (kept ready) same
  | queued outputId output waits stored same =>
    refine .queued outputId output ?_ ?_ same
    · rw [queue]
      rcases change.lane own output.reply.sessionId with
        same | ⟨_, _, _, _, _, _, new⟩
      · rw [same]
        exact waits
      · rw [new]
        exact mem_append_left _ waits
    · rw [queue]
      exact change.kept stored (keeps outputId) (located.past_of_waiting waits).unstored

end Connection

namespace WorkerProcess

variable {process next : WorkerProcess} {id : Nat} {lease : Lease}

/-- The encoder has a frame of the connection under the lease. -/
def Flies (id : Nat) (lease : Lease) (process : WorkerProcess) : Prop :=
  ∃ key flight, process.inFlight.lookup key = some flight ∧
    flight.connection = id ∧ flight.frame.frame.lease = lease

/-- The steps with which every slot comes back: a callback for a frame whose
buffer is still queued makes an output and queues it, and outputs are dequeued
before they are released or their session is destroyed. -/
def ReturnsSlots (process : WorkerProcess) : WorkerEvent → Prop
  | .request id _ request _ => ∀ connection,
      process.connections.lookup id = some connection →
      connection.Tidy (Opcode.ofCode? request.opcode) request.payload
  | .releaseSession id source => ∀ connection,
      process.connections.lookup id = some connection →
      connection.backend.SettledSession (HandlePayload.read source).handle.toNat
  | .encoderCallback key _ sample => ∀ flight connection poolId,
      process.inFlight.lookup key = some flight →
      process.connections.lookup flight.connection = some connection →
      connection.backend.QueuedUnder flight.frame.frame.lease poolId →
      (compressionOutput flight.frame.context flight.frame.frame sample).isSome
  | .callbackFails id thread => ∀ connection producer poolId,
      process.connections.lookup id = some connection →
      connection.callbacks.lookup thread = some producer →
      connection.backend.QueuedUnder producer.item.lease poolId →
      producer.mayAbandon = false
  | _ => True

/-- Every queued buffer of a connection has its frame with the encoder or its
output on the way, unless its pool is being removed. -/
def ExpectsBuffers (process : WorkerProcess) (id : Nat) (connection : Connection) :
    Prop :=
  ∀ lease poolId, connection.backend.QueuedUnder lease poolId →
    poolId ∈ connection.sweeps ∨ process.Flies id lease ∨ connection.Awaits lease

def FlightsNumbered (process : WorkerProcess) : Prop :=
  ∀ key flight, process.inFlight.lookup key = some flight → key < process.nextFrame

structure Returning (process : WorkerProcess) : Prop where
  flights : process.FlightsNumbered
  connections : ∀ id connection, process.connections.lookup id = some connection →
    connection.traffic.Located ∧ process.ExpectsBuffers id connection

/-- The frames in flight are the same. -/
def SameFlights (process next : WorkerProcess) : Prop :=
  next.inFlight = process.inFlight ∧ next.nextFrame = process.nextFrame

/-- Only requests and encoder callbacks touch the frames in flight. -/
theorem Moves.sameFlights {event : WorkerEvent} (moves : process.Moves event next)
    (notRequest : ∀ target host request response, event ≠ .request target host request response)
    (notCallback : ∀ key thread sample, event ≠ .encoderCallback key thread sample) :
    process.SameFlights next := by
  cases moves with
  | serves => exact absurd rfl (notRequest _ _ _ _)
  | lands | takesOver => exact absurd rfl (notCallback _ _ _)
  | _ => exact ⟨rfl, rfl⟩

theorem SameFlights.flies (same : process.SameFlights next)
    (flies : process.Flies id lease) : next.Flies id lease := by
  obtain ⟨key, flight, flying, mine, under⟩ := flies
  rw [← same.1] at flying
  exact ⟨key, flight, flying, mine, under⟩

/-- Buffers, pools and the encode queue of the connection change as the move
allows, while its frames stay in flight. -/
theorem ConnectionMove.expects {event : WorkerEvent} {before after : Connection}
    (move : ConnectionMove process id before event after)
    (notRequest : ∀ target host request response, event ≠ .request target host request response)
    (notCallback : ∀ key thread sample, event ≠ .encoderCallback key thread sample)
    (found : process.connections.lookup id = some before)
    (returns : process.ReturnsSlots event)
    (flights : process.SameFlights next) (located : before.traffic.Located)
    (expected : process.ExpectsBuffers id before) :
    next.ExpectsBuffers id after := by
  intro lease poolId queued
  have carry (queued : before.backend.QueuedUnder lease poolId)
      (sweeps : poolId ∈ before.sweeps → poolId ∈ after.sweeps)
      (awaits : before.Awaits lease → after.Awaits lease) :
      poolId ∈ after.sweeps ∨ next.Flies id lease ∨ after.Awaits lease :=
    (expected lease poolId queued).imp sweeps (Or.imp flights.flies awaits)
  cases move with
  | unchanged => exact carry queued (fun swept => swept) fun waits => waits
  | request idle => exact absurd rfl (notRequest _ _ _ _)
  | claimEntry idle known _ =>
    exact carry queued (by simp [Connection.sweeps, idle]) (·.of_same rfl rfl)
  | @buildPool host payload entryId pool building =>
    refine carry ?_ (by simp [Connection.sweeps, building])
      (·.of_same rfl (VtRealBackend.buildPool_outputState ..))
    have outcome := VtRealBackend.buildPool_cases host payload entryId pool before.backend
    dsimp only at queued
    generalize VtRealBackend.buildPool host payload entryId pool
      before.backend = built at outcome queued
    cases outcome with
    | refused _ _ => exact queued
    | abandoned _ _ filled | built _ filled => exact queued.of_slots filled
  | detachPool idle known =>
    exact carry queued.of_removePools.1 (by simp [Connection.sweeps, idle]) (·.of_same rfl rfl)
  | releaseDetached releasing =>
    exact carry queued (by simp [Connection.sweeps, releasing]) (·.of_same rfl rfl)
  | @releaseSession source idle _ =>
    by_cases inSession : poolId ∈ before.backend.poolsOfSession
        (HandlePayload.read source).handle.toNat
    · exact .inl inSession
    · refine carry queued (by simp [Connection.sweeps, idle]) ?_
      intro waits
      refine waits.stays rfl ?_
      rintro outputId output _ stored rfl
      exact VtRealBackend.removeSession_stays (returns before found) queued inSession stored
  | sweepPools sweeping =>
    obtain ⟨was, kept⟩ := queued.of_removePools
    refine carry was ?_ (·.of_same rfl rfl)
    rw [Connection.sweeps, sweeping]
    exact fun swept => absurd swept kept
  | encoderCallback => exact absurd rfl (notCallback _ _ _)
  | callbackStep running =>
    obtain ⟨_, change, queue, callbacks⟩ := Connection.advanced_change running
    exact carry queued (fun swept => swept) (·.change located change queue
      callbacks (fun _ abandons => nomatch abandons) rfl)
  | @callbackFails thread producer running fails =>
    refine carry queued (fun swept => swept) fun awaits => ?_
    cases awaits with
    | callback other competitor runs stored same =>
      by_cases own : other = thread
      · subst own
        cases running.symm.trans runs
        exact absurd fails (by simp [returns before _ poolId found running (same ▸ queued)])
      · refine .callback other competitor ?_ stored same
        dsimp only
        rw [FiniteMap.lookup_erase_eq, if_neg own]
        exact runs
    | queued outputId output waits stored same => exact .queued outputId output waits stored same
  | decoderCallback => exact carry queued (fun swept => swept) (·.of_same rfl rfl)

/-! ## Requests and encoder callbacks -/

variable {target : Nat} {backend : VtRealBackend} {frames : List EncoderFrame}

theorem launch_flies {frame : EncoderFrame} (process : WorkerProcess) (member : frame ∈ frames) :
    (launch target backend frames process).Flies target
      frame.frame.lease := by
  obtain ⟨index, below, at_index⟩ := getElem_of_mem member
  refine ⟨process.nextFrame + index,
    ⟨target, frame, backend.slotOf frame.frame.bufferId⟩, ?_, rfl, rfl⟩
  rw [lookup_launch, if_pos (by omega), Nat.add_sub_cancel_left,
    getElem?_eq_getElem below, at_index]
  rfl

theorem launch_nextFrame (target : Nat) (backend : VtRealBackend)
    (frames : List EncoderFrame) (process : WorkerProcess) :
    (launch target backend frames process).nextFrame = process.nextFrame + frames.length := by
  induction frames generalizing process with
  | nil => rfl
  | cons frame frames induction =>
    rw [launch, induction, length_cons]
    dsimp only
    omega

theorem FlightsNumbered.launch (numbered : process.FlightsNumbered) :
    (launch target backend frames process).FlightsNumbered := by
  intro key flight flying
  rw [lookup_launch] at flying
  rw [launch_nextFrame]
  split at flying
  next inside => exact inside.2
  · exact Nat.lt_of_lt_of_le (numbered key flight flying) (Nat.le_add_right _ _)

theorem launch_keeps (numbered : process.FlightsNumbered) (flies : process.Flies id lease) :
    (launch target backend frames process).Flies id lease := by
  obtain ⟨key, flight, flying, mine, under⟩ := flies
  have below := numbered key flight flying
  refine ⟨key, flight, ?_, mine, under⟩
  rw [lookup_launch, if_neg]
  · exact flying
  · intro inside
    exact Nat.not_le.mpr below inside.1

/-- A request keeps all buffers expected for: the frames it has accepted are
in flight, and the outputs it dequeues free their buffers. -/
theorem request_returning (returning : process.Returning) (kept : process.Kept)
    {host : HostCalls} {request : Request} {response : List UInt8}
    (returns : process.ReturnsSlots (.request target host request response)) :
    (process.step (.request target host request response)).Returning := by
  apply whenIdle_cases returning
  intro connection found idle
  have numbered : FlightsNumbered { process.setConnection target
      { connection with
        backend := (connection.backend.dispatch host request response
          process.surfaces).backend } with
      surfaces := (connection.backend.dispatch host request response
        process.surfaces).surfaces } := returning.flights
  refine ⟨numbered.launch, ?_⟩
  intro id after isOpen
  rw [afterServing, launch_connections] at isOpen
  dsimp only [setConnection] at isOpen
  rw [FiniteMap.lookup_insert_eq] at isOpen
  split at isOpen
  next same =>
    subst same
    cases isOpen
    obtain ⟨located, expected⟩ := returning.connections id connection found
    have effect := VtRealBackend.dispatch_effect host request response
      connection.backend process.surfaces
    have move : ConnectionMove process id connection (.request id host request response) _ :=
      .request idle
    refine ⟨move.located located, ?_⟩
    intro lease poolId queued
    have tidy := returns connection found
    have named : connection.backend.Named := fun other buffer lookup =>
      ((kept.connections id connection found).backend.numbered other buffer lookup).1
    rcases effect.returns named tidy.settled queued with
      ⟨frame, member, rfl⟩ | ⟨was, stays⟩
    · exact .inr (.inl (launch_flies _ member))
    · rcases expected lease poolId was with swept | flies | waits
      · rw [Connection.sweeps, idle] at swept
        cases swept
      · exact .inr (.inl (launch_keeps numbered flies))
      · refine .inr (.inr (waits.stays rfl ?_))
        intro outputId output used stored same
        refine stays outputId output stored same ?_
        intro released
        exact tidy.released outputId released used
  · obtain ⟨located, expected⟩ := returning.connections id after isOpen
    refine ⟨located, ?_⟩
    intro lease poolId queued
    exact (expected lease poolId queued).imp_right (Or.imp_left (launch_keeps numbered))

variable {key : Nat}

theorem landed_flies {flight : FrameInFlight} (flying : process.inFlight.lookup key = some flight)
    (flies : process.Flies id lease) :
    Flies id lease
        { process with inFlight := process.inFlight.erase key } ∨
      flight.connection = id ∧ flight.frame.frame.lease = lease := by
  obtain ⟨other, later, stays, mine, under⟩ := flies
  by_cases same : other = key
  · subst same
    cases stays.symm.trans flying
    exact .inr ⟨mine, under⟩
  · refine .inl ⟨other, later, ?_, mine, under⟩
    dsimp only
    rw [FiniteMap.lookup_erase_eq, if_neg same]
    exact stays

theorem ExpectsBuffers.landed {flight : FrameInFlight}
    {connection : Connection} (expected : process.ExpectsBuffers id connection)
    (flying : process.inFlight.lookup key = some flight)
    (unqueued : flight.connection = id → ∀ poolId,
      ¬ connection.backend.QueuedUnder flight.frame.frame.lease poolId) :
    ExpectsBuffers { process with inFlight := process.inFlight.erase key } id
      connection := by
  intro lease poolId queued
  rcases expected lease poolId queued with swept | flies | waits
  · exact .inl swept
  · rcases landed_flies flying flies with stays | ⟨mine, under⟩
    · exact .inr (.inl stays)
    · exact absurd queued (under ▸ unqueued mine poolId)
  · exact .inr (.inr waits)

theorem accepted_expects (process : WorkerProcess) (id : Nat) :
    process.ExpectsBuffers id .accepted := by
  intro lease poolId queued
  obtain ⟨buffer, found, _⟩ := queued
  cases found

theorem encoderCallback_returning (returning : process.Returning)
    {thread : Nat} {sample : EncodedSample}
    (returns : process.ReturnsSlots (.encoderCallback key thread sample)) :
    (process.step (.encoderCallback key thread sample)).Returning := by
  have moves := process.step_moves (.encoderCallback key thread sample)
  generalize process.step (.encoderCallback key thread sample) = next at moves
  have numbered : FlightsNumbered
      { process with inFlight := process.inFlight.erase key } :=
    fun other later stays =>
      returning.flights other later (FiniteMap.lookup_of_erase stays)
  cases moves with
  | still => exact returning
  | sets within => cases within
  | lands flying lost =>
    refine ⟨numbered, ?_⟩
    intro id after isOpen
    refine (returning.connections id after isOpen).imp_right (·.landed flying ?_)
    rintro rfl poolId queued
    obtain ⟨output, made⟩ :=
      Option.isSome_iff_exists.mp (returns _ after poolId flying isOpen queued)
    exact lost after output isOpen made
  | @takesOver _ _ _ flight connection output flying found made free =>
    refine ⟨numbered, ?_⟩
    intro id after isOpen
    dsimp only [setConnection] at isOpen
    rw [FiniteMap.lookup_insert_eq] at isOpen
    split at isOpen
    next mine =>
      cases isOpen
      rw [← mine] at found
      obtain ⟨located, expected⟩ := returning.connections id connection found
      have move := ConnectionMove.encoderCallback flying mine.symm made free
      refine ⟨move.located located, ?_⟩
      intro lease poolId queued
      rcases expected lease poolId queued with swept | flies | waits
      · exact .inl swept
      · rcases landed_flies flying flies with stays | ⟨_, under⟩
        · exact .inr (.inl stays)
        · refine .inr (.inr (.callback thread ⟨output, .started⟩ ?_ ?_
            ((compressionOutput_lease made).trans under)))
          · simp
          · intro ticket stage
            cases stage
      · exact .inr (.inr (waits.change located (.start free) rfl rfl
          (fun _ abandons => nomatch abandons) rfl))
    next other =>
      refine (returning.connections id after isOpen).imp_right (·.landed flying ?_)
      exact fun mine => absurd mine.symm other

theorem Returning.step (returning : process.Returning) (kept : process.Kept)
    (event : WorkerEvent) (returns : process.ReturnsSlots event) :
    (process.step event).Returning := by
  have quiet (notRequest : ∀ target host request response,
        event ≠ .request target host request response)
      (notCallback : ∀ key thread sample, event ≠ .encoderCallback key thread sample) :
      (process.step event).Returning := by
    have flights := (process.step_moves event).sameFlights notRequest notCallback
    constructor
    · intro key flight flying
      rw [flights.1] at flying
      rw [flights.2]
      exact returning.flights key flight flying
    · intro id after isOpen
      rcases process.step_connection event id after isOpen with
        ⟨before, found, move⟩ | ⟨_, _, rfl⟩
      · obtain ⟨located, expected⟩ := returning.connections id before found
        exact ⟨move.located located, move.expects notRequest notCallback
          found returns flights located expected⟩
      · exact ⟨accepted_located, accepted_expects _ id⟩
  cases event with
  | request target host request response => exact request_returning returning kept returns
  | encoderCallback key thread sample => exact encoderCallback_returning returning returns
  | _ => exact quiet (by simp) (by simp)

theorem started_returning (surfaces : Surfaces) :
    (started surfaces).Returning where
  flights _ _ flying := by cases flying
  connections _ _ found := by cases found

/-- In every run of the worker whose steps return their slots: once no frame
of a connection is with the encoder, no callback is running and every output
queue is empty, none of its buffers is queued to the host. -/
theorem slots_come_back (surfaces : Surfaces) (events : List WorkerEvent)
    (returns : Execution.Obeys step ReturnsSlots (started surfaces) events)
    (id : Nat) (connection : Connection)
    (isOpen : (run step (started surfaces) events).connections.lookup id = some connection)
    (idle : connection.work = .idle)
    (landed : ∀ key flight, (run step (started surfaces)
      events).inFlight.lookup key = some flight → flight.connection ≠ id)
    (returned : ∀ thread, connection.callbacks.lookup thread = none)
    (dequeued : ∀ sessionId, connection.backend.outputState.lane sessionId = []) :
    ∀ bufferId buffer, connection.backend.buffers.lookup bufferId = some buffer →
      buffer.state = .recycled ∨ buffer.state = .guestWritable := by
  intro bufferId buffer found
  have preserved : ∀ process event, Kept process ∧ process.Returning → process.ReturnsSlots event →
      (process.step event).Kept ∧ (process.step event).Returning := by
    intro process event both returns
    exact ⟨both.1.step event, both.2.step both.1 event returns⟩
  have reached := invariant_of_obeys preserved
    ⟨started_kept surfaces, started_returning surfaces⟩ returns
  have expected := (reached.2.connections id connection isOpen).2
  cases state : buffer.state with
  | recycled => exact .inl rfl
  | guestWritable => exact .inr rfl
  | queuedToHost =>
    exfalso
    rcases expected ⟨bufferId, buffer.generation⟩ buffer.poolId
        ⟨buffer, found, rfl, rfl, state⟩ with
      swept | ⟨key, flight, flying, mine, _⟩ | waits
    · rw [Connection.sweeps, idle] at swept
      cases swept
    · exact landed key flight flying mine
    · cases waits with
      | callback thread producer running _ _ =>
        rw [returned thread] at running
        cases running
      | queued outputId output waits _ _ =>
        rw [dequeued] at waits
        cases waits

/-! ## Runs with one frame -/

def oneByteSample : EncodedSample where
  status := 0
  data := some [1]
  timing := ⟨0, 600, 600, 1⟩
  format := none
  sync := true

def dequeueRequest (sessionId : UInt64) : Request where
  opcode := Opcode.dequeueOutput.code
  payload := LittleEndian.u64Bytes sessionId

def oneFrameDequeued : List WorkerEvent :=
  oneFrameInFlight ++ [.encoderCallback 0 0 oneByteSample, .callbackStep 0 0,
      .callbackStep 0 0, .callbackStep 0 0,
      .request 0 {} (dequeueRequest 4) []]

def QueuesBuffer (process : WorkerProcess) (id : Nat) : Prop :=
  ∃ connection bufferId buffer, process.connections.lookup id = some connection ∧
      connection.backend.buffers.lookup bufferId = some buffer ∧
      buffer.state = .queuedToHost

theorem tidy_of_other {connection : Connection} {opcode : Option Opcode}
    {source : List UInt8} (released : releasedOutputs opcode source = [])
    (destroyed : destroyedSession opcode source = none) :
    connection.Tidy opcode source := by
  constructor
  · rw [released]
    exact fun _ member => absurd member not_mem_nil
  · rw [destroyed]
    exact fun _ named => nomatch named

theorem lane_eq_nil_of_all {queue : OutputQueue}
    (all : queue.lanes.entries.all (fun entry => entry.2.isEmpty) = true)
    (sessionId : Nat) : queue.lane sessionId = [] := by
  unfold TicketQueue.lane
  cases known : queue.lanes.lookup sessionId with
  | none => rfl
  | some tickets =>
    have member := FiniteMap.lookup_eq_some_iff.mp known
    exact isEmpty_iff.mp (all_eq_true.mp all _ member)

theorem dequeued_slot_comes_back :
    (run step twoSlotStart oneFrameInFlight).QueuesBuffer 0 ∧
    ¬ (run step twoSlotStart oneFrameDequeued).QueuesBuffer 0 := by
  have returns : Execution.Obeys step ReturnsSlots twoSlotStart
      oneFrameDequeued := by
    refine ⟨trivial, ?_, ?_, ?_, ?_, ?_, ?_, trivial, trivial, trivial, ?_, trivial⟩
    iterate 5
      · exact fun _ _ => tidy_of_other rfl rfl
    · intro flight connection poolId flying _ _
      cases flying
      rfl
    · exact fun _ _ => tidy_of_other rfl rfl
  refine ⟨⟨_, 3, _, rfl, rfl, rfl⟩, ?_⟩
  rintro ⟨connection, bufferId, buffer, isOpen, found, state⟩
  have back := slots_come_back _ oneFrameDequeued returns 0 connection isOpen
  cases isOpen
  have returned := back rfl (fun _ _ flying => by cases flying)
    (fun _ => rfl) (lane_eq_nil_of_all rfl) bufferId buffer found
  rw [state] at returned
  rcases returned with recycled | writable
  · cases recycled
  · cases writable

/-- A callback with an error status leaves the buffer queued: nothing is in
flight, no callback runs and all queues are empty. -/
theorem failed_callback_keeps_slot :
    let process := run step twoSlotStart (oneFrameInFlight ++
        [.encoderCallback 0 0 { oneByteSample with status := -12902 }])
    (∀ key, process.inFlight.lookup key = none) ∧ ∃ connection,
        process.connections.lookup 0 = some connection ∧
        connection.work = .idle ∧
        (∀ thread, connection.callbacks.lookup thread = none) ∧
        (∀ sessionId, connection.backend.outputState.lane sessionId = []) ∧
        ∃ buffer, connection.backend.buffers.lookup 3 = some buffer ∧
          buffer.state = .queuedToHost := by
  intro process
  exact ⟨fun _ => rfl, _, rfl, rfl, fun _ => rfl, fun _ => rfl, _, rfl, rfl⟩

end WorkerProcess

end VtFerry
