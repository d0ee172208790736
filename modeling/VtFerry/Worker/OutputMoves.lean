import VtFerry.Foundation.TicketPlaces
import VtFerry.Worker.ConnectionMoves
import VtFerry.Worker.VtReal.SessionEffects

/-!
# What an event does to the outputs of a connection

A request only takes outputs away, and an encoder callback goes through the
critical sections of its ticketed queue.  So an output that is stored or
queued after an event was so before, or a callback was at work on it; and a
callback was at work before, or begins with a frame in flight.  An output
that is stored stays until it is released or its session is destroyed.
-/

namespace VtFerry

open TicketQueue VtRealBackend

def Connection.traffic (connection : Connection) :
    Traffic Nat VtRealOutput where
  queue := connection.backend.outputState
  producers := connection.callbacks
  held := none
  pushed := []
  delivered := []

namespace Connection

def advanced (connection : Connection) (thread : Nat)
    (producer : Producer VtRealOutput) : Connection :=
  let result := advance OutputQueue.labels connection.backend.outputState producer
  { connection with
    backend := { connection.backend with outputState := result.1 }
    callbacks :=
      match result.2 with
      | some moved => connection.callbacks.insert thread moved
      | none => connection.callbacks.erase thread }

theorem advanced_change {connection : Connection} {thread : Nat} {producer : Producer VtRealOutput}
    (running : connection.callbacks.lookup thread = some producer) :
    ∃ changed, Traffic.Change OutputQueue.labels connection.traffic (.advance thread) changed ∧
      (connection.advanced thread producer).backend.outputState = changed.queue ∧
      (connection.advanced thread producer).callbacks =
        changed.producers := by
  have change := Traffic.step_change OutputQueue.labels connection.traffic (.advance thread)
  have found : connection.traffic.producers.lookup thread = some producer :=
    running
  simp only [Traffic.step, found] at change
  refine ⟨_, change, rfl, ?_⟩
  dsimp only [Traffic.advanceProducer, traffic, advanced]
  cases (advance OutputQueue.labels connection.backend.outputState producer).2
  · rfl
  · rfl

end Connection

theorem compressionOutput_lease {context : SessionCallbackContext}
    {frame : FrameContext} {sample : EncodedSample} {output : VtRealOutput}
    (made : compressionOutput context frame sample = some output) :
    output.lease = frame.lease := by
  obtain ⟨_, sourceId, sourceGeneration⟩ := compressionOutput_spec made
  rw [VtRealOutput.lease, FrameContext.lease, sourceId, sourceGeneration]

namespace WorkerProcess

/-- The encoder calls back with this output for a frame of the connection. -/
def Produces (process : WorkerProcess) (id : Nat) (event : WorkerEvent) (output : VtRealOutput) :
    Prop :=
  ∃ key flight sample, process.inFlight.lookup key = some flight ∧ flight.connection = id ∧
    compressionOutput flight.frame.context flight.frame.frame sample = some output ∧
    ∃ thread, event = .encoderCallback key thread sample

/-- How an event changes the encode queue of a connection. -/
inductive OutputMove (process : WorkerProcess) (id : Nat) (before : Connection)
    (event : WorkerEvent) (after : Connection) : Prop
  | served (callbacks : after.callbacks = before.callbacks)
      (queue : QueueAfter before.backend.outputState after.backend.outputState)
  | callback {queued : TicketQueue.Event Nat VtRealOutput}
      {changed : Traffic Nat VtRealOutput}
      (change : Traffic.Change OutputQueue.labels before.traffic queued changed)
      (queue : after.backend.outputState = changed.queue)
      (callbacks : after.callbacks = changed.producers)
      (starts : ∀ thread output, queued = .start thread output → process.Produces id event output)
      (advances : ∀ thread, queued = .advance thread → event = .callbackStep id thread)
      (own : queued.isConsumer = false)

variable {process : WorkerProcess} {id : Nat} {event : WorkerEvent}
variable {before after : Connection}

theorem ConnectionMove.outputs (move : ConnectionMove process id before event after) :
    process.OutputMove id before event after := by
  cases move with
  | @request host request response _ =>
    exact .served rfl (dispatch_effect host request response before.backend
      process.surfaces).queueAfter
  | buildPool _ =>
    refine .served rfl ?_
    rw [buildPool_outputState]
    exact .same
  | releaseSession _ _ => exact .served rfl (.removed _)
  | @encoderCallback key thread sample flight output flying mine made free =>
    refine .callback (.start free) rfl rfl ?_ (fun _ advances => nomatch advances) rfl
    rintro _ _ ⟨rfl⟩
    exact ⟨key, flight, sample, flying, mine, made, thread, rfl⟩
  | callbackStep running =>
    obtain ⟨_, change, queue, callbacks⟩ := Connection.advanced_change running
    refine .callback change queue callbacks (fun _ _ starts => nomatch starts) ?_ rfl
    rintro _ ⟨rfl⟩
    rfl
  | callbackFails running fails =>
    refine .callback (.abandon running ?_) rfl rfl (fun _ _ starts => nomatch starts)
      (fun _ advances => nomatch advances) rfl
    intro ticket stored
    simp [Producer.mayAbandon, stored] at fails
  | _ => exact .served rfl .same

namespace OutputMove

variable {ticket sessionId thread : Nat} {output : VtRealOutput}
variable {producer : Producer VtRealOutput}

theorem ofOutput (move : process.OutputMove id before event after)
    (found : after.backend.outputState.items.lookup ticket = some output) :
    before.backend.outputState.items.lookup ticket = some output ∨
      ∃ thread producer, before.callbacks.lookup thread = some producer ∧
        producer.item = output := by
  cases move with
  | served _ queue => exact .inl (queue.items found)
  | callback change queue _ _ _ _ =>
    rw [queue] at found
    exact (change.ofItem found).imp_right fun ⟨index, was, _⟩ =>
      ⟨index, _, was, rfl⟩

/-- A callback keeps its lease and its session, stamped or not. -/
theorem ofCallback (move : process.OutputMove id before event after)
    (found : after.callbacks.lookup thread = some producer) :
    (∃ earlier, before.callbacks.lookup thread = some earlier ∧
      producer.item.lease = earlier.item.lease ∧
      producer.item.reply.sessionId = earlier.item.reply.sessionId) ∨
    process.Produces id event producer.item := by
  cases move with
  | served callbacks _ =>
    rw [callbacks] at found
    exact .inl ⟨producer, found, rfl, rfl⟩
  | callback change _ callbacks starts _ _ =>
    rw [callbacks] at found
    rcases change.ofProducer found with old | ⟨item, started, rfl⟩ |
      ⟨item, was, rfl, _⟩ | ⟨item, ticket, was, rfl, _⟩
    · exact .inl ⟨producer, old, rfl, rfl⟩
    · exact .inr (starts _ item started)
    · exact .inl ⟨_, was, rfl, rfl⟩
    · exact .inl ⟨_, was, rfl, rfl⟩

theorem ofLane (move : process.OutputMove id before event after) {tickets : List Nat}
    (known : after.backend.outputState.lanes.lookup sessionId = some tickets) :
    (∃ earlier, before.backend.outputState.lanes.lookup sessionId = some earlier) ∨
    ∃ thread producer, before.callbacks.lookup thread = some producer ∧
      producer.item.reply.sessionId = sessionId := by
  cases move with
  | served _ queue => exact .inl (queue.lanes known)
  | callback change queue _ _ _ _ =>
    rw [queue] at known
    exact (change.ofLane known).imp_right fun ⟨index, _, item, was, lane⟩ =>
      ⟨index, _, was, lane⟩

end OutputMove

end WorkerProcess

/-! ## Stored outputs -/

namespace VtRealBackend

/-- What becomes of a stored output with a step that does not release it. -/
inductive OutputFate (before after : VtRealBackend) (ticket : Nat) (output : VtRealOutput) : Prop
  | kept (session : output.reply.sessionId ∈ before.sessions →
        output.reply.sessionId ∈ after.sessions)
      (found : after.outputState.items.lookup ticket = some output)
  | removed (live : output.reply.sessionId ∈ before.sessions)
      (destroyed : output.reply.sessionId ∉ after.sessions)
      (gone : after.outputState.items.lookup ticket = none)

variable {backend : VtRealBackend} {sessionId ticket : Nat} {output : VtRealOutput}

theorem removeSession_fate (live : (backend.sessions.lookup sessionId).isSome)
    (found : backend.outputState.items.lookup ticket = some output) :
    OutputFate backend (backend.removeSession sessionId) ticket output := by
  have lookup : (backend.removeSession sessionId).outputState.items.lookup ticket =
      (some output).filter fun output => output.reply.sessionId != sessionId := by
    dsimp only [removeSession]
    rw [FiniteMap.lookup_retain, found]
  by_cases own : output.reply.sessionId = sessionId
  · refine .removed (own ▸ AList.lookup_isSome.mp live) ?_ (by simp [lookup, own])
    exact fun left => (AList.mem_erase.mp left).1 own
  · exact .kept (fun known => AList.mem_erase.mpr ⟨own, known⟩) (by simp [lookup, own])

theorem Effect.outputFate {host : HostCalls} {source : List UInt8} {surfaces : Surfaces}
    {opcode : Option Opcode} {served : Served}
    (effect : Effect host source backend surfaces opcode served)
    (found : backend.outputState.items.lookup ticket = some output)
    (unreleased : ticket ∉ releasedOutputs opcode source) :
    OutputFate backend served.backend ticket output := by
  cases effect with
  | encodeOpened _ | prepared _ =>
    exact .kept (fun known => (AList.mem_insert _).mpr (.inr known)) found
  | entryClaimed _ _ _ _ build =>
    exact .kept (fun known => build.sameSessions.sessions ▸ known) (build.outputState ▸ found)
  | encodeDestroyed _ _ live =>
    cases removeSession_fate live found with
    | kept session found => exact .kept session found
    | removed live destroyed gone => exact .removed live destroyed gone
  | released _ _ others =>
    exact .kept (fun known => known) ((others ticket unreleased).trans found)
  | decodedDequeued dequeue =>
    cases dequeue with
    | _ => exact .kept (fun known => known) found
  | _ => exact .kept (fun known => known) found

end VtRealBackend

namespace WorkerProcess

variable {process : WorkerProcess} {id ticket : Nat} {event : WorkerEvent}
variable {before after : Connection} {output : VtRealOutput}

theorem ConnectionMove.located (move : ConnectionMove process id before event after)
    (located : before.traffic.Located) : after.traffic.Located := by
  cases move.outputs with
  | served callbacks queue =>
    exact located.fewer (Nat.le_of_eq queue.next.symm) callbacks queue.lane (.refl _)
  | callback change queue callbacks _ _ _ =>
    refine (located.after change).fewer (Nat.le_of_eq (congrArg _ queue.symm)) callbacks ?_
      (List.nil_sublist _)
    intro sessionId
    change (after.backend.outputState.lane sessionId).Sublist _
    rw [queue]
    exact List.sublist_append_right _ _

theorem accepted_located : Connection.accepted.traffic.Located :=
  Traffic.initial_located 50000

theorem run_located (surfaces : Surfaces) (events : List WorkerEvent) {connection : Connection}
    (isOpen : (Execution.run step (started surfaces) events).connections.lookup id =
      some connection) : connection.traffic.Located := by
  induction events using List.reverseRecOn generalizing connection with
  | nil => cases isOpen
  | append_singleton events event induction =>
    rw [Execution.run_append] at isOpen
    rcases step_connection _ event id connection isOpen with ⟨before, found, move⟩ | ⟨_, _, rfl⟩
    · exact move.located (induction found)
    · exact accepted_located

theorem ConnectionMove.past (move : ConnectionMove process id before event after)
    (past : before.traffic.Past ticket) : after.traffic.Past ticket := by
  cases move.outputs with
  | served callbacks queue => exact past.of_same queue.next callbacks
  | callback change queue callbacks _ _ _ =>
    exact (past.after change).of_same (congrArg _ queue) callbacks

theorem ConnectionMove.retired (move : ConnectionMove process id before event after)
    (retired : before.traffic.Retired ticket) : after.traffic.Retired ticket := by
  refine ⟨move.past retired.toPast, Option.eq_none_iff_forall_ne_some.mpr ?_⟩
  intro output found
  cases move.outputs with
  | served _ queue => cases retired.gone.symm.trans (queue.items found)
  | callback change queue _ _ _ _ =>
    change after.backend.outputState.items.lookup ticket = some output at found
    rw [queue] at found
    cases (retired.after change).gone.symm.trans found

def Releases (id ticket : Nat) (event : WorkerEvent) : Prop :=
  ∃ host request response, event = .request id host request response ∧
    ticket ∈ releasedOutputs (Opcode.ofCode? request.opcode) request.payload

theorem ConnectionMove.outputFate (move : ConnectionMove process id before event after)
    (past : before.traffic.Past ticket) (unreleased : ¬ Releases id ticket event)
    (found : before.backend.outputState.items.lookup ticket = some output) :
    OutputFate before.backend after.backend ticket output := by
  cases move with
  | request _ =>
    refine (dispatch_effect ..).outputFate found fun released => unreleased ?_
    exact ⟨_, _, _, rfl, released⟩
  | @buildPool host payload entryId pool _ =>
    have build := buildPool_cases host payload entryId pool before.backend
    exact .kept (fun known => build.sameSessions.sessions ▸ known) (build.outputState ▸ found)
  | releaseSession _ live => exact removeSession_fate live found
  | callbackStep running =>
    obtain ⟨_, change, queue, _⟩ := Connection.advanced_change running
    refine .kept (fun known => known) ((congrArg (·.items.lookup ticket) queue).trans ?_)
    exact change.kept found (fun equal => nomatch equal) past.unstored
  | _ => exact .kept (fun known => known) found

end WorkerProcess

end VtFerry
