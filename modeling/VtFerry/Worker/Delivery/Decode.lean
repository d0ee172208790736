import VtFerry.Worker.Delivery.Order
import VtFerry.Worker.VtReal.Effects

/-!
# Delivery of decoded frames

The decode side of one backend: decompression callbacks on any number of
threads, cut into the critical sections of `enqueue`, and the requests of the
connection.  A callback without a frame records an error instead, which a
dequeue reports once its session's queue is empty.  Like the encode side, the
model refines a ticketed queue.
-/

namespace VtFerry

open Execution TicketQueue VtRealBackend

/-- A `DEQUEUE_DECODED_FRAME` after its queue lock: it has popped an id, or
found the queue empty. -/
structure PendingDecodedDequeue where
  sessionId : Nat
  outputIds : List Nat
  chunkedOutput : Bool
  deriving DecidableEq, Repr

namespace VtRealBackend

/-- The part of the backend the decode queue is. -/
def withDecodedQueue (backend : VtRealBackend)
    (queue : TicketQueue Nat VtRealDecodedOutput) : VtRealBackend :=
  { backend with
    decodedOutputState := { backend.decodedOutputState with queue := queue } }

/-- `DEQUEUE_DECODED_FRAME` after the queue lock. -/
def answerDecodedDequeue (backend : VtRealBackend) (surfaces : Surfaces)
    (dequeue : PendingDecodedDequeue) : Served :=
  match dequeue.outputIds with
  | [] =>
    let (error, state) :=
      backend.decodedOutputState.takeDecodeError dequeue.sessionId
    let backend := { backend with decodedOutputState := state }
    match error with
    | some status =>
      .ok backend surfaces (.decodedFrame (decodeErrorReply dequeue.sessionId status))
    | none => .plain backend surfaces Status.timeout
  | _ :: _ =>
    match backend.decodedOutputState.queue.collect dequeue.outputIds with
    | [] => .plain backend surfaces Status.timeout
    | (outputId, output) :: _ =>
      .ok backend surfaces (.decodedFrame (decodedFrameReply dequeue.sessionId outputId
          dequeue.chunkedOutput output))

theorem dequeueDecodedFrame_eq (source : List UInt8)
    (backend : VtRealBackend) (surfaces : Surfaces) :
    dequeueDecodedFrame source backend surfaces =
      if source.length < HandlePayload.size then
        .plain backend surfaces Status.internalFailure
      else
        let sessionId := (HandlePayload.read source).handle.toNat
        match backend.decodeSessions.lookup sessionId with
        | none => .plain backend surfaces Status.invalidHandle
        | some session =>
          let popped := backend.decodedOutputState.queue.pop sessionId 1
          (backend.withDecodedQueue popped.2).answerDecodedDequeue surfaces
            ⟨sessionId, popped.1, session.chunkedOutput⟩ :=
  rfl

end VtRealBackend

/-- A backend with the decompression callbacks at work on it, the dequeue in
progress, and the history of pushes and answers. -/
structure DecodeSide where
  backend : VtRealBackend
  callbacks : FiniteMap Nat (Producer VtRealDecodedOutput)
  dequeuing : Option PendingDecodedDequeue
  pushed : List (Nat × VtRealDecodedOutput)
  delivered : List (Delivery VtRealDecodedOutput)

inductive DecodeEvent where
  | callbackStarts (thread sessionId : Nat) (sample : DecodedSample)
  | callbackStep (thread : Nat)
  | dequeue (source : List UInt8)
  /-- What a dequeue does after its queue lock. -/
  | answer
  | read (host : HostCalls) (source response : List UInt8)
  | readChunk (host : HostCalls) (source response : List UInt8)
  | release (source : List UInt8)

namespace DecodeSide

def queue (side : DecodeSide) : TicketQueue Nat VtRealDecodedOutput :=
  side.backend.decodedOutputState.queue

def starting (backend : VtRealBackend) : DecodeSide where
  backend := { backend with decodedOutputState := DecodedOutputQueue.new }
  callbacks := ∅
  dequeuing := none
  pushed := []
  delivered := []

/-- The connection's thread is free and the payload is complete. -/
def serves (side : DecodeSide) (source : List UInt8) (size : Nat) : Bool :=
  side.dequeuing.isNone && decide (size ≤ source.length)

/-- The decode session a dequeue names, if the dequeue gets that far. -/
def dequeues (side : DecodeSide) (source : List UInt8) :
    Option VtRealDecodeSession :=
  if side.serves source HandlePayload.size then
    side.backend.decodeSessions.lookup (HandlePayload.read source).handle.toNat
  else none

def found (side : DecodeSide) (dequeue : PendingDecodedDequeue) :
    List (Delivery VtRealDecodedOutput) :=
  (side.queue.collect dequeue.outputIds).map fun pair =>
    { sessionId := dequeue.sessionId
      outputId := pair.1
      output := pair.2 }

def step (surfaces : Surfaces) (side : DecodeSide) : DecodeEvent → DecodeSide
  | .callbackStarts thread sessionId sample =>
    match decompressionOutput sessionId sample with
    | .error status =>
      { side with
        backend := { side.backend with
          decodedOutputState :=
            side.backend.decodedOutputState.recordDecodeError sessionId status } }
    | .ok output =>
      if (side.callbacks.lookup thread).isSome then side
      else { side with
        callbacks := side.callbacks.insert thread ⟨output, .started⟩ }
  | .callbackStep thread =>
    match side.callbacks.lookup thread with
    | none => side
    | some producer =>
      let result := TicketQueue.advance DecodedOutputQueue.labels side.queue producer
      { side with
        backend := side.backend.withDecodedQueue result.1
        callbacks :=
          match result.2 with
          | some moved => side.callbacks.insert thread moved
          | none => side.callbacks.erase thread
        pushed := side.pushed ++ producer.pushes }
  | .dequeue source =>
    match side.dequeues source with
    | none => side
    | some session =>
      let sessionId := (HandlePayload.read source).handle.toNat
      let popped := side.queue.pop sessionId 1
      { side with
        backend := side.backend.withDecodedQueue popped.2
        dequeuing := some ⟨sessionId, popped.1, session.chunkedOutput⟩ }
  | .answer =>
    match side.dequeuing with
    | none => side
    | some dequeue =>
      { side with
        backend :=
          (side.backend.answerDecodedDequeue surfaces dequeue).backend
        dequeuing := none
        delivered := side.delivered ++ side.found dequeue }
  | .read host source response =>
    { side with
      backend := (side.backend.readDecodedFrame host source response surfaces).backend }
  | .readChunk host source response =>
    { side with
      backend := (side.backend.readDecodedFrameChunk host source response surfaces).backend }
  | .release source =>
    if side.serves source SessionOutputPayload.size then
      { side with
        backend := (releaseDecodedFrame source side.backend surfaces).backend }
    else side

/-- Every release names a frame already dequeued. -/
def Allows (side : DecodeSide) : DecodeEvent → Prop
  | .release source =>
    (SessionOutputPayload.read source).outputId.toNat ∈ side.delivered.map Delivery.outputId
  | _ => True

instance Allows.decidable (side : DecodeSide) :
    ∀ event, Decidable (side.Allows event)
  | .release _ => inferInstanceAs (Decidable (_ ∈ _))
  | .callbackStarts .. => isTrue trivial
  | .callbackStep _ => isTrue trivial
  | .dequeue _ => isTrue trivial
  | .answer => isTrue trivial
  | .read .. => isTrue trivial
  | .readChunk .. => isTrue trivial

/-! ## Refinement of the ticketed queue -/

def traffic (side : DecodeSide) : Traffic Nat VtRealDecodedOutput where
  queue := side.queue
  producers := side.callbacks
  held := side.dequeuing.map fun dequeue =>
    (dequeue.sessionId, dequeue.outputIds)
  pushed := side.pushed
  delivered := side.delivered.map Delivery.entry

/-- The id a release discards, if it is there. -/
def releasedId (side : DecodeSide) (source : List UInt8) : List Nat :=
  let outputId := (SessionOutputPayload.read source).outputId.toNat
  if side.serves source SessionOutputPayload.size ∧
      (side.queue.items.lookup outputId).isSome then [outputId]
  else []

/-- The events of the queue an event stands for. -/
def trace (side : DecodeSide) :
    DecodeEvent → List (TicketQueue.Event Nat VtRealDecodedOutput)
  | .callbackStarts thread sessionId sample =>
    match decompressionOutput sessionId sample with
    | .error _ => []
    | .ok output => [.start thread output]
  | .callbackStep thread => [.advance thread]
  | .dequeue source =>
    match side.dequeues source with
    | none => []
    | some _ => [.pop (HandlePayload.read source).handle.toNat 1]
  | .answer => [.collect]
  | .read _ _ _ => []
  | .readChunk _ _ _ => []
  | .release source => (side.releasedId source).map .discard

variable {side : DecodeSide} {surfaces : Surfaces}

theorem recordDecodeError_queue (state : DecodedOutputQueue) (sessionId : Nat) (status : Int32) :
    (state.recordDecodeError sessionId status).queue = state.queue := by
  unfold DecodedOutputQueue.recordDecodeError
  split
  · rfl
  · rfl

theorem answer_queue (backend : VtRealBackend) (surfaces : Surfaces)
    (dequeue : PendingDecodedDequeue) :
    (backend.answerDecodedDequeue surfaces dequeue).backend.decodedOutputState.queue =
        backend.decodedOutputState.queue := by
  unfold answerDecodedDequeue
  dsimp only
  repeat' split
  all_goals rfl

theorem releaseDecodedFrame_queue {source : List UInt8}
    (serves : side.serves source SessionOutputPayload.size = true) :
    (releaseDecodedFrame source side.backend
      surfaces).backend.decodedOutputState.queue =
        (side.releasedId source).foldl TicketQueue.discard side.queue := by
  have complete : ¬ source.length < SessionOutputPayload.size := by
    have size : side.dequeuing = none ∧ SessionOutputPayload.size ≤ source.length := by
      simpa [DecodeSide.serves] using serves
    omega
  unfold releaseDecodedFrame releasedId
  rw [if_neg complete]
  dsimp only
  cases found : side.backend.decodedOutputState.queue.items.lookup
      (SessionOutputPayload.read source).outputId.toNat with
  | none => simp [queue, found, Served.plain]
  | some output => simp [queue, found, serves, Served.plain]

theorem dequeuing_of_dequeues {source : List UInt8} {session : VtRealDecodeSession}
    (dequeues : side.dequeues source = some session) :
    side.dequeuing = none := by
  unfold DecodeSide.dequeues at dequeues
  split at dequeues
  next serves =>
    have free : side.dequeuing = none ∧ HandlePayload.size ≤ source.length := by
      simpa [DecodeSide.serves] using serves
    exact free.1
  · cases dequeues

theorem traffic_step (surfaces : Surfaces) (side : DecodeSide) (event : DecodeEvent) :
    (side.step surfaces event).traffic =
      run (Traffic.step DecodedOutputQueue.labels) side.traffic (side.trace event) := by
  cases event with
  | callbackStarts thread sessionId sample =>
    simp only [step, trace]
    cases decompressionOutput sessionId sample with
    | error status => simp only [traffic, queue, recordDecodeError_queue, run_nil]
    | ok output =>
      simp only [run_cons, run_nil, Traffic.step, traffic]
      split
      · rfl
      · rfl
  | callbackStep thread =>
    simp only [step, trace, run_cons, run_nil, Traffic.step, Traffic.advanceProducer, traffic]
    cases side.callbacks.lookup thread with
    | none => rfl
    | some producer =>
      dsimp only
      cases (TicketQueue.advance DecodedOutputQueue.labels side.queue producer).2 with
      | none => rfl
      | some moved => rfl
  | dequeue source =>
    simp only [step, trace]
    cases dequeues : side.dequeues source with
    | none => rfl
    | some session =>
      have held : side.traffic.held = none := by
        simp [traffic, dequeuing_of_dequeues dequeues]
      simp only [run_cons, run_nil, Traffic.step, held]
      rfl
  | answer =>
    simp only [step, trace, run_cons, run_nil, Traffic.step, traffic]
    cases progress : side.dequeuing with
    | none => simp [progress]
    | some dequeue => simp [queue, answer_queue, found, Function.comp_def, Delivery.entry]
  | read host source response =>
    simp only [step, trace, run_nil, readDecodedFrame_backend]
  | readChunk host source response =>
    simp only [step, trace, run_nil, readDecodedFrameChunk_backend]
  | release source =>
    simp only [step, trace]
    rw [Traffic.run_discards]
    split
    next serves =>
      simp only [traffic]
      rw [← releaseDecodedFrame_queue serves]
      rfl
    next busy =>
      have nothing : side.releasedId source = [] := by
        simp [releasedId, busy]
      rw [nothing]
      rfl

theorem delivered_fst (side : DecodeSide) :
    side.traffic.delivered.map Prod.fst =
      side.delivered.map Delivery.outputId := by
  simp [traffic, Delivery.entry, Function.comp_def]

variable {event : DecodeEvent}

theorem trace_obeys (allowed : side.Allows event) :
    Execution.Obeys (Traffic.step DecodedOutputQueue.labels)
      Traffic.DiscardsDelivered side.traffic (side.trace event) := by
  cases event with
  | callbackStarts thread sessionId sample =>
    simp only [trace]
    cases decompressionOutput sessionId sample with
    | error status => trivial
    | ok output => exact ⟨trivial, trivial⟩
  | callbackStep thread | answer => exact ⟨trivial, trivial⟩
  | dequeue source =>
    simp only [trace]
    split
    · trivial
    · exact ⟨trivial, trivial⟩
  | read host source response => trivial
  | readChunk host source response => trivial
  | release source =>
    apply Traffic.obeys_discards
    intro outputId released
    unfold releasedId at released
    dsimp only at released
    split at released
    · rw [List.mem_singleton.1 released, delivered_fst]
      exact allowed
    · cases released

/-! ## Executions -/

/-- The queue is sound and every answer went to the session of its frame. -/
structure Orderly (side : DecodeSide) : Prop where
  sound : side.traffic.Sound DecodedOutputQueue.labels
  rightful : Rightful DecodedOutputQueue.labels side.delivered

theorem starting_orderly (backend : VtRealBackend) :
    (starting backend).Orderly where
  sound := Traffic.initial_sound DecodedOutputQueue.labels 70000
  rightful _ member := nomatch member

variable {dequeue : PendingDecodedDequeue}

/-- What a dequeue in progress finds: the frames of its ids, which belong to
its session. -/
theorem Orderly.found (orderly : side.Orderly) (progress : side.dequeuing = some dequeue) :
    (side.queue.collect dequeue.outputIds).map Prod.fst = dequeue.outputIds ∧
      ∀ pair ∈ side.queue.collect dequeue.outputIds, pair.2.sessionId = dequeue.sessionId := by
  have held : side.traffic.held = some (dequeue.sessionId, dequeue.outputIds) := by
    simp [traffic, progress]
  exact popped_found orderly.sound held

theorem step_of_ne_answer (notAnswer : event ≠ .answer) :
    (side.step surfaces event).delivered = side.delivered ∧
      ∀ dequeue, side.dequeuing = some dequeue →
        (side.step surfaces event).dequeuing = some dequeue := by
  cases event with
  | answer => exact absurd rfl notAnswer
  | callbackStarts thread sessionId sample =>
    unfold DecodeSide.step
    dsimp only
    repeat' split
    all_goals exact ⟨rfl, fun _ progress => progress⟩
  | callbackStep thread | release source =>
    unfold DecodeSide.step
    dsimp only
    split
    all_goals exact ⟨rfl, fun _ progress => progress⟩
  | dequeue source =>
    unfold DecodeSide.step
    dsimp only
    split
    · exact ⟨rfl, fun _ progress => progress⟩
    next dequeues =>
      refine ⟨rfl, ?_⟩
      intro dequeue progress
      rw [dequeuing_of_dequeues dequeues] at progress
      cases progress
  | read host source response | readChunk host source response =>
    exact ⟨rfl, fun _ progress => progress⟩

theorem Orderly.step (orderly : side.Orderly) (allowed : side.Allows event) :
    (side.step surfaces event).Orderly := by
  constructor
  · rw [traffic_step]
    exact Traffic.run_sound orderly.sound (trace_obeys allowed)
  · by_cases isAnswer : event = .answer
    · subst isAnswer
      unfold DecodeSide.step
      dsimp only
      split
      · exact orderly.rightful
      next dequeue progress =>
        intro delivery member
        rcases List.mem_append.1 member with earlier | now
        · exact orderly.rightful delivery earlier
        · obtain ⟨pair, found, rfl⟩ := List.mem_map.1 now
          exact (orderly.found progress).2 pair found
    · rw [(step_of_ne_answer isAnswer).1]
      exact orderly.rightful

theorem Orderly.run {events : List DecodeEvent} (orderly : side.Orderly)
    (obeyed : Execution.Obeys (DecodeSide.step surfaces) Allows side events) :
    (run (DecodeSide.step surfaces) side events).Orderly :=
  invariant_of_obeys (fun _ _ orderly allowed => orderly.step allowed) orderly obeyed

theorem Orderly.inOrder (orderly : side.Orderly) :
    QueueInOrder DecodedOutputQueue.labels side.queue side.pushed
      side.delivered :=
  queueInOrder_of_sound orderly.sound rfl orderly.rightful

theorem dequeuing_of_no_answer {events : List DecodeEvent}
    (progress : side.dequeuing = some dequeue)
    (pending : ∀ event ∈ events, event ≠ .answer) :
    (run (DecodeSide.step surfaces) side events).dequeuing =
      some dequeue := by
  induction events generalizing side with
  | nil => exact progress
  | cons event events induction =>
    apply induction
    · exact (step_of_ne_answer (pending event List.mem_cons_self)).2 dequeue progress
    · intro later member
      exact pending later (List.mem_cons_of_mem _ member)

theorem Orderly.answer_front (orderly : side.Orderly) (surfaces : Surfaces)
    {front : Nat} (progress : side.dequeuing = some dequeue)
    (popped : dequeue.outputIds = [front]) :
    ∃ output, output.sessionId = dequeue.sessionId ∧
      (side.backend.answerDecodedDequeue surfaces dequeue).status = Status.ok ∧
      (side.backend.answerDecodedDequeue surfaces dequeue).body =
        .decodedFrame (decodedFrameReply dequeue.sessionId
          front dequeue.chunkedOutput output) := by
  obtain ⟨ids, sessions⟩ := orderly.found progress
  rw [popped] at ids sessions
  rw [answerDecodedDequeue, popped]
  cases found : side.queue.collect [front] with
  | nil =>
    rw [found] at ids
    cases ids
  | cons pair others =>
    rw [found] at ids sessions
    have id : pair.1 = front := (List.cons.inj ids).1
    have lookup : side.backend.decodedOutputState.queue.collect [front] = pair :: others := found
    dsimp only
    rw [lookup, ← id]
    exact ⟨pair.2, sessions pair List.mem_cons_self, rfl, rfl⟩

/-- A dequeue of a live session that finds its queue non-empty answers with
the queue's front, whatever happens between its critical sections. -/
def AnswersFront (surfaces : Surfaces) (side : DecodeSide) : Prop :=
  ∀ source between session front rest,
    let sessionId := (HandlePayload.read source).handle.toNat
    side.dequeues source = some session →
    side.queue.lane sessionId = front :: rest →
    (∀ event ∈ between, event ≠ .answer) →
    Execution.Obeys (DecodeSide.step surfaces) Allows side (.dequeue source :: between) →
    let later := run (DecodeSide.step surfaces) side (.dequeue source :: between)
    ∃ dequeue output, later.dequeuing = some dequeue ∧ output.sessionId = sessionId ∧
      (later.backend.answerDecodedDequeue surfaces dequeue).status = Status.ok ∧
      (later.backend.answerDecodedDequeue surfaces dequeue).body =
        .decodedFrame (decodedFrameReply sessionId front session.chunkedOutput output)

theorem Orderly.answersFront (orderly : side.Orderly) :
    side.AnswersFront surfaces := by
  intro source between session front rest sessionId dequeues waiting pending obeyed later
  have begun : (side.step surfaces (.dequeue source)).dequeuing =
      some ⟨sessionId, [front], session.chunkedOutput⟩ := by
    simp only [DecodeSide.step, dequeues, TicketQueue.pop, sessionId, waiting]
    rfl
  have progress : later.dequeuing = some ⟨sessionId, [front], session.chunkedOutput⟩ := by
    dsimp only [later]
    rw [run_cons]
    exact dequeuing_of_no_answer begun pending
  have laterOrderly : later.Orderly := orderly.run obeyed
  obtain ⟨output, answer⟩ :=
    laterOrderly.answer_front surfaces progress rfl
  exact ⟨_, output, progress, answer⟩

end DecodeSide

end VtFerry
