import VtFerry.Worker.Delivery.Order
import VtFerry.Worker.VtReal.Effects

/-!
# Delivery of encoded outputs

The encode side of one backend: encoder callbacks on any number of threads,
cut into their critical sections, and the requests of the connection, of which
a dequeue has two.  The model refines a ticketed queue: every event stands for
events of the queue, so what holds of the queue in every interleaving holds
here.
-/

namespace VtFerry

open Execution List TicketQueue VtRealBackend

structure PendingDequeue where
  sessionId : Nat
  outputIds : List Nat
  batch : Bool
  deriving DecidableEq, Repr

/-- A backend with the encoder callbacks at work on it, the dequeue in
progress, and the history of pushes and answers. -/
structure EncodeSide where
  backend : VtRealBackend
  callbacks : FiniteMap Nat (Producer VtRealOutput)
  dequeuing : Option PendingDequeue
  pushed : List (Nat × VtRealOutput)
  delivered : List (Delivery VtRealOutput)

inductive EncodeEvent where
  | callbackStarts (thread : Nat) (context : SessionCallbackContext)
      (frame : FrameContext) (sample : EncodedSample)
  | callbackStep (thread : Nat)
  /-- Copying the sample fails, and the callback returns. -/
  | callbackFails (thread : Nat)
  | dequeue (source : List UInt8)
  | dequeueBatch (source : List UInt8)
  /-- The second critical section of the dequeue in progress. -/
  | answer
  | read (source response : List UInt8)
  | release (source : List UInt8)
  | releaseBatch (source : List UInt8)

namespace PendingDequeue

def answer (dequeue : PendingDequeue) (backend : VtRealBackend) (surfaces : Surfaces) : Served :=
  if dequeue.batch then
    backend.answerDequeueBatch surfaces dequeue.sessionId dequeue.outputIds
  else backend.answerDequeue surfaces dequeue.outputIds

def found (dequeue : PendingDequeue) (backend : VtRealBackend) :
    List (Delivery VtRealOutput) :=
  (backend.outputState.collect dequeue.outputIds).map fun pair =>
    { sessionId := dequeue.sessionId
      outputId := pair.1
      output := pair.2 }

end PendingDequeue

namespace EncodeSide

def starting (backend : VtRealBackend) : EncodeSide where
  backend := { backend with outputState := OutputQueue.new }
  callbacks := ∅
  dequeuing := none
  pushed := []
  delivered := []

/-- The first critical section of a dequeue. -/
def beginDequeue (side : EncodeSide) (sessionId count : Nat) (batch : Bool) :
    EncodeSide :=
  let popped := side.backend.popOutputs sessionId count
  { side with
    backend := popped.2
    dequeuing := some ⟨sessionId, popped.1, batch⟩ }

/-- The connection's thread is free and the payload is complete. -/
def serves (side : EncodeSide) (source : List UInt8) (size : Nat) : Bool :=
  side.dequeuing.isNone && decide (size ≤ source.length)

def step (surfaces : Surfaces) (side : EncodeSide) : EncodeEvent → EncodeSide
  | .callbackStarts thread context frame sample =>
    match compressionOutput context frame sample with
    | none => side
    | some output =>
      if (side.callbacks.lookup thread).isSome then side
      else { side with
        callbacks := side.callbacks.insert thread ⟨output, .started⟩ }
  | .callbackStep thread =>
    match side.callbacks.lookup thread with
    | none => side
    | some producer =>
      let result := TicketQueue.advance OutputQueue.labels side.backend.outputState producer
      { side with
        backend := { side.backend with outputState := result.1 }
        callbacks :=
          match result.2 with
          | some moved => side.callbacks.insert thread moved
          | none => side.callbacks.erase thread
        pushed := side.pushed ++ producer.pushes }
  | .callbackFails thread =>
    match side.callbacks.lookup thread with
    | none => side
    | some producer =>
      if producer.mayAbandon then
        { side with callbacks := side.callbacks.erase thread }
      else side
  | .dequeue source =>
    if side.serves source HandlePayload.size then
      side.beginDequeue (HandlePayload.read source).handle.toNat 1 false
    else side
  | .dequeueBatch source =>
    let payload := DequeueOutputBatchPayload.read source
    if side.serves source DequeueOutputBatchPayload.size then
      side.beginDequeue payload.sessionId.toNat (OutputQueue.batchLimit payload.maxOutputs) true
    else side
  | .answer =>
    match side.dequeuing with
    | none => side
    | some dequeue =>
      { side with
        backend := (dequeue.answer side.backend surfaces).backend
        dequeuing := none
        delivered := side.delivered ++ dequeue.found side.backend }
  | .read source response =>
    { side with
      backend := (side.backend.readOutput source response surfaces).backend }
  | .release source =>
    if side.serves source HandlePayload.size then
      { side with
        backend := (releaseOutput source side.backend surfaces).backend }
    else side
  | .releaseBatch source =>
    if side.serves source ReleaseOutputBatchPayload.size then
      { side with
        backend := (releaseOutputBatch source side.backend surfaces).backend }
    else side

def batchIds (source : List UInt8) : List UInt64 :=
  let payload := ReleaseOutputBatchPayload.read source
  payload.outputIds.take (min payload.outputCount.toNat maxOutputBatch)

/-- Every release names outputs already dequeued. -/
def Allows (side : EncodeSide) : EncodeEvent → Prop
  | .release source =>
    (HandlePayload.read source).handle.toNat ∈ side.delivered.map Delivery.outputId
  | .releaseBatch source =>
    ∀ outputId ∈ batchIds source, outputId.toNat ∈ side.delivered.map Delivery.outputId
  | _ => True

instance Allows.decidable (side : EncodeSide) :
    ∀ event, Decidable (side.Allows event)
  | .release _ => inferInstanceAs (Decidable (_ ∈ _))
  | .releaseBatch _ => inferInstanceAs (Decidable (∀ _ ∈ _, _))
  | .callbackStarts .. => isTrue trivial
  | .callbackStep _ => isTrue trivial
  | .callbackFails _ => isTrue trivial
  | .dequeue _ => isTrue trivial
  | .dequeueBatch _ => isTrue trivial
  | .answer => isTrue trivial
  | .read .. => isTrue trivial

/-! ## Refinement of the ticketed queue -/

/-- The ticketed queue this is. -/
def traffic (side : EncodeSide) : Traffic Nat VtRealOutput where
  queue := side.backend.outputState
  producers := side.callbacks
  held := side.dequeuing.map fun dequeue =>
    (dequeue.sessionId, dequeue.outputIds)
  pushed := side.pushed
  delivered := side.delivered.map Delivery.entry

/-- The ids a release loop discards before it stops. -/
def releasedIds : List UInt64 → OutputQueue → List Nat
  | [], _ => []
  | outputId :: rest, queue =>
    if (queue.items.lookup outputId.toNat).isSome then
      outputId.toNat :: releasedIds rest (queue.discard outputId.toNat)
    else []

/-- The events of the queue an event stands for. -/
def trace (side : EncodeSide) :
    EncodeEvent → List (TicketQueue.Event Nat VtRealOutput)
  | .callbackStarts thread context frame sample =>
    ((compressionOutput context frame sample).map (.start thread)).toList
  | .callbackStep thread => [.advance thread]
  | .callbackFails thread => [.abandon thread]
  | .dequeue source =>
    if side.serves source HandlePayload.size then
      [.pop (HandlePayload.read source).handle.toNat 1]
    else []
  | .dequeueBatch source =>
    let payload := DequeueOutputBatchPayload.read source
    if side.serves source DequeueOutputBatchPayload.size then
      [.pop payload.sessionId.toNat (OutputQueue.batchLimit payload.maxOutputs)]
    else []
  | .answer => [.collect]
  | .read _ _ => []
  | .release source =>
    if side.serves source HandlePayload.size then
      (releasedIds [(HandlePayload.read source).handle] side.backend.outputState).map .discard
    else []
  | .releaseBatch source =>
    if side.serves source ReleaseOutputBatchPayload.size then
      (releasedIds (batchIds source) side.backend.outputState).map .discard
    else []

theorem releaseOutputIds_outputState (outputIds : List UInt64) (backend : VtRealBackend) :
    (releaseOutputIds outputIds backend).1 =
      { backend with
        outputState := (releasedIds outputIds backend.outputState).foldl
          TicketQueue.discard backend.outputState } := by
  induction outputIds generalizing backend with
  | nil => rfl
  | cons outputId rest induction =>
    rw [releaseOutputIds, releasedIds]
    cases found : backend.outputState.items.lookup outputId.toNat with
    | none => simp [releaseOutputId, found, Status.ok,
        Status.invalidHandle]
    | some output =>
      simp only [releaseOutputId, found, Option.isSome_some,
        if_true, foldl_cons, ne_eq, not_true_eq_false, if_false]
      rw [induction]

variable {source : List UInt8}

theorem releaseOutput_outputState {backend : VtRealBackend}
    {surfaces : Surfaces} (complete : HandlePayload.size ≤ source.length) :
    (releaseOutput source backend surfaces).backend =
      { backend with
        outputState := (releasedIds [(HandlePayload.read source).handle]
          backend.outputState).foldl TicketQueue.discard
            backend.outputState } := by
  rw [← releaseOutputIds_outputState]
  have notShort : ¬ source.length < HandlePayload.size := by omega
  rw [releaseOutput, if_neg notShort]
  simp only [releaseOutputIds, Served.plain]
  split
  · rfl
  · rfl

theorem releaseOutputBatch_outputState {backend : VtRealBackend} {surfaces : Surfaces}
    (complete : ReleaseOutputBatchPayload.size ≤ source.length) :
    (releaseOutputBatch source backend surfaces).backend =
      { backend with
        outputState := (releasedIds (batchIds source) backend.outputState).foldl TicketQueue.discard
            backend.outputState } := by
  have notShort : ¬ source.length < ReleaseOutputBatchPayload.size := by
    omega
  rw [releaseOutputBatch, if_neg notShort]
  exact releaseOutputIds_outputState _ _

theorem answer_outputState (dequeue : PendingDequeue)
    (backend : VtRealBackend) (surfaces : Surfaces) :
    (dequeue.answer backend surfaces).backend.outputState =
      backend.outputState := by
  unfold PendingDequeue.answer answerDequeue answerDequeueBatch
  dsimp only
  repeat' split
  · rfl
  · exact congrArg (·.outputState) (markAllReusable_eq ..)
  · rfl
  · exact congrArg (·.outputState) (markAllReusable_eq ..)

theorem dequeuing_of_serves {side : EncodeSide} {size : Nat}
    (serves : side.serves source size = true) :
    side.dequeuing = none ∧ size ≤ source.length := by
  simpa [EncodeSide.serves] using serves

theorem traffic_beginDequeue {side : EncodeSide} {sessionId count : Nat}
    {batch : Bool} (free : side.dequeuing = none) :
    (side.beginDequeue sessionId count batch).traffic =
      side.traffic.step OutputQueue.labels (.pop sessionId count) := by
  have held : side.traffic.held = none := by
    simp [traffic, free]
  simp only [Traffic.step, held]
  rfl

theorem traffic_step (surfaces : Surfaces) (side : EncodeSide) (event : EncodeEvent) :
    (side.step surfaces event).traffic =
      run (Traffic.step OutputQueue.labels) side.traffic (side.trace event) := by
  cases event with
  | callbackStarts thread context frame sample =>
    simp only [step, trace]
    cases compressionOutput context frame sample with
    | none => rfl
    | some output =>
      simp only [Option.map_some, Option.toList_some, run_cons, run_nil, Traffic.step, traffic]
      split
      · rfl
      · rfl
  | callbackStep thread =>
    simp only [step, trace, run_cons, run_nil, Traffic.step, Traffic.advanceProducer, traffic]
    cases side.callbacks.lookup thread with
    | none => rfl
    | some producer =>
      dsimp only
      cases (TicketQueue.advance OutputQueue.labels side.backend.outputState producer).2 with
      | none => rfl
      | some moved => rfl
  | callbackFails thread =>
    simp only [step, trace, run_cons, run_nil, Traffic.step, traffic]
    cases side.callbacks.lookup thread with
    | none => rfl
    | some producer =>
      dsimp only
      split
      · rfl
      · rfl
  | dequeue source | dequeueBatch source =>
    simp only [step, trace]
    split
    next serves => exact traffic_beginDequeue (dequeuing_of_serves serves).1
    · rfl
  | answer =>
    simp only [step, trace, run_cons, run_nil, Traffic.step, traffic]
    cases progress : side.dequeuing with
    | none => simp [progress]
    | some dequeue =>
      simp [answer_outputState, PendingDequeue.found, Function.comp_def, Delivery.entry]
  | read source response =>
    simp only [step, trace, run_nil, traffic]
    rw [readOutput_backend]
  | release source =>
    simp only [step, trace]
    split
    next serves =>
      rw [Traffic.run_discards, releaseOutput_outputState (dequeuing_of_serves serves).2]
      rfl
    · rfl
  | releaseBatch source =>
    simp only [step, trace]
    split
    next serves =>
      rw [Traffic.run_discards, releaseOutputBatch_outputState (dequeuing_of_serves serves).2]
      rfl
    · rfl

theorem mem_releasedIds {outputIds : List UInt64} {queue : OutputQueue}
    {outputId : Nat} (released : outputId ∈ releasedIds outputIds queue) :
    ∃ named ∈ outputIds, named.toNat = outputId := by
  induction outputIds generalizing queue with
  | nil => cases released
  | cons named rest induction =>
    rw [releasedIds] at released
    split at released
    · rcases mem_cons.1 released with same | later
      · exact ⟨named, mem_cons_self, same.symm⟩
      · obtain ⟨other, member, equal⟩ := induction later
        exact ⟨other, mem_cons_of_mem _ member, equal⟩
    · cases released

theorem delivered_fst (side : EncodeSide) :
    side.traffic.delivered.map Prod.fst =
      side.delivered.map Delivery.outputId := by
  simp [traffic, Delivery.entry, Function.comp_def]

variable {event : EncodeEvent}

theorem trace_obeys {side : EncodeSide} (allowed : side.Allows event) :
    Execution.Obeys (Traffic.step OutputQueue.labels)
      Traffic.DiscardsDelivered side.traffic (side.trace event) := by
  cases event with
  | callbackStarts thread context frame sample =>
    simp only [trace]
    cases compressionOutput context frame sample with
    | none => trivial
    | some output => exact ⟨trivial, trivial⟩
  | callbackStep thread | callbackFails thread | answer => exact ⟨trivial, trivial⟩
  | dequeue source | dequeueBatch source =>
    simp only [trace]
    split
    · exact ⟨trivial, trivial⟩
    · trivial
  | read source response => trivial
  | release source =>
    simp only [trace]
    split
    · apply Traffic.obeys_discards
      intro outputId released
      obtain ⟨named, member, rfl⟩ := mem_releasedIds released
      rw [mem_singleton.1 member, delivered_fst]
      exact allowed
    · trivial
  | releaseBatch source =>
    simp only [trace]
    split
    · apply Traffic.obeys_discards
      intro outputId released
      obtain ⟨named, member, rfl⟩ := mem_releasedIds released
      rw [delivered_fst]
      exact allowed named member
    · trivial

/-! ## Executions -/

/-- The queue is sound, outputs carry their ids, and every answer went to the
session of its output. -/
structure Orderly (side : EncodeSide) : Prop where
  sound : side.traffic.Sound OutputQueue.labels
  stamped : side.traffic.Stamped fun outputId output =>
    output.reply.outputId = outputId
  rightful : Rightful OutputQueue.labels side.delivered

variable {side : EncodeSide} {surfaces : Surfaces}

theorem starting_orderly (backend : VtRealBackend) :
    (starting backend).Orderly where
  sound := Traffic.initial_sound OutputQueue.labels 50000
  stamped := Traffic.initial_stamped 50000
  rightful _ member := nomatch member

variable {dequeue : PendingDequeue}

/-- What a dequeue in progress finds: the outputs of its ids, which belong to
its session. -/
theorem Orderly.found (orderly : side.Orderly) (progress : side.dequeuing = some dequeue) :
    let outputs :=
      (side.backend.outputState.collect dequeue.outputIds).map Prod.snd
    outputs.map (fun output => output.reply.outputId) = dequeue.outputIds ∧
      ∀ output ∈ outputs, output.reply.sessionId = dequeue.sessionId := by
  have held : side.traffic.held = some (dequeue.sessionId, dequeue.outputIds) := by
    simp [traffic, progress]
  obtain ⟨ids, sessions⟩ := popped_found orderly.sound held
  intro outputs
  constructor
  · have stamps : ∀ pair ∈ side.backend.outputState.collect dequeue.outputIds,
        pair.2.reply.outputId = pair.1 := by
      intro pair member
      obtain ⟨outputId, _, lookup⟩ := mem_filterMap.1 member
      obtain ⟨output, found, rfl⟩ := Option.map_eq_some_iff.1 lookup
      exact orderly.stamped.items outputId output found
    calc
      outputs.map (fun output => output.reply.outputId)
          = (side.backend.outputState.collect dequeue.outputIds).map
              (fun pair => pair.2.reply.outputId) := by
            simp [outputs, Function.comp_def]
      _ = (side.backend.outputState.collect dequeue.outputIds).map
            Prod.fst := map_congr_left stamps
      _ = dequeue.outputIds := ids
  · intro output member
    obtain ⟨pair, found, rfl⟩ := mem_map.1 member
    exact sessions pair found

/-- Only the second critical section of a dequeue hands outputs out and ends
the dequeue. -/
theorem step_of_ne_answer (notAnswer : event ≠ .answer) :
    (side.step surfaces event).delivered = side.delivered ∧
      ∀ dequeue, side.dequeuing = some dequeue →
        (side.step surfaces event).dequeuing = some dequeue := by
  have busy : ∀ source size dequeue, side.dequeuing = some dequeue →
      side.serves source size = false := by
    intro source size dequeue progress
    simp [serves, progress]
  cases event with
  | answer => exact absurd rfl notAnswer
  | callbackStarts thread context frame sample | callbackFails thread =>
    unfold EncodeSide.step
    dsimp only
    repeat' split
    all_goals exact ⟨rfl, fun _ progress => progress⟩
  | callbackStep thread | release source | releaseBatch source =>
    unfold EncodeSide.step
    dsimp only
    split
    all_goals exact ⟨rfl, fun _ progress => progress⟩
  | dequeue source | dequeueBatch source =>
    unfold EncodeSide.step
    dsimp only
    split
    next serves =>
      refine ⟨rfl, ?_⟩
      intro dequeue progress
      rw [busy _ _ dequeue progress] at serves
      cases serves
    · exact ⟨rfl, fun _ progress => progress⟩
  | read source response => exact ⟨rfl, fun _ progress => progress⟩

theorem Orderly.step (orderly : side.Orderly) (allowed : side.Allows event) :
    (side.step surfaces event).Orderly := by
  refine ⟨?_, ?_, ?_⟩
  · rw [traffic_step]
    exact Traffic.run_sound orderly.sound (trace_obeys allowed)
  · rw [traffic_step]
    refine invariant_of_step ?_ orderly.stamped _
    intro traffic event stamped
    exact stamped.step (fun _ _ => rfl) event
  · by_cases isAnswer : event = .answer
    · subst isAnswer
      unfold EncodeSide.step
      dsimp only
      split
      · exact orderly.rightful
      next dequeue progress =>
        intro delivery member
        rcases mem_append.1 member with earlier | now
        · exact orderly.rightful delivery earlier
        · obtain ⟨pair, found, rfl⟩ := mem_map.1 now
          exact (orderly.found progress).2 pair.2 (mem_map_of_mem found)
    · rw [(step_of_ne_answer isAnswer).1]
      exact orderly.rightful

theorem Orderly.run {events : List EncodeEvent} (orderly : side.Orderly)
    (obeyed : Execution.Obeys (EncodeSide.step surfaces) Allows side events) :
    (run (EncodeSide.step surfaces) side events).Orderly :=
  invariant_of_obeys (fun _ _ orderly allowed => orderly.step allowed) orderly obeyed

theorem Orderly.inOrder (orderly : side.Orderly) :
    QueueInOrder OutputQueue.labels side.backend.outputState side.pushed
      side.delivered :=
  queueInOrder_of_sound orderly.sound rfl orderly.rightful

theorem dequeuing_of_no_answer {events : List EncodeEvent}
    (progress : side.dequeuing = some dequeue)
    (pending : ∀ event ∈ events, event ≠ .answer) :
    (run (EncodeSide.step surfaces) side events).dequeuing =
      some dequeue := by
  induction events generalizing side with
  | nil => exact progress
  | cons event events induction =>
    apply induction
    · exact (step_of_ne_answer (pending event mem_cons_self)).2 dequeue progress
    · intro later member
      exact pending later (mem_cons_of_mem _ member)

theorem Orderly.answer_single (orderly : side.Orderly) (surfaces : Surfaces)
    {front : Nat} (progress : side.dequeuing = some dequeue)
    (single : dequeue.batch = false) (popped : dequeue.outputIds = [front]) :
    ∃ reply, (dequeue.answer side.backend surfaces).status = Status.ok ∧
      (dequeue.answer side.backend surfaces).body = .output reply ∧
      reply.outputId = front ∧ reply.sessionId = dequeue.sessionId := by
  obtain ⟨ids, sessions⟩ := orderly.found progress
  rw [PendingDequeue.answer, single, if_neg Bool.false_ne_true, answerDequeue]
  cases outputs : (side.backend.outputState.collect dequeue.outputIds).map Prod.snd with
  | nil =>
    rw [outputs, popped] at ids
    cases ids
  | cons output others =>
    rw [outputs] at ids sessions
    rw [popped] at ids
    refine ⟨output.reply, rfl, rfl, ?_, ?_⟩
    · exact (cons.inj ids).1
    · exact sessions output mem_cons_self

theorem Orderly.answer_batch (orderly : side.Orderly) (surfaces : Surfaces)
    (progress : side.dequeuing = some dequeue) (batch : dequeue.batch = true)
    (popped : dequeue.outputIds ≠ []) :
    ∃ replies, (dequeue.answer side.backend surfaces).status = Status.ok ∧
      (dequeue.answer side.backend surfaces).body = .outputs dequeue.sessionId replies ∧
      replies.map DequeueOutputReply.outputId = dequeue.outputIds ∧
      ∀ reply ∈ replies, reply.sessionId = dequeue.sessionId := by
  obtain ⟨ids, sessions⟩ := orderly.found progress
  rw [PendingDequeue.answer, if_pos batch, answerDequeueBatch]
  cases outputs : (side.backend.outputState.collect dequeue.outputIds).map Prod.snd with
  | nil =>
    rw [outputs] at ids
    exact absurd ids.symm popped
  | cons output others =>
    rw [outputs] at ids sessions
    refine ⟨(output :: others).map (·.reply), rfl, rfl, ?_, ?_⟩
    · simpa [Function.comp_def] using ids
    · intro reply member
      obtain ⟨found, isOutput, rfl⟩ := mem_map.1 member
      exact sessions found isOutput

/-- A dequeue that finds its queue non-empty answers with the queue's front,
whatever happens between its two critical sections: `DEQUEUE_OUTPUT` with the
first output, `DEQUEUE_OUTPUT_BATCH` with as many as it asks for. -/
def AnswersFront (surfaces : Surfaces) (side : EncodeSide) : Prop :=
  (∀ source between front rest, side.serves source HandlePayload.size = true →
    side.backend.outputState.lane (HandlePayload.read source).handle.toNat = front :: rest →
    (∀ event ∈ between, event ≠ .answer) →
    Execution.Obeys (EncodeSide.step surfaces) Allows side (.dequeue source :: between) →
    let later := run (EncodeSide.step surfaces) side (.dequeue source :: between)
    ∃ dequeue reply, later.dequeuing = some dequeue ∧
      (dequeue.answer later.backend surfaces).status = Status.ok ∧
      (dequeue.answer later.backend surfaces).body = .output reply ∧
      reply.outputId = front ∧
      reply.sessionId = (HandlePayload.read source).handle.toNat) ∧
  (∀ source between,
    let payload := DequeueOutputBatchPayload.read source
    let lane := side.backend.outputState.lane payload.sessionId.toNat
    side.serves source DequeueOutputBatchPayload.size = true →
    lane ≠ [] →
    (∀ event ∈ between, event ≠ .answer) →
    Execution.Obeys (EncodeSide.step surfaces) Allows side (.dequeueBatch source :: between) →
    let later := run (EncodeSide.step surfaces) side (.dequeueBatch source :: between)
    ∃ dequeue replies, later.dequeuing = some dequeue ∧
      (dequeue.answer later.backend surfaces).status = Status.ok ∧
      (dequeue.answer later.backend surfaces).body = .outputs payload.sessionId.toNat replies ∧
      replies.map DequeueOutputReply.outputId =
        lane.take (OutputQueue.batchLimit payload.maxOutputs) ∧
      ∀ reply ∈ replies, reply.sessionId = payload.sessionId.toNat)

theorem Orderly.answersFront (orderly : side.Orderly) :
    side.AnswersFront surfaces := by
  constructor
  · intro source between front rest serves waiting pending obeyed later
    have begun : (side.step surfaces (.dequeue source)).dequeuing =
        some ⟨(HandlePayload.read source).handle.toNat, [front], false⟩ := by
      simp only [EncodeSide.step, serves, if_true, beginDequeue,
        popOutputs, TicketQueue.pop, waiting]
      rfl
    have progress : later.dequeuing =
        some ⟨(HandlePayload.read source).handle.toNat, [front], false⟩ := by
      dsimp only [later]
      rw [run_cons]
      exact dequeuing_of_no_answer begun pending
    have laterOrderly : later.Orderly := orderly.run obeyed
    obtain ⟨reply, answer⟩ :=
      laterOrderly.answer_single surfaces progress rfl rfl
    exact ⟨_, reply, progress, answer⟩
  · intro source between payload lane serves waiting pending obeyed later
    have begun : (side.step surfaces (.dequeueBatch source)).dequeuing =
        some ⟨payload.sessionId.toNat,
          lane.take (OutputQueue.batchLimit payload.maxOutputs), true⟩ := by
      simp only [EncodeSide.step, serves, if_true, beginDequeue,
        popOutputs, TicketQueue.pop, payload, lane]
    have progress : later.dequeuing = some ⟨payload.sessionId.toNat,
          lane.take (OutputQueue.batchLimit payload.maxOutputs), true⟩ := by
      dsimp only [later]
      rw [run_cons]
      exact dequeuing_of_no_answer begun pending
    have popped : lane.take (OutputQueue.batchLimit payload.maxOutputs) ≠ [] := by
      have positive : OutputQueue.batchLimit payload.maxOutputs ≠ 0 := by
        unfold OutputQueue.batchLimit
        omega
      simp [take_eq_nil_iff, positive, waiting]
    have laterOrderly : later.Orderly := orderly.run obeyed
    obtain ⟨replies, answer⟩ :=
      laterOrderly.answer_batch surfaces progress rfl popped
    exact ⟨_, replies, progress, answer⟩

end EncodeSide

end VtFerry
