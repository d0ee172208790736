import VtFerry.Foundation.TicketPlaces
import VtFerry.Worker.Delivery.Decode
import VtFerry.Worker.SessionRemoval
import VtFerry.Worker.VtReal.DecodedReads

/-!
# Handles of decoded outputs

A guest gets the handle of a decoded output from `DEQUEUE_DECODED_FRAME` and
gives it back with `RELEASE_DECODED_FRAME`.  Runs here interleave all requests
of one connection with the critical sections of decoder callbacks and keep
the history of handles.  The requests that name a handle look it up in one
table for all sessions, which holds an output from before its push until its
release; so a request is guarded by the handle's history exactly if the output
it reaches is of the named session and has left that session's queue.
-/

namespace VtFerry

open List TicketQueue

namespace VtRealBackend

/-- Only dequeues and releases of decoded frames change the decode side's
queue and errors. -/
theorem dispatch_decodedOutputState (host : HostCalls) (request : Request)
    (response : List UInt8) (backend : VtRealBackend) (surfaces : Surfaces)
    (notDequeue : Opcode.ofCode? request.opcode ≠ some .dequeueDecodedFrame)
    (notRelease : Opcode.ofCode? request.opcode ≠ some .releaseDecodedFrame) :
    (dispatch host request response backend
      surfaces).backend.decodedOutputState = backend.decodedOutputState := by
  have effect := dispatch_effect host request response backend surfaces
  generalize dispatch host request response backend surfaces = served at effect ⊢
  generalize Opcode.ofCode? request.opcode = opcode at effect notDequeue notRelease
  cases effect with
  | entryClaimed _ _ _ _ build => exact build.sameSessions.decodedOutputState
  | decodedDequeued _ => exact absurd rfl notDequeue
  | decodedReleased _ _ => exact absurd rfl notRelease
  | _ => rfl

/-- The output a reply to `DEQUEUE_DECODED_FRAME` names, with its session.
The reply that reports an error names output 0. -/
def handedOut (backend : VtRealBackend) (request : Request)
    (body : ReplyBody) : List (Delivery VtRealDecodedOutput) :=
  match Opcode.ofCode? request.opcode, body with
  | some .dequeueDecodedFrame, .decodedFrame reply =>
    ((backend.decodedOutputState.queue.items.lookup reply.outputId).map fun output =>
        { sessionId := reply.sessionId
          outputId := reply.outputId
          output := output }).toList
  | _, _ => []

def released (request : Request) (status : UInt32) : List Nat :=
  if Opcode.ofCode? request.opcode = some .releaseDecodedFrame ∧ status = Status.ok then
    [(SessionOutputPayload.read request.payload).outputId.toNat]
  else []

end VtRealBackend

/-- A backend, the decoder callbacks at work on it, and what happened to the
handles of its decoded outputs. -/
structure DecodeRun where
  backend : VtRealBackend
  callbacks : FiniteMap Nat (Producer VtRealDecodedOutput)
  pushed : List (Nat × VtRealDecodedOutput)
  delivered : List (Delivery VtRealDecodedOutput)
  released : List Nat

inductive DecodeRunEvent where
  /-- Any request, over whatever the other connections made of the shared
  surfaces. -/
  | request (host : HostCalls) (request : Request) (response : List UInt8)
      (surfaces : Surfaces)
  | callbackStarts (thread sessionId : Nat) (sample : DecodedSample)
  | callbackStep (thread : Nat)

namespace DecodeRun

def starting (backend : VtRealBackend) : DecodeRun where
  backend := { backend with decodedOutputState := DecodedOutputQueue.new }
  callbacks := ∅
  pushed := []
  delivered := []
  released := []

def queue (run : DecodeRun) : TicketQueue Nat VtRealDecodedOutput :=
  run.backend.decodedOutputState.queue

def withQueue (run : DecodeRun) (queue : TicketQueue Nat VtRealDecodedOutput) : VtRealBackend :=
  { run.backend with
    decodedOutputState :=
      { run.backend.decodedOutputState with queue := queue } }

def step (run : DecodeRun) : DecodeRunEvent → DecodeRun
  | .request host request response surfaces =>
    let served := run.backend.dispatch host request response surfaces
    { run with
      backend := served.backend
      delivered := run.delivered ++ run.backend.handedOut request served.body
      released := run.released ++ VtRealBackend.released request served.status }
  | .callbackStarts thread sessionId sample =>
    match decompressionOutput sessionId sample with
    | .error status =>
      { run with
        backend := { run.backend with
          decodedOutputState :=
            run.backend.decodedOutputState.recordDecodeError sessionId status } }
    | .ok output =>
      if (run.callbacks.lookup thread).isSome then run
      else { run with
        callbacks := run.callbacks.insert thread ⟨output, .started⟩ }
  | .callbackStep thread =>
    match run.callbacks.lookup thread with
    | none => run
    | some producer =>
      let result := TicketQueue.advance DecodedOutputQueue.labels run.queue producer
      { run with
        backend := run.withQueue result.1
        callbacks :=
          match result.2 with
          | some moved => run.callbacks.insert thread moved
          | none => run.callbacks.erase thread
        pushed := run.pushed ++ producer.pushes }

/-! ## Refinement of the ticketed queue -/

def traffic (run : DecodeRun) : Traffic Nat VtRealDecodedOutput where
  queue := run.queue
  producers := run.callbacks
  held := none
  pushed := run.pushed
  delivered := run.delivered.map Delivery.entry

variable {run : DecodeRun}

/-- What is known of the handles in every run. -/
structure Tracked (run : DecodeRun) : Prop where
  placed : run.traffic.Placed DecodedOutputQueue.labels
  /-- No output has the id of the error reply. -/
  sentinel : run.traffic.Retired 0
  rightful : Rightful DecodedOutputQueue.labels run.delivered
  released : ∀ outputId ∈ run.released, run.traffic.Retired outputId

theorem starting_tracked (backend : VtRealBackend) :
    (starting backend).Tracked where
  placed := Traffic.initial_placed DecodedOutputQueue.labels 70000
  sentinel := Traffic.initial_retired (Nat.zero_lt_succ _)
  rightful _ member := nomatch member
  released _ member := nomatch member

/-- A step that is some events of the queue and changes no history of its
own keeps track. -/
theorem Tracked.of_events (tracked : run.Tracked) {later : DecodeRun}
    (events : List (TicketQueue.Event Nat VtRealDecodedOutput))
    (stepped : later.traffic =
      Execution.run (Traffic.step DecodedOutputQueue.labels) run.traffic events)
    (rightful : Rightful DecodedOutputQueue.labels later.delivered)
    (released : ∀ outputId ∈ later.released,
      outputId ∈ run.released ∨ later.traffic.Retired outputId) :
    later.Tracked := by
  have retired : ∀ ticket, run.traffic.Retired ticket →
      later.traffic.Retired ticket := by
    intro ticket before
    rw [stepped]
    exact before.run events
  refine
    { placed := ?_
      sentinel := retired 0 tracked.sentinel
      rightful := rightful
      released := ?_ }
  · rw [stepped]
    exact Execution.invariant_of_step
      (fun _ event placed => placed.step event) tracked.placed events
  · intro outputId member
    rcases released outputId member with before | now
    · exact retired outputId (tracked.released outputId before)
    · exact now

theorem Tracked.callbackStarts (tracked : run.Tracked)
    (thread sessionId : Nat) (sample : DecodedSample) :
    (run.step (.callbackStarts thread sessionId sample)).Tracked := by
  simp only [step]
  cases decompressionOutput sessionId sample with
  | error status =>
    refine tracked.of_events [] ?_ tracked.rightful (fun outputId member => .inl member)
    simp only [traffic, queue, DecodeSide.recordDecodeError_queue, Execution.run_nil]
  | ok output =>
    dsimp only
    split
    · exact tracked
    next free =>
      refine tracked.of_events [.start thread output] ?_ tracked.rightful
        (fun outputId member => .inl member)
      simp [traffic, queue, Traffic.step, free]

theorem Tracked.callbackStep (tracked : run.Tracked) (thread : Nat) :
    (run.step (.callbackStep thread)).Tracked := by
  simp only [step]
  cases found : run.callbacks.lookup thread with
  | none => exact tracked
  | some producer =>
    refine tracked.of_events [.advance thread] ?_ tracked.rightful
      (fun outputId member => .inl member)
    simp only [Execution.run_cons, Execution.run_nil, Traffic.step, Traffic.advanceProducer,
      traffic, found]
    cases (TicketQueue.advance DecodedOutputQueue.labels run.queue producer).2 with
    | none => rfl
    | some moved => rfl

/-- A pop and the lookup of the popped id hand the output to its session. -/
theorem Tracked.popped (tracked : run.Tracked) {later : DecodeRun} (sessionId : Nat)
    (queue : later.queue = (run.queue.pop sessionId 1).2)
    (callbacks : later.callbacks = run.callbacks)
    (pushed : later.pushed = run.pushed)
    (released : later.released = run.released)
    (delivered : later.delivered = run.delivered ++
      (run.queue.collect (run.queue.pop sessionId 1).1).map fun pair =>
        { sessionId := sessionId
          outputId := pair.1
          output := pair.2 }) :
    later.Tracked := by
  refine tracked.of_events [.pop sessionId 1, .collect] ?_ ?_
    (fun outputId member => .inl (released ▸ member))
  · rw [Traffic.run_pop_collect DecodedOutputQueue.labels rfl]
    simp only [traffic, queue, callbacks, pushed, delivered, map_append, map_map]
    simp [Function.comp_def, Delivery.entry]
  · rw [delivered]
    intro delivery member
    rcases mem_append.mp member with before | now
    · exact tracked.rightful delivery before
    · obtain ⟨pair, collected, rfl⟩ := mem_map.mp now
      obtain ⟨taken, stored⟩ := Traffic.mem_collect.mp collected
      exact tracked.placed.keyed (Traffic.mem_tickets_of_mem_lane (mem_of_mem_take taken)) stored

theorem Tracked.dequeue (tracked : run.Tracked) {request : Request}
    {served : Served} {surfaces : Surfaces} {sessionId : Nat}
    (opcode : Opcode.ofCode? request.opcode = some .dequeueDecodedFrame)
    (dequeued : VtRealBackend.DecodedDequeue run.backend surfaces sessionId served) :
    { run with
      backend := served.backend
      delivered := run.delivered ++ run.backend.handedOut request served.body }.Tracked := by
  cases dequeued with
  | refused failed =>
    simp only [VtRealBackend.handedOut, opcode, Served.plain, append_nil]
    exact tracked
  | frame known waiting found =>
    refine tracked.popped sessionId rfl rfl rfl rfl ?_
    simp [VtRealBackend.handedOut, opcode, Served.ok,
      VtRealBackend.decodedFrameReply, found, queue, TicketQueue.pop,
      waiting, TicketQueue.collect]
  | lost known waiting missing =>
    refine tracked.popped sessionId rfl rfl rfl rfl ?_
    simp [VtRealBackend.handedOut, opcode, Served.plain, queue,
      TicketQueue.pop, waiting, TicketQueue.collect, missing]
  | error known empty recorded =>
    have unused : run.backend.decodedOutputState.queue.items.lookup 0 =
        none := tracked.sentinel.gone
    refine tracked.popped sessionId rfl rfl rfl rfl ?_
    simp [VtRealBackend.handedOut, opcode, Served.ok,
      VtRealBackend.decodeErrorReply, unused, queue, TicketQueue.pop,
      empty, TicketQueue.collect]
  | drained known empty unrecorded =>
    refine tracked.popped sessionId rfl rfl rfl rfl ?_
    simp [VtRealBackend.handedOut, opcode, Served.plain, queue,
      TicketQueue.pop, empty, TicketQueue.collect]

theorem Tracked.release (tracked : run.Tracked) {outputId : Nat} {output : VtRealDecodedOutput}
    (stored : run.queue.items.lookup outputId = some output) :
    { run with
      backend := run.withQueue (run.queue.discard outputId)
      released := run.released ++ [outputId] }.Tracked := by
  refine tracked.of_events [.discard outputId] rfl tracked.rightful ?_
  intro other member
  rcases mem_append.mp member with before | now
  · exact .inl before
  · rw [mem_singleton.mp now]
    exact .inr (tracked.placed.retired_of_discard stored)

theorem Tracked.request (tracked : run.Tracked) (host : HostCalls)
    (request : Request) (response : List UInt8) (surfaces : Surfaces) :
    (run.step (.request host request response surfaces)).Tracked := by
  simp only [step]
  by_cases dequeues : Opcode.ofCode? request.opcode = some .dequeueDecodedFrame
  · have served : run.backend.dispatch host request response surfaces =
        VtRealBackend.dequeueDecodedFrame request.payload run.backend
          surfaces := by
      simp only [VtRealBackend.dispatch, dequeues]
    have none : VtRealBackend.released request
        (VtRealBackend.dequeueDecodedFrame request.payload run.backend surfaces).status = [] := by
      simp [VtRealBackend.released, dequeues]
    rw [served, none, append_nil]
    exact tracked.dequeue dequeues VtRealBackend.dequeueDecodedFrame_cases
  · have none : ∀ body, run.backend.handedOut request body = [] := by
      intro body
      simp only [VtRealBackend.handedOut]
      split
      · contradiction
      · rfl
    rw [none, append_nil]
    by_cases releases : Opcode.ofCode? request.opcode = some .releaseDecodedFrame
    · have served : run.backend.dispatch host request response surfaces =
          VtRealBackend.releaseDecodedFrame request.payload run.backend
            surfaces := by
        simp only [VtRealBackend.dispatch, releases]
      rw [served]
      rcases VtRealBackend.releaseDecodedFrame_cases request.payload run.backend surfaces with
        ⟨status, failed, refused⟩ | ⟨output, stored, done⟩
      · have kept : VtRealBackend.released request status = [] := by
          simp [VtRealBackend.released, failed]
        rw [refused]
        simp only [Served.plain, kept, append_nil]
        exact tracked
      · rw [done]
        simp only [Served.plain, VtRealBackend.released, releases, and_self, if_true]
        exact tracked.release stored
    · have kept := VtRealBackend.dispatch_decodedOutputState host request
        response run.backend surfaces dequeues releases
      have unreleased : ∀ status, VtRealBackend.released request status = [] := by
        intro status
        simp [VtRealBackend.released, releases]
      refine tracked.of_events [] ?_ tracked.rightful ?_
      · simp only [traffic, queue, kept, Execution.run_nil]
      · intro outputId member
        rw [unreleased, append_nil] at member
        exact .inl member

theorem Tracked.step (tracked : run.Tracked) (event : DecodeRunEvent) :
    (run.step event).Tracked := by
  cases event with
  | request host request response surfaces =>
    exact tracked.request host request response surfaces
  | callbackStarts thread sessionId sample =>
    exact tracked.callbackStarts thread sessionId sample
  | callbackStep thread => exact tracked.callbackStep thread

theorem run_tracked (backend : VtRealBackend) (events : List DecodeRunEvent) :
    (Execution.run step (starting backend) events).Tracked :=
  Execution.invariant_of_step (fun _ event tracked => tracked.step event)
    (starting_tracked backend) events

end DecodeRun

/-! ## Requests that name a handle -/

/-- The session and the output named by a request that reads or releases a
decoded frame. -/
def Request.decodedHandle (request : Request) : Option (Nat × Nat) :=
  let handle := SessionOutputPayload.read request.payload
  let chunk := ReadDecodedFrameChunkPayload.read request.payload
  match Opcode.ofCode? request.opcode with
  | some .readDecodedFrame =>
    some (handle.sessionId.toNat, handle.outputId.toNat)
  | some .readDecodedFrameChunk =>
    some (chunk.sessionId.toNat, chunk.outputId.toNat)
  | some .releaseDecodedFrame =>
    some (handle.sessionId.toNat, handle.outputId.toNat)
  | _ => none

/-- The request passes every check its handler makes. -/
def VtRealBackend.Admits (backend : VtRealBackend) (host : HostCalls)
    (request : Request) (response : List UInt8) : Prop :=
  let source := request.payload
  match Opcode.ofCode? request.opcode with
  | some .readDecodedFrame =>
    ∃ output, ReadsDecodedFrame host source backend output ∧ readDecodedFrameReplySize +
        (decodedLayout output).totalSize.toNat ≤ response.length ∧
      ¬ CopyFails host.nulls output.imageBuffer (decodedLayout output)
  | some .readDecodedFrameChunk =>
    ∃ output, ReadsDecodedChunk host source backend output ∧ readDecodedFrameChunkReplySize +
        (ReadDecodedFrameChunkPayload.read source).length.toNat ≤ response.length ∧
      ¬ RangeCopyFails host.nulls output.imageBuffer (decodedLayout output)
        (ReadDecodedFrameChunkPayload.read source).offset.toNat
        (ReadDecodedFrameChunkPayload.read source).length.toNat
  | some .releaseDecodedFrame =>
    SessionOutputPayload.size ≤ source.length ∧ (backend.decodedOutputState.queue.items.lookup
        (SessionOutputPayload.read source).outputId.toNat).isSome
  | _ => False

namespace VtRealBackend

variable {backend : VtRealBackend} {surfaces : Surfaces}

theorem releaseDecodedFrame_ok_iff {source : List UInt8} :
    (releaseDecodedFrame source backend surfaces).status = Status.ok ↔
      SessionOutputPayload.size ≤ source.length ∧ (backend.decodedOutputState.queue.items.lookup
          (SessionOutputPayload.read source).outputId.toNat).isSome := by
  unfold releaseDecodedFrame
  dsimp only
  split
  next short =>
    have failed : Status.internalFailure ≠ Status.ok := by decide
    exact iff_of_false failed fun admitted =>
      absurd short (Nat.not_lt_of_le admitted.1)
  next long =>
    split
    next missing =>
      have failed : Status.invalidHandle ≠ Status.ok := by decide
      rw [missing]
      refine iff_of_false failed ?_
      rintro ⟨_, stored⟩
      cases stored
    next output found =>
      rw [found]
      exact iff_of_true rfl ⟨Nat.le_of_not_lt long, rfl⟩

variable {host : HostCalls} {request : Request} {response : List UInt8}
variable {sessionId outputId : Nat}

/-- A request that names a handle succeeds exactly if it passes its checks; the
output it reaches is the one stored under the named id. -/
theorem dispatch_ok_iff (named : request.decodedHandle = some (sessionId, outputId)) :
    (backend.dispatch host request response surfaces).status = Status.ok ↔
      backend.Admits host request response := by
  unfold Request.decodedHandle at named
  unfold dispatch Admits
  dsimp only at named ⊢
  split at named
  next opcode =>
    simp only [opcode]
    exact readDecodedFrame_ok_iff
  next opcode =>
    simp only [opcode]
    exact readDecodedFrameChunk_ok_iff
  next opcode =>
    simp only [opcode]
    exact releaseDecodedFrame_ok_iff
  · cases named

theorem Admits.stored (admitted : backend.Admits host request response)
    (named : request.decodedHandle = some (sessionId, outputId)) :
    ∃ output, backend.decodedOutputState.queue.items.lookup outputId =
      some output := by
  unfold Request.decodedHandle at named
  unfold Admits at admitted
  dsimp only at named admitted
  split at named
  next opcode =>
    simp only [opcode] at admitted
    obtain ⟨output, reads, _⟩ := admitted
    cases named
    exact ⟨output, reads.queued⟩
  next opcode =>
    simp only [opcode] at admitted
    obtain ⟨output, reads, _⟩ := admitted
    cases named
    exact ⟨output, reads.queued⟩
  next opcode =>
    simp only [opcode] at admitted
    cases named
    exact Option.isSome_iff_exists.mp admitted.2
  · cases named

theorem dispatch_backend_of_failed (named : request.decodedHandle = some (sessionId, outputId))
    (failed : (backend.dispatch host request response surfaces).status ≠ Status.ok) :
    (backend.dispatch host request response surfaces).backend = backend := by
  unfold Request.decodedHandle at named
  unfold dispatch at failed ⊢
  dsimp only at named failed ⊢
  split at named
  next opcode =>
    simp only [opcode]
    exact readDecodedFrame_backend
  next opcode =>
    simp only [opcode]
    exact readDecodedFrameChunk_backend
  next opcode =>
    simp only [opcode] at failed ⊢
    rcases releaseDecodedFrame_cases request.payload backend surfaces with
      ⟨status, _, refused⟩ | ⟨output, _, done⟩
    · rw [refused]
      rfl
    · rw [done] at failed
      exact absurd rfl failed
  · cases named

end VtRealBackend

namespace DecodeRun

variable {run : DecodeRun}

/-- The handle is valid: the output was produced for the session, a dequeue of
the session returned it, and it was not released. -/
structure Holds (run : DecodeRun) (sessionId outputId : Nat) : Prop where
  produced : ∃ output, (outputId, output) ∈ run.pushed ∧ output.sessionId = sessionId
  dequeued : ∃ delivery ∈ run.delivered,
    delivery.sessionId = sessionId ∧ delivery.outputId = outputId
  unreleased : outputId ∉ run.released

/-- The request succeeds only with a valid handle, and otherwise fails and
changes nothing. -/
def Guards (run : DecodeRun) (host : HostCalls) (request : Request)
    (response : List UInt8) (surfaces : Surfaces)
    (sessionId outputId : Nat) : Prop :=
  let served := run.backend.dispatch host request response surfaces
  (served.status = Status.ok → run.Holds sessionId outputId) ∧ (¬ run.Holds sessionId outputId →
      served.status ≠ Status.ok ∧ served.backend = run.backend)

/-- The output under the id is of the session and neither waits in the
session's queue nor is still to be pushed by a callback. -/
def Withdrawn (run : DecodeRun) (sessionId outputId : Nat) : Prop :=
  (∃ output, run.queue.items.lookup outputId = some output ∧ output.sessionId = sessionId) ∧
  outputId ∉ run.queue.lane sessionId ∧
  ∀ thread producer, run.callbacks.lookup thread = some producer → producer.ticket? ≠ some outputId

/-- A stored output is valid for a session exactly if it is withdrawn. -/
theorem Tracked.holds_iff (tracked : run.Tracked) {sessionId outputId : Nat}
    {output : VtRealDecodedOutput}
    (stored : run.queue.items.lookup outputId = some output) :
    run.Holds sessionId outputId ↔ run.Withdrawn sessionId outputId := by
  constructor
  · intro holds
    obtain ⟨delivery, member, ofSession, ofOutput⟩ := holds.dequeued
    have handed : (outputId, delivery.output) ∈ run.traffic.delivered :=
      mem_map.mpr ⟨delivery, member, by rw [Delivery.entry, ofOutput]⟩
    have same := tracked.placed.handed_eq handed stored
    have out : run.traffic.At outputId .out := .delivered handed
    refine ⟨⟨output, stored, ?_⟩, ?_, ?_⟩
    · rw [← same, ← ofSession]
      exact tracked.rightful delivery member
    · intro waits
      cases tracked.placed.once _ _ _ out (.waiting (Traffic.mem_tickets_of_mem_lane waits))
    · intro thread producer found drew
      cases tracked.placed.once _ _ _ out (.producing found drew)
  · rintro ⟨⟨other, found, ofSession⟩, left, idle⟩
    cases found.symm.trans stored
    rcases tracked.placed.stored outputId output stored with
      ⟨thread, storing⟩ | ⟨pushed, waits | handed⟩
    · exact absurd rfl (idle thread _ storing)
    · have lane : outputId ∈ run.queue.lane output.sessionId := waits
      rw [ofSession] at lane
      exact absurd lane left
    · obtain ⟨delivery, member, entry⟩ := mem_map.mp handed
      refine ⟨⟨output, pushed, ofSession⟩, ⟨delivery, member, ?_, ?_⟩, ?_⟩
      · rw [← tracked.rightful delivery member, ← ofSession]
        exact congrArg (fun pair => pair.2.sessionId) entry
      · exact congrArg Prod.fst entry
      · intro gone
        have missing := (tracked.released outputId gone).gone
        rw [show run.traffic.queue.items.lookup outputId = some output from
          stored] at missing
        cases missing

/-- In every run, a request that names a handle is guarded by the handle's
history exactly if what it reaches, when it passes its checks, was withdrawn
by the named session. -/
theorem handle_guarded_iff (backend : VtRealBackend)
    (events : List DecodeRunEvent) (host : HostCalls) (request : Request)
    (response : List UInt8) (surfaces : Surfaces) (sessionId outputId : Nat)
    (named : request.decodedHandle = some (sessionId, outputId)) :
    let run := Execution.run step (starting backend) events
    run.Guards host request response surfaces sessionId outputId ↔
      (run.backend.Admits host request response →
        run.Withdrawn sessionId outputId) := by
  intro run
  have tracked : run.Tracked := run_tracked backend events
  have succeeds : (run.backend.dispatch host request response surfaces).status = Status.ok ↔
        run.backend.Admits host request response :=
    VtRealBackend.dispatch_ok_iff named
  constructor
  · rintro ⟨valid, _⟩ admitted
    obtain ⟨output, stored⟩ := admitted.stored named
    exact (tracked.holds_iff stored).mp (valid (succeeds.mpr admitted))
  · intro withdrawn
    have valid : (run.backend.dispatch host request response
        surfaces).status = Status.ok → run.Holds sessionId outputId := by
      intro done
      have admitted := succeeds.mp done
      obtain ⟨output, stored⟩ := admitted.stored named
      exact (tracked.holds_iff stored).mpr (withdrawn admitted)
    refine ⟨valid, ?_⟩
    intro invalid
    have failed := mt valid invalid
    exact ⟨failed, VtRealBackend.dispatch_backend_of_failed named failed⟩

/-! ## Handles used before their dequeue and by other sessions -/

open LittleEndian WorkerProcess

def dequeueDecodedRequest (sessionId : UInt64) : Request where
  opcode := Opcode.dequeueDecodedFrame.code
  payload := u64Bytes sessionId

def readDecodedRequest (sessionId outputId : UInt64) : Request where
  opcode := Opcode.readDecodedFrame.code
  payload := u64Bytes sessionId ++ u64Bytes outputId

def releaseDecodedRequest (sessionId outputId : UInt64) : Request where
  opcode := Opcode.releaseDecodedFrame.code
  payload := u64Bytes sessionId ++ u64Bytes outputId

/-- A frame of one BGRA pixel, which its layout pads to 64 bytes. -/
def decodedFrame : DecodedSample where
  status := 0
  imageBuffer := some (wrapSlotSinglePlane 0 0 1 1 64 PixelFormat.bgra)
  timing := ⟨0, 600, 600, 1⟩

def served (request : Request) : DecodeRunEvent :=
  .request {} request (replicate 80 0) twoSlotStart.surfaces

/-- Two decode sessions, and output 70000 queued for the first. -/
def oneFrameDecoded : DecodeRun :=
  Execution.run step (starting .fresh) [served decodeSessionRequest, served decodeSessionRequest,
      .callbackStarts 0 1 decodedFrame, .callbackStep 0, .callbackStep 0,
      .callbackStep 0]

/-- The handle is guarded on a request made as `served` makes it. -/
def GuardsHandle (run : DecodeRun) (request : Request) : Prop :=
  ∃ sessionId outputId, request.decodedHandle = some (sessionId, outputId) ∧
      run.Guards {} request (replicate 80 0) twoSlotStart.surfaces sessionId outputId

/-- Once dequeued, the frame is read by its own session. -/
theorem dequeued_frame_read :
    let run := oneFrameDecoded.step (served (dequeueDecodedRequest 1))
    run.GuardsHandle (readDecodedRequest 1 70000) ∧
      (run.backend.dispatch {} (readDecodedRequest 1 70000)
        (replicate 80 0) twoSlotStart.surfaces).status = Status.ok := by
  refine ⟨⟨1, 70000, rfl, ?_⟩, rfl⟩
  apply (handle_guarded_iff .fresh [served decodeSessionRequest, served decodeSessionRequest,
      .callbackStarts 0 1 decodedFrame, .callbackStep 0, .callbackStep 0,
      .callbackStep 0, served (dequeueDecodedRequest 1)]
    {} (readDecodedRequest 1 70000) (replicate 80 0)
    twoSlotStart.surfaces 1 70000 rfl).mpr
  intro _
  refine ⟨⟨_, rfl, rfl⟩, ?_, ?_⟩
  · intro waits
    cases waits
  · intro thread producer found
    cases found

/-- A frame still queued is read by its session, and a frame dequeued by its
session is released by another. -/
theorem foreign_handle_served :
    ¬ oneFrameDecoded.GuardsHandle (readDecodedRequest 1 70000) ∧
    ¬ (oneFrameDecoded.step (served (dequeueDecodedRequest 1))).GuardsHandle
      (releaseDecodedRequest 2 70000) := by
  refine ⟨?_, ?_⟩
  · rintro ⟨sessionId, outputId, named, valid, _⟩
    cases named
    obtain ⟨_, ⟨delivery, member, _⟩, _⟩ := valid rfl
    cases member
  · rintro ⟨sessionId, outputId, named, valid, _⟩
    cases named
    obtain ⟨⟨output, member, ofSession⟩, _, _⟩ := valid rfl
    rcases mem_singleton.mp member with ⟨⟩
    cases ofSession

end DecodeRun

end VtFerry
