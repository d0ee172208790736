import VtFerry.Worker.ResponseReuse
import VtFerry.Worker.SlotReturn

/-!
# Reading an encoded output

The compression callback stores a sample of any size, a dequeue reports its
size, and `READ_OUTPUT` copies it behind a `ReadOutputReply` into the response
buffer of the connection, which has a fixed size.  The output a dequeue
reports under an id is the one its callback drew the id for, with the bytes of
the sample the encoder called back with.  It stays stored until a release
names it or its session is destroyed.  So until then it can be read exactly if
the sample fits the response buffer.
-/

namespace VtFerry

open Execution List LittleEndian TicketQueue VtRealBackend

/-- The outputs a reply to a dequeue reports. -/
def ReplyBody.reported : ReplyBody → List DequeueOutputReply
  | .output reply => [reply]
  | .outputs _ replies => replies
  | _ => []

variable {output : VtRealOutput}

theorem compressionOutput_storage {context : SessionCallbackContext} {frame : FrameContext}
    {sample : EncodedSample} (made : compressionOutput context frame sample = some output) :
    sample.data = some output.storage ∧ 0 < output.storage.length ∧
      output.reply.sampleSize = UInt32.ofNat output.storage.length := by
  unfold compressionOutput at made
  split at made
  · cases made
  split at made
  · cases made
  next bytes data =>
    split at made
    · cases made
    next positive =>
      cases made
      exact ⟨data, Nat.pos_of_ne_zero positive, rfl⟩

namespace VtRealBackend

variable {backend : VtRealBackend} {surfaces : Surfaces} {reply : DequeueOutputReply}

theorem mem_takenOutputs {sessionId count : Nat}
    (taken : output ∈ backend.takenOutputs sessionId count) :
    ∃ ticket ∈ (backend.outputState.lane sessionId).take count,
      backend.outputState.items.lookup ticket = some output := by
  obtain ⟨pair, collected, rfl⟩ := mem_map.mp taken
  obtain ⟨ticket, popped, lookup⟩ := mem_filterMap.mp collected
  obtain ⟨stored, isStored, rfl⟩ := Option.map_eq_some_iff.mp lookup
  exact ⟨ticket, popped, isStored⟩

/-- The reply is that of an output that was taken off the session's queue. -/
def Reports (backend : VtRealBackend) (limits : Nat × Nat) (reply : DequeueOutputReply)
    (served : Served) : Prop :=
  (∃ output ∈ backend.takenOutputs limits.1 limits.2, output.reply = reply) ∧
    served.backend.outputState = (backend.outputState.pop limits.1 limits.2).2

variable {source : List UInt8}

theorem dequeueOutput_reports
    (reported : reply ∈ (dequeueOutput source backend surfaces).body.reported) :
    backend.Reports ((HandlePayload.read source).handle.toNat, 1) reply
      (dequeueOutput source backend surfaces) := by
  unfold dequeueOutput at reported ⊢
  by_cases short : source.length < HandlePayload.size
  · rw [if_pos short] at reported
    cases reported
  · rw [if_neg short] at reported ⊢
    dsimp only [popOutputs, answerDequeue] at reported ⊢
    split at reported
    · cases reported
    next output rest outputs =>
      have taken : backend.takenOutputs (HandlePayload.read source).handle.toNat 1 =
        output :: rest := outputs
      refine ⟨⟨output, taken ▸ mem_cons_self, (mem_singleton.mp reported).symm⟩, ?_⟩
      simp only [Served.ok, markAllReusable_eq]

theorem dequeueOutputBatch_reports
    (reported : reply ∈ (dequeueOutputBatch source backend surfaces).body.reported) :
    backend.Reports ((DequeueOutputBatchPayload.read source).sessionId.toNat,
        OutputQueue.batchLimit (DequeueOutputBatchPayload.read source).maxOutputs) reply
      (dequeueOutputBatch source backend surfaces) := by
  unfold dequeueOutputBatch at reported ⊢
  by_cases short : source.length < DequeueOutputBatchPayload.size
  · rw [if_pos short] at reported
    cases reported
  · rw [if_neg short] at reported ⊢
    dsimp only [popOutputs, answerDequeueBatch] at reported ⊢
    split at reported
    · cases reported
    next some =>
      rw [if_neg some]
      refine ⟨mem_map.mp reported, ?_⟩
      simp only [Served.ok, markAllReusable_eq]

theorem releasedOutputs_of_dequeue {opcode : Option Opcode} {limits : Nat × Nat}
    (dequeues : dequeueLimits opcode source = some limits) :
    releasedOutputs opcode source = [] := by
  cases opcode with
  | none => rfl
  | some named =>
    cases named with
    | releaseOutput | releaseOutputBatch => cases dequeues
    | _ => rfl

variable {response : List UInt8}

theorem dispatch_reports {host : HostCalls} {request : Request} {limits : Nat × Nat}
    (dequeues : dequeueLimits (Opcode.ofCode? request.opcode) request.payload = some limits)
    (reported : reply ∈ (backend.dispatch host request response surfaces).body.reported) :
    backend.Reports limits reply (backend.dispatch host request response surfaces) := by
  unfold dispatch at reported ⊢
  cases opcode : Opcode.ofCode? request.opcode with
  | none =>
    rw [opcode] at dequeues
    cases dequeues
  | some named =>
    rw [opcode] at dequeues reported
    cases named with
    | dequeueOutput =>
      cases dequeues
      exact dequeueOutput_reports reported
    | dequeueOutputBatch =>
      cases dequeues
      exact dequeueOutputBatch_reports reported
    | _ => cases dequeues

end VtRealBackend

namespace WorkerProcess

/-! ## Where an output comes from -/

variable {surfaces : Surfaces} {events : List WorkerEvent} {id ticket : Nat}

/-- The encoder called back with the sample for a frame of the connection, and
the output was made of it. -/
def MadeFrom (surfaces : Surfaces) (events : List WorkerEvent) (id : Nat) (sample : EncodedSample)
    (made : VtRealOutput) : Prop :=
  ∃ earlier key thread flight, earlier ++ [.encoderCallback key thread sample] <+: events ∧
    (run step (started surfaces) earlier).inFlight.lookup key = some flight ∧
    flight.connection = id ∧
    compressionOutput flight.frame.context flight.frame.frame sample = some made

/-- The callback that had made the output drew this id for it. -/
def DrawnFor (surfaces : Surfaces) (events : List WorkerEvent) (id ticket : Nat)
    (made : VtRealOutput) : Prop :=
  ∃ earlier thread connection, earlier ++ [.callbackStep id thread] <+: events ∧
    (run step (started surfaces) earlier).connections.lookup id = some connection ∧
    connection.callbacks.lookup thread = some ⟨made, .started⟩ ∧
    connection.backend.outputState.next = ticket

/-- The output is one a callback made of a sample, under the id drawn for it. -/
def FiledUnder (surfaces : Surfaces) (events : List WorkerEvent) (id ticket : Nat)
    (output : VtRealOutput) : Prop :=
  ∃ sample made, MadeFrom surfaces events id sample made ∧
    DrawnFor surfaces events id ticket made ∧ output = OutputQueue.labels.stamp ticket made

/-- The outputs of a connection, and those its callbacks are at work on, have
their samples and ids from the run. -/
structure Filed (surfaces : Surfaces) (events : List WorkerEvent) (id : Nat)
    (connection : Connection) : Prop where
  started : ∀ thread made, connection.callbacks.lookup thread = some ⟨made, .started⟩ →
    ∃ sample, MadeFrom surfaces events id sample made
  drawn : ∀ thread producer ticket, connection.callbacks.lookup thread = some producer →
    producer.ticket? = some ticket → FiledUnder surfaces events id ticket producer.item
  stored : ∀ ticket output, connection.backend.outputState.items.lookup ticket = some output →
    FiledUnder surfaces events id ticket output

theorem MadeFrom.later {sample : EncodedSample} {made : VtRealOutput}
    (from_ : MadeFrom surfaces events id sample made) (event : WorkerEvent) :
    MadeFrom surfaces (events ++ [event]) id sample made := by
  obtain ⟨earlier, key, thread, flight, happened, rest⟩ := from_
  exact ⟨earlier, key, thread, flight, happened.trans (prefix_append _ _), rest⟩

theorem FiledUnder.later (filed : FiledUnder surfaces events id ticket output)
    (event : WorkerEvent) :
    FiledUnder surfaces (events ++ [event]) id ticket output := by
  obtain ⟨sample, made, from_, ⟨earlier, thread, connection, happened, rest⟩, rfl⟩ := filed
  refine ⟨sample, made, from_.later event, ?_, rfl⟩
  exact ⟨earlier, thread, connection, happened.trans (prefix_append _ _), rest⟩

variable {connection : Connection}

theorem Filed.later (filed : Filed surfaces events id connection) (event : WorkerEvent) :
    Filed surfaces (events ++ [event]) id connection where
  started thread made running :=
    (filed.started thread made running).imp fun _ from_ => from_.later event
  drawn thread producer ticket running drew :=
    (filed.drawn thread producer ticket running drew).later event
  stored ticket output found := (filed.stored ticket output found).later event

/-- A callback that starts has its output from the sample of this event, and
one that draws an id draws it with this event. -/
theorem Filed.move {before after : Connection} {event : WorkerEvent}
    (filed : Filed surfaces events id before)
    (found : (run step (WorkerProcess.started surfaces) events).connections.lookup id = some before)
    (move : ConnectionMove (run step (WorkerProcess.started surfaces) events) id before
      event after) :
    Filed surfaces (events ++ [event]) id after := by
  have kept := filed.later event
  cases move.outputs with
  | served callbacks queue =>
    constructor
    · rw [callbacks]
      exact kept.started
    · rw [callbacks]
      exact kept.drawn
    · intro ticket output lookup
      exact kept.stored ticket output (queue.items lookup)
  | callback change queue callbacks starts advances _ =>
    constructor
    · intro thread made running
      rw [callbacks] at running
      rcases change.ofProducer running with old | ⟨_, start, same⟩ | ⟨_, _, same, _⟩ |
        ⟨_, _, _, same, _⟩
      · exact kept.started thread made old
      · cases same
        obtain ⟨key, flight, sample, flying, mine, making, thread, rfl⟩ := starts _ _ start
        exact ⟨sample, events, key, thread, flight, prefix_rfl, flying, mine, making⟩
      · cases same
      · cases same
    · intro thread producer ticket running drew
      rw [callbacks] at running
      rcases change.ofProducer running with old | ⟨_, _, rfl⟩ |
        ⟨made, was, rfl, advanced, _⟩ | ⟨item, early, was, rfl, _⟩
      · exact kept.drawn thread producer ticket old drew
      · cases drew
      · cases drew
        obtain ⟨sample, from_⟩ := kept.started thread made was
        obtain rfl := advances thread advanced
        exact ⟨sample, made, from_, ⟨events, thread, before, prefix_rfl, found, was, rfl⟩, rfl⟩
      · exact kept.drawn thread ⟨item, .ticketed early⟩ ticket was drew
    · intro ticket output lookup
      rw [queue] at lookup
      rcases change.ofItem lookup with old | ⟨thread, was, _⟩
      · exact kept.stored ticket output old
      · exact kept.drawn thread _ ticket was rfl

theorem accepted_filed : Filed surfaces events id .accepted where
  started _ _ running := nomatch running
  drawn _ _ _ running := nomatch running
  stored _ _ found := nomatch found

theorem run_filed (surfaces : Surfaces) (events : List WorkerEvent)
    (isOpen : (run step (started surfaces) events).connections.lookup id = some connection) :
    Filed surfaces events id connection := by
  induction events using reverseRecOn generalizing connection with
  | nil => cases isOpen
  | append_singleton events event induction =>
    rw [run_append] at isOpen
    rcases step_connection _ event id connection isOpen with ⟨before, found, move⟩ | ⟨_, _, rfl⟩
    · exact (induction found).move found move
    · exact accepted_filed

/-! ## How long it stays -/

/-- The event does not destroy the session. -/
def KeepsSession (id sessionId : Nat) (process : WorkerProcess) (event : WorkerEvent) : Prop :=
  ∀ before after, process.connections.lookup id = some before →
    (process.step event).connections.lookup id = some after →
    sessionId ∈ before.backend.sessions → sessionId ∈ after.backend.sessions

theorem nextConnection_le_run (process : WorkerProcess) (events : List WorkerEvent) :
    process.nextConnection ≤ (run step process events).nextConnection := by
  induction events generalizing process with
  | nil => exact Nat.le_refl _
  | cons event events induction =>
    exact (process.step_flight event).nextConnection.trans (induction (process.step event))

/-- An output that is not released stays exactly as long as its session is not
destroyed. -/
theorem stored_or_destroyed {process : WorkerProcess} {later : Connection}
    (known : id < process.nextConnection)
    (found : process.connections.lookup id = some connection)
    (past : connection.traffic.Past ticket)
    (stored : connection.backend.outputState.items.lookup ticket = some output)
    (unreleased : ∀ event ∈ events, ¬ Releases id ticket event)
    (isOpen : (run step process events).connections.lookup id = some later) :
    later.traffic.Past ticket ∧
      (Execution.Obeys step (KeepsSession id output.reply.sessionId) process events ∧
        later.backend.outputState.items.lookup ticket = some output ∨
      ¬ Execution.Obeys step (KeepsSession id output.reply.sessionId) process events ∧
        later.backend.outputState.items.lookup ticket = none) := by
  induction events using reverseRecOn generalizing later with
  | nil =>
    cases found.symm.trans isOpen
    exact ⟨past, .inl ⟨trivial, stored⟩⟩
  | append_singleton events event induction =>
    rw [obeys_append]
    rw [run_append] at isOpen
    rcases step_connection _ event id later isOpen with ⟨before, before_found, move⟩ | ⟨new, _, _⟩
    · have earlier := induction (fun other member =>
        unreleased other (mem_append_left _ member)) before_found
      have quiet : ¬ Releases id ticket event :=
        unreleased event (mem_append_right _ mem_cons_self)
      refine ⟨move.past earlier.1, ?_⟩
      rcases earlier.2 with ⟨obeyed, found⟩ | ⟨destroyed, gone⟩
      · cases move.outputFate earlier.1 quiet found with
        | kept session found =>
          refine .inl ⟨⟨obeyed, ?_, trivial⟩, found⟩
          intro first second was becomes
          cases before_found.symm.trans was
          cases isOpen.symm.trans becomes
          exact session
        | removed live destroyed gone =>
          refine .inr ⟨fun ⟨_, keeps, _⟩ => destroyed ?_, gone⟩
          exact keeps before later before_found isOpen live
      · exact .inr ⟨fun both => destroyed both.1, (move.retired ⟨earlier.1, gone⟩).gone⟩
    · have below := process.nextConnection_le_run events
      omega

end WorkerProcess

/-! ## What goes over the connection -/

/-- The request is answered with status `STATUS_OK` and the given payload. -/
def VtRealBackend.Answers (host : HostCalls) (header : MessageHeader)
    (payload response : List UInt8) (backend : VtRealBackend)
    (surfaces : Surfaces) (body : ReplyBody) : Prop :=
  backend.written host header payload response surfaces =
    (Server.replyHeader header ⟨Status.ok, body.bytes⟩).bytes ++ body.bytes

/-- A `READ_OUTPUT` request naming an output, as the connection receives it. -/
structure NamesOutput (header : MessageHeader) (payload : List UInt8) (outputId : Nat) : Prop where
  opcode : Opcode.ofCode? header.opcode = some .readOutput
  long : HandlePayload.size ≤ payload.length
  handle : (HandlePayload.read payload).handle.toNat = outputId

theorem VtRealBackend.answers_of_served {host : HostCalls} {header : MessageHeader}
    {payload : List UInt8} {backend : VtRealBackend} {surfaces : Surfaces} {body : ReplyBody}
    (answers : backend.Answers host header payload response surfaces body) :
    (backend.dispatch host ⟨header.opcode, payload⟩ response surfaces).status = Status.ok := by
  have ⟨headers, _⟩ := append_inj answers (by simp)
  have statuses := congrArg (fun bytes => (MessageHeader.read bytes).status) headers
  simp only [MessageHeader.read_bytes] at statuses
  exact statuses

theorem VtRealBackend.answers_readOutput_iff (host : HostCalls) {header : MessageHeader}
    {payload : List UInt8} {backend : VtRealBackend} (surfaces : Surfaces) {outputId : Nat}
    (names : NamesOutput header payload outputId)
    (full : response.length = transportStorageCapacity)
    (same : ∀ other, backend.outputState.items.lookup outputId = some other → other = output)
    (sized : output.reply.sampleSize.toNat = output.storage.length) :
    backend.Answers host header payload response surfaces
        (.outputBytes outputId output.reply.sampleSize output.storage) ↔
      output.storage.length ≤ transportStorageCapacity - readOutputReplySize ∧
        backend.outputState.items.lookup outputId = some output := by
  have served : backend.dispatch host ⟨header.opcode, payload⟩ response
      surfaces = readOutput payload response backend surfaces := by
    unfold dispatch
    rw [names.opcode]
  have complete : ¬ payload.length < HandlePayload.size :=
    Nat.not_lt.mpr names.long
  have room : readOutputReplySize ≤ transportStorageCapacity := by decide
  constructor
  · intro answers
    have accepted := answers_of_served answers
    rw [served, readOutput, if_neg complete] at accepted
    dsimp only at accepted
    rw [names.handle, full] at accepted
    cases found : backend.outputState.items.lookup outputId with
    | none =>
      rw [found] at accepted
      cases accepted
    | some other =>
      obtain rfl := same other found
      rw [found] at accepted
      dsimp only at accepted
      split at accepted
      · cases accepted
      next fits => exact ⟨by omega, rfl⟩
  · rintro ⟨fits, stored⟩
    unfold Answers written
    rw [served, readOutput, if_neg complete]
    dsimp only
    rw [names.handle, stored, full]
    dsimp only
    rw [if_neg (by omega)]
    rfl

open WorkerProcess

/-- In every run of the worker: an output that a dequeue reports is the one its
callback drew the id for, made of the sample the encoder called back with.
While no release names it, a `READ_OUTPUT` for it is answered with the
reported size and the bytes of the sample exactly if they leave room for the
reply header in the response buffer and its session was not destroyed. -/
theorem dequeued_output_read_iff (surfaces : Surfaces) (before after : List WorkerEvent) (id : Nat)
    (host readHost : HostCalls) (request : Request) (spare : List UInt8) (limits : Nat × Nat)
    (reply : DequeueOutputReply) (header : MessageHeader) (payload response : List UInt8)
    (connection later : Connection) :
    let queued := run step (started surfaces) before
    let taking := WorkerEvent.request id host request spare :: after
    let reached := run step queued taking
    queued.serving id id = some connection →
    dequeueLimits (Opcode.ofCode? request.opcode) request.payload = some limits →
    reply ∈ (connection.backend.dispatch host request spare queued.surfaces).body.reported →
    reached.connections.lookup id = some later →
    (∀ event ∈ after, ¬ Releases id reply.outputId event) →
    NamesOutput header payload reply.outputId →
    response.length = transportStorageCapacity →
    ∃ sample made, MadeFrom surfaces before id sample made ∧
      DrawnFor surfaces before id reply.outputId made ∧
      reply = { made.reply with outputId := reply.outputId } ∧
      sample.data = some made.storage ∧ 0 < made.storage.length ∧
      reply.sampleSize = UInt32.ofNat made.storage.length ∧
      (made.storage.length < 2 ^ 32 →
        (later.backend.Answers readHost header payload response reached.surfaces
            (.outputBytes reply.outputId reply.sampleSize made.storage) ↔
          made.storage.length ≤ transportStorageCapacity - readOutputReplySize ∧
          Execution.Obeys step (KeepsSession id reply.sessionId) queued taking)) := by
  intro queued taking reached serves dequeues reported isOpen unreleased names full
  obtain ⟨_, found, _⟩ := serving_eq_some_iff.mp serves
  obtain ⟨⟨output, taken, rfl⟩, _⟩ := dispatch_reports dequeues reported
  obtain ⟨ticket, popped, stored⟩ := mem_takenOutputs taken
  obtain ⟨sample, made, from_, drawn, rfl⟩ := (run_filed surfaces before found).stored ticket
    output stored
  have ⟨_, _, _, _, _, _, _, making⟩ := from_
  obtain ⟨data, positive, sized⟩ := compressionOutput_storage making
  refine ⟨sample, made, from_, drawn, rfl, data, positive, sized, fun representable => ?_⟩
  have quiet : ∀ event ∈ taking, ¬ Releases id ticket event := by
    intro event member
    rcases mem_cons.mp member with rfl | later
    · rintro ⟨_, _, _, ⟨rfl⟩, released⟩
      rw [releasedOutputs_of_dequeue dequeues] at released
      cases released
    · exact unreleased event later
  have past := (run_located surfaces before found).past_of_waiting (mem_of_mem_take popped)
  have known := (run_owned surfaces before).numbered.connections id connection found
  have fate := (stored_or_destroyed known found past stored quiet isOpen).2
  have same : ∀ other, later.backend.outputState.items.lookup ticket = some other →
      other = OutputQueue.labels.stamp ticket made := by
    intro other lookup
    rcases fate with ⟨_, still⟩ | ⟨_, gone⟩
    · exact Option.some.inj (lookup.symm.trans still)
    · cases gone.symm.trans lookup
  have whole : made.reply.sampleSize.toNat = made.storage.length := by
    rw [sized, UInt32.toNat_ofNat_of_lt' representable]
  refine (answers_readOutput_iff readHost reached.surfaces names full same
    whole).trans (and_congr_right fun _ => ?_)
  rcases fate with ⟨obeyed, still⟩ | ⟨destroyed, gone⟩
  · exact ⟨fun _ => obeyed, fun _ => still⟩
  · constructor
    · intro still
      cases gone.symm.trans still
    · intro obeyed
      exact absurd obeyed destroyed


/-! ## Samples that fit and samples that do not -/

def sampleQueued (bytes : List UInt8) : List WorkerEvent :=
  oneFrameInFlight ++ [.encoderCallback 0 0 { oneByteSample with data := some bytes },
    .callbackStep 0 0, .callbackStep 0 0, .callbackStep 0 0]

def sampleReported (bytes : List UInt8) : DequeueOutputReply where
  sessionId := 4
  outputId := 50000
  codec := Codec.avc1
  width := 16
  height := 16
  pixelFormat := PixelFormat.bgra
  timing := ⟨0, 600, 600, 1⟩
  sampleSize := UInt32.ofNat bytes.length
  sampleFlags := 1
  nalHeaderLength := 0
  parameterSetSizes := []
  parameterSetData := []

/-- The guest dequeues the output and takes the pool's other slot. -/
def sampleDequeued : List WorkerEvent :=
  [.request 0 {} (dequeueRequest 4) [], .request 0 {} (allocRequest 1) []]

/-- The output is reported under the first id, and then stored. -/
theorem sampleQueued_reported (first : UInt8) (rest : List UInt8) :
    let process := run step twoSlotStart (sampleQueued (first :: rest))
    ∃ connection later, process.serving 0 0 = some connection ∧
      (connection.backend.dispatch {} (dequeueRequest 4) [] process.surfaces).body.reported =
        [sampleReported (first :: rest)] ∧
      (run step process sampleDequeued).connections.lookup 0 = some later ∧
      later.backend.outputState.items.lookup 50000 =
        some ⟨sampleReported (first :: rest), 3, 1, first :: rest⟩ ∧
      Execution.Obeys step (KeepsSession 0 4) process sampleDequeued := by
  refine ⟨_, _, rfl, rfl, rfl, rfl, ?_, ?_, trivial⟩
  · rintro _ _ ⟨rfl⟩ ⟨rfl⟩ known
    exact known
  · rintro _ _ ⟨rfl⟩ ⟨rfl⟩ known
    exact known

def clearedResponse : List UInt8 :=
  replicate transportStorageCapacity 0

theorem length_clearedResponse :
    clearedResponse.length = transportStorageCapacity :=
  length_replicate

def firstOutputHeader : MessageHeader :=
  requestHeader .readOutput (u64Bytes 50000)

theorem firstOutputHeader_names : NamesOutput firstOutputHeader (u64Bytes 50000) 50000 :=
  ⟨rfl, by decide, by decide⟩

def noSurfaces : Surfaces :=
  ⟨⟨[]⟩, fun _ _ => 0⟩

/-- A sample of two bytes is read, behind its id and its size. -/
theorem two_byte_output_read :
    let process := run step twoSlotStart (sampleQueued [7, 9])
    let reached := run step process sampleDequeued
    let payload := u64Bytes 50000 ++ [2, 0, 0, 0, 0, 0, 0, 0, 7, 9]
    ∃ later, reached.connections.lookup 0 = some later ∧
      later.backend.written {} firstOutputHeader (u64Bytes 50000) clearedResponse
          reached.surfaces =
        (Server.replyHeader firstOutputHeader ⟨Status.ok, payload⟩).bytes ++ payload := by
  intro process reached payload
  obtain ⟨connection, later, serves, reported, isOpen, _, keeps⟩ := sampleQueued_reported 7 [9]
  refine ⟨later, isOpen, ?_⟩
  have unreleased : ∀ event ∈ [WorkerEvent.request 0 {} (allocRequest 1) []],
      ¬ Releases 0 50000 event := by
    rintro _ member ⟨_, _, _, rfl, released⟩
    cases mem_singleton.mp member
    cases released
  obtain ⟨sample, made, ⟨earlier, key, thread, flight, happened, _⟩, _, _, data, _, _, reads⟩ :=
    dequeued_output_read_iff (loadedSurfaces [twoSlotPool] fun _ _ => 0) (sampleQueued [7, 9])
      [.request 0 {} (allocRequest 1) []] 0 {} {} (dequeueRequest 4) [] (4, 1)
      (sampleReported [7, 9]) firstOutputHeader (u64Bytes 50000) clearedResponse connection later
      serves rfl (reported ▸ mem_cons_self) isOpen unreleased firstOutputHeader_names
      length_clearedResponse
  have member : WorkerEvent.encoderCallback key thread sample ∈ sampleQueued [7, 9] :=
    happened.subset (mem_append_right _ mem_cons_self)
  simp [sampleQueued, oneFrameInFlight] at member
  obtain ⟨_, _, rfl⟩ := member
  have bytes : made.storage = [7, 9] := (Option.some.inj data).symm
  rw [bytes] at reads
  have body : (ReplyBody.outputBytes 50000 (sampleReported [7, 9]).sampleSize [7, 9]).bytes =
      payload := rfl
  rw [← body]
  exact (reads (by decide)).mpr ⟨by decide, keeps⟩

/-- One byte more than the response buffer has room for. -/
def largeSample : List UInt8 :=
  replicate 2097137 0

/-- The output is reported and cannot be read. -/
theorem large_output_refused :
    let process := run step twoSlotStart (sampleQueued largeSample)
    let reached := run step process sampleDequeued
    0 < largeSample.length ∧ largeSample.length < 2 ^ 32 ∧
    Execution.Obeys step (KeepsSession 0 4) process sampleDequeued ∧
    ∃ connection later, process.serving 0 0 = some connection ∧
      (connection.backend.dispatch {} (dequeueRequest 4) [] process.surfaces).body.reported =
        [sampleReported largeSample] ∧
      reached.connections.lookup 0 = some later ∧
      ¬ later.backend.Answers {} firstOutputHeader (u64Bytes 50000) clearedResponse
          reached.surfaces
          (.outputBytes 50000 (sampleReported largeSample).sampleSize largeSample) := by
  have size : largeSample.length = 2097137 := length_replicate
  have split : largeSample = 0 :: replicate 2097136 0 :=
    replicate_succ
  have queued := sampleQueued_reported 0 (replicate 2097136 0)
  rw [← split] at queued
  obtain ⟨connection, later, serves, reported, isOpen, stored, keeps⟩ := queued
  refine ⟨by omega, by omega, keeps, connection, later, serves, reported, isOpen, ?_⟩
  have sized : (sampleReported largeSample).sampleSize.toNat =
      largeSample.length := by
    rw [sampleReported, size]
    rfl
  have same : ∀ other, later.backend.outputState.items.lookup 50000 = some other →
      other = ⟨sampleReported largeSample, 3, 1, largeSample⟩ :=
    fun other found => Option.some.inj (found.symm.trans stored)
  intro answered
  have fits := ((answers_readOutput_iff {} _
    firstOutputHeader_names length_clearedResponse same sized).mp answered).1
  rw [size] at fits
  exact absurd fits (by decide)

end VtFerry
