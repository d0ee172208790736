import VtFerry.Worker.BatchDequeue
import VtFerry.Worker.OutputReads
import VtFerry.Worker.Mock.Refusals

/-!
# What a drain counts

`DRAIN` answers with the number of outputs of its session.  In the VideoToolbox
backend these are the ids in the session's queue, and as long as no waiting
output is released each of them can be dequeued.  The mock backend also
counts the outputs that were dequeued and not released, which no dequeue gives
again.
-/

namespace VtFerry

open Execution List VtRealBackend

/-- The reply is a count, and so many dequeues succeed before the next one
fails.  The count goes out in 32 bits. -/
def ReportsExactly {State : Type} (single : Handler State) (state : State)
    (reply : Option ReplyBody) : Prop :=
  ∃ named pending, reply = some (.drained named pending) ∧
    (dequeueRepeatedly single ((UInt32.ofNat pending).toNat + 1)
      state).2.length = (UInt32.ofNat pending).toNat

theorem reportsExactly_iff {State : Type} {single : Handler State} {state : State} {waiting : Nat}
    (counts : ∀ count, (dequeueRepeatedly single count state).2.length = min count waiting)
    (named pending : Nat) :
    ReportsExactly single state (some (.drained named pending)) ↔ waiting = pending % 2 ^ 32 := by
  have wire : (UInt32.ofNat pending).toNat = pending % 2 ^ 32 :=
    UInt32.toNat_ofNat
  constructor
  · rintro ⟨_, _, ⟨rfl, rfl⟩, exactly⟩
    rw [counts, wire] at exactly
    omega
  · intro same
    refine ⟨named, pending, rfl, ?_⟩
    rw [counts, wire]
    omega

/-! ## The queue of a live session -/

namespace VtRealBackend

variable {before after backend : VtRealBackend} {sessionId : Nat}

/-- The session exists or will be created. -/
def Open (backend : VtRealBackend) (sessionId : Nat) : Prop :=
  sessionId ∈ backend.sessions ∨ backend.nextHostId ≤ sessionId

/-- Encode sessions were there before, or their id is new. -/
structure SessionsMove (before after : VtRealBackend) : Prop where
  next_le : before.nextHostId ≤ after.nextHostId
  sessions : ∀ id ∈ after.sessions, id ∈ before.sessions ∨
    id = before.nextHostId ∧ id < after.nextHostId

theorem Open.of_move (isOpen : after.Open sessionId)
    (move : SessionsMove before after) : before.Open sessionId := by
  have next_le := move.next_le
  rcases isOpen with known | beyond
  · exact (move.sessions sessionId known).imp_right fun ⟨new, _⟩ => by omega
  · exact .inr (by omega)

variable {host : HostCalls} {source : List UInt8} {surfaces : Surfaces}
variable {opcode : Option Opcode} {served : Served}

theorem Effect.sessionsMove (effect : Effect host source backend surfaces opcode served) :
    SessionsMove backend served.backend := by
  refine ⟨effect.next_le, fun id known => ?_⟩
  obtain ⟨session, found⟩ :=
    Option.isSome_iff_exists.mp (AList.lookup_isSome.mpr known)
  rcases effect.sessionsFrom id session found with
    ⟨earlier, was, _⟩ | ⟨new, _, next, _⟩
  · exact .inl (AList.lookup_isSome.mp (was ▸ rfl))
  · exact .inr ⟨new, by omega⟩

theorem length_takenOutputs (stored : backend.LaneStored sessionId) (count : Nat) :
    (backend.takenOutputs sessionId count).length =
      min count (backend.outputState.lane sessionId).length := by
  rw [takenOutputs, length_map, ← length_take]
  apply filterMap_length_eq_length.mpr
  intro outputId popped
  rw [Option.isSome_map]
  exact stored outputId (mem_of_mem_take popped)

end VtRealBackend

/-! ## Runs -/

/-- What is queued or about to be queued for an open session is stored. -/
structure Connection.Stocked (connection : Connection) : Prop where
  below : ∀ id ∈ connection.backend.sessions, id < connection.backend.nextHostId
  located : connection.traffic.Located
  queued : ∀ sessionId, connection.backend.Open sessionId →
    ∀ ticket ∈ connection.backend.outputState.lane sessionId,
    ∃ output, output.reply.sessionId = sessionId ∧
      connection.backend.outputState.items.lookup ticket = some output
  ready : ∀ thread item ticket, connection.callbacks.lookup thread = some ⟨item, .stored ticket⟩ →
    connection.backend.Open item.reply.sessionId →
    connection.backend.outputState.items.lookup ticket = some item

namespace WorkerProcess

variable {process : WorkerProcess} {id ticket : Nat} {event : WorkerEvent}
variable {before after : Connection}

/-- Every release names outputs that do not wait any more: they are not in a
queue, and no callback is about to queue them. -/
def ReleasesDequeued (process : WorkerProcess) : WorkerEvent → Prop
  | .request id _ request _ => ∀ connection,
      process.connections.lookup id = some connection →
      ∀ outputId ∈ releasedOutputs (Opcode.ofCode? request.opcode)
        request.payload, ¬ connection.Uses outputId
  | _ => True

theorem ConnectionMove.unused (move : ConnectionMove process id before event after)
    (past : before.traffic.Past ticket) (unused : ¬ before.Uses ticket) : ¬ after.Uses ticket := by
  cases move.outputs with
  | served callbacks queue =>
    rintro (⟨sessionId, waits⟩ | ⟨thread, producer, running, ready⟩)
    · exact unused (.inl ⟨sessionId, (queue.lane sessionId).subset waits⟩)
    · exact unused (.inr ⟨thread, producer, callbacks ▸ running, ready⟩)
  | callback change queue callbacks _ _ own =>
    rintro (⟨sessionId, waits⟩ | ⟨thread, producer, running, ready⟩)
    · rw [queue] at waits
      rcases change.ofWaiting own waits with was | ⟨thread, item, stored, _⟩
      · exact unused (.inl ⟨sessionId, was⟩)
      · exact unused (.inr ⟨thread, _, stored, rfl⟩)
    · rw [callbacks] at running
      rcases change.ofProducer running with old | ⟨_, _, rfl⟩ | ⟨_, _, rfl, _⟩ |
        ⟨item, _, was, rfl, _⟩
      · exact unused (.inr ⟨thread, producer, old, ready⟩)
      · cases ready
      · cases ready
      · cases ready
        exact past.unstored thread item was

theorem unused_of_popped {sessionId count : Nat} (located : before.traffic.Located)
    (callbacks : after.callbacks = before.callbacks)
    (popped : after.backend.outputState = (before.backend.outputState.pop sessionId count).2)
    (taken : ticket ∈ (before.backend.outputState.lane sessionId).take count) :
    ¬ after.Uses ticket := by
  have waited := mem_of_mem_take taken
  rintro (⟨other, waits⟩ | ⟨thread, producer, running, ready⟩)
  · rw [popped, TicketQueue.lane_pop] at waits
    by_cases same : other = sessionId
    · rw [if_pos same, same] at waits
      have once : (before.backend.outputState.lane sessionId).Nodup := located.nodup sessionId
      rw [← take_append_drop count (before.backend.outputState.lane sessionId)] at once
      exact (nodup_append.mp once).2.2 ticket taken ticket waits rfl
    · rw [if_neg same] at waits
      cases located.once ticket _ _ (.waiting waits) (.waiting waited)
      exact same rfl
  · rw [callbacks] at running
    cases located.once ticket _ _ (.waiting waited)
      (.producing running (by simp only [TicketQueue.Producer.ticket?, ready]))

theorem unused_run {events : List WorkerEvent} (known : id < process.nextConnection)
    (found : process.connections.lookup id = some before) (past : before.traffic.Past ticket)
    (unused : ¬ before.Uses ticket)
    (isOpen : (run step process events).connections.lookup id = some after) :
    after.traffic.Past ticket ∧ ¬ after.Uses ticket := by
  induction events using reverseRecOn generalizing after with
  | nil =>
    cases found.symm.trans isOpen
    exact ⟨past, unused⟩
  | append_singleton events event induction =>
    rw [run_append] at isOpen
    rcases step_connection _ event id after isOpen with ⟨middle, reached, move⟩ | ⟨new, _, _⟩
    · obtain ⟨past, unused⟩ := induction reached
      exact ⟨move.past past, move.unused past unused⟩
    · have below := process.nextConnection_le_run events
      omega

/-- An id that a dequeue has reported is never queued again: releasing it is
always allowed. -/
theorem reported_unused (surfaces : Surfaces) (first later : List WorkerEvent)
    {host : HostCalls} {request : Request} {spare : List UInt8} {limits : Nat × Nat}
    {reply : DequeueOutputReply}
    (serves : (run step (started surfaces) first).serving id id = some before)
    (dequeues : dequeueLimits (Opcode.ofCode? request.opcode) request.payload = some limits)
    (reported : reply ∈ (before.backend.dispatch host request spare
      (run step (started surfaces) first).surfaces).body.reported)
    (isOpen : (run step (started surfaces)
      (first ++ .request id host request spare :: later)).connections.lookup id = some after) :
    ¬ after.Uses reply.outputId := by
  obtain ⟨_, found, idle⟩ := serving_eq_some_iff.mp serves
  obtain ⟨⟨output, taken, rfl⟩, popped⟩ := dispatch_reports dequeues reported
  obtain ⟨ticket, took, stored⟩ := mem_takenOutputs taken
  obtain ⟨_, made, _, _, rfl⟩ := (run_filed surfaces first found).stored ticket output stored
  have located := run_located surfaces first found
  have past := located.past_of_waiting (mem_of_mem_take took)
  have known := (run_owned surfaces first).numbered.connections id before found
  rw [run_append, run_cons] at isOpen
  have moved := step_request serves host request spare
  refine (unused_run ?_ moved ?_ (unused_of_popped located rfl popped took) isOpen).2
  · exact Nat.lt_of_lt_of_le known (step_flight _ _).nextConnection
  · have move : ConnectionMove (run step (started surfaces) first) id before
        (.request id host request spare) _ := .request idle
    exact move.past past

theorem ConnectionMove.sessionsMove (move : ConnectionMove process id before event after) :
    VtRealBackend.SessionsMove before.backend after.backend := by
  cases move with
  | request _ => exact (dispatch_effect ..).sessionsMove
  | @buildPool host payload entryId pool _ =>
    have build := buildPool_cases host payload entryId pool before.backend
    refine ⟨build.next_le, fun _ known => .inl ?_⟩
    exact build.sameSessions.sessions ▸ known
  | releaseSession _ _ =>
    exact ⟨Nat.le_refl _, fun _ left => .inl (AList.mem_erase.mp left).2⟩
  | _ => exact ⟨Nat.le_refl _, fun _ known => .inl known⟩

/-- An output of an open session that waits stays. -/
theorem ConnectionMove.keepsOutput {output : VtRealOutput}
    (move : ConnectionMove process id before event after)
    (known : process.connections.lookup id = some before)
    (releases : process.ReleasesDequeued event) (stocked : before.Stocked)
    (found : before.backend.outputState.items.lookup ticket = some output)
    (isOpen : after.backend.Open output.reply.sessionId)
    (used : before.Uses ticket) (past : before.traffic.Past ticket) :
    after.backend.outputState.items.lookup ticket = some output := by
  have unreleased : ¬ Releases id ticket event := by
    rintro ⟨host, request, response, rfl, released⟩
    exact releases before known ticket released used
  cases move.outputFate past unreleased found with
  | kept _ found => exact found
  | removed live destroyed _ =>
    rcases isOpen with still | beyond
    · exact absurd still destroyed
    · have below := stocked.below _ live
      have next_le := move.sessionsMove.next_le
      omega

theorem ConnectionMove.stocked (move : ConnectionMove process id before event after)
    (known : process.connections.lookup id = some before)
    (releases : process.ReleasesDequeued event) (stocked : before.Stocked) :
    after.Stocked := by
  have sessions := move.sessionsMove
  have readies : ∀ thread item ticket,
      before.callbacks.lookup thread = some ⟨item, .stored ticket⟩ →
      after.backend.Open item.reply.sessionId →
      after.backend.outputState.items.lookup ticket = some item := by
    intro thread item ticket running isOpen
    have stored := stocked.ready thread item ticket running (isOpen.of_move sessions)
    apply move.keepsOutput known releases stocked stored isOpen
    · exact .inr ⟨thread, _, running, rfl⟩
    · exact stocked.located.past_of_storing running
  have waits : ∀ sessionId, after.backend.Open sessionId →
      ∀ ticket ∈ before.backend.outputState.lane sessionId,
      ∃ output, output.reply.sessionId = sessionId ∧
        after.backend.outputState.items.lookup ticket = some output := by
    intro sessionId isOpen ticket waits
    obtain ⟨output, rfl, stored⟩ := stocked.queued sessionId (isOpen.of_move sessions) ticket waits
    refine ⟨output, rfl, ?_⟩
    apply move.keepsOutput known releases stocked stored isOpen
    · exact .inl ⟨_, waits⟩
    · exact stocked.located.past_of_waiting waits
  refine ⟨?_, move.located stocked.located, ?_, ?_⟩
  · intro session open_
    rcases sessions.sessions session open_ with was | ⟨_, below⟩
    · exact Nat.lt_of_lt_of_le (stocked.below session was) sessions.next_le
    · exact below
  · intro sessionId isOpen ticket queued
    cases move.outputs with
    | served _ queue =>
      exact waits sessionId isOpen ticket ((queue.lane sessionId).subset queued)
    | callback change queue _ _ _ own =>
      rw [queue] at queued
      rcases change.ofWaiting own queued with
        was | ⟨thread, item, ready, rfl, _⟩
      · exact waits sessionId isOpen ticket was
      · exact ⟨item, rfl, readies thread item ticket ready isOpen⟩
  · intro thread item ticket running isOpen
    cases move.outputs with
    | served callbacks _ =>
      rw [callbacks] at running
      exact readies thread item ticket running isOpen
    | callback change queue callbacks _ _ _ =>
      rw [callbacks] at running
      rcases change.ofProducer running with old | ⟨_, _, made⟩ |
        ⟨_, _, made, _⟩ | ⟨_, _, _, made, stored⟩
      · exact readies thread item ticket old isOpen
      · cases made
      · cases made
      · cases made
        rw [queue]
        exact stored

theorem accepted_stocked : Connection.accepted.Stocked where
  below _ known := by cases known
  located := accepted_located
  queued _ _ _ waits := by cases waits
  ready _ _ _ running := by cases running

def Stocked (process : WorkerProcess) : Prop :=
  ∀ id connection, process.connections.lookup id = some connection → connection.Stocked

theorem run_stocked (surfaces : Surfaces) (events : List WorkerEvent)
    (releases : Execution.Obeys step ReleasesDequeued (started surfaces) events) :
    (run step (started surfaces) events).Stocked := by
  apply invariant_of_obeys ?_ ?_ releases
  · intro process event holds allowed id after isOpen
    rcases process.step_connection event id after isOpen with
      ⟨before, found, move⟩ | ⟨_, _, rfl⟩
    · exact move.stocked found allowed (holds id before found)
    · exact accepted_stocked
  · intro id connection found
    cases found

end WorkerProcess

/-! ## Both backends -/

theorem Connection.Stocked.drain_reports {connection : Connection}
    {source : List UInt8} {host : HostCalls} {surfaces : Surfaces}
    (stocked : connection.Stocked)
    (live : (HandlePayload.read source).handle.toNat ∈ connection.backend.sessions)
    (encodes : (HandlePayload.read source).handle.toNat ∉ connection.backend.decodeSessions)
    (ok : (connection.backend.drain host source surfaces).status = Status.ok) :
    let served := connection.backend.drain host source surfaces
    ReportsExactly (singleHandler source surfaces) served.backend (some served.body) ↔
      (connection.backend.outputState.lane
        (HandlePayload.read source).handle.toNat).length < 2 ^ 32 := by
  have decoder := AList.lookup_eq_none.mpr encodes
  revert ok
  unfold drain
  split
  · intro failed
    cases failed
  next whole =>
    dsimp only
    rw [decoder]
    dsimp only
    split
    · intro failed
      cases failed
    split
    · intro failed
      cases failed
    intro _
    have stored : connection.backend.LaneStored (HandlePayload.read source).handle.toNat := by
      intro ticket waits
      obtain ⟨output, _, found⟩ := stocked.queued _ (.inl live) ticket waits
      rw [found]
      rfl
    have counts (count : Nat) : (dequeueRepeatedly (singleHandler source surfaces)
        count connection.backend).2.length = min count (connection.backend.outputState.lane
            (HandlePayload.read source).handle.toNat).length := by
      rw [dequeueRepeatedly_eq stored (Nat.not_lt.mp whole) rfl,
        length_map, length_takenOutputs stored]
    refine (reportsExactly_iff counts _ _).trans ?_
    omega

namespace MockBackend

variable {backend : MockBackend} {source : List UInt8} {sessionId : Nat}

theorem length_dequeueRepeatedly (whole : HandlePayload.size ≤ source.length)
    (session : (HandlePayload.read source).handle.toNat = sessionId)
    (count : Nat) :
    (dequeueRepeatedly (singleHandler source) count backend).2.length =
      min count (backend.outputs.countP (undelivered sessionId)) := by
  have taken (output : Mock.Output) :
      undelivered sessionId { output with dequeued := true } = false := by
    simp [undelivered]
  induction count generalizing backend with
  | zero => simp [dequeueRepeatedly]
  | succ count induction =>
    rw [dequeueRepeatedly, singleHandler_eq whole session, takeOutput]
    cases found : backend.outputs.find? (undelivered sessionId) with
    | none =>
      have none : backend.outputs.countP (undelivered sessionId) = 0 :=
        countP_eq_zero.mpr (by simpa using found)
      simp [none]
    | some output =>
      have fewer := KeyedList.countP_modifyFirst found taken
      simp only [Option.map_some, length_cons, induction]
      omega

/-- What the mock backend counts can be dequeued unless some of it was. -/
theorem drain_reports {capacity bytes : Nat} {requests : List MockRequest}
    (ok : (drain transportStorageCapacity source
      (after capacity bytes requests)).status = Status.ok) :
    let backend := after capacity bytes requests
    let served := drain transportStorageCapacity source backend
    ReportsExactly (singleHandler source) served.backend served.reply ↔ ∀ output ∈ backend.outputs,
        output.reply.sessionId = (HandlePayload.read source).handle.toNat →
        output.dequeued = false := by
  obtain ⟨sound, limits⟩ := after_sound capacity bytes requests
  have count_le := sound.stored.count_le
  rw [limits.1] at count_le
  generalize after capacity bytes requests = backend at *
  have bounded : backend.outputs.length < 2 ^ 32 :=
    Nat.lt_of_le_of_lt (count_le.trans (Nat.min_le_right _ _)) (by decide)
  revert ok
  unfold drain
  split
  · intro failed
    cases failed
  next whole =>
    dsimp only
    split
    · intro failed
      cases failed
    intro _
    refine (reportsExactly_iff (fun _ => length_dequeueRepeatedly
      (Nat.not_lt.mp whole) rfl _) _ _).trans ?_
    generalize (HandlePayload.read source).handle.toNat = sessionId
    have parts : backend.outputs.countP (undelivered sessionId) =
        (backend.outputs.filter fun output =>
          output.reply.sessionId == sessionId).countP (!·.dequeued) := by
      rw [countP_filter]
      exact countP_congr fun output _ => by simp [undelivered, and_comm]
    change backend.outputs.countP (undelivered sessionId) = _ ↔ _
    rw [parts, Nat.mod_eq_of_lt (Nat.lt_of_le_of_lt (length_filter_le ..)
      bounded), countP_eq_length]
    simp

end MockBackend

/-- In every run in which releases name no waiting output, and for every live
encode session, the VideoToolbox backend drains with the number of
dequeues that succeed afterwards, as long as it fits the reply.  The mock
backend does so exactly if no output of the session is dequeued and not yet
released. -/
theorem drain_reports_exactly_iff (source : List UInt8) :
    (∀ (surfaces : Surfaces) (events : List WorkerEvent),
      Execution.Obeys WorkerProcess.step WorkerProcess.ReleasesDequeued
        (WorkerProcess.started surfaces) events →
      let process := run WorkerProcess.step (WorkerProcess.started surfaces) events
      ∀ (id : Nat) (connection : Connection) (host : HostCalls),
        process.connections.lookup id = some connection →
        (HandlePayload.read source).handle.toNat ∈ connection.backend.sessions →
        (HandlePayload.read source).handle.toNat ∉ connection.backend.decodeSessions →
        let served := connection.backend.drain host source process.surfaces
        served.status = Status.ok →
        (ReportsExactly (singleHandler source process.surfaces)
            served.backend (some served.body) ↔
          (connection.backend.outputState.lane
            (HandlePayload.read source).handle.toNat).length < 2 ^ 32)) ∧
      ∀ (capacity bytes : Nat) (requests : List MockBackend.MockRequest),
        let backend := MockBackend.after capacity bytes requests
        let served := backend.drain transportStorageCapacity source
        served.status = Status.ok →
        (ReportsExactly (MockBackend.singleHandler source) served.backend served.reply ↔
          ∀ output ∈ backend.outputs, output.reply.sessionId =
              (HandlePayload.read source).handle.toNat →
            output.dequeued = false) := by
  constructor
  · intro surfaces events obeyed process id connection host found live encodes served ok
    have stocked := WorkerProcess.run_stocked surfaces events obeyed
    exact (stocked id connection found).drain_reports live encodes ok
  · intro capacity bytes requests backend served ok
    exact MockBackend.drain_reports ok

open WorkerProcess

/-- The frame is encoded and queued as an output. -/
def oneFrameQueued : List WorkerEvent :=
  oneFrameInFlight ++ [.encoderCallback 0 0 oneByteSample, .callbackStep 0 0, .callbackStep 0 0,
      .callbackStep 0 0]

/-- The mock backend encodes a frame, and the guest dequeues it if it wants. -/
def mockFrame (dequeues : List Request) : List MockBackend.MockRequest :=
  MockBackend.oneSlotTaken ++ ([encodeSessionRequest, prepareRequest 1002,
    encodeRequest 1002 1001 1] ++ dequeues).map (⟨transportStorageCapacity, transportVersion, ·⟩)

/-- The one output is dequeued, and still counted. -/
theorem dequeued_output_counted :
    let backend := MockBackend.after 8 4096 (mockFrame [dequeueRequest 1002])
    let served := backend.drain transportStorageCapacity (LittleEndian.u64Bytes 1002)
    served.reply = some (.drained 1002 1) ∧
      ¬ ReportsExactly (MockBackend.singleHandler (LittleEndian.u64Bytes 1002))
        served.backend served.reply := by
  refine ⟨by decide +kernel, ?_⟩
  rintro ⟨named, pending, reply, exactly⟩
  have counted : some (ReplyBody.drained named pending) = some (.drained 1002 1) :=
    reply.symm.trans (by decide +kernel)
  cases counted
  revert exactly
  decide +kernel

/-- One output waits in each backend, and each reports it. -/
theorem one_output_reported :
    (∃ connection, (run step twoSlotStart oneFrameQueued).connections.lookup
        0 = some connection ∧
      (connection.backend.outputState.lane 4).length = 1 ∧
      ReportsExactly (singleHandler (LittleEndian.u64Bytes 4)
        (run step twoSlotStart oneFrameQueued).surfaces)
        connection.backend (some (.drained 4 1))) ∧
    let served := (MockBackend.after 8 4096 (mockFrame [])).drain
      transportStorageCapacity (LittleEndian.u64Bytes 1002)
    served.reply = some (.drained 1002 1) ∧
      ReportsExactly (MockBackend.singleHandler (LittleEndian.u64Bytes 1002))
        served.backend served.reply := by
  have releases : Execution.Obeys step ReleasesDequeued twoSlotStart
      oneFrameQueued := by
    refine ⟨trivial, ?_, ?_, ?_, ?_, ?_, trivial, trivial, trivial, trivial, trivial⟩
    all_goals exact fun _ _ _ member => nomatch member
  have mock := (drain_reports_exactly_iff (LittleEndian.u64Bytes 1002)).2 8 4096
    (mockFrame []) (by decide +kernel)
  refine ⟨⟨_, rfl, rfl, ?_⟩, by decide +kernel, ?_⟩
  · exact ((drain_reports_exactly_iff (LittleEndian.u64Bytes 4)).1
      twoSlotStart.surfaces oneFrameQueued releases 0 _ {} rfl
      (AList.lookup_isSome.mp rfl) (AList.lookup_eq_none.mp rfl) rfl).mpr
      (by decide +kernel)
  · exact mock.mpr (by decide +kernel)

end VtFerry
