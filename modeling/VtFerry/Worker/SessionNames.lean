import VtFerry.Worker.LeaseHistory
import VtFerry.Worker.VtReal.SessionEffects

/-!
# Encode and decode sessions keep apart

Host ids are drawn from one counter, so an id names a session of one kind
only.  In every reachable state of the process an id that occurs on the encode
side of a backend, or in a frame its encoder ever accepted, names nothing on
the decode side.  The decoder is assumed to call back only for decode sessions
that exist.
-/

namespace VtFerry

namespace VtRealBackend

variable {before after : VtRealBackend}

/-- The id was drawn and names nothing on the decode side. -/
def EncodeOnly (backend : VtRealBackend) (id : Nat) : Prop :=
  id < backend.nextHostId ∧ ¬ backend.DecodeNames id

theorem EncodeOnly.grow {id : Nat} (only : before.EncodeOnly id)
    (grows : DecodeGrows before after) : after.EncodeOnly id := by
  obtain ⟨below, unnamed⟩ := only
  refine ⟨Nat.lt_of_lt_of_le below grows.next_le, ?_⟩
  intro names
  rcases grows.names id names with earlier | ⟨drawn, _⟩
  · exact unnamed earlier
  · omega

end VtRealBackend

/-- The two kinds of session ids of a connection keep apart; `mine` are the
frames the encoder ever accepted from it. -/
structure Connection.Sorted (connection : Connection) (mine : EncoderFrame → Prop) : Prop where
  positive : 0 < connection.backend.nextHostId
  decode : ∀ id, connection.backend.DecodeNames id → id ≠ 0 ∧ id < connection.backend.nextHostId
  sessions : ∀ id session, connection.backend.sessions.lookup id = some session →
    session.context.sessionId = id ∧ connection.backend.EncodeOnly id
  pools : ∀ poolId pool, connection.backend.pools.lookup poolId = some pool →
    connection.backend.EncodeOnly pool.sessionId
  lanes : ∀ id tickets, connection.backend.outputState.lanes.lookup id = some tickets →
    connection.backend.EncodeOnly id
  outputs : ∀ ticket output, connection.backend.outputState.items.lookup ticket = some output →
    connection.backend.EncodeOnly output.reply.sessionId
  callbacks : ∀ thread producer, connection.callbacks.lookup thread = some producer →
    connection.backend.EncodeOnly producer.item.reply.sessionId
  building : ∀ payload entryId pool, connection.work = .building payload entryId pool →
    connection.backend.EncodeOnly payload.sessionId.toNat
  frames : ∀ frame, mine frame → connection.backend.EncodeOnly frame.context.sessionId

namespace Connection

variable {before after : Connection} {mine later : EncoderFrame → Prop}

theorem accepted_sorted (none : ∀ frame, ¬ mine frame) :
    accepted.Sorted mine where
  positive := Nat.one_pos
  decode _ names := by
    cases names with
    | session known => cases known
    | lane known => cases known
    | output found => cases found
    | error recorded => cases recorded
    | assembly found => cases found
  sessions _ _ known := by cases known
  pools _ _ found := by cases found
  lanes _ _ known := by cases known
  outputs _ _ found := by cases found
  callbacks _ _ found := by cases found
  building _ _ _ work := by cases work
  frames frame accepted := absurd accepted (none frame)

/-- The name of no session is on the encode side. -/
theorem Sorted.unbound (sorted : before.Sorted mine) :
    before.backend.EncodeOnly 0 := by
  refine ⟨sorted.positive, ?_⟩
  intro names
  exact (sorted.decode 0 names).1 rfl

theorem Sorted.sessionKnown (sorted : before.Sorted mine) {id : Nat}
    (known : before.backend.sessionKnown id = true) :
    before.backend.EncodeOnly id := by
  rw [VtRealBackend.sessionKnown, Bool.or_eq_true, beq_iff_eq] at known
  rcases known with rfl | known
  · exact sorted.unbound
  · obtain ⟨session, found⟩ := Option.isSome_iff_exists.mp known
    exact (sorted.sessions id session found).2

variable {process : WorkerProcess} {id : Nat}

/-- A connection stays sorted if its new sessions and pools are; its outputs
come from outputs, callbacks and frames of before. -/
theorem Sorted.move {event : WorkerEvent} (sorted : before.Sorted mine)
    (outputs : process.OutputMove id before event after)
    (flights : ∀ key flight, process.inFlight.lookup key = some flight →
      flight.connection = id → mine flight.frame)
    (grows : VtRealBackend.DecodeGrows before.backend after.backend)
    (sessions : VtRealBackend.SessionsFrom before.backend after.backend)
    (pools : ∀ poolId pool, after.backend.pools.lookup poolId = some pool →
      before.backend.EncodeOnly pool.sessionId)
    (building : ∀ payload entryId pool, after.work = .building payload entryId pool →
      before.backend.EncodeOnly payload.sessionId.toNat)
    (frames : ∀ frame, later frame → before.backend.EncodeOnly frame.context.sessionId) :
    after.Sorted later where
  positive := Nat.lt_of_lt_of_le sorted.positive grows.next_le
  decode id names := by
    have positive := sorted.positive
    have next_le := grows.next_le
    rcases grows.names id names with earlier | ⟨drawn, below⟩
    · obtain ⟨nonzero, below⟩ := sorted.decode id earlier
      exact ⟨nonzero, by omega⟩
    · exact ⟨by omega, below⟩
  sessions id session known := by
    rcases sessions id session known with
      ⟨earlier, was, context⟩ | ⟨new, own, next_eq, fewer⟩
    · obtain ⟨own, only⟩ := sorted.sessions id earlier was
      exact ⟨context ▸ own, only.grow grows⟩
    · refine ⟨own, by omega, ?_⟩
      intro names
      have below := (sorted.decode id (fewer id names)).2
      omega
  pools poolId pool found := (pools poolId pool found).grow grows
  lanes session tickets known := by
    rcases outputs.ofLane known with ⟨earlier, was⟩ | ⟨thread, _, running, rfl⟩
    · exact (sorted.lanes session earlier was).grow grows
    · exact (sorted.callbacks thread _ running).grow grows
  outputs ticket output found := by
    rcases outputs.ofOutput found with was | ⟨thread, _, running, rfl⟩
    · exact (sorted.outputs ticket output was).grow grows
    · exact (sorted.callbacks thread _ running).grow grows
  callbacks thread producer running := by
    rcases outputs.ofCallback running with
      ⟨earlier, was, _, same⟩ | ⟨key, flight, _, flying, own, made, _⟩
    · rw [same]
      exact (sorted.callbacks thread earlier was).grow grows
    · rw [(compressionOutput_spec made).1]
      exact (sorted.frames _ (flights key flight flying own)).grow grows
  building payload entryId pool work :=
    (building payload entryId pool work).grow grows
  frames frame accepted := (frames frame accepted).grow grows

end Connection

theorem DecodedOutputQueue.received_names {backend : VtRealBackend}
    {sessionId : Nat} {sample : DecodedSample} {id : Nat}
    (names : { backend with
      decodedOutputState :=
        backend.decodedOutputState.received sessionId sample
      : VtRealBackend }.DecodeNames id) :
    backend.DecodeNames id ∨ id = sessionId := by
  unfold DecodedOutputQueue.received at names
  split at names
  · unfold DecodedOutputQueue.recordDecodeError at names
    split at names
    · exact Or.inl names
    · cases names with
      | session known => exact Or.inl (.session known)
      | lane known => exact Or.inl (.lane known)
      | output found => exact Or.inl (.output found)
      | error recorded =>
        dsimp only at recorded
        rw [FiniteMap.lookup_insert_eq] at recorded
        split at recorded
        next same => exact Or.inr same
        · exact Or.inl (.error recorded)
      | assembly found => exact Or.inl (.assembly found)
  next output made =>
    cases names with
    | session known => exact Or.inl (.session known)
    | lane known =>
      dsimp only [TicketQueue.push] at known
      rw [FiniteMap.lookup_insert_eq] at known
      split at known
      next same => exact Or.inr same
      · exact Or.inl (.lane known)
    | output found =>
      dsimp only [TicketQueue.push, TicketQueue.store] at found
      rw [FiniteMap.lookup_insert_eq] at found
      split at found
      · cases found
        exact Or.inr (decompressionOutput_session made)
      · exact Or.inl (.output found)
    | error recorded => exact Or.inl (.error recorded)
    | assembly found => exact Or.inl (.assembly found)

namespace WorkerProcess

variable {process : WorkerProcess} {id : Nat} {event : WorkerEvent}
variable {before after : Connection} {mine : EncoderFrame → Prop}

/-- The decoder calls back for a decode session that exists. -/
def DecoderLive (process : WorkerProcess) : WorkerEvent → Prop
  | .decoderCallback target sessionId _ =>
    ∀ connection, process.connections.lookup target = some connection →
      (connection.backend.decodeSessions.lookup sessionId).isSome
  | _ => True

/-- The frames the encoder accepts with an event, with their connection. -/
def accepts (process : WorkerProcess) :
    WorkerEvent → List (Nat × EncoderFrame)
  | .request target host request response =>
    match process.serving target target with
    | none => []
    | some connection =>
      (connection.backend.dispatch host request response
        process.surfaces).encoded.map fun frame => (target, frame)
  | _ => []

/-- The frames the encoder accepted along a run. -/
def acceptedFrames (surfaces : Surfaces) (events : List WorkerEvent) :
    List (Nat × EncoderFrame) :=
  Execution.trail step accepts (started surfaces) events

theorem mem_accepts {frame : EncoderFrame} (accepted : (id, frame) ∈ process.accepts event) :
    ∃ host request response connection, event = .request id host request response ∧
      process.connections.lookup id = some connection ∧
      connection.work = .idle ∧
      frame ∈ (connection.backend.dispatch host request response process.surfaces).encoded := by
  cases event with
  | request target host request response =>
    dsimp only [accepts] at accepted
    split at accepted
    · cases accepted
    next connection serves =>
      obtain ⟨_, found, idle⟩ := serving_eq_some_iff.mp serves
      obtain ⟨_, member, pair⟩ := List.mem_map.mp accepted
      cases pair
      exact ⟨host, request, response, connection, rfl, found, idle, member⟩
  | _ => cases accepted

theorem encodeOnly_of_accepts {frame : EncoderFrame} (sorted : before.Sorted mine)
    (found : process.connections.lookup id = some before)
    (accepted : (id, frame) ∈ process.accepts event) :
    before.backend.EncodeOnly frame.context.sessionId := by
  obtain ⟨host, request, response, connection, _, lookup, _, member⟩ :=
    mem_accepts accepted
  cases found.symm.trans lookup
  obtain ⟨session, record, known, context⟩ :=
    (VtRealBackend.dispatch_effect ..).frameOf member
  obtain ⟨own, only⟩ := sorted.sessions session record known
  rw [context, own]
  exact only

/-- Every move of a connection keeps it sorted, the frames accepted on the way
included. -/
theorem ConnectionMove.sorted (sorted : before.Sorted mine)
    (move : ConnectionMove process id before event after)
    (found : process.connections.lookup id = some before)
    (flights : ∀ key flight, process.inFlight.lookup key = some flight →
      flight.connection = id → mine flight.frame)
    (live : process.DecoderLive event) :
    after.Sorted fun frame =>
      mine frame ∨ (id, frame) ∈ process.accepts event := by
  have frames : ∀ frame, mine frame ∨ (id, frame) ∈ process.accepts event →
      before.backend.EncodeOnly frame.context.sessionId := by
    rintro frame (earlier | new)
    · exact sorted.frames frame earlier
    · exact encodeOnly_of_accepts sorted found new
  have removed : ∀ poolIds poolId pool,
      (before.backend.removePools poolIds).pools.lookup poolId = some pool →
      before.backend.EncodeOnly pool.sessionId := by
    intro poolIds poolId pool left
    exact sorted.pools poolId pool (VtRealBackend.lookup_of_removePools left)
  have idle : ∀ payload entryId pool, PoolWork.idle = .building payload entryId pool →
      before.backend.EncodeOnly payload.sessionId.toNat := by
    intro payload entryId pool work
    cases work
  have outputs := move.outputs
  have still (same : before.backend.SameSessions after.backend)
      (next_le : before.backend.nextHostId ≤ after.backend.nextHostId)
      (pools : ∀ poolId pool, after.backend.pools.lookup poolId = some pool →
        before.backend.EncodeOnly pool.sessionId)
      (building : ∀ payload entryId pool, after.work = .building payload entryId pool →
        before.backend.EncodeOnly payload.sessionId.toNat) :
      after.Sorted fun frame =>
        mine frame ∨ (id, frame) ∈ process.accepts event :=
    sorted.move outputs flights ⟨next_le, fun _ names => Or.inl (same.decodeNames names)⟩
      (VtRealBackend.sessionsFrom_of_same same.sessions) pools building frames
  cases move with
  | @request host request response _ =>
    have effect := VtRealBackend.dispatch_effect host request response
      before.backend process.surfaces
    refine sorted.move outputs flights effect.decodeGrows effect.sessionsFrom
      ?_ sorted.building frames
    intro poolId pool present
    rcases effect.pools present with earlier | known
    · exact sorted.pools poolId pool earlier
    · exact sorted.sessionKnown known
  | claimEntry _ known _ =>
    refine still (.refl _) (Nat.le_refl _) sorted.pools ?_
    rintro payload entryId pool ⟨rfl⟩
    exact sorted.sessionKnown known
  | @buildPool host payload entryId pool building =>
    have owner := sorted.building payload entryId pool building
    have build := VtRealBackend.buildPool_cases host payload entryId pool before.backend
    refine still build.sameSessions build.next_le ?_ idle
    intro poolId record present
    rcases build.pools present with earlier | same
    · exact sorted.pools poolId record earlier
    · rw [same]
      exact owner
  | detachPool _ _ =>
    refine still ⟨rfl, rfl, rfl, rfl⟩ (Nat.le_refl _) (removed _) ?_
    rintro payload entryId pool ⟨⟩
  | releaseDetached _ => exact still (.refl _) (Nat.le_refl _) sorted.pools idle
  | releaseSession _ _ =>
    refine sorted.move outputs flights
      ⟨Nat.le_refl _, fun _ names => Or.inl ?_⟩ ?_ sorted.pools ?_ frames
    · exact names.of_same rfl rfl rfl
    · intro session record known
      exact Or.inl ⟨record, FiniteMap.lookup_of_erase known, rfl⟩
    · rintro payload entryId pool ⟨⟩
  | sweepPools _ => exact still ⟨rfl, rfl, rfl, rfl⟩ (Nat.le_refl _) (removed _) idle
  | unchanged | encoderCallback | callbackStep | callbackFails =>
    exact still ⟨rfl, rfl, rfl, rfl⟩ (Nat.le_refl _) sorted.pools sorted.building
  | decoderCallback =>
    refine sorted.move outputs flights ⟨Nat.le_refl _, fun other names => Or.inl ?_⟩
      (VtRealBackend.sessionsFrom_of_same rfl) sorted.pools sorted.building
      frames
    rcases DecodedOutputQueue.received_names names with earlier | rfl
    · exact earlier
    · obtain ⟨session, known⟩ :=
        Option.isSome_iff_exists.mp (live before found)
      exact .session known

/-! ## Runs -/

/-- Every connection is sorted, and the frames in flight were accepted. -/
structure Sorted (process : WorkerProcess) (accepted : List (Nat × EncoderFrame)) : Prop where
  numbered : process.Numbered
  connections : ∀ id connection, process.connections.lookup id = some connection →
    connection.Sorted fun frame => (id, frame) ∈ accepted
  flights : ∀ key flight, process.inFlight.lookup key = some flight →
    (flight.connection, flight.frame) ∈ accepted
  known : ∀ id frame, (id, frame) ∈ accepted → id < process.nextConnection

theorem started_sorted (surfaces : Surfaces) : (started surfaces).Sorted [] where
  numbered := started_numbered surfaces
  connections _ _ found := by cases found
  flights _ _ flying := by cases flying
  known _ _ member := by cases member

theorem Sorted.step {accepted : List (Nat × EncoderFrame)}
    (sorted : process.Sorted accepted) (live : process.DecoderLive event) :
    (process.step event).Sorted (accepted ++ process.accepts event) := by
  have flies := process.step_flight event
  refine ⟨(step_accounts sorted.numbered event).1, ?_, ?_, ?_⟩
  · intro id after isOpen
    simp only [List.mem_append]
    rcases process.step_connection event id after isOpen with
      ⟨before, found, move⟩ | ⟨new, rfl, rfl⟩
    · apply move.sorted (sorted.connections id before found) found ?_ live
      rintro key flight flying rfl
      exact sorted.flights key flight flying
    · apply Connection.accepted_sorted
      rintro frame (earlier | accepting)
      · have below := sorted.known id frame earlier
        omega
      · cases accepting
  · intro key flight flying
    rw [List.mem_append]
    rcases flies.comes key flight flying with earlier |
      ⟨host, request, response, connection, rfl, found, idle, member, _⟩
    · exact Or.inl (sorted.flights key flight earlier)
    · right
      have serves : process.serving flight.connection flight.connection =
          some connection :=
        serving_eq_some_iff.mpr ⟨rfl, found, idle⟩
      simp only [accepts, serves]
      exact List.mem_map.mpr ⟨flight.frame, member, rfl⟩
  · intro id frame member
    rcases List.mem_append.mp member with earlier | new
    · exact Nat.lt_of_lt_of_le (sorted.known id frame earlier) flies.nextConnection
    · obtain ⟨_, _, _, connection, _, found, _, _⟩ := mem_accepts new
      exact Nat.lt_of_lt_of_le (sorted.numbered.connections id connection found)
        flies.nextConnection

theorem run_sorted (surfaces : Surfaces) (events : List WorkerEvent)
    (live : Execution.Obeys step DecoderLive (started surfaces) events) :
    (Execution.run step (started surfaces) events).Sorted (acceptedFrames surfaces events) := by
  have preserved : ∀ (process : WorkerProcess) (event : WorkerEvent)
      (accepted : List (Nat × EncoderFrame)), process.Sorted accepted →
      process.DecoderLive event →
      (process.step event).Sorted (accepted ++ process.accepts event) :=
    fun _ _ _ sorted live => sorted.step live
  exact Execution.invariant_of_trail preserved (started_sorted surfaces) live

end WorkerProcess

end VtFerry
