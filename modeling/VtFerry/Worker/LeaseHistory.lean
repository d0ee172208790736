import VtFerry.Worker.OutputMoves
import VtFerry.Worker.SurfaceOwnership
import VtFerry.Worker.VtReal.Leases

/-!
# Leases of one connection over a run of the worker

In every reachable state of the process each backend is well kept, and every
frame that is in flight, in a callback or in an output queue was encoded under
a sealed lease of its connection's backend.  So every event is a move of the
lease table of any connection, and the history of its leases stays sound.
-/

namespace VtFerry

open LeaseTable

structure Connection.Kept (connection : Connection) : Prop where
  backend : connection.backend.WellKept
  outputs : connection.backend.OutputsSealed
  callbacks : ∀ thread producer, connection.callbacks.lookup thread = some producer →
    connection.backend.Sealed producer.item.lease

theorem Connection.accepted_kept : Connection.accepted.Kept where
  backend := VtRealBackend.fresh_wellKept
  outputs _ _ found := by cases found
  callbacks _ _ found := by cases found

namespace WorkerProcess

variable {process : WorkerProcess} {id : Nat}

structure Kept (process : WorkerProcess) : Prop where
  numbered : process.Numbered
  connections : ∀ id connection, process.connections.lookup id = some connection → connection.Kept
  flights : ∀ key flight, process.inFlight.lookup key = some flight →
    flight.connection < process.nextConnection ∧ ∀ connection,
        process.connections.lookup flight.connection = some connection →
        connection.backend.Sealed flight.frame.frame.lease

/-! ## The leases an event gives out and ends -/

def serving (process : WorkerProcess) (id target : Nat) :
    Option Connection :=
  if target = id then
    (process.connections.lookup id).filter fun connection =>
      connection.work = .idle
  else none

def grants (process : WorkerProcess) (id : Nat) :
    WorkerEvent → List Lease
  | .request target host request response =>
    match process.serving id target with
    | none => []
    | some connection =>
      (connection.backend.dispatch host request response process.surfaces).leases
  | _ => []

/-- The lease's buffer was there and is gone. -/
def loses (process next : WorkerProcess) (id : Nat) (lease : Lease) : Bool :=
  match process.connections.lookup id, next.connections.lookup id with
  | some before, some after =>
    (before.backend.buffers.lookup lease.id).isSome &&
      (after.backend.buffers.lookup lease.id).isNone
  | _, _ => false

/-- The event ends a lease of connection `id`: a request does, or a part of
one that removes pools. -/
def ends (process : WorkerProcess) (id : Nat) (event : WorkerEvent) (lease : Lease) : Bool :=
  match event with
  | .request target host request response =>
    match process.serving id target with
    | none => false
    | some connection =>
      connection.backend.endsLease host request response process.surfaces lease
  | .detachPool _ _ => process.loses (process.step event) id lease
  | .sweepPools _ => process.loses (process.step event) id lease
  | _ => false

variable {target : Nat}

theorem serving_eq_some_iff {connection : Connection} :
    process.serving id target = some connection ↔
      target = id ∧ process.connections.lookup id = some connection ∧ connection.work = .idle := by
  unfold serving
  split
  next same => simp [same, Option.filter_eq_some_iff]
  next differs => simp [differs]

theorem step_request {connection : Connection}
    (serves : process.serving id target = some connection) (host : HostCalls)
    (request : Request) (response : List UInt8) :
    (process.step (.request target host request response)).connections.lookup id =
      some { connection with
        backend := (connection.backend.dispatch host request response
          process.surfaces).backend } := by
  obtain ⟨rfl, found, idle⟩ := serving_eq_some_iff.mp serves
  dsimp only [step, whenIdle, onConnection]
  rw [found]
  dsimp only
  rw [if_pos idle, afterServing, launch_connections]
  simp [setConnection]

variable {before : Connection}

theorem loses_self (process : WorkerProcess) {next : WorkerProcess}
    (found : process.connections.lookup id = some before)
    (same : next.connections.lookup id = some before) (lease : Lease) :
    process.loses next id lease = false := by
  unfold loses
  rw [found, same]
  dsimp only
  cases before.backend.buffers.lookup lease.id with
  | none => rfl
  | some _ => rfl

variable {after : Connection}

theorem loses_removePools {next : WorkerProcess} {poolIds : List Nat}
    (found : process.connections.lookup id = some before)
    (isOpen : next.connections.lookup id = some after)
    (removed : after.backend = before.backend.removePools poolIds)
    (lease : Lease) :
    process.loses next id lease = true ↔
      ∃ buffer, before.backend.buffers.lookup lease.id = some buffer ∧
        buffer.poolId ∈ poolIds := by
  unfold loses
  rw [found, isOpen]
  dsimp only
  rw [removed, Bool.and_eq_true, Option.isNone_iff_eq_none]
  constructor
  · rintro ⟨was, gone⟩
    obtain ⟨buffer, buffer_found⟩ := Option.isSome_iff_exists.mp was
    refine ⟨buffer, buffer_found, ?_⟩
    by_contra left
    have still := VtRealBackend.lookup_buffers_removePools.mpr ⟨buffer_found, left⟩
    rw [gone] at still
    cases still
  · rintro ⟨buffer, buffer_found, owned⟩
    refine ⟨by simp [buffer_found], ?_⟩
    rw [Option.eq_none_iff_forall_ne_some]
    intro other still
    obtain ⟨was, left⟩ :=
      VtRealBackend.lookup_buffers_removePools.mp still
    obtain rfl : buffer = other := by simpa [buffer_found] using was
    exact left owned

/-! ## Every event is a move of the lease table -/

/-- A request addressed elsewhere, or to a busy connection, leaves the record
alone. -/
theorem step_request_elsewhere (elsewhere : process.serving id target = none)
    (host : HostCalls) (request : Request) (response : List UInt8) :
    (process.step (.request target host request
      response)).connections.lookup id = process.connections.lookup id := by
  dsimp only [step, whenIdle, onConnection]
  split
  · rfl
  next connection found =>
    split
    next idle =>
      rw [afterServing, launch_connections]
      dsimp only [setConnection]
      rw [FiniteMap.lookup_insert_eq, if_neg]
      rintro rfl
      have serves := serving_eq_some_iff.mpr ⟨rfl, found, idle⟩
      rw [elsewhere] at serves
      cases serves
    · rfl

theorem request_advances (kept : before.Kept) (host : HostCalls)
    (request : Request) (response : List UInt8)
    (found : process.connections.lookup id = some before)
    (isOpen : (process.step (.request target host request
      response)).connections.lookup id = some after) :
    VtRealBackend.Advances before.backend after.backend
      (process.grants id (.request target host request response))
      (process.ends id (.request target host request response)) := by
  unfold grants ends
  dsimp only
  cases serves : process.serving id target with
  | none =>
    rw [step_request_elsewhere serves, found] at isOpen
    cases isOpen
    exact kept.backend.advances_same rfl rfl (Nat.le_refl _) fun _ => rfl
  | some connection =>
    rw [step_request serves] at isOpen
    cases isOpen
    obtain ⟨-, same, -⟩ := serving_eq_some_iff.mp serves
    obtain rfl : before = connection := by simpa [found] using same
    exact (VtRealBackend.dispatch_effect ..).advances kept.backend kept.outputs

variable {event : WorkerEvent}

theorem ConnectionMove.advances
    (move : ConnectionMove process id before event after) (kept : before.Kept)
    (notRequest : ∀ target host request response, event ≠ .request target host request response)
    (found : process.connections.lookup id = some before)
    (isOpen : (process.step event).connections.lookup id = some after) :
    VtRealBackend.Advances before.backend after.backend
      (process.grants id event) (process.ends id event) := by
  have same {later : VtRealBackend} {quiet : Lease → Bool}
      (buffers : later.buffers = before.backend.buffers)
      (pools : later.pools = before.backend.pools)
      (next : later.nextHostId = before.backend.nextHostId)
      (silent : ∀ lease, quiet lease = false) :
      VtRealBackend.Advances before.backend later [] quiet :=
    kept.backend.advances_same buffers pools (Nat.le_of_eq next.symm) silent
  cases move with
  | unchanged =>
    cases event with
    | request target host request response =>
      exact absurd rfl (notRequest target host request response)
    | detachPool target source | sweepPools target =>
      exact same rfl rfl rfl (process.loses_self found isOpen)
    | _ => exact same rfl rfl rfl fun _ => rfl
  | request _ => exact absurd rfl (notRequest _ _ _ _)
  | claimEntry _ _ _ | releaseDetached _ | releaseSession _ _
  | encoderCallback | callbackStep | callbackFails | decoderCallback =>
    exact same rfl rfl rfl fun _ => rfl
  | buildPool _ =>
    exact (VtRealBackend.buildPool_cases ..).advances kept.backend fun _ => rfl
  | detachPool _ _ | sweepPools _ =>
    exact VtRealBackend.removePools_advances kept.backend (loses_removePools found isOpen rfl)

theorem ConnectionMove.advances_any
    (move : ConnectionMove process id before event after) (kept : before.Kept)
    (found : process.connections.lookup id = some before)
    (isOpen : (process.step event).connections.lookup id = some after) :
    VtRealBackend.Advances before.backend after.backend
      (process.grants id event) (process.ends id event) := by
  cases event with
  | request target host request response =>
    exact request_advances kept host request response found isOpen
  | _ => exact move.advances kept (by simp) found isOpen

/-! ## The invariant -/

theorem ConnectionMove.keeps {granted : List Lease} {ended : Lease → Bool}
    (move : ConnectionMove process id before event after) (kept : before.Kept)
    (advances : VtRealBackend.Advances before.backend after.backend granted ended)
    (flights : ∀ key flight, process.inFlight.lookup key = some flight → flight.connection = id →
      before.backend.Sealed flight.frame.frame.lease) :
    after.Kept := by
  have later {lease : Lease} (isSealed : before.backend.Sealed lease) :
      after.backend.Sealed lease := isSealed.evolve advances.evolves
  refine ⟨advances.kept, ?_, ?_⟩
  · intro ticket output found
    rcases move.outputs.ofOutput found with was | ⟨thread, _, running, rfl⟩
    · exact later (kept.outputs ticket output was)
    · exact later (kept.callbacks thread _ running)
  · intro thread producer running
    rcases move.outputs.ofCallback running with
      ⟨earlier, was, lease, _⟩ | ⟨key, flight, _, flying, mine, made, _⟩
    · rw [lease]
      exact later (kept.callbacks thread earlier was)
    · rw [compressionOutput_lease made]
      exact later (flights key flight flying mine)

theorem started_kept (surfaces : Surfaces) : (started surfaces).Kept where
  numbered := started_numbered surfaces
  connections _ _ found := by cases found
  flights _ _ found := by cases found

theorem Kept.sealed_flight (kept : process.Kept)
    (found : process.connections.lookup id = some before) (key : Nat)
    (flight : FrameInFlight)
    (flying : process.inFlight.lookup key = some flight)
    (mine : flight.connection = id) :
    before.backend.Sealed flight.frame.frame.lease := by
  subst mine
  exact (kept.flights key flight flying).2 before found

theorem Kept.step (kept : process.Kept) (event : WorkerEvent) : (process.step event).Kept := by
  have flies := process.step_flight event
  refine ⟨(step_accounts kept.numbered event).1, ?_, ?_⟩
  · intro id after isOpen
    rcases process.step_connection event id after isOpen with
      ⟨before, found, move⟩ | ⟨_, _, rfl⟩
    · have before_kept := kept.connections id before found
      exact move.keeps before_kept (move.advances_any before_kept found isOpen)
        (kept.sealed_flight found)
    · exact Connection.accepted_kept
  · intro key flight flying
    rcases flies.comes key flight flying with earlier |
      ⟨host, request, response, connection, rfl, found, idle, accepted, _⟩
    · obtain ⟨below, isSealed⟩ := kept.flights key flight earlier
      refine ⟨Nat.lt_of_lt_of_le below flies.nextConnection, ?_⟩
      intro after isOpen
      rcases process.step_connection event flight.connection after isOpen with
        ⟨before, found, move⟩ | ⟨new, _, _⟩
      · have before_kept := kept.connections flight.connection before found
        exact (isSealed before found).evolve (move.advances_any before_kept found isOpen).evolves
      · exact absurd below (by omega)
    · have below := kept.numbered.connections _ connection found
      refine ⟨Nat.lt_of_lt_of_le below flies.nextConnection, ?_⟩
      intro after isOpen
      rw [step_request (serving_eq_some_iff.mpr ⟨rfl, found, idle⟩)] at isOpen
      cases isOpen
      exact (VtRealBackend.dispatch_effect ..).launched
        (kept.connections _ connection found).backend flight.frame accepted

theorem run_kept (surfaces : Surfaces) (events : List WorkerEvent) :
    (Execution.run step (started surfaces) events).Kept :=
  Execution.invariant_of_step (fun _ event kept => kept.step event) (started_kept surfaces) events

end WorkerProcess

/-! ## Histories -/

/-- A run of the process with the history of one connection's leases. -/
structure LeaseRun where
  process : WorkerProcess
  history : History

namespace LeaseRun

def starting (surfaces : Surfaces) : LeaseRun where
  process := .started surfaces
  history := .empty

def step (id : Nat) (run : LeaseRun) (event : WorkerEvent) : LeaseRun where
  process := run.process.step event
  history := run.history.record (run.process.grants id event) (run.process.ends id event)

/-- The history of connection `id` is sound while the connection is open, and
empty before it is. -/
structure Traced (id : Nat) (run : LeaseRun) : Prop where
  kept : run.process.Kept
  once : run.history.granted.Nodup
  sound : ∀ connection, run.process.connections.lookup id = some connection →
    History.Sound connection.backend.leaseTable run.history
  unborn : run.process.nextConnection ≤ id → run.history = .empty

variable {id : Nat} {run : LeaseRun}

theorem starting_traced (surfaces : Surfaces) (id : Nat) :
    (starting surfaces).Traced id where
  kept := WorkerProcess.started_kept surfaces
  once := List.nodup_nil
  sound _ found := by cases found
  unborn _ := rfl

theorem grants_of_closed {process : WorkerProcess} {event : WorkerEvent}
    (closed : (process.step event).connections.lookup id = none) :
    process.grants id event = [] := by
  cases event with
  | request target host request response =>
    unfold WorkerProcess.grants
    dsimp only
    split
    · rfl
    next connection serves =>
      rw [WorkerProcess.step_request serves] at closed
      cases closed
  | _ => rfl

theorem record_nothing (history : History) (ends : Lease → Bool) :
    (history.record [] ends).granted = history.granted :=
  List.append_nil _

theorem Traced.step (traced : run.Traced id) (event : WorkerEvent) :
    (run.step id event).Traced id := by
  have sound : ∀ connection, (run.process.step event).connections.lookup id = some connection →
      History.Sound connection.backend.leaseTable (run.step id event).history := by
    intro after isOpen
    rcases run.process.step_connection event id after isOpen with
      ⟨before, found, move⟩ | ⟨new, rfl, rfl⟩
    · have before_kept := traced.kept.connections id before found
      exact (traced.sound before found).move (move.advances_any before_kept found isOpen).move
    · have empty := traced.unborn (Nat.le_of_eq new.symm)
      dsimp only [LeaseRun.step]
      rw [empty]
      exact History.Sound.empty _
  refine ⟨traced.kept.step event, ?_, sound, ?_⟩
  · cases isOpen : (run.process.step event).connections.lookup id with
    | some connection => exact (sound connection isOpen).once
    | none =>
      dsimp only [LeaseRun.step]
      rw [grants_of_closed isOpen, record_nothing]
      exact traced.once
  · intro unborn
    have later := (run.process.step_flight event).nextConnection
    have empty := traced.unborn (Nat.le_trans later unborn)
    have closed : (run.process.step event).connections.lookup id = none := by
      rw [Option.eq_none_iff_forall_ne_some]
      intro connection isOpen
      have below :=
        (traced.kept.step event).numbered.connections id connection isOpen
      exact absurd below (Nat.not_lt_of_le unborn)
    dsimp only [LeaseRun.step]
    rw [grants_of_closed closed, empty]
    rfl

theorem run_traced (surfaces : Surfaces) (id : Nat) (events : List WorkerEvent) :
    (Execution.run (step id) (starting surfaces) events).Traced id :=
  Execution.invariant_of_step (fun _ event traced => traced.step event)
    (starting_traced surfaces id) events

end LeaseRun

end VtFerry
