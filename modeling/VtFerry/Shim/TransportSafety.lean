import VtFerry.Shim.Pairing

/-!
# Pairing and terminal failure over whole runs

A transport has not connected yet, is in a stage of its only connection, or
has met an I/O error.  Every event keeps it in one of these three conditions,
and the third is never left: the lock is held by the failing call until the
backend is dropped and the transport marked killed, and from then on
`ensure_backend` opens nothing.
-/

namespace VtFerry

open Execution List Transport

variable {State Choice : Type} {worker : Backend State Choice}

namespace Transport

/-- A step of the worker's end keeps the stage of the connection and the log
of served requests. -/
structure ServerMove (serve : Link worker → Link worker) : Prop where
  stage : ∀ link holder answered, Stage link holder answered → Stage (serve link) holder answered
  served : ∀ link : Link worker, link.roundTrips <+: (serve link).roundTrips

theorem serverMove_reads (count : Nat) :
    ServerMove fun link : Link worker => link.serverReads count where
  stage _ _ _ stage := stage.serverReads count
  served link := by
    obtain ⟨toServer, toClient, ⟨phase, state, served⟩⟩ := link
    cases phase <;> exact prefix_rfl

theorem serverMove_dispatches (choice : Choice) :
    ServerMove fun link : Link worker => link.serverDispatches choice where
  stage _ _ _ stage := stage.serverDispatches choice
  served link := by
    obtain ⟨toServer, toClient, ⟨phase, state, served⟩⟩ := link
    cases phase with
    | replying writer | closed => exact prefix_rfl
    | reading reader =>
      cases reader with
      | inHeader buffer | inPayload header buffer | refused => exact prefix_rfl
      | complete header payload => exact (prefix_append _ _).map _

theorem serverMove_writes (count : Nat) :
    ServerMove fun link : Link worker => link.serverWrites count where
  stage _ _ _ stage := stage.serverWrites count
  served link := by
    obtain ⟨toServer, toClient, ⟨phase, state, served⟩⟩ := link
    cases phase <;> exact prefix_rfl

theorem serverMove_fails :
    ServerMove fun link : Link worker => link.serverFails where
  stage _ _ _ stage := stage.serverFails
  served _ := prefix_rfl

end Transport

namespace TransportSystem

def answered (system : TransportSystem worker) : List RoundTrip :=
  system.answers.filterMap Answer.roundTrip?

def served (system : TransportSystem worker) :
    List (Server.ServedRequest worker) :=
  match system.link with
  | some link => link.server.served
  | none => []

/-- No connection has been opened. -/
structure Unopened (system : TransportSystem worker) : Prop where
  unlocked : system.holder = none
  backend : system.backend = none
  alive : system.killed = false
  healthy : system.failed = false
  link : system.link = none
  unanswered : system.answered = []
  opens : system.actions.count .opens = 0

/-- The only connection is in use and has not failed. -/
structure Live (system : TransportSystem worker)
    (backend : StreamBackend) (link : Link worker) : Prop where
  connected : system.backend = some backend
  unpoisoned : backend.poisoned = false
  healthy : system.failed = false
  linked : system.link = some link
  stage : Stage link system.holder system.answered
  opens : system.actions.count .opens = 1

/-- The failing call still holds the lock, with the backend poisoned, or the
backend is dropped and the transport killed. -/
inductive Stopped : Option Exchange → Option StreamBackend → Bool → Prop where
  | failing (exchange : Exchange) (backend : StreamBackend) (killed : Bool)
      (returns : exchange.phase = .returning .ioError)
      (poisoned : backend.poisoned = true) :
      Stopped (some exchange) (some backend) killed
  | killed : Stopped none none true

/-- An I/O error has happened. -/
structure Failed (system : TransportSystem worker) (link : Link worker) : Prop where
  stopped : Stopped system.holder system.backend system.killed
  failed : system.failed = true
  linked : system.link = some link
  paired : system.answered <+: link.roundTrips
  opens : system.actions.count .opens = 1

inductive Coherent (system : TransportSystem worker) : Prop where
  | unopened (unopened : system.Unopened)
  | live (backend : StreamBackend) (link : Link worker)
      (live : system.Live backend link)
  | failed (link : Link worker) (failed : system.Failed link)

theorem answered_of_error (system : TransportSystem worker)
    {later : TransportSystem worker} {answer : Answer}
    (answers : later.answers = system.answers ++ [answer])
    (error : answer.outcome.fromWorker = false) :
    later.answered = system.answered := by
  simp [answered, answers, Answer.roundTrip?, error]

/-! ## What the client's steps do -/

theorem clientWrites_cases (count : Nat) (system : TransportSystem worker) :
    system.clientWrites count = system ∨ ∃ exchange link writer, system.holder = some exchange ∧
        system.link = some link ∧ exchange.phase = .writing writer ∧
        system.clientWrites count =
          { system with
            holder := some { exchange with
              phase := afterWrite (writer.send count link.toServer).1 }
            link := some { link with
              toServer := (writer.send count link.toServer).2 }
            actions := system.actions ++ [.writes
              ((writer.send count link.toServer).2.drop link.toServer.length)] } := by
  unfold clientWrites
  split
  next exchange link held linked =>
    split
    next writer writing => exact .inr ⟨exchange, link, writer, held, linked, writing, rfl⟩
    · exact .inl rfl
  · exact .inl rfl

theorem clientReads_cases (count : Nat) (system : TransportSystem worker) :
    system.clientReads count = system ∨ ∃ exchange link reader, system.holder = some exchange ∧
        system.link = some link ∧ exchange.phase = .reading reader ∧
        system.clientReads count =
          { system with
            holder := some { exchange with
              phase := afterRead (replyFraming.receive count link.toClient reader).1 }
            link := some { link with
              toClient :=
                (replyFraming.receive count link.toClient reader).2 }
            actions := system.actions ++ [.reads (link.toClient.take
              (link.toClient.length - (replyFraming.receive count link.toClient
                  reader).2.length))] } := by
  unfold clientReads
  split
  next exchange link held linked =>
    split
    next reader reading => exact .inr ⟨exchange, link, reader, held, linked, reading, rfl⟩
    · exact .inl rfl
  · exact .inl rfl

theorem clientFails_cases (system : TransportSystem worker) :
    system.clientFails = system ∨ ∃ exchange, system.holder = some exchange ∧
        (∀ outcome, exchange.phase ≠ .returning outcome) ∧
        system.clientFails = system.failExchange exchange := by
  unfold clientFails
  split
  next exchange held =>
    split
    · exact .inl rfl
    next working => exact .inr ⟨exchange, held, working, rfl⟩
  · exact .inl rfl

/-! ## After an I/O error -/

namespace Failed

variable {system : TransportSystem worker} {link : Link worker}

/-- Once the lock is free, a call opens nothing and returns an error. -/
theorem sendRequestBytes_eq (thread : Nat) (call : Call)
    (connects : Option State) (unlocked : system.holder = none)
    (failed : system.Failed link) :
    system.sendRequestBytes thread call connects =
      { system with
        answers := system.answers ++ [⟨.caller thread, call, 0, .noBackend⟩] } := by
  obtain ⟨backend, killed, holder, link, actions, broken, answers⟩ := system
  obtain ⟨stopped, rest⟩ := failed
  simp only at unlocked stopped
  subst unlocked
  cases stopped with
  | killed => rfl

theorem sendRequestBytes (thread : Nat) (call : Call)
    (connects : Option State) (unlocked : system.holder = none)
    (failed : system.Failed link) :
    (system.sendRequestBytes thread call connects).Failed link := by
  rw [failed.sendRequestBytes_eq thread call connects unlocked]
  refine { failed with paired := ?_ }
  rw [answered_of_error system rfl rfl]
  exact failed.paired

/-- What a failed transport may still do: end the failing call and refuse
others. -/
structure Continues (early late : TransportSystem worker) : Prop where
  untouched : late.actions = early.actions
  errors : ∃ later, late.answers = early.answers ++ later ∧
    ∀ answer ∈ later, answer.outcome.fromWorker = false

theorem Continues.refl (system : TransportSystem worker) :
    Continues system system :=
  ⟨rfl, [], (append_nil _).symm, fun _ none => absurd none (by simp)⟩

theorem Continues.trans {first second third : TransportSystem worker}
    (early : Continues first second) (late : Continues second third) :
    Continues first third := by
  obtain ⟨untouched, before, before_eq, before_errors⟩ := early
  obtain ⟨still, after, after_eq, after_errors⟩ := late
  refine ⟨still.trans untouched, before ++ after, ?_, ?_⟩
  · rw [after_eq, before_eq, append_assoc]
  · intro answer found
    rcases mem_append.mp found with found | found
    · exact before_errors answer found
    · exact after_errors answer found

theorem Continues.answer {early late : TransportSystem worker}
    (answer : Answer) (untouched : late.actions = early.actions)
    (answers : late.answers = early.answers ++ [answer])
    (error : answer.outcome.fromWorker = false) : Continues early late := by
  refine ⟨untouched, [answer], answers, ?_⟩
  intro other found
  rw [mem_singleton.mp found]
  exact error

theorem onLink {serve : Link worker → Link worker} (move : ServerMove serve)
    (failed : system.Failed link) :
    ∃ later, (system.onLink serve).Failed later ∧ Continues system (system.onLink serve) := by
  refine ⟨serve link, { failed with linked := ?_, paired := ?_ }, ?_⟩
  · simp [TransportSystem.onLink, failed.linked]
  · exact failed.paired.trans (move.served link)
  · exact ⟨rfl, (Continues.refl system).errors⟩

theorem finish (failed : system.Failed link) :
    system.finish.Failed link ∧ Continues system system.finish := by
  obtain ⟨backend, killed, holder, link, actions, broken, answers⟩ := system
  obtain ⟨stopped, failed, linked, paired, opens⟩ := failed
  simp only at stopped
  cases stopped with
  | killed => exact ⟨⟨.killed, failed, linked, paired, opens⟩, Continues.refl _⟩
  | failing exchange backend killed returns poisoned =>
    simp only [TransportSystem.finish, returns, Option.map_some, poisoned,
      Option.getD_some, if_true]
    refine ⟨⟨.killed, failed, linked, ?_, opens⟩, ?_⟩
    · rw [answered_of_error ⟨some backend, killed, some exchange, link,
        actions, broken, answers⟩ rfl rfl]
      exact paired
    · exact Continues.answer _ rfl rfl rfl

theorem returns {exchange : Exchange} (failed : system.Failed link)
    (held : system.holder = some exchange) :
    exchange.phase = .returning .ioError := by
  have stopped := failed.stopped
  rw [held] at stopped
  generalize system.backend = backend, system.killed = killed at stopped
  cases stopped with
  | failing _ backend killed returns poisoned => exact returns

theorem client_stopped (failed : system.Failed link) (count : Nat) :
    system.clientWrites count = system ∧ system.clientReads count = system ∧
      system.clientFails = system := by
  refine ⟨?_, ?_, ?_⟩
  · rcases system.clientWrites_cases count with same | ⟨exchange, _, writer, held, _, writing, _⟩
    · exact same
    · exact absurd (writing.symm.trans (failed.returns held)) (by simp)
  · rcases system.clientReads_cases count with same | ⟨exchange, _, reader, held, _, reading, _⟩
    · exact same
    · exact absurd (reading.symm.trans (failed.returns held)) (by simp)
  · rcases system.clientFails_cases with same | ⟨exchange, held, working, _⟩
    · exact same
    · exact absurd (failed.returns held) (working .ioError)

theorem heartbeatRound (stale : Bool) (unlocked : system.holder = none)
    (failed : system.Failed link) : system.heartbeatRound stale = system := by
  obtain ⟨backend, killed, holder, link, actions, broken, answers⟩ := system
  obtain ⟨stopped, rest⟩ := failed
  simp only at unlocked stopped
  subst unlocked
  cases stopped with
  | killed => rfl

theorem step (event : TransportEvent State Choice) (failed : system.Failed link) :
    ∃ later, (system.step event).Failed later ∧
      Continues system (system.step event) := by
  have stays : ∃ later, system.Failed later ∧ Continues system system :=
    ⟨link, failed, Continues.refl system⟩
  cases event with
  | call thread call connects =>
    simp only [TransportSystem.step]
    split
    next free =>
      have unlocked := Option.isNone_iff_eq_none.mp free
      refine ⟨link, failed.sendRequestBytes thread call connects unlocked, ?_⟩
      rw [failed.sendRequestBytes_eq thread call connects unlocked]
      exact Continues.answer _ rfl rfl rfl
    · exact stays
  | heartbeat stale =>
    simp only [TransportSystem.step]
    split
    next free =>
      rw [failed.heartbeatRound stale (Option.isNone_iff_eq_none.mp free)]
      exact stays
    · exact stays
  | clientWrites count =>
    simpa only [TransportSystem.step, (failed.client_stopped count).1]
  | clientReads count =>
    simpa only [TransportSystem.step, (failed.client_stopped count).2.1]
  | clientFails => simpa only [TransportSystem.step, (failed.client_stopped 0).2.2]
  | finish => exact ⟨link, failed.finish⟩
  | serverReads count => exact failed.onLink (serverMove_reads count)
  | serverDispatches choice => exact failed.onLink (serverMove_dispatches choice)
  | serverWrites count => exact failed.onLink (serverMove_writes count)
  | serverFails => exact failed.onLink serverMove_fails

theorem run (events : List (TransportEvent State Choice)) (failed : system.Failed link) :
    Continues system (run TransportSystem.step system events) ∧
      ∃ later, (run TransportSystem.step system events).Failed
        later := by
  let stays (late : TransportSystem worker) : Prop :=
    Continues system late ∧ ∃ later, late.Failed later
  have initially : stays system := ⟨Continues.refl system, link, failed⟩
  refine invariant_of_step ?_ initially events
  intro late event holds
  obtain ⟨continues, link, failed⟩ := holds
  obtain ⟨later, failed, next⟩ := failed.step event
  exact ⟨continues.trans next, later, failed⟩

end Failed

namespace Coherent

variable {system : TransportSystem worker}

theorem started : (started : TransportSystem worker).Coherent :=
  .unopened ⟨rfl, rfl, rfl, rfl, rfl, rfl, rfl⟩

theorem onLink {serve : Link worker → Link worker} (move : ServerMove serve)
    (coherent : system.Coherent) :
    (system.onLink serve).Coherent := by
  obtain ⟨backend, killed, holder, link, actions, broken, answers⟩ := system
  cases coherent with
  | unopened unopened =>
    obtain ⟨unlocked, disconnected, alive, healthy, rfl, unanswered, opens⟩ :=
      unopened
    exact .unopened ⟨unlocked, disconnected, alive, healthy, rfl, unanswered, opens⟩
  | live backend link live =>
    obtain ⟨connected, unpoisoned, healthy, rfl, stage, opens⟩ := live
    exact .live backend (serve link) ⟨connected, unpoisoned, healthy, rfl,
      move.stage _ _ _ stage, opens⟩
  | failed link failed =>
    obtain ⟨later, failed, -⟩ := failed.onLink move
    exact .failed later failed

/-- A call or probe that has the lock of a live connection. -/
theorem begins {backend : StreamBackend} {link : Link worker}
    (party : Party) (call : Call) (unlocked : system.holder = none)
    (live : system.Live backend link) :
    (system.beginExchange party call backend).Coherent := by
  obtain ⟨connected, unpoisoned, healthy, linked, stage, opens⟩ := live
  rw [unlocked] at stage
  cases stage with
  | idle quiet served =>
    exact .live _ link ⟨rfl, unpoisoned, healthy, linked, Stage.begins _ quiet served rfl, opens⟩

theorem opened_live (state : State) (unopened : system.Unopened) :
    (system.ensureBackend (some state)).Live .wrap (.opened state) := by
  obtain ⟨backend, killed, holder, link, actions, broken, answers⟩ := system
  obtain ⟨rfl, rfl, rfl, rfl, rfl, unanswered, opens⟩ := unopened
  refine ⟨rfl, rfl, rfl, rfl, ?_, ?_⟩
  · exact .idle ⟨rfl, rfl, .finished⟩ unanswered.symm
  · simp only at opens
    simp [ensureBackend, opens]

theorem sendRequestBytes (thread : Nat) (call : Call) (connects : Option State)
    (unlocked : system.holder = none) (coherent : system.Coherent) :
    (system.sendRequestBytes thread call connects).Coherent := by
  cases coherent with
  | unopened unopened =>
    cases connects with
    | none =>
      have same : system.ensureBackend none = system := by
        simp [ensureBackend]
      simp only [TransportSystem.sendRequestBytes, same, unopened.backend]
      exact .unopened { unopened with
        backend := rfl
        unanswered := (answered_of_error system rfl rfl).trans unopened.unanswered }
    | some state =>
      have live := opened_live state unopened
      simp only [TransportSystem.sendRequestBytes, live.connected]
      refine begins _ call ?_ live
      simp [ensureBackend, unopened.backend, unopened.alive, unlocked]
  | live backend link live =>
    have same : system.ensureBackend connects = system := by
      simp [ensureBackend, live.connected]
    simp only [TransportSystem.sendRequestBytes, same, live.connected]
    exact begins _ call unlocked live
  | failed link failed =>
    exact .failed link (failed.sendRequestBytes thread call connects unlocked)

theorem heartbeatRound (stale : Bool) (unlocked : system.holder = none)
    (coherent : system.Coherent) : (system.heartbeatRound stale).Coherent := by
  cases coherent with
  | unopened unopened =>
    simpa only [TransportSystem.heartbeatRound, unopened.backend] using .unopened unopened
  | live backend link live =>
    simp only [TransportSystem.heartbeatRound, live.connected]
    split
    · exact begins .heartbeat .ping unlocked live
    · exact .live backend link live
  | failed link failed =>
    rw [failed.heartbeatRound stale unlocked]
    exact .failed link failed

theorem live_of_working {exchange : Exchange} (coherent : system.Coherent)
    (held : system.holder = some exchange)
    (working : ∀ outcome, exchange.phase ≠ .returning outcome) :
    ∃ backend link, system.Live backend link := by
  cases coherent with
  | unopened unopened => exact absurd (held.symm.trans unopened.unlocked) (by simp)
  | live backend link live => exact ⟨backend, link, live⟩
  | failed link failed => exact absurd (failed.returns held) (working .ioError)

theorem clientWrites (count : Nat) (coherent : system.Coherent) :
    (system.clientWrites count).Coherent := by
  rcases system.clientWrites_cases count with same |
    ⟨exchange, link, writer, held, linked, writing, moved⟩
  · rw [same]
    exact coherent
  · obtain ⟨backend, link', live⟩ :=
      coherent.live_of_working held (by simp [writing])
    obtain rfl : link = link' := by
      simpa using linked.symm.trans live.linked
    have stage := live.stage
    rw [held] at stage
    rw [moved]
    refine .live backend _ { live with
      linked := rfl, stage := stage.clientWrites count writing, opens := ?_ }
    simpa using live.opens

theorem clientReads (count : Nat) (coherent : system.Coherent) :
    (system.clientReads count).Coherent := by
  rcases system.clientReads_cases count with same |
    ⟨exchange, link, reader, held, linked, reading, moved⟩
  · rw [same]
    exact coherent
  · obtain ⟨backend, link', live⟩ :=
      coherent.live_of_working held (by simp [reading])
    obtain rfl : link = link' := by
      simpa using linked.symm.trans live.linked
    have stage := live.stage
    rw [held] at stage
    rw [moved]
    refine .live backend _ { live with
      linked := rfl, stage := stage.clientReads count reading, opens := ?_ }
    simpa using live.opens

theorem clientFails (coherent : system.Coherent) :
    system.clientFails.Coherent := by
  rcases system.clientFails_cases with same | ⟨exchange, held, working, moved⟩
  · rw [same]
    exact coherent
  · obtain ⟨backend, link, live⟩ := coherent.live_of_working held working
    rw [moved]
    refine .failed link ⟨?_, rfl, live.linked, ?_, ?_⟩
    · simp only [failExchange, live.connected, Option.map_some]
      exact .failing _ _ _ rfl rfl
    · exact live.stage.isPrefix
    · simpa [failExchange] using live.opens

theorem finish (coherent : system.Coherent) : system.finish.Coherent := by
  cases coherent with
  | unopened unopened =>
    simpa only [TransportSystem.finish, unopened.unlocked] using .unopened unopened
  | failed link failed => exact .failed link failed.finish.1
  | live backend link live =>
    have stays : system.Coherent := .live backend link live
    unfold TransportSystem.finish
    split
    next exchange held =>
      split
      next outcome returns =>
        have stage := live.stage
        rw [held] at stage
        obtain ⟨fromWorker, stage⟩ := stage.finishes returns
        simp only [live.connected, Option.map_some, live.unpoisoned,
          Option.getD_some, Bool.false_eq_true, if_false]
        refine .live backend link { live with
          connected := rfl, stage := ?_ }
        simpa [answered, Answer.roundTrip?, fromWorker, Exchange.roundTrip] using stage
      · exact stays
    · exact stays

theorem step (event : TransportEvent State Choice) (coherent : system.Coherent) :
    (system.step event).Coherent := by
  cases event with
  | call thread call connects =>
    simp only [TransportSystem.step]
    split
    next free =>
      exact coherent.sendRequestBytes thread call connects (Option.isNone_iff_eq_none.mp free)
    · exact coherent
  | heartbeat stale =>
    simp only [TransportSystem.step]
    split
    next free => exact coherent.heartbeatRound stale (Option.isNone_iff_eq_none.mp free)
    · exact coherent
  | clientWrites count => exact coherent.clientWrites count
  | clientReads count => exact coherent.clientReads count
  | clientFails => exact coherent.clientFails
  | finish => exact coherent.finish
  | serverReads count => exact coherent.onLink (serverMove_reads count)
  | serverDispatches choice => exact coherent.onLink (serverMove_dispatches choice)
  | serverWrites count => exact coherent.onLink (serverMove_writes count)
  | serverFails => exact coherent.onLink serverMove_fails

theorem run (events : List (TransportEvent State Choice)) :
    (run TransportSystem.step (TransportSystem.started : TransportSystem worker)
      events).Coherent :=
  invariant_of_step (fun _ event coherent =>
    coherent.step event) started events

end Coherent

theorem isPrefix_of_coherent {system : TransportSystem worker} (coherent : system.Coherent) :
    system.answered <+: system.served.map Server.ServedRequest.roundTrip := by
  cases coherent with
  | unopened unopened =>
    rw [unopened.unanswered]
    exact nil_prefix
  | live backend link live =>
    simp only [served, live.linked]
    exact live.stage.isPrefix
  | failed link failed =>
    simp only [served, failed.linked]
    exact failed.paired

theorem opens_of_coherent {system : TransportSystem worker}
    (coherent : system.Coherent) : system.actions.count .opens ≤ 1 := by
  cases coherent with
  | unopened unopened => exact unopened.opens.le.trans (Nat.zero_le 1)
  | live backend link live => exact live.opens.le
  | failed link failed => exact failed.opens.le

/-- Each call that returned a payload or a worker's status belongs to one
dispatch of the worker, in order: the same request, and the reply which that
dispatch computed.  There is only one connection. -/
structure Paired (system : TransportSystem worker) : Prop where
  replies : system.answered <+: system.served.map Server.ServedRequest.roundTrip
  single : system.actions.count .opens ≤ 1

/-- From `early` to `late` no connection was written, read or opened, every
call that returned did so with an error of the transport, and the next call
will. -/
structure Terminated (early late : TransportSystem worker) : Prop where
  untouched : late.actions = early.actions
  errors : ∃ later, late.answers = early.answers ++ later ∧
    ∀ answer ∈ later, answer.outcome.fromWorker = false ∧
      ∃ code, answer.outcome.result = .error code
  refuses : ∀ thread call connects, late.holder = none → late.step (.call thread call connects) =
      { late with
        answers := late.answers ++ [⟨.caller thread, call, 0, .noBackend⟩] }

theorem terminated_of_failed {early late : TransportSystem worker}
    {link : Link worker} (continues : Failed.Continues early late)
    (failed : late.Failed link) : Terminated early late where
  untouched := continues.untouched
  errors := by
    obtain ⟨later, answers, errors⟩ := continues.errors
    refine ⟨later, answers, ?_⟩
    intro answer found
    have error := errors answer found
    exact ⟨error, Outcome.result_of_error error⟩
  refuses thread call connects unlocked := by
    have free : late.holder.isNone = true := by simp [unlocked]
    simp only [step, free, if_true]
    exact failed.sendRequestBytes_eq thread call connects unlocked

theorem failed_of_coherent {system : TransportSystem worker}
    (coherent : system.Coherent) (failed : system.failed = true) :
    ∃ link, system.Failed link := by
  cases coherent with
  | unopened unopened => exact absurd (failed.symm.trans unopened.healthy) (by decide)
  | live backend link live => exact absurd (failed.symm.trans live.healthy) (by decide)
  | failed link failed => exact ⟨link, failed⟩

/-- Every interleaving of callers, heartbeats, the worker's connection thread
and failures pairs each reply with its request, and an I/O error of the client
is the end of all traffic. -/
theorem replies_paired_and_failure_terminal (before after : List (TransportEvent State Choice)) :
    let early := run step (started : TransportSystem worker) before
    let late := run step early after
    late.Paired ∧ (early.failed = true → Terminated early late) := by
  intro early late
  constructor
  · have coherent : late.Coherent :=
      invariant_of_step (fun _ event coherent => coherent.step event) (Coherent.run before) after
    exact ⟨isPrefix_of_coherent coherent, opens_of_coherent coherent⟩
  · intro failed
    obtain ⟨link, failed⟩ := failed_of_coherent (Coherent.run before) failed
    obtain ⟨continues, later, failed⟩ := failed.run after
    exact terminated_of_failed continues failed

/-- A worker that answers every request with one byte. -/
def oneByteWorker : Backend Unit Unit where
  dispatch _ _ _ _ := ((), ⟨Status.ok, some [7], by decide⟩)

example :
    let late := run step (started : TransportSystem oneByteWorker)
      [.call 0 .ping (some ()), .clientWrites 10, .serverReads 4,
        .clientWrites 20, .serverReads 30, .serverDispatches (),
        .serverWrites 24, .clientReads 9, .serverWrites 5, .clientReads 30,
        .clientReads 1, .finish, .call 1 .ping none, .clientWrites 3,
        .clientFails, .finish, .call 2 .ping (some ())]
    late.answered = [⟨1, 2, [], .payload [7]⟩] ∧ late.failed = true ∧
      late.answers.map (·.outcome) = [.payload [7], .ioError, .noBackend] := by
  decide

end TransportSystem

end VtFerry
