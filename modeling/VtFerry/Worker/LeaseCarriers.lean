import VtFerry.Worker.LeaseHistory

/-!
# Where the lease of an encoded frame is

From the moment the encoder accepts a frame, the lease it was encoded under is
carried by one thing at a time: the frame in flight, then a callback that has
not stored its output yet, then the output.  A frame is accepted only under a
writable lease and seals it, so no lease is ever carried twice.
-/

namespace VtFerry

open LeaseTable

/-- What can carry the lease of an encoded frame of a connection. -/
inductive Carrier where
  | flight (key : Nat)
  | callback (thread : Nat)
  | output (id : Nat)
  deriving DecidableEq, Repr

namespace WorkerProcess

variable {process : WorkerProcess} {id : Nat}

/-- A callback carries its lease until it has stored the output. -/
def Carries (process : WorkerProcess) (id : Nat) : Carrier → Lease → Prop
  | .flight key, lease => ∃ flight,
      process.inFlight.lookup key = some flight ∧ flight.connection = id ∧
        flight.frame.frame.lease = lease
  | .callback thread, lease => ∃ connection producer,
      process.connections.lookup id = some connection ∧
        connection.callbacks.lookup thread = some producer ∧
        producer.mayAbandon = true ∧ producer.item.lease = lease
  | .output key, lease => ∃ connection output,
      process.connections.lookup id = some connection ∧
        connection.backend.outputState.items.lookup key = some output ∧
        output.lease = lease

/-- No lease of the connection is carried twice. -/
def OnceAt (process : WorkerProcess) (id : Nat) : Prop :=
  ∀ first second lease, process.Carries id first lease →
    process.Carries id second lease → first = second

def CarriedOnce (process : WorkerProcess) : Prop :=
  ∀ id, process.OnceAt id

variable {connection : Connection} {carrier : Carrier} {lease : Lease}

theorem Kept.sealed_of_carries (kept : process.Kept)
    (found : process.connections.lookup id = some connection)
    (carries : process.Carries id carrier lease) :
    connection.backend.Sealed lease := by
  cases carrier with
  | flight key =>
    obtain ⟨flight, flying, mine, rfl⟩ := carries
    exact kept.sealed_flight found key flight flying mine
  | callback thread =>
    obtain ⟨_, producer, found_too, running, _, rfl⟩ := carries
    obtain rfl := Option.some.inj (found.symm.trans found_too)
    exact (kept.connections id connection found).callbacks thread producer running
  | output key =>
    obtain ⟨_, output, found_too, queued, rfl⟩ := carries
    obtain rfl := Option.some.inj (found.symm.trans found_too)
    exact (kept.connections id connection found).outputs key output queued

/-! ## Frames a request launches -/

theorem lookup_launch (target : Nat) (backend : VtRealBackend)
    (frames : List EncoderFrame) (process : WorkerProcess) (key : Nat) :
    (launch target backend frames process).inFlight.lookup key =
      if process.nextFrame ≤ key ∧ key < process.nextFrame + frames.length then
        (frames[key - process.nextFrame]?).map fun frame =>
          { connection := target
            frame := frame
            slot := backend.slotOf frame.frame.bufferId }
      else process.inFlight.lookup key := by
  induction frames generalizing process with
  | nil =>
    have outside : ¬ (process.nextFrame ≤ key ∧
        key < process.nextFrame + ([] : List EncoderFrame).length) := by
      simp
    rw [if_neg outside]
    rfl
  | cons frame frames induction =>
    rw [launch, induction]
    dsimp only
    rw [FiniteMap.lookup_insert_eq, List.length_cons]
    rcases Nat.lt_trichotomy key process.nextFrame with below | rfl | above
    · rw [if_neg (by omega), if_neg (Nat.ne_of_lt below), if_neg (by omega)]
    · rw [if_neg (by omega), if_pos rfl, if_pos (by omega), Nat.sub_self]
      rfl
    · have shifted : key - process.nextFrame =
          key - (process.nextFrame + 1) + 1 := by omega
      rw [shifted, List.getElem?_cons_succ, if_neg (Nat.ne_of_gt above)]
      by_cases inside : key < process.nextFrame + 1 + frames.length
      · rw [if_pos (by omega), if_pos (by omega)]
      · rw [if_neg (by omega), if_neg (by omega)]

variable {target : Nat}

/-- A frame in flight after a request was so before, under the same key, or is
one of the launched frames. -/
theorem lookup_launch_cases {key : Nat} {backend : VtRealBackend}
    {frames : List EncoderFrame} {flight : FrameInFlight}
    (flying : (launch target backend frames process).inFlight.lookup key = some flight) :
    process.inFlight.lookup key = some flight ∨ process.nextFrame ≤ key ∧
        frames[key - process.nextFrame]? = some flight.frame := by
  rw [lookup_launch] at flying
  split at flying
  next inside =>
    obtain ⟨frame, at_key, rfl⟩ := Option.map_eq_some_iff.mp flying
    exact Or.inr ⟨inside.1, at_key⟩
  · exact Or.inl flying

/-- Frames under one lease have one place among frames of distinct leases. -/
theorem place_unique {frames : List EncoderFrame}
    (distinct : (frames.map fun frame => frame.frame.lease).Nodup)
    {first second : Nat} {frame frameToo : EncoderFrame}
    (first_at : frames[first]? = some frame)
    (second_at : frames[second]? = some frameToo)
    (same : frame.frame.lease = frameToo.frame.lease) : first = second := by
  have below : first < (frames.map fun frame => frame.frame.lease).length := by
    rw [List.length_map]
    exact (List.getElem?_eq_some_iff.mp first_at).1
  apply (List.getElem?_inj below distinct).mp
  rw [List.getElem?_map, List.getElem?_map, first_at, second_at,
    Option.map_some, Option.map_some, same]

/-! ## What an event does to the carriers -/

variable {next : WorkerProcess}

theorem OnceAt.fewer (once : process.OnceAt id)
    (fewer : ∀ carrier lease, next.Carries id carrier lease →
      process.Carries id carrier lease) : next.OnceAt id := by
  intro first second lease carries carries_too
  exact once first second lease (fewer first lease carries) (fewer second lease carries_too)

/-- One carrier hands its lease on to another. -/
structure HandsOn (process next : WorkerProcess) (id : Nat) (giver taker : Carrier) : Prop where
  gone : ∀ lease, ¬ next.Carries id giver lease
  taken : ∀ lease, next.Carries id taker lease → process.Carries id giver lease
  others : ∀ carrier lease, carrier ≠ taker →
    next.Carries id carrier lease → process.Carries id carrier lease

theorem HandsOn.once {giver taker : Carrier}
    (hands : process.HandsOn next id giver taker) (once : process.OnceAt id) :
    next.OnceAt id := by
  intro first second lease carries carries_too
  by_cases first_new : first = taker
  · by_cases second_new : second = taker
    · rw [first_new, second_new]
    · subst first_new
      have from_giver := once giver second lease (hands.taken lease carries)
        (hands.others second lease second_new carries_too)
      rw [← from_giver] at carries_too
      exact absurd carries_too (hands.gone lease)
  · by_cases second_new : second = taker
    · subst second_new
      have from_giver := once first giver lease (hands.others first lease first_new carries)
        (hands.taken lease carries_too)
      rw [from_giver] at carries
      exact absurd carries (hands.gone lease)
    · exact once first second lease (hands.others first lease first_new carries)
        (hands.others second lease second_new carries_too)

theorem ConnectionMove.fewer {event : WorkerEvent} {before after : Connection}
    (move : ConnectionMove process id before event after)
    (notCallback : ∀ key thread sample, event ≠ .encoderCallback key thread sample)
    (notStep : ∀ target thread, event ≠ .callbackStep target thread) :
    (∀ thread producer, after.callbacks.lookup thread = some producer →
      before.callbacks.lookup thread = some producer) ∧
    ∀ key output, after.backend.outputState.items.lookup key = some output →
      before.backend.outputState.items.lookup key = some output := by
  cases move with
  | unchanged | claimEntry _ _ _ | detachPool _ _ | releaseDetached _
  | sweepPools _ | decoderCallback =>
    exact ⟨fun _ _ found => found, fun _ _ found => found⟩
  | @request host request response _ =>
    refine ⟨fun _ _ found => found, ?_⟩
    exact (VtRealBackend.dispatch_effect host request response
      before.backend process.surfaces).items
  | buildPool _ =>
    refine ⟨fun _ _ found => found, ?_⟩
    intro key output found
    rwa [VtRealBackend.buildPool_outputState] at found
  | releaseSession _ _ =>
    refine ⟨fun _ _ found => found, ?_⟩
    exact fun _ _ found => FiniteMap.lookup_of_retain found
  | encoderCallback => exact absurd rfl (notCallback _ _ _)
  | callbackStep _ => exact absurd rfl (notStep _ _)
  | callbackFails =>
    refine ⟨?_, fun _ _ found => found⟩
    exact fun _ _ found => FiniteMap.lookup_of_erase found

/-- The callbacks and outputs of a connection after an event that hands no
lease on. -/
theorem carries_of_step {event : WorkerEvent} (notCallback : ∀ key thread sample,
      event ≠ .encoderCallback key thread sample)
    (notStep : ∀ target thread, event ≠ .callbackStep target thread)
    (carries : (process.step event).Carries id carrier lease)
    (notFlight : ∀ key, carrier ≠ .flight key) :
    process.Carries id carrier lease := by
  cases carrier with
  | flight key => exact absurd rfl (notFlight key)
  | callback thread =>
    obtain ⟨after, producer, isOpen, running, early, same⟩ := carries
    rcases process.step_connection event id after isOpen with
      ⟨before, found, move⟩ | ⟨_, _, rfl⟩
    · exact ⟨before, producer, found,
        (move.fewer notCallback notStep).1 thread producer running, early,
        same⟩
    · cases running
  | output key =>
    obtain ⟨after, output, isOpen, queued, same⟩ := carries
    rcases process.step_connection event id after isOpen with
      ⟨before, found, move⟩ | ⟨_, _, rfl⟩
    · exact ⟨before, output, found, (move.fewer notCallback notStep).2 key output queued, same⟩
    · cases queued

/-! ## The events that hand a lease on -/

section HandOver

variable {next : WorkerProcess} {target : Nat} {after : Connection}

theorem carries_elsewhere {carrier : Carrier} {lease : Lease}
    (carries : next.Carries id carrier lease)
    (same : next.connections.lookup id = process.connections.lookup id)
    (flights : ∀ key flight, next.inFlight.lookup key = some flight →
      process.inFlight.lookup key = some flight) :
    process.Carries id carrier lease := by
  cases carrier with
  | flight key =>
    obtain ⟨flight, flying, rest⟩ := carries
    exact ⟨flight, flights key flight flying, rest⟩
  | callback thread =>
    obtain ⟨connection, producer, found, rest⟩ := carries
    exact ⟨connection, producer, same ▸ found, rest⟩
  | output key =>
    obtain ⟨connection, output, found, rest⟩ := carries
    exact ⟨connection, output, same ▸ found, rest⟩

theorem carries_here (connections : next.connections = process.connections.insert target after)
    (carrier : Carrier) (lease : Lease) :
    next.Carries target carrier lease ↔
      match carrier with
      | .flight key => ∃ flight, next.inFlight.lookup key = some flight ∧
          flight.connection = target ∧ flight.frame.frame.lease = lease
      | .callback thread => ∃ producer,
          after.callbacks.lookup thread = some producer ∧
            producer.mayAbandon = true ∧ producer.item.lease = lease
      | .output key => ∃ output,
          after.backend.outputState.items.lookup key = some output ∧ output.lease = lease := by
  have here : next.connections.lookup target = some after := by
    rw [connections, FiniteMap.lookup_insert_eq, if_pos rfl]
  cases carrier with
  | flight key => exact Iff.rfl
  | callback thread | output key => simp [Carries, here]

end HandOver

variable {thread : Nat}

/-- The callback takes the lease over from the frame. -/
theorem handsOn_landing {key : Nat} {flight : FrameInFlight} {output : VtRealOutput}
    (flying : process.inFlight.lookup key = some flight)
    (found : process.connections.lookup flight.connection = some connection)
    (same : output.lease = flight.frame.frame.lease)
    (inFlight : next.inFlight = process.inFlight.erase key)
    (connections : next.connections = process.connections.insert flight.connection
        { connection with
          callbacks := connection.callbacks.insert thread
            { item := output, stage := .started } }) :
    process.HandsOn next flight.connection (.flight key) (.callback thread) := by
  have here := carries_here connections
  refine ⟨?_, ?_, ?_⟩
  · rintro lease ⟨still, flies, _⟩
    rw [inFlight, FiniteMap.lookup_erase_eq, if_pos rfl] at flies
    cases flies
  · intro lease carries
    obtain ⟨producer, running, _, rfl⟩ := (here _ _).mp carries
    dsimp only at running
    rw [FiniteMap.lookup_insert_eq, if_pos rfl] at running
    cases running
    exact ⟨flight, flying, rfl, same.symm⟩
  · intro carrier lease other carries
    cases carrier with
    | flight otherKey =>
      obtain ⟨still, flies, rest⟩ := carries
      rw [inFlight] at flies
      exact ⟨still, FiniteMap.lookup_of_erase flies, rest⟩
    | callback running =>
      obtain ⟨producer, runs, early, rfl⟩ := (here _ _).mp carries
      dsimp only at runs
      rw [FiniteMap.lookup_insert_eq, if_neg ?_] at runs
      · exact ⟨connection, producer, found, runs, early, rfl⟩
      · rintro rfl
        exact other rfl
    | output otherKey =>
      obtain ⟨stored, queued, rfl⟩ := (here _ _).mp carries
      exact ⟨connection, stored, found, queued, rfl⟩

theorem encoderCallback_once (once : process.CarriedOnce) (key thread : Nat)
    (sample : EncodedSample) :
    (process.encoderCallback key thread sample).CarriedOnce := by
  have landed : ∀ other flight, (process.inFlight.erase key).lookup other = some flight →
      process.inFlight.lookup other = some flight := by
    exact fun _ _ flying => FiniteMap.lookup_of_erase flying
  unfold encoderCallback
  split
  · exact once
  next flight flying =>
    dsimp only
    split
    next connection output found made =>
      split
      · exact once
      · intro id
        by_cases mine : id = flight.connection
        · rw [mine]
          exact (handsOn_landing flying found (compressionOutput_lease made) rfl rfl).once (once _)
        · apply (once id).fewer
          intro carrier lease carries
          exact carries_elsewhere carries (by simp [setConnection, mine]) landed
    · intro id
      apply (once id).fewer
      intro carrier lease carries
      cases carrier with
      | flight other =>
        obtain ⟨flight, flying, rest⟩ := carries
        exact ⟨flight, landed other flight flying, rest⟩
      | callback _ => exact carries
      | output _ => exact carries

/-- The output takes the lease over from the callback. -/
theorem handsOn_storing (ticket : Nat) {producer : TicketQueue.Producer VtRealOutput}
    (found : process.connections.lookup target = some connection)
    (running : connection.callbacks.lookup thread = some producer)
    (early : producer.mayAbandon = true)
    (inFlight : next.inFlight = process.inFlight)
    (connections : next.connections = process.connections.insert target
      { connection with
        backend :=
          { connection.backend with
            outputState := connection.backend.outputState.store ticket producer.item }
        callbacks := connection.callbacks.insert thread
          { producer with stage := .stored ticket } }) :
    process.HandsOn next target (.callback thread) (.output ticket) := by
  have here := carries_here connections
  refine ⟨?_, ?_, ?_⟩
  · intro lease carries
    obtain ⟨later, runs, stillEarly, _⟩ := (here _ _).mp carries
    dsimp only at runs
    rw [FiniteMap.lookup_insert_eq, if_pos rfl] at runs
    cases runs
    cases stillEarly
  · intro lease carries
    obtain ⟨output, queued, rfl⟩ := (here _ _).mp carries
    dsimp only [TicketQueue.store] at queued
    rw [FiniteMap.lookup_insert_eq, if_pos rfl] at queued
    cases queued
    exact ⟨connection, producer, found, running, early, rfl⟩
  · intro carrier lease other carries
    cases carrier with
    | flight key =>
      obtain ⟨flight, flies, rest⟩ := carries
      exact ⟨flight, inFlight ▸ flies, rest⟩
    | callback otherThread =>
      obtain ⟨later, runs, stillEarly, rfl⟩ := (here _ _).mp carries
      dsimp only at runs
      rw [FiniteMap.lookup_insert_eq] at runs
      split at runs
      · cases runs
        cases stillEarly
      · exact ⟨connection, later, found, runs, stillEarly, rfl⟩
    | output key =>
      obtain ⟨output, queued, rfl⟩ := (here _ _).mp carries
      dsimp only [TicketQueue.store] at queued
      rw [FiniteMap.lookup_insert_eq, if_neg ?_] at queued
      · exact ⟨connection, output, found, queued, rfl⟩
      · rintro rfl
        exact other rfl

theorem callbackStep_once (once : process.CarriedOnce)
    (found : process.connections.lookup target = some connection) :
    (process.callbackStep target thread connection).CarriedOnce := by
  unfold callbackStep
  split
  · exact once
  next producer running =>
    intro id
    by_cases mine : id = target
    · subst mine
      cases stage : producer.stage with
      | started =>
        simp only [TicketQueue.advance, stage]
        apply (once id).fewer
        intro carrier lease carries
        have carries := (carries_here rfl carrier lease).mp carries
        cases carrier with
        | flight key => exact carries
        | callback other =>
          obtain ⟨later, runs, early, rfl⟩ := carries
          dsimp only at runs
          rw [FiniteMap.lookup_insert_eq] at runs
          split at runs
          next same =>
            cases runs
            rw [same]
            exact ⟨connection, producer, found, running,
              by simp [TicketQueue.Producer.mayAbandon, stage], rfl⟩
          · exact ⟨connection, later, found, runs, early, rfl⟩
        | output key =>
          obtain ⟨output, queued, rfl⟩ := carries
          exact ⟨connection, output, found, queued, rfl⟩
      | ticketed ticket =>
        simp only [TicketQueue.advance, stage]
        have early : producer.mayAbandon = true := by
          simp [TicketQueue.Producer.mayAbandon, stage]
        refine (handsOn_storing ticket found running early ?_ ?_).once (once id)
        · rfl
        · rfl
      | stored ticket =>
        simp only [TicketQueue.advance, stage]
        apply (once id).fewer
        intro carrier lease carries
        have carries := (carries_here rfl carrier lease).mp carries
        cases carrier with
        | flight key => exact carries
        | callback other =>
          obtain ⟨later, runs, early, rfl⟩ := carries
          dsimp only at runs
          rw [FiniteMap.lookup_erase_eq] at runs
          split at runs
          · cases runs
          · exact ⟨connection, later, found, runs, early, rfl⟩
        | output key =>
          obtain ⟨output, queued, rfl⟩ := carries
          exact ⟨connection, output, found, queued, rfl⟩
    · apply (once id).fewer
      intro carrier lease carries
      exact carries_elsewhere carries (by simp [setConnection, mine]) fun _ _ flying => flying

/-- After a request, a lease is carried as before, or by a frame the request
launched under it. -/
theorem request_carries {host : HostCalls} {request : Request} {response : List UInt8}
    (serves : process.serving id target = some connection)
    (carries : (process.step (.request target host request response)).Carries id carrier lease) :
    process.Carries id carrier lease ∨
      ∃ key frame, carrier = .flight key ∧ process.nextFrame ≤ key ∧
        (connection.backend.dispatch host request response
          process.surfaces).encoded[key - process.nextFrame]? = some frame ∧
        frame.frame.lease = lease := by
  cases carrier with
  | flight key =>
    obtain ⟨rfl, found, idle⟩ := serving_eq_some_iff.mp serves
    obtain ⟨flight, flying, mine, rfl⟩ := carries
    dsimp only [step, whenIdle, onConnection] at flying
    rw [found] at flying
    dsimp only at flying
    rw [if_pos idle] at flying
    rcases lookup_launch_cases flying with earlier | ⟨above, launched⟩
    · exact Or.inl ⟨flight, earlier, mine, rfl⟩
    · exact Or.inr ⟨key, flight.frame, rfl, above, launched, rfl⟩
  | callback thread | output key =>
    exact Or.inl (carries_of_step (by simp) (by simp) carries (by simp))

/-- The frames a request launches were encoded under leases that nothing
carried. -/
theorem request_once (once : process.CarriedOnce) (kept : process.Kept)
    (target : Nat) (host : HostCalls) (request : Request)
    (response : List UInt8) :
    (process.step (.request target host request response)).CarriedOnce := by
  intro id
  cases serves : process.serving id target with
  | none =>
    apply (once id).fewer
    intro carrier lease carries
    cases carrier with
    | flight key =>
      obtain ⟨flight, flying, mine, rest⟩ := carries
      rcases (process.step_flight _).comes key flight flying with earlier |
        ⟨_, _, _, connection, same, found, idle, _, _⟩
      · exact ⟨flight, earlier, mine, rest⟩
      · cases same
        subst mine
        have served := serving_eq_some_iff.mpr ⟨rfl, found, idle⟩
        rw [serves] at served
        cases served
    | callback thread | output key =>
      exact carries_of_step (by simp) (by simp) carries (by simp)
  | some connection =>
    obtain ⟨-, found, -⟩ := serving_eq_some_iff.mp serves
    obtain ⟨fresh, distinct⟩ := (VtRealBackend.dispatch_effect host request
      response connection.backend process.surfaces).frames_fresh
      (kept.connections id connection found).backend
    have apart {carrier : Carrier} {frame : EncoderFrame} {index : Nat}
        (carries : process.Carries id carrier frame.frame.lease)
        (launched : (connection.backend.dispatch host request response
          process.surfaces).encoded[index]? = some frame) : False :=
      (kept.sealed_of_carries found carries).2 (fresh frame (List.mem_of_getElem? launched))
    intro first second lease carries carries_too
    rcases request_carries serves carries with
      old | ⟨key, frame, rfl, above, launched, rfl⟩
    · rcases request_carries serves carries_too with
        old_too | ⟨_, _, rfl, _, launched, rfl⟩
      · exact once id first second lease old old_too
      · exact absurd launched fun at_key => apart old at_key
    · rcases request_carries serves carries_too with
        old_too | ⟨keyToo, frameToo, rfl, above_too, launched_too, same⟩
      · exact absurd launched fun at_key => apart old_too at_key
      · have place := place_unique distinct launched launched_too same.symm
        obtain rfl : key = keyToo := by omega
        rfl

theorem CarriedOnce.step (once : process.CarriedOnce) (kept : process.Kept)
    (event : WorkerEvent) : (process.step event).CarriedOnce := by
  have quiet (notRequest : ∀ target host request response,
        event ≠ .request target host request response)
      (notCallback : ∀ key thread sample, event ≠ .encoderCallback key thread sample)
      (notStep : ∀ target thread, event ≠ .callbackStep target thread) :
      (process.step event).CarriedOnce := by
    intro id
    apply (once id).fewer
    intro carrier lease carries
    cases carrier with
    | flight key =>
      obtain ⟨flight, flying, rest⟩ := carries
      rcases (process.step_flight event).comes key flight flying with
        earlier | ⟨host, request, response, _, same, _⟩
      · exact ⟨flight, earlier, rest⟩
      · exact absurd same (notRequest _ host request response)
    | callback thread | output key =>
      exact carries_of_step notCallback notStep carries (by simp)
  cases event with
  | request target host request response =>
    exact request_once once kept target host request response
  | encoderCallback key thread sample => exact encoderCallback_once once key thread sample
  | callbackStep target thread =>
    apply onConnection_cases once
    exact fun connection found => callbackStep_once once found
  | _ => exact quiet (by simp) (by simp) (by simp)

theorem started_once (surfaces : Surfaces) : (started surfaces).CarriedOnce := by
  intro id first second lease carries
  cases first with
  | flight key =>
    obtain ⟨_, flying, _⟩ := carries
    cases flying
  | callback thread | output key =>
    obtain ⟨_, _, found, _⟩ := carries
    cases found

end WorkerProcess

end VtFerry
