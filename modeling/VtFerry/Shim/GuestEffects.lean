import VtFerry.Shim.Delivery

/-!
# What the steps of a delivery change

Reference counting, finalizers and whatever a client does with its objects
leave the session and the history alone.  A dequeue notes what it took; a
delivery takes the oldest pending frame and notes the callback, or fails and
changes neither.
-/

namespace VtFerry

namespace Shim

namespace Guest

variable {State : Type} {send : Send State} {config : Config}
variable {before middle after guest : Guest State}

/-- The session and the history are the same. -/
structure Keeps (before after : Guest State) : Prop where
  session : after.session = before.session
  history : after.history = before.history

theorem Keeps.refl (guest : Guest State) : guest.Keeps guest :=
  ⟨rfl, rfl⟩

theorem Keeps.trans (first : before.Keeps middle)
    (second : middle.Keeps after) : before.Keeps after where
  session := second.session.trans first.session
  history := second.history.trans first.history

/-! ## Reference counts and finalizers -/

theorem keeps_releasePool (send : Send State) (pool : Nat)
    (guest : Guest State) : guest.Keeps (guest.releasePool send pool) := by
  unfold releasePool finalizePool
  split
  · exact .refl guest
  · dsimp only
    split
    · split
      · exact ⟨rfl, rfl⟩
      · exact ⟨rfl, rfl⟩
    · exact ⟨rfl, rfl⟩

theorem keeps_recyclePixelBuffer (send : Send State) (buffer : Nat) (guest : Guest State) :
    guest.Keeps (guest.recyclePixelBuffer send buffer) := by
  unfold recyclePixelBuffer
  split
  · exact .refl guest
  split
  · exact .refl guest
  split
  · exact ⟨rfl, rfl⟩
  · exact ⟨rfl, rfl⟩

theorem keeps_releasePixelBuffer (send : Send State) (buffer : Nat) (guest : Guest State) :
    guest.Keeps (guest.releasePixelBuffer send buffer) := by
  unfold releasePixelBuffer
  split
  · exact .refl guest
  split
  · have recycled := keeps_recyclePixelBuffer send buffer guest
    refine Keeps.trans ?_ (keeps_releasePool send _ _)
    exact ⟨recycled.session, recycled.history⟩
  · exact ⟨rfl, rfl⟩

theorem keeps_releaseOutput (send : Send State) (config : Config)
    (outputId : UInt64) (guest : Guest State) :
    guest.Keeps (guest.releaseOutput send config outputId) := by
  unfold releaseOutput
  dsimp only
  split
  · split
    · exact ⟨rfl, rfl⟩
    · exact ⟨rfl, rfl⟩
  · exact ⟨rfl, rfl⟩

theorem keeps_finalizeSource (send : Send State) (source : Option Nat) (guest : Guest State) :
    guest.Keeps (guest.finalizeSource send source) := by
  unfold finalizeSource
  split
  · exact .refl guest
  next buffer =>
    have released := keeps_releasePixelBuffer send buffer
      (guest.setImageState buffer .guestWritable)
    exact ⟨released.session, released.history⟩

theorem keeps_releaseSample (send : Send State) (config : Config)
    (sample : Nat) (guest : Guest State) :
    guest.Keeps (guest.releaseSample send config sample) := by
  unfold releaseSample
  split
  · exact .refl guest
  split
  · refine Keeps.trans ?_ (keeps_finalizeSource send _ _)
    split
    · refine Keeps.trans ?_ (keeps_releaseOutput send config _ _)
      exact ⟨rfl, rfl⟩
    · exact ⟨rfl, rfl⟩
  · exact ⟨rfl, rfl⟩

/-! ## The client -/

theorem keeps_clientCall (send : Send State) (config : Config)
    (guest : Guest State) (call : ClientCall) :
    guest.Keeps (guest.clientCall send config call) := by
  cases call with
  | createPool width height pixelFormat =>
    unfold clientCall createPool
    dsimp only
    split
    · exact ⟨rfl, rfl⟩
    · exact ⟨rfl, rfl⟩
  | retainPool pool | retainPixelBuffer buffer | retainSample sample => exact ⟨rfl, rfl⟩
  | releasePool pool => exact keeps_releasePool send pool guest
  | createPixelBuffer pool =>
    unfold clientCall createPixelBuffer
    dsimp only
    split
    · exact .refl guest
    split
    · exact ⟨rfl, rfl⟩
    · exact ⟨rfl, rfl⟩
  | releasePixelBuffer buffer => exact keeps_releasePixelBuffer send buffer guest
  | releaseSample sample => exact keeps_releaseSample send config sample guest

theorem keeps_clientCalls (send : Send State) (config : Config)
    (calls : List ClientCall) (guest : Guest State) :
    guest.Keeps (calls.foldl (clientCall send config) guest) := by
  induction calls generalizing guest with
  | nil => exact .refl guest
  | cons call calls induction =>
    exact (keeps_clientCall send config guest call).trans (induction _)

theorem keeps_react (send : Send State) (config : Config)
    (guest : Guest State) : guest.Keeps (guest.react send config) := by
  unfold react
  split
  · exact .refl guest
  next calls later _ =>
    have called := keeps_clientCalls send config calls
      { guest with reactions := later }
    exact ⟨called.session, called.history⟩

/-! ## Dequeues -/

/-- A dequeue changes nothing of the session and notes what it took. -/
structure Dequeues (before after : Guest State)
    (result : Except Int32 (List DequeuedOutput)) : Prop where
  session : after.session = before.session
  history : after.history = { before.history with
    taken := before.history.taken ++
      match result with
      | .ok outputs => outputs.map (·.outputId)
      | .error _ => [] }

theorem dequeues_ready (send : Send State) (config : Config) (guest : Guest State) :
    guest.Dequeues (guest.dequeueReadyOutputs send config).1
      (guest.dequeueReadyOutputs send config).2 := by
  unfold dequeueReadyOutputs
  dsimp only
  split
  · split
    · exact ⟨rfl, rfl⟩
    · split
      · exact ⟨rfl, rfl⟩
      · exact ⟨rfl, rfl⟩
  · exact ⟨rfl, rfl⟩

/-! ## Deliveries -/

/-- The oldest pending frame goes to the callback with the output. -/
structure Delivers (before after : Guest State) (outputId : UInt64) :
    Prop where
  session : after.session = { before.session with
    pending := before.session.pending.pop.2 }
  history : ∃ sample, after.history = { before.history with
    fired := before.history.fired ++ [⟨before.session.pending.pop.1, outputId, sample⟩] }

theorem keeps_makeSample (send : Send State) (output : DequeuedOutput)
    (bytes : List UInt8) (source : Option Nat) (guest : Guest State) :
    guest.Keeps (guest.makeSample send output bytes source) := by
  unfold makeSample
  dsimp only
  split
  · exact ⟨rfl, rfl⟩
  next buffer =>
    refine Keeps.trans ?_ (keeps_releasePixelBuffer send buffer _)
    exact ⟨rfl, rfl⟩

theorem keeps_returnSource (send : Send State) (source : Option Nat) (guest : Guest State) :
    guest.Keeps (guest.returnSource send source) := by
  unfold returnSource
  split
  · exact .refl guest
  next buffer =>
    have recycled := keeps_recyclePixelBuffer send buffer guest
    exact ⟨recycled.session, recycled.history⟩

/-- A delivery pairs the output with the oldest pending frame, or its read
fails and it touches nothing else. -/
theorem deliverOneOutput_cases (send : Send State) (config : Config)
    (output : DequeuedOutput) (guest : Guest State) :
    ((guest.deliverOneOutput send config output).2 = .ok () ∧
      guest.Delivers (guest.deliverOneOutput send config output).1 output.outputId) ∨
    (∃ caller, guest.deliverOneOutput send config output =
      ({ guest with caller := caller }, .error (-12902))) := by
  unfold deliverOneOutput
  split
  next caller status _ => exact .inr ⟨caller, rfl⟩
  next caller bytes _ =>
    refine .inl ⟨rfl, ?_⟩
    dsimp only
    generalize popped_eq : { guest with caller := caller }.popPending = popped
    have making := keeps_makeSample send output bytes (popped.1.map Prod.fst) popped.2
    generalize popped.2.makeSample send output bytes _ = made at making ⊢
    have ending := ((keeps_react send config { made with
      history :=
        { made.history with
          fired := made.history.fired ++
            [⟨popped.1, output.outputId, popped.2.nextHandle⟩] } }).trans
      (keeps_returnSource send (popped.1.map Prod.fst) _)).trans
        (keeps_releaseSample send config popped.2.nextHandle _)
    subst popped_eq
    refine ⟨ending.session.trans making.session, guest.nextHandle, ?_⟩
    refine ending.history.trans ?_
    dsimp only
    rw [making.history]
    rfl

theorem deliverOneOutput_status (send : Send State) (config : Config)
    (output : DequeuedOutput) (guest : Guest State) :
    (guest.deliverOneOutput send config output).2 = .ok () ∨
      (guest.deliverOneOutput send config output).2 = .error (-12902) := by
  rcases deliverOneOutput_cases send config output guest with
    ⟨ok, _⟩ | ⟨_, failed⟩
  · exact .inl ok
  · rw [failed]
    exact .inr rfl

/-! ## The loops -/

/-- The note that an output and the rest of its batch were given up. -/
def drop (outputs : List DequeuedOutput) (guest : Guest State) :
    Guest State :=
  { guest with
    history :=
      { guest.history with
        dropped := guest.history.dropped ++ outputs.map (·.outputId) } }

/-- An invariant of the guest between the steps of the dequeue loop. -/
structure LoopInvariant (send : Send State) (config : Config)
    (invariant : Guest State → Prop) : Prop where
  dequeue : ∀ guest, invariant guest → invariant (guest.dequeueReadyOutputs send config).1
  deliver : ∀ guest output, invariant guest →
    (guest.deliverOneOutput send config output).2 = .ok () →
    invariant (guest.deliverOneOutput send config output).1
  drop : ∀ guest output rest, invariant guest →
    (guest.deliverOneOutput send config output).2 = .error (-12902) →
    invariant ((guest.deliverOneOutput send config output).1.drop (output :: rest))

variable {invariant : Guest State → Prop}

theorem LoopInvariant.deliverBatch (loop : LoopInvariant send config invariant)
    (outputs : List DequeuedOutput) (guest : Guest State)
    (holds : invariant guest) :
    invariant (guest.deliverBatch send config outputs).1 := by
  induction outputs generalizing guest with
  | nil => exact holds
  | cons output rest induction =>
    have delivered := loop.deliver guest output holds
    have dropped := loop.drop guest output rest holds
    unfold Guest.deliverBatch
    rcases deliverOneOutput_status send config output guest with
      ok | failed
    · generalize guest.deliverOneOutput send config output = result at *
      obtain ⟨reached, outcome⟩ := result
      subst ok
      exact induction reached (delivered rfl)
    · generalize guest.deliverOneOutput send config output = result at *
      obtain ⟨reached, outcome⟩ := result
      subst failed
      exact dropped rfl

theorem LoopInvariant.deliverLoop (loop : LoopInvariant send config invariant) (fuel : Nat)
    (polls : Option Nat) (delivered : Nat) (guest : Guest State)
    (holds : invariant guest) :
    invariant (guest.deliverLoop send config fuel polls delivered).1 := by
  induction fuel generalizing polls delivered guest with
  | zero => exact holds
  | succ fuel induction =>
    have dequeued := loop.dequeue guest holds
    unfold Guest.deliverLoop
    split
    next reached outcome =>
      rw [outcome] at dequeued
      exact dequeued
    next reached output rest outcome =>
      rw [outcome] at dequeued
      have batch := loop.deliverBatch (output :: rest) reached dequeued
      split
      next failed status failure =>
        rw [failure] at batch
        exact batch
      next done success =>
        rw [success] at batch
        exact induction _ _ done batch
    next reached status outcome =>
      rw [outcome] at dequeued
      split
      · exact dequeued
      · exact dequeued
      · exact induction _ _ reached dequeued

theorem LoopInvariant.deliverSessionOutputs
    (loop : LoopInvariant send config invariant) (fuel : Nat)
    (polls : Option Nat) (guest : Guest State)
    (holds : invariant guest) :
    invariant (guest.deliverSessionOutputs send config fuel polls).1 := by
  unfold Guest.deliverSessionOutputs
  split
  · exact loop.deliverLoop fuel polls 0 guest holds
  · exact holds

/-! ## The calls -/

/-- An invariant of the dequeue loop that also holds across the other steps
of the calls. -/
structure CallInvariant (send : Send State) (config : Config)
    (invariant : Guest State → Prop) : Prop
    extends LoopInvariant send config invariant where
  client : ∀ guest call, invariant guest → invariant (guest.clientCall send config call)
  pool : ∀ guest, invariant guest → invariant (guest.getPixelBufferPool send config)
  drain : ∀ guest, invariant guest →
    invariant { guest with
      caller := (Shim.drain send guest.session.proxyId guest.caller).1 }
  encode : ∀ guest memory buffer refcon object presentation duration,
    guest.buffers.lookup buffer = some object → invariant guest →
    invariant (guest.afterEncode buffer refcon object
      (compressionSessionEncodeFrame send memory guest.session.core
        object.image presentation duration guest.caller))

theorem CallInvariant.encodeFrame (calls : CallInvariant send config invariant) (memory : Bool)
    (fuel buffer refcon : Nat) (presentation duration : Time)
    (guest : Guest State) (holds : invariant guest) :
    invariant (guest.encodeFrame send config memory fuel buffer refcon
      presentation duration).1 := by
  unfold Guest.encodeFrame
  split
  · exact holds
  next object found =>
    have encoded := calls.encode guest memory buffer refcon object presentation duration found holds
    have collected := calls.deliverSessionOutputs fuel none _ encoded
    dsimp only
    split
    · exact encoded
    split
    · split
      next reached outcome =>
        rw [outcome] at collected
        exact collected
      next reached count outcome =>
        rw [outcome] at collected
        exact collected
      next reached status outcome =>
        rw [outcome] at collected
        exact collected
    · exact encoded

theorem CallInvariant.completeFrames
    (calls : CallInvariant send config invariant) (fuel polls : Nat)
    (guest : Guest State) (holds : invariant guest) :
    invariant (guest.completeFrames send config fuel polls).1 := by
  have drained := calls.drain guest holds
  unfold Guest.completeFrames
  split
  · exact holds
  split
  next caller status outcome =>
    rw [outcome] at drained
    exact drained
  next caller reply outcome =>
    rw [outcome] at drained
    have collected := calls.deliverSessionOutputs fuel (some polls) _ drained
    dsimp only
    split
    · exact drained
    split
    next reached outcome =>
      rw [outcome] at collected
      exact collected
    next reached count outcome =>
      rw [outcome] at collected
      exact collected
    next reached status outcome =>
      rw [outcome] at collected
      exact collected

theorem CallInvariant.step (calls : CallInvariant send config invariant)
    (guest : Guest State) (call : GuestCall) (holds : invariant guest) :
    invariant (guest.step send config call) := by
  cases call with
  | client call => exact calls.client guest call holds
  | getPixelBufferPool => exact calls.pool guest holds
  | encodeFrame memory fuel buffer refcon presentation duration =>
    exact calls.encodeFrame memory fuel buffer refcon presentation duration guest holds
  | completeFrames fuel polls => exact calls.completeFrames fuel polls guest holds

theorem CallInvariant.run (calls : CallInvariant send config invariant)
    (guest : Guest State) (events : List GuestCall)
    (holds : invariant guest) :
    invariant (Execution.run (Guest.step send config) guest events) :=
  Execution.invariant_of_step calls.step holds events

/-! ## Entry points -/

/-- A call of `getPixelBufferPool` changes the pool of the session only. -/
structure Pools (before after : Guest State) : Prop where
  session : ∃ pool, after.session =
    { before.session with pixelBufferPool := pool }
  history : after.history = before.history

theorem pools_getPixelBufferPool (send : Send State) (config : Config) (guest : Guest State) :
    guest.Pools (guest.getPixelBufferPool send config) := by
  unfold getPixelBufferPool
  split
  · exact ⟨⟨_, rfl⟩, rfl⟩
  split
  · exact ⟨⟨_, rfl⟩, rfl⟩
  · exact ⟨⟨_, rfl⟩, rfl⟩

/-- An encode queues its frame or not; the history notes which. -/
inductive Encodes (before after : Guest State) (frame : Nat × Nat) : Prop
  | refused (prepared : Bool)
      (session : after.session = { before.session with prepared := prepared })
      (history : after.history = before.history)
  | queued (prepared : Bool)
      (session : after.session = { before.session with
        prepared := prepared
        pending := before.session.pending.push frame })
      (history : after.history = { before.history with
        pushed := before.history.pushed ++ [frame] })

theorem encodes_afterEncode (buffer refcon : Nat)
    (object : PixelBufferObject) (call : EncodeCall State)
    (guest : Guest State) :
    guest.Encodes (guest.afterEncode buffer refcon object call) (buffer, refcon) := by
  by_cases queued : call.session.pendingCount ≠ guest.session.pending.count
  · apply Encodes.queued call.session.prepared
    · simp only [afterEncode, if_pos queued]
    · simp only [afterEncode, if_pos queued]
  · apply Encodes.refused call.session.prepared
    · simp only [afterEncode, if_neg queued]
    · simp only [afterEncode, if_neg queued]

end Guest

end Shim

end VtFerry
