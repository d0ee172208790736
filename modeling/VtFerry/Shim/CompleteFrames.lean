import VtFerry.Shim.GuestEffects

/-!
# A completed session has delivered every frame

Frames given to the callback, followed by the frames still pending, are the
frames that were pushed: every call keeps this, also one that fails half way.
`VTCompressionSessionCompleteFrames` returns zero only when a dequeue timed
out with nothing pending, so then every pushed frame has been delivered, in
the order of the pushes.  Nothing is assumed about the worker except that a
batch it returns is not empty.
-/

namespace VtFerry

open List

namespace Shim

namespace Guest

variable {State : Type} {send : Send State} {config : Config}
variable {before after guest : Guest State}

/-- The frames for which the callback was invoked. -/
def deliveredFrames (guest : Guest State) : List (Nat × Nat) :=
  guest.history.fired.filterMap (·.frame)

/-- Delivered and pending frames are the pushed ones, in order. -/
def Conserves (guest : Guest State) : Prop :=
  guest.deliveredFrames ++ guest.session.pending.toList = guest.history.pushed

theorem Conserves.keep (conserves : before.Conserves)
    (keeps : before.Keeps after) : after.Conserves := by
  unfold Conserves deliveredFrames at *
  rw [keeps.session, keeps.history]
  exact conserves

theorem Conserves.dequeue {result : Except Int32 (List DequeuedOutput)}
    (conserves : before.Conserves)
    (dequeues : before.Dequeues after result) : after.Conserves := by
  unfold Conserves deliveredFrames at *
  rw [dequeues.session, dequeues.history]
  exact conserves

theorem Conserves.deliver {outputId : UInt64} (conserves : before.Conserves)
    (delivers : before.Delivers after outputId) : after.Conserves := by
  obtain ⟨sample, history⟩ := delivers.history
  unfold Conserves deliveredFrames at *
  rw [delivers.session, history, filterMap_append, ← conserves,
    before.session.pending.toList_pop, append_assoc]
  congr 2

/-- The invariant of the calls on a session with a callback. -/
def Collecting (guest : Guest State) : Prop :=
  guest.session.outputCallback = true ∧ guest.Conserves

theorem Collecting.keep (holds : before.Collecting)
    (keeps : before.Keeps after) : after.Collecting := by
  refine ⟨?_, holds.2.keep keeps⟩
  rw [keeps.session]
  exact holds.1

theorem Collecting.encode {frame : Nat × Nat} (holds : before.Collecting)
    (encodes : before.Encodes after frame) : after.Collecting := by
  obtain ⟨callback, conserves⟩ := holds
  unfold Collecting Conserves deliveredFrames at *
  cases encodes with
  | refused prepared session history =>
    rw [session, history]
    exact ⟨callback, conserves⟩
  | queued prepared session history =>
    rw [session, history]
    refine ⟨callback, ?_⟩
    simp only
    rw [CellQueue.toList_push, ← append_assoc, conserves]

theorem collecting_calls (send : Send State) (config : Config) :
    CallInvariant send config Collecting where
  dequeue := by
    intro guest holds
    have dequeues := dequeues_ready send config guest
    refine ⟨?_, holds.2.dequeue dequeues⟩
    rw [dequeues.session]
    exact holds.1
  deliver := by
    intro guest output holds ok
    rcases deliverOneOutput_cases send config output guest with
      ⟨_, delivered⟩ | ⟨_, failed⟩
    · refine ⟨?_, holds.2.deliver delivered⟩
      rw [delivered.session]
      exact holds.1
    · rw [failed] at ok
      cases ok
  drop := by
    intro guest output rest holds failed
    rcases deliverOneOutput_cases send config output guest with
      ⟨ok, _⟩ | ⟨caller, result⟩
    · rw [ok] at failed
      cases failed
    · rw [result]
      exact holds
  client := by
    intro guest call holds
    exact holds.keep (keeps_clientCall send config guest call)
  pool := by
    intro guest holds
    obtain ⟨⟨pool, session⟩, history⟩ :=
      pools_getPixelBufferPool send config guest
    unfold Collecting Conserves deliveredFrames at *
    rw [session, history]
    exact holds
  drain := by
    intro guest holds
    exact holds.keep ⟨rfl, rfl⟩
  encode := by
    intro guest memory buffer refcon object presentation duration found holds
    exact holds.encode (encodes_afterEncode buffer refcon object _ guest)

/-- A worker that never answers a batch dequeue with success and no output.
The reply to a single dequeue always is one output. -/
def NeverEmpty (send : Send State) : Prop :=
  ∀ state request bytes, request.opcode = Opcode.dequeueOutputBatch.code →
    (send state request).2 = .ok bytes →
    outputBatchReplySize ≤ bytes.length → outputCount bytes ≠ 0

theorem batchedOutputs_ne_nil {bytes : List UInt8}
    (count : outputCount bytes ≠ 0) : batchedOutputs bytes ≠ [] := by
  intro none
  have length := congrArg length none
  have positive : (outputCount bytes).toNat ≠ 0 := by
    intro zero
    exact count (UInt32.toNat_inj.mp zero)
  rw [batchedOutputs, length_map, length_range, maxOutputBatch, length_nil] at length
  omega

theorem dequeueOutputBatch_ne_nil (never : NeverEmpty send)
    (sessionId : UInt64) (maxOutputs : Nat) (caller : Caller State) :
    (dequeueOutputBatch send sessionId maxOutputs caller).2 ≠ .ok [] := by
  have nonempty := never caller.transport (batchRequest sessionId maxOutputs)
  intro outcome
  simp only [dequeueOutputBatch, sendRequest, sendRequestBytes] at outcome
  cases answer : (send caller.transport (batchRequest sessionId maxOutputs)).2 with
  | error status =>
    rw [answer] at outcome
    cases outcome
  | ok bytes =>
    rw [answer] at outcome
    dsimp only at outcome
    split at outcome
    · cases outcome
    next long =>
      have count := nonempty bytes rfl answer (Nat.not_lt.mp long)
      exact batchedOutputs_ne_nil count (Except.ok.inj outcome)

theorem dequeueReadyOutputs_ne_nil (never : NeverEmpty send)
    (config : Config) (guest : Guest State) :
    (guest.dequeueReadyOutputs send config).2 ≠ .ok [] := by
  have single : ∀ caller, (dequeueOutput send guest.session.proxyId
      caller).2.map (fun output => [output]) ≠ .ok [] := by
    intro caller
    cases (dequeueOutput send guest.session.proxyId caller).2 with
    | error status | ok output =>
      intro equal
      cases equal
  have batch := dequeueOutputBatch_ne_nil never guest.session.proxyId config.batchSize guest.caller
  unfold dequeueReadyOutputs
  dsimp only
  split
  · split
    next caller outputs outcome =>
      rw [outcome] at batch
      exact batch
    · split
      · intro equal
        cases equal
      · exact single _
  · exact single _

theorem deliverBatch_status (send : Send State) (config : Config)
    (outputs : List DequeuedOutput) (status : Int32) (guest : Guest State)
    (outcome : (guest.deliverBatch send config outputs).2 = .error status) :
    status = -12902 := by
  induction outputs generalizing guest with
  | nil => cases outcome
  | cons output rest induction =>
    unfold deliverBatch at outcome
    rcases deliverOneOutput_status send config output guest with
      ok | failed
    · generalize guest.deliverOneOutput send config output = result at *
      obtain ⟨reached, _⟩ := result
      subst ok
      exact induction reached outcome
    · generalize guest.deliverOneOutput send config output = result at *
      obtain ⟨reached, _⟩ := result
      subst failed
      cases outcome
      rfl

theorem handleDequeueStatus_error (polls : Option Nat)
    (status returned : Int32) (guest : Guest State)
    (handled : guest.handleDequeueStatus polls status = .error returned) :
    returned = -12902 := by
  unfold handleDequeueStatus at handled
  split at handled
  · split at handled
    · cases handled
    · split at handled
      · cases handled
      · split at handled
        · cases handled
          rfl
        · cases handled
  · cases handled
    rfl

/-- Whatever goes wrong, the collection fails with one status. -/
theorem deliverLoop_status (send : Send State) (config : Config)
    (fuel : Nat) (polls : Option Nat) (delivered : Nat) (status : Int32)
    (guest : Guest State)
    (outcome : (guest.deliverLoop send config fuel polls delivered).2 =
      some (.error status)) : status = -12902 := by
  induction fuel generalizing polls delivered guest with
  | zero => cases outcome
  | succ fuel induction =>
    unfold deliverLoop at outcome
    split at outcome
    · cases outcome
    next reached output rest _ =>
      have failed := deliverBatch_status send config (output :: rest) status reached
      split at outcome
      next batch =>
        rw [batch] at failed
        cases outcome
        exact failed rfl
      · exact induction _ _ _ outcome
    next reached dequeued _ =>
      have failed := handleDequeueStatus_error polls dequeued status reached
      split at outcome
      next handled =>
        cases outcome
        exact failed handled
      · cases outcome
      · exact induction _ _ reached outcome

theorem deliverLoop_none_pending (never : NeverEmpty send) (config : Config)
    (fuel polls delivered count : Nat)
    (guest : Guest State)
    (outcome : (guest.deliverLoop send config fuel (some polls) delivered).2 = some (.ok count)) :
    (guest.deliverLoop send config fuel (some polls) delivered).1.session.pending.count = 0 := by
  induction fuel generalizing polls delivered guest with
  | zero => cases outcome
  | succ fuel induction =>
    have nonempty := dequeueReadyOutputs_ne_nil never config guest
    unfold deliverLoop at outcome ⊢
    split at outcome
    next reached empty =>
      rw [empty] at nonempty
      exact absurd rfl nonempty
    next reached output rest batch =>
      split at outcome
      · cases outcome
      next done success => exact induction _ _ done outcome
    next reached status failed =>
      cases handled : reached.handleDequeueStatus (some polls) status with
      | error status =>
        rw [handled] at outcome
        cases outcome
      | ok next =>
        rw [handled] at outcome
        unfold handleDequeueStatus at handled
        split at handled
        · dsimp only at handled
          split at handled
          next unused =>
            cases handled
            exact unused
          split at handled
          · cases handled
          · cases handled
            exact induction _ _ reached outcome
        · cases handled

/-- `VTCompressionSessionCompleteFrames` returned zero: nothing is pending. -/
theorem completeFrames_none_pending (never : NeverEmpty send)
    (config : Config) (fuel polls : Nat) (guest : Guest State)
    (callback : guest.session.outputCallback = true)
    (outcome : (guest.completeFrames send config fuel polls).2 = some 0) :
    (guest.completeFrames send config fuel polls).1.session.pending.count =
      0 := by
  unfold completeFrames at outcome ⊢
  split at outcome
  · cases outcome
  next valid =>
    rw [if_neg valid]
    split at outcome
    · cases outcome
    next caller reply drained =>
      have loop := deliverLoop_none_pending never config fuel polls 0
      have statuses := deliverLoop_status send config fuel (some polls) 0
      simp only [deliverSessionOutputs, callback, Bool.not_true,
        Bool.false_eq_true, if_false, if_true] at outcome ⊢
      split at outcome
      · cases outcome
      next reached count collected =>
        have none := loop count { guest with caller := caller } (by rw [collected])
        rw [collected] at none
        exact none
      next reached status collected =>
        have failed := statuses status { guest with caller := caller } (by rw [collected])
        rw [failed] at outcome
        cases outcome

/-- For a session with a callback, after any calls and with any worker that
returns no empty batch: when `VTCompressionSessionCompleteFrames` returns
zero, nothing is pending and the frames given to the callback are the frames
that were pushed, each once and in the order of the pushes. -/
theorem completeFrames_delivers_all (send : Send State) (config : Config)
    (caller : Caller State) (session : SessionObject)
    (reactions : List (List ClientCall)) (calls : List GuestCall)
    (fuel polls : Nat) (never : NeverEmpty send)
    (callback : session.outputCallback = true)
    (returned : ((Execution.run (step send config)
      (opened caller session reactions) calls).completeFrames send config fuel polls).2 = some 0) :
    let completed := ((Execution.run (step send config)
      (opened caller session reactions) calls).completeFrames send config fuel polls).1
    completed.session.pending.toList = [] ∧
      completed.deliveredFrames = completed.history.pushed := by
  intro completed
  have start : (opened caller session reactions).Collecting :=
    ⟨callback, rfl⟩
  have reached := (collecting_calls send config).run _ calls start
  have finished := (collecting_calls send config).completeFrames fuel polls _ reached
  have count := completeFrames_none_pending never config fuel polls _ reached.1 returned
  have none : completed.session.pending.toList = [] := by
    apply eq_nil_of_length_eq_zero
    rw [CellQueue.length_toList]
    exact count
  have conserves : completed.deliveredFrames ++
      completed.session.pending.toList = completed.history.pushed :=
    finished.2
  rw [none, append_nil] at conserves
  exact ⟨none, conserves⟩

/-- A worker that knows no batches and answers its dequeues with the given
statuses, and with timeouts after that. -/
def scriptedWorker (answers : List UInt32) (request : Request) :
    List UInt32 × Except Int32 (List UInt8) :=
  if request.opcode = Opcode.dequeueOutputBatch.code then
    (answers, .error Status.unsupportedOpcode.toInt32)
  else if request.opcode = Opcode.dequeueOutput.code then
    match answers with
    | [] => ([], .error Status.timeout.toInt32)
    | status :: rest =>
      if status = Status.ok then (rest, .ok (replicate DequeuedOutput.size 0))
      else (rest, .error status.toInt32)
  else (answers, .ok (replicate poolReplySize 0))

def smallSession : SessionObject where
  proxyId := 1
  invalidated := false
  prepared := false
  outputCallback := true
  codecType := 0
  width := 0
  height := 0
  pixelFormat := 0
  pixelBufferPool := none
  pending := .empty

def twoFrames : List GuestCall :=
  [.client (.createPool 16 16 0), .client (.createPixelBuffer 0),
    .encodeFrame true 8 1 7 ⟨0, 1⟩ ⟨0, 1⟩, .client (.createPixelBuffer 0),
    .encodeFrame true 8 2 9 ⟨0, 1⟩ ⟨0, 1⟩]

def secondFails : Caller (List UInt32) :=
  ⟨[Status.ok, Status.internalFailure, Status.ok], []⟩

theorem scriptedWorker_neverEmpty : NeverEmpty scriptedWorker := by
  intro answers request bytes batch answered
  unfold scriptedWorker at answered
  rw [if_pos batch] at answered
  cases answered

def completedAfter (calls : List GuestCall) : Guest (List UInt32) × Option Int32 :=
  (Execution.run (step scriptedWorker {}) (opened secondFails smallSession [])
    calls).completeFrames scriptedWorker {} 8 8

/-- A call that fails has delivered the first frame; the next call delivers
the second and succeeds. -/
theorem two_frames_delivered :
    (completedAfter twoFrames).2 = some (-12902) ∧
    (completedAfter twoFrames).1.deliveredFrames = [(1, 7)] ∧
    (completedAfter (twoFrames ++ [.completeFrames 8 8])).2 = some 0 ∧
    (completedAfter (twoFrames ++ [.completeFrames 8 8])).1.history.pushed = [(1, 7), (2, 9)] ∧
    (completedAfter (twoFrames ++ [.completeFrames 8 8])).1.session.pending.toList = [] ∧
    (completedAfter (twoFrames ++ [.completeFrames 8 8])).1.deliveredFrames =
      (completedAfter (twoFrames ++ [.completeFrames 8 8])).1.history.pushed := by
  have evaluated : (completedAfter twoFrames).2 = some (-12902) ∧
      (completedAfter twoFrames).1.deliveredFrames = [(1, 7)] ∧
      (completedAfter (twoFrames ++ [.completeFrames 8 8])).2 = some 0 ∧
      (completedAfter (twoFrames ++ [.completeFrames 8 8])).1.history.pushed =
        [(1, 7), (2, 9)] := by
    decide +kernel
  obtain ⟨failed, first, returned, pushed⟩ := evaluated
  refine ⟨failed, first, returned, pushed, ?_⟩
  have delivers := completeFrames_delivers_all scriptedWorker {} secondFails smallSession []
    (twoFrames ++ [.completeFrames 8 8]) 8 8 scriptedWorker_neverEmpty rfl
  unfold completedAfter at returned ⊢
  exact delivers returned

end Guest

end Shim

end VtFerry
