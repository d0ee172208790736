import VtFerry.Shim.DecodeTransport
import VtFerry.Shim.LayoutAgreement

/-!
# Draining decoded frames

`vtf_drain_decoded_frames`: the loop that takes decoded frames from the
worker, fetches their pixels inline or in chunks, hands each frame to the
client's callback and gives its slot back.  The loop has no bound of its own,
so the model counts its rounds; running out of them is told apart from a
return.
-/

namespace VtFerry

open LittleEndian Pieces

namespace Shim

/-- What the client's callback is given.  The plane pointers are offsets into
the pixels. -/
structure FiredFrame where
  outputId : UInt64
  status : Int32
  pixels : List UInt8
  width : UInt32
  height : UInt32
  pixelFormat : UInt32
  planes : List LayoutPlane
  planeData : List Nat
  presentation : Time
  duration : Time
  deriving DecidableEq, Repr

/-- The transport, and the invocations of the callback so far. -/
structure DecodeDrain (State : Type) where
  caller : Caller State
  fired : List FiredFrame

variable {State : Type} (send : Send State)

/-- The `sample_size` and the `status` of a `ReadDecodedFrameReply`. -/
def decodedSampleSize (source : List UInt8) : UInt32 :=
  u32At source 8

def decodedStatus (source : List UInt8) : UInt32 :=
  u32At source 12

/-- The pixels of a dequeued frame and its status: fetched in chunks if the
reply names a buffer, and read inline otherwise. -/
def fetchFrame (sessionId : UInt64) (frame : DequeuedFrame) (caller : Caller State) :
    Caller State × Except Int32 (List UInt8 × UInt32) :=
  if frame.bufferHostId ≠ 0 then
    let layout := vtfDecodeLayoutForFormat frame.width frame.height frame.pixelFormat
    match readDecodedFrameChunk send sessionId frame.outputId layout.totalSize.toNat caller with
    | (caller, .error status) => (caller, .error status)
    | (caller, .ok bytes) => (caller, .ok (bytes, frame.status))
  else
    match readDecodedFrame send sessionId frame.outputId caller with
    | (caller, .error status) => (caller, .error status)
    | (caller, .ok bytes) =>
      let expected :=
        readDecodedFrameReplySize + (decodedSampleSize bytes).toNat
      if bytes.length < expected then (caller, .error (-12902))
      else
        (caller, .ok ((bytes.take expected).drop readDecodedFrameReplySize, decodedStatus bytes))

/-- The pixel buffer of a frame; it has at most four planes. -/
def DequeuedFrame.fired (frame : DequeuedFrame) (pixels : List UInt8)
    (status : UInt32) : FiredFrame :=
  let planes := (vtfDecodeLayoutForFormat frame.width frame.height frame.pixelFormat).planes.take 4
  { outputId := frame.outputId
    status := status.toInt32
    pixels := pixels
    width := frame.width
    height := frame.height
    pixelFormat := frame.pixelFormat
    planes := planes
    planeData := planes.map (·.offset.toNat)
    presentation := frame.presentation
    duration := frame.duration }

/-- One round of the loop, and what it returns if it ends the loop.  The
status of a release is ignored. -/
def drainRound (callback : Bool) (sessionId : UInt64)
    (drain : DecodeDrain State) : DecodeDrain State × Option Int32 :=
  match dequeueDecodedFrame send sessionId drain.caller with
  | (caller, .error status) =>
    ({ drain with caller := caller }, some (if status = Status.timeout.toInt32 then 0 else status))
  | (caller, .ok frame) =>
    if frame.outputId = 0 then
      ({ drain with caller := caller }, some frame.status.toInt32)
    else if !callback then
      ({ drain with
          caller := (releaseDecodedFrame send sessionId frame.outputId caller).1 },
        none)
    else
      match fetchFrame send sessionId frame caller with
      | (caller, .error status) =>
        ({ drain with
            caller := (releaseDecodedFrame send sessionId frame.outputId caller).1 },
          some status)
      | (caller, .ok (pixels, status)) =>
        ({ caller := (releaseDecodedFrame send sessionId frame.outputId
            caller).1
           fired := drain.fired ++ [frame.fired pixels status] },
          none)

/-- `vtf_drain_decoded_frames`, with at most the given number of rounds. -/
def vtfDrainDecodedFrames (callback : Bool) (sessionId : UInt64) :
    Nat → DecodeDrain State → DecodeDrain State × Option Int32
  | 0, drain => (drain, none)
  | rounds + 1, drain =>
    match drainRound send callback sessionId drain with
    | (drain, some status) => (drain, some status)
    | (drain, none) => vtfDrainDecodedFrames callback sessionId rounds drain

/-! ## What a drain takes and gives back -/

theorem sendRequest_sent {Reply : Type} (size : Nat) (read : List UInt8 → Reply)
    (request : Request) (caller : Caller State) :
    (sendRequest send size read request caller).1.sent = caller.sent ++ [request] := by
  unfold sendRequest sendRequestBytes
  grind

/-- A read of this frame, inline or of a chunk. -/
def ReadsFrame (sessionId outputId : UInt64) (request : Request) : Prop :=
  request = frameRequest .readDecodedFrame sessionId outputId ∨
    ∃ offset length, request = chunkReadRequest sessionId outputId offset length

/-- Between the two only this frame was read. -/
def OnlyReads (sessionId outputId : UInt64) (before after : Caller State) : Prop :=
  ∃ reads, after.sent = before.sent ++ reads ∧
    ∀ request ∈ reads, ReadsFrame sessionId outputId request

/-- All that is sent for a frame: its dequeue, reads of it and one release. -/
def Exchange (sessionId outputId : UInt64) (before after : Caller State) : Prop :=
  ∃ reads, after.sent = before.sent ++ handleRequest .dequeueDecodedFrame sessionId :: reads ++
      [frameRequest .releaseDecodedFrame sessionId outputId] ∧
    ∀ request ∈ reads, ReadsFrame sessionId outputId request

variable (callback : Bool) (sessionId : UInt64)

theorem fetchFrame_onlyReads (frame : DequeuedFrame) (caller : Caller State) :
    OnlyReads sessionId frame.outputId caller (fetchFrame send sessionId frame caller).1 := by
  have inline : OnlyReads sessionId frame.outputId caller
      (readDecodedFrame send sessionId frame.outputId caller).1 :=
    ⟨_, sendRequest_sent .., by simp [ReadsFrame]⟩
  have chunks (total : Nat) : OnlyReads sessionId frame.outputId caller
      (readDecodedFrameChunk send sessionId frame.outputId total caller).1 := by
    apply fetchPieces_invariant
    · rintro offset length fetched ⟨reads, sent, only⟩
      refine ⟨reads ++ [chunkReadRequest sessionId frame.outputId offset length], ?_, ?_⟩
      · rw [← List.append_assoc, ← sent]
        exact sendRequest_sent ..
      · refine List.forall_mem_append.mpr ⟨only, List.forall_mem_singleton.mpr ?_⟩
        exact .inr ⟨offset, length, rfl⟩
    · exact ⟨[], by simp, nofun⟩
  unfold fetchFrame
  grind

theorem exchange_of_release {outputId : UInt64} {before taken reads : Caller State}
    (dequeued : taken = (dequeueDecodedFrame send sessionId before).1)
    (only : OnlyReads sessionId outputId taken reads) :
    Exchange sessionId outputId before (releaseDecodedFrame send sessionId outputId reads).1 := by
  obtain ⟨requests, sent, only⟩ := only
  refine ⟨requests, ?_, only⟩
  have asked : taken.sent = before.sent ++ [handleRequest .dequeueDecodedFrame sessionId] :=
    dequeued ▸ sendRequest_sent ..
  have released : (releaseDecodedFrame send sessionId outputId reads).1.sent =
      reads.sent ++ [frameRequest .releaseDecodedFrame sessionId outputId] := rfl
  rw [released, sent, asked, List.append_assoc before.sent]
  rfl

/-- A frame is taken, read if there is a callback, and given back; then the
loop goes on. -/
structure TakesOne (frame : DequeuedFrame) (before after : DecodeDrain State) : Prop where
  dequeued : (dequeueDecodedFrame send sessionId before.caller).2 = .ok frame
  present : frame.outputId ≠ 0
  exchange : Exchange sessionId frame.outputId before.caller after.caller
  fired : if callback then ∃ pixels status, (fetchFrame send sessionId frame
        (dequeueDecodedFrame send sessionId before.caller).1).2 = .ok (pixels, status) ∧
      after.fired = before.fired ++ [frame.fired pixels status]
    else after.fired = before.fired

/-- Why the loop returns, and what. -/
inductive Stops (before after : DecodeDrain State) : Int32 → Prop
  /-- The queue is empty. -/
  | empty (answer : (dequeueDecodedFrame send sessionId before.caller).2 =
        .error Status.timeout.toInt32)
      (same : after = { before with
        caller := (dequeueDecodedFrame send sessionId before.caller).1 }) :
      Stops before after 0
  | refused {status : Int32} (other : status ≠ Status.timeout.toInt32)
      (answer : (dequeueDecodedFrame send sessionId before.caller).2 = .error status)
      (same : after = { before with
        caller := (dequeueDecodedFrame send sessionId before.caller).1 }) :
      Stops before after status
  /-- The decoder had reported an error. -/
  | decodeError {frame : DequeuedFrame}
      (answer : (dequeueDecodedFrame send sessionId before.caller).2 = .ok frame)
      (none : frame.outputId = 0)
      (same : after = { before with
        caller := (dequeueDecodedFrame send sessionId before.caller).1 }) :
      Stops before after frame.status.toInt32
  /-- A frame for the callback cannot be read; it is given back. -/
  | unreadable {frame : DequeuedFrame} {status : Int32} (watched : callback = true)
      (answer : (dequeueDecodedFrame send sessionId before.caller).2 = .ok frame)
      (present : frame.outputId ≠ 0)
      (failed : (fetchFrame send sessionId frame
        (dequeueDecodedFrame send sessionId before.caller).1).2 = .error status)
      (exchange : Exchange sessionId frame.outputId before.caller after.caller)
      (fired : after.fired = before.fired) :
      Stops before after status

/-- The rounds of the loop that go on, with the frames they take. -/
inductive Takes : List DequeuedFrame → DecodeDrain State → DecodeDrain State → Prop
  | nil {drain : DecodeDrain State} : Takes [] drain drain
  | cons {frame : DequeuedFrame} {frames : List DequeuedFrame}
      {before between after : DecodeDrain State}
      (one : TakesOne send callback sessionId frame before between)
      (more : Takes frames between after) : Takes (frame :: frames) before after

theorem drainRound_cases (drain : DecodeDrain State) :
    match drainRound send callback sessionId drain with
    | (after, none) => ∃ frame, TakesOne send callback sessionId frame drain after
    | (after, some status) => Stops send callback sessionId drain after status := by
  unfold drainRound
  cases dequeued : dequeueDecodedFrame send sessionId drain.caller with
  | mk taken answer =>
  have same : taken = (dequeueDecodedFrame send sessionId drain.caller).1 := by rw [dequeued]
  cases answer with
  | error status =>
    by_cases empty : status = Status.timeout.toInt32
    · simp only [if_pos empty]
      exact .empty (by rw [dequeued, empty]) (by rw [dequeued])
    · simp only [if_neg empty]
      exact .refused empty (by rw [dequeued]) (by rw [dequeued])
  | ok frame =>
    have answer : (dequeueDecodedFrame send sessionId drain.caller).2 = .ok frame := by
      rw [dequeued]
    by_cases none : frame.outputId = 0
    · simp only [if_pos none]
      exact .decodeError answer none (by rw [dequeued])
    · simp only [if_neg none]
      cases callback with
      | false => exact ⟨frame, answer, none,
          exchange_of_release send sessionId same ⟨[], by simp, nofun⟩, rfl⟩
      | true =>
        have only := fetchFrame_onlyReads send sessionId frame taken
        cases fetched : fetchFrame send sessionId frame taken with
        | mk reads result =>
        rw [fetched] at only
        have exchange := exchange_of_release send sessionId same only
        cases result with
        | error status =>
          exact .unreadable rfl answer none (by rw [← same, fetched]) exchange rfl
        | ok read =>
          exact ⟨frame, answer, none, exchange, read.1, read.2, by rw [← same, fetched], rfl⟩

theorem TakesOne.fired_ids {frame : DequeuedFrame} {before after : DecodeDrain State}
    (one : TakesOne send callback sessionId frame before after) :
    after.fired.map (·.outputId) = before.fired.map (·.outputId) ++
      if callback then [frame.outputId] else [] := by
  have fired := one.fired
  cases callback with
  | false => rw [show after.fired = before.fired from fired, if_neg nofun, List.append_nil]
  | true =>
    obtain ⟨pixels, status, _, fired⟩ := fired
    simp [fired, DequeuedFrame.fired]

theorem Stops.fired {before after : DecodeDrain State} {status : Int32}
    (stops : Stops send callback sessionId before after status) : after.fired = before.fired := by
  cases stops with
  | empty _ same | refused _ _ same | decodeError _ _ same => rw [same]
  | unreadable _ _ _ _ _ fired => exact fired

/-- However the transport answers, a drain takes frames one after the other.
For each it sends a dequeue, reads of this frame and one release of it, and the
callback is given exactly these frames, in this order.  It returns when the
queue is empty, when the decoder had reported an error, when a dequeue is
refused or when a frame cannot be read, which it has then released. -/
theorem drain_releases_each_frame (rounds : Nat) (drain : DecodeDrain State) :
    let drained := vtfDrainDecodedFrames send callback sessionId rounds drain
    ∃ frames last, Takes send callback sessionId frames drain last ∧
      drained.1.fired.map (·.outputId) = drain.fired.map (·.outputId) ++
        (if callback then frames.map (·.outputId) else []) ∧
      match drained.2 with
      | none => frames.length = rounds ∧ drained.1 = last
      | some status => frames.length < rounds ∧
          Stops send callback sessionId last drained.1 status := by
  induction rounds generalizing drain with
  | zero => exact ⟨[], drain, .nil, by simp [vtfDrainDecodedFrames], rfl, rfl⟩
  | succ rounds induction =>
    have round := drainRound_cases send callback sessionId drain
    rw [vtfDrainDecodedFrames]
    cases ran : drainRound send callback sessionId drain with
    | mk after returned =>
    rw [ran] at round
    cases returned with
    | some status =>
      refine ⟨[], drain, .nil, ?_, Nat.succ_pos rounds, round⟩
      simp [round.fired]
    | none =>
      obtain ⟨frame, one⟩ := round
      obtain ⟨frames, last, takes, fired, ending⟩ := induction after
      refine ⟨frame :: frames, last, .cons one takes, ?_, ?_⟩
      · dsimp only
        rw [fired, one.fired_ids]
        cases callback <;> simp
      · dsimp only
        generalize vtfDrainDecodedFrames send callback sessionId rounds after = drained at ending ⊢
        cases ended : drained.2 with
        | none =>
          rw [ended] at ending
          exact ⟨congrArg (· + 1) ending.1, ending.2⟩
        | some status =>
          rw [ended] at ending
          exact ⟨Nat.succ_lt_succ ending.1, ending.2⟩

/-- A worker that refuses to read the frame 70001. -/
def refusesFrame : Send (List UInt64) := fun queue request =>
  if request = handleRequest .dequeueDecodedFrame 1 then
    match queue with
    | [] => ([], .error Status.timeout.toInt32)
    | outputId :: rest => (rest, .ok (DequeueDecodedFrameReply.bytes
        ⟨1, outputId.toNat, 0, 2, 1, PixelFormat.bgra, ⟨0, 600, 600, 1⟩, 0⟩))
  else if request = frameRequest .readDecodedFrame 1 70001 then
    (queue, .error Status.internalFailure.toInt32)
  else if request.opcode = Opcode.readDecodedFrame.code then
    (queue, .ok (ReplyBody.decodedBytes 70000 0 [1, 2, 3, 4, 5, 6, 7, 8]).bytes)
  else (queue, .ok [])

/-- Of three frames the first is delivered, the second is released unread and
ends the drain, and the third stays in the queue. -/
theorem unreadable_frame_released :
    let drain : DecodeDrain (List UInt64) := ⟨⟨[70000, 70001, 70002], []⟩, []⟩
    let drained := vtfDrainDecodedFrames refusesFrame true 1 5 drain
    drained.1.caller.transport = [70002] ∧
    drained.1.caller.sent = [handleRequest .dequeueDecodedFrame 1,
      frameRequest .readDecodedFrame 1 70000, frameRequest .releaseDecodedFrame 1 70000,
      handleRequest .dequeueDecodedFrame 1, frameRequest .readDecodedFrame 1 70001,
      frameRequest .releaseDecodedFrame 1 70001] ∧
    ∃ frames last, Takes refusesFrame true 1 frames drain last ∧
      frames.map (·.outputId) = [70000] ∧
      Stops refusesFrame true 1 last drained.1 Status.internalFailure.toInt32 := by
  intro drain drained
  have returned : drained.2 = some Status.internalFailure.toInt32 := by decide +kernel
  have delivered : drained.1.fired.map (·.outputId) = [70000] := by decide +kernel
  obtain ⟨frames, last, takes, fired, ending⟩ :=
    drain_releases_each_frame refusesFrame true 1 5 drain
  rw [show (vtfDrainDecodedFrames refusesFrame true 1 5 drain).2 = _ from returned] at ending
  exact ⟨by decide +kernel, by decide +kernel, frames, last, takes, fired.symm.trans delivered,
    ending.2⟩

end Shim

end VtFerry
