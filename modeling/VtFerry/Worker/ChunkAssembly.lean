import VtFerry.Foundation.Pieces
import VtFerry.Worker.VtReal.Decode

/-!
# Assembling chunked frames

The history of a connection's `ENQUEUE_ENCODED_FRAME_CHUNK` requests keeps the
chunks that were accepted, in order.  A chunk is accepted when it joins its
session's assembly and, if it is final, completes it; whether the decoder then
takes the frame is another matter.  Every pending assembly is a contiguous run
at the end of its session's accepted chunks, and so is every frame handed to
the decoder.
-/

namespace VtFerry

open List VtRealBackend

/-- A chunk as a request carries it. -/
structure Chunk where
  payload : EnqueueEncodedFrameChunkPayload
  data : List UInt8
  deriving DecidableEq, Repr

namespace Chunk

def read (source : List UInt8) : Chunk where
  payload := EnqueueEncodedFrameChunkPayload.read source
  data := source.drop EnqueueEncodedFrameChunkPayload.size

def sessionId (chunk : Chunk) : Nat :=
  chunk.payload.sessionId.toNat

def offset (chunk : Chunk) : Nat :=
  chunk.payload.chunkOffset.toNat

def isFinal (chunk : Chunk) : Bool :=
  chunk.payload.isFinalChunk != 0

end Chunk

inductive ChunkOutcome where
  | refused (status : UInt32)
  | joined (assembly : PendingEncodedFrame)
  /-- The chunk is final and leaves its frame short. -/
  | short
  /-- The chunk is final and completes its frame. -/
  | completed (frame : PendingEncodedFrame)
  deriving DecidableEq, Repr

namespace ChunkOutcome

def accepts : ChunkOutcome → Bool
  | .joined _ => true
  | .completed _ => true
  | _ => false

end ChunkOutcome

namespace VtRealBackend

/-- The outcome of a chunk request for the given assemblies. -/
def chunkOutcome (source : List UInt8) (backend : VtRealBackend) :
    ChunkOutcome :=
  let chunk := Chunk.read source
  match checkChunk source with
  | some status => .refused status
  | none =>
    if (backend.decodeSessions.lookup chunk.sessionId).isNone then
      .refused Status.invalidHandle
    else
      match joinChunk chunk.payload chunk.data
          (backend.pendingEncodedFrames.lookup chunk.sessionId) with
      | .error status => .refused status
      | .ok assembly =>
        if chunk.isFinal = false then .joined assembly
        else if UInt32.ofNat assembly.bytes.length ≠ assembly.totalSize
        then .short
        else .completed assembly

def setPending (backend : VtRealBackend) (sessionId : Nat)
    (assembly : PendingEncodedFrame) : VtRealBackend :=
  { backend with
    pendingEncodedFrames :=
      backend.pendingEncodedFrames.insert sessionId assembly }

def clearPending (backend : VtRealBackend) (sessionId : Nat) :
    VtRealBackend :=
  { backend with
    pendingEncodedFrames := backend.pendingEncodedFrames.erase sessionId }

theorem enqueueEncodedFrameChunk_eq (host : HostCalls) (source : List UInt8)
    (backend : VtRealBackend) (surfaces : Surfaces) :
    enqueueEncodedFrameChunk host source backend surfaces =
      match chunkOutcome source backend with
      | .refused status => .plain backend surfaces status
      | .joined assembly =>
        .plain (backend.setPending (Chunk.read source).sessionId assembly) surfaces Status.ok
      | .short =>
        .plain (backend.clearPending (Chunk.read source).sessionId) surfaces Status.invalidState
      | .completed frame =>
        let cleared := backend.clearPending (Chunk.read source).sessionId
        let answer := cleared.dispatchDecodeAssembledFrame host
          (Chunk.read source).sessionId frame.bytes frame.timing
        { backend := cleared
          surfaces := surfaces
          status := answer.1
          body := .empty
          encoded := []
          decoded := answer.2.toList } := by
  unfold enqueueEncodedFrameChunk chunkOutcome
  cases checkChunk source with
  | some status => rfl
  | none =>
    simp only [Chunk.read, Chunk.sessionId, Chunk.isFinal]
    by_cases unknown : (backend.decodeSessions.lookup
        (EnqueueEncodedFrameChunkPayload.read source).sessionId.toNat).isNone = true
    · simp [unknown]
    · cases joinChunk (EnqueueEncodedFrameChunkPayload.read source)
          (source.drop EnqueueEncodedFrameChunkPayload.size)
          (backend.pendingEncodedFrames.lookup (EnqueueEncodedFrameChunkPayload.read
              source).sessionId.toNat) with
      | error status => simp [unknown]
      | ok assembly =>
        by_cases notFinal : (EnqueueEncodedFrameChunkPayload.read source).isFinalChunk = 0
        · simp [unknown, notFinal, setPending]
        · by_cases short :
              UInt32.ofNat assembly.bytes.length ≠ assembly.totalSize
          · simp [unknown, notFinal, short, clearPending]
          · simp [unknown, notFinal, short, clearPending]

/-! ## What the checks ensure -/

variable {source : List UInt8}

theorem checkChunk_eq_none (checked : checkChunk source = none) :
    (Chunk.read source).data.length = (Chunk.read source).payload.chunkLength.toNat ∧
      1 ≤ (Chunk.read source).payload.totalEncodedSize.toNat ∧
      (Chunk.read source).payload.totalEncodedSize.toNat ≤ maxChunkedEncodedFrameBytes ∧
      (Chunk.read source).offset + (Chunk.read source).data.length ≤
        (Chunk.read source).payload.totalEncodedSize.toNat := by
  unfold checkChunk at checked
  dsimp only at checked
  simp only [Chunk.read, Chunk.offset, length_drop]
  generalize EnqueueEncodedFrameChunkPayload.read source = payload at checked ⊢
  split at checked
  · cases checked
  split at checked
  · cases checked
  split at checked
  · cases checked
  next _ _ total =>
    split at checked
    · cases checked
    · have positive : payload.totalEncodedSize.toNat ≠ 0 := by
        intro zero
        exact total (Or.inl (UInt32.toNat_inj.1 zero))
      omega

theorem checkChunk_ne_ok {status : UInt32} (failed : checkChunk source = some status) :
    status ≠ Status.ok := by
  unfold checkChunk at failed
  dsimp only at failed
  repeat' split at failed
  all_goals cases failed
  all_goals decide

theorem joinChunk_ne_ok {payload : EnqueueEncodedFrameChunkPayload}
    {data : List UInt8} {pending : Option PendingEncodedFrame}
    {status : UInt32}
    (failed : joinChunk payload data pending = .error status) :
    status ≠ Status.ok := by
  unfold joinChunk at failed
  repeat' split at failed
  all_goals cases failed
  all_goals decide

/-- A final chunk that passes every check and leaves its frame short. -/
def ShortFinal (source : List UInt8) (backend : VtRealBackend) : Prop :=
  ∃ assembly, checkChunk source = none ∧
    (backend.decodeSessions.lookup (Chunk.read source).sessionId).isNone = false ∧
    joinChunk (Chunk.read source).payload (Chunk.read source).data
      (backend.pendingEncodedFrames.lookup (Chunk.read source).sessionId) = .ok assembly ∧
    (Chunk.read source).isFinal = true ∧
    UInt32.ofNat assembly.bytes.length ≠ assembly.totalSize

theorem ShortFinal.outcome {backend : VtRealBackend} (short : ShortFinal source backend) :
    chunkOutcome source backend = .short := by
  obtain ⟨assembly, checked, known, join, final, short⟩ := short
  simp [chunkOutcome, checked, known, join, final, short]

/-- The outcomes with what led to them. -/
inductive Judged (source : List UInt8) (backend : VtRealBackend) :
    ChunkOutcome → Prop
  | refused {status : UInt32} (failed : status ≠ Status.ok) :
      Judged source backend (.refused status)
  | joined {assembly : PendingEncodedFrame}
      (checked : checkChunk source = none)
      (join : joinChunk (Chunk.read source).payload (Chunk.read source).data
        (backend.pendingEncodedFrames.lookup (Chunk.read source).sessionId) = .ok assembly)
      (notFinal : (Chunk.read source).isFinal = false) :
      Judged source backend (.joined assembly)
  | short (short : ShortFinal source backend) : Judged source backend .short
  | completed {assembly : PendingEncodedFrame}
      (checked : checkChunk source = none)
      (join : joinChunk (Chunk.read source).payload (Chunk.read source).data
        (backend.pendingEncodedFrames.lookup (Chunk.read source).sessionId) = .ok assembly)
      (final : (Chunk.read source).isFinal = true)
      (complete : UInt32.ofNat assembly.bytes.length = assembly.totalSize) :
      Judged source backend (.completed assembly)

theorem chunkOutcome_judged (source : List UInt8) (backend : VtRealBackend) :
    Judged source backend (chunkOutcome source backend) := by
  unfold chunkOutcome
  dsimp only
  cases checked : checkChunk source with
  | some status => exact .refused (checkChunk_ne_ok checked)
  | none =>
    dsimp only
    split
    · exact .refused (by decide)
    next known =>
      cases join : joinChunk (Chunk.read source).payload (Chunk.read source).data
          (backend.pendingEncodedFrames.lookup (Chunk.read source).sessionId) with
      | error status => exact .refused (joinChunk_ne_ok join)
      | ok assembly =>
        dsimp only
        split
        next notFinal => exact .joined checked join notFinal
        next isFinal =>
          have final : (Chunk.read source).isFinal = true := by
            simpa using isFinal
          split
          next short =>
            exact .short ⟨assembly, checked, Bool.eq_false_of_not_eq_true known, join, final, short⟩
          next complete => exact .completed checked join final (not_not.1 complete)

end VtRealBackend

/-! ## Assemblies and the chunks they are made of -/

/-- The assembly is what a run of chunks of the session makes: it begins with
a chunk at offset 0, and no later chunk of the run has offset 0. -/
structure AssembledFrom (sessionId : Nat) (chunks : List Chunk)
    (assembly : PendingEncodedFrame) : Prop where
  head : ∃ first rest, chunks = first :: rest ∧
    first.payload.timing = assembly.timing ∧
    ∀ chunk ∈ rest, chunk.offset ≠ 0
  session : ∀ chunk ∈ chunks, chunk.sessionId = sessionId
  contiguous : Pieces.Contiguous Chunk.offset Chunk.data 0 chunks
  totals : ∀ chunk ∈ chunks, chunk.payload.totalEncodedSize = assembly.totalSize
  bytes : assembly.bytes = Pieces.joined Chunk.data chunks
  nonempty : 1 ≤ assembly.totalSize.toNat
  bounded : assembly.totalSize.toNat ≤ maxChunkedEncodedFrameBytes
  fits : assembly.bytes.length ≤ assembly.totalSize.toNat

namespace AssembledFrom

variable {assembly : PendingEncodedFrame}

theorem start {pending : Option PendingEncodedFrame} (checked : checkChunk source = none)
    (atStart : (Chunk.read source).payload.chunkOffset = 0)
    (join : joinChunk (Chunk.read source).payload (Chunk.read source).data pending = .ok assembly) :
    AssembledFrom (Chunk.read source).sessionId [Chunk.read source]
      assembly := by
  obtain ⟨_, nonempty, bounded, fits⟩ :=
    checkChunk_eq_none checked
  unfold joinChunk at join
  rw [if_pos atStart] at join
  cases join
  have offset : (Chunk.read source).offset = 0 := by
    simp [Chunk.offset, atStart]
  refine
    { head := ⟨_, [], rfl, rfl, ?_⟩
      session := ?_
      contiguous := ⟨offset, trivial⟩
      totals := ?_
      bytes := ?_
      nonempty := nonempty
      bounded := bounded
      fits := ?_ }
  · intro chunk member
    cases member
  · intro chunk member
    rw [mem_singleton.1 member]
  · intro chunk member
    rw [mem_singleton.1 member]
  · simp
  · rw [offset] at fits
    dsimp only
    omega

theorem extend {pending : PendingEncodedFrame} {chunks : List Chunk}
    (before : AssembledFrom (Chunk.read source).sessionId chunks pending)
    (checked : checkChunk source = none) (notStart : (Chunk.read source).payload.chunkOffset ≠ 0)
    (join : joinChunk (Chunk.read source).payload
      (Chunk.read source).data (some pending) = .ok assembly) :
    AssembledFrom (Chunk.read source).sessionId (chunks ++ [Chunk.read source]) assembly := by
  obtain ⟨_, _, _, fits⟩ := checkChunk_eq_none checked
  unfold joinChunk at join
  rw [if_neg notStart] at join
  dsimp only at join
  split at join
  · cases join
  next sameTotal =>
    split at join
    · cases join
    next sameOffset =>
      have total : pending.totalSize =
          (Chunk.read source).payload.totalEncodedSize := not_not.1 sameTotal
      have offset : pending.bytes.length = (Chunk.read source).offset :=
        not_not.1 sameOffset
      cases join
      refine
        { head := ?_
          session := ?_
          contiguous := before.contiguous.append_piece ?_
          totals := ?_
          bytes := ?_
          nonempty := before.nonempty
          bounded := before.bounded
          fits := ?_ }
      · obtain ⟨first, rest, rfl, timing, nonzero⟩ := before.head
        refine ⟨first, rest ++ [Chunk.read source], rfl, timing, ?_⟩
        intro chunk member
        rcases mem_append.1 member with earlier | last
        · exact nonzero chunk earlier
        · rw [mem_singleton.1 last]
          intro zero
          exact notStart (UInt32.toNat_inj.1 zero)
      · intro chunk member
        rcases mem_append.1 member with earlier | last
        · exact before.session chunk earlier
        · rw [mem_singleton.1 last]
      · rw [Nat.zero_add, ← before.bytes, offset]
      · intro chunk member
        rcases mem_append.1 member with earlier | last
        · exact before.totals chunk earlier
        · rw [mem_singleton.1 last]
          exact total.symm
      · rw [before.bytes]
        simp
      · dsimp only
        rw [length_append, offset, total]
        exact fits

end AssembledFrom

/-! ## Histories of chunk requests -/

/-- A backend with the chunks it has accepted so far, oldest first. -/
structure ChunkHistory where
  backend : VtRealBackend
  accepted : List Chunk

namespace ChunkHistory

/-- No chunk has arrived; everything else about the backend is arbitrary. -/
def starting (backend : VtRealBackend) : ChunkHistory where
  backend := { backend with pendingEncodedFrames := ∅ }
  accepted := []

def step (surfaces : Surfaces) (history : ChunkHistory)
    (request : HostCalls × List UInt8) : ChunkHistory where
  backend := (enqueueEncodedFrameChunk request.1 request.2 history.backend surfaces).backend
  accepted :=
    if (chunkOutcome request.2 history.backend).accepts then
      history.accepted ++ [Chunk.read request.2]
    else history.accepted

def ofSession (history : ChunkHistory) (sessionId : Nat) : List Chunk :=
  history.accepted.filter fun chunk => chunk.sessionId == sessionId

/-- Every pending assembly is made of the last accepted chunks of its session,
none of which was final. -/
def Tracked (history : ChunkHistory) : Prop :=
  ∀ sessionId assembly, history.backend.pendingEncodedFrames.lookup sessionId = some assembly →
    ∃ earlier chunks, history.ofSession sessionId = earlier ++ chunks ∧
      AssembledFrom sessionId chunks assembly ∧
      ∀ chunk ∈ chunks, chunk.isFinal = false

variable {history : ChunkHistory} {surfaces : Surfaces}
variable {host : HostCalls} {source : List UInt8}

theorem ofSession_append (history : ChunkHistory) (backend : VtRealBackend)
    (chunk : Chunk) (sessionId : Nat) :
    ({ backend := backend, accepted := history.accepted ++ [chunk] } :
      ChunkHistory).ofSession sessionId =
      history.ofSession sessionId ++
        if chunk.sessionId = sessionId then [chunk] else [] := by
  by_cases same : chunk.sessionId = sessionId
  · simp [ofSession, same]
  · simp [ofSession, same]

/-- What a chunk that joins makes of its session's assembly. -/
theorem Tracked.join (tracked : history.Tracked) (checked : checkChunk source = none)
    (join : joinChunk (Chunk.read source).payload (Chunk.read source).data
      (history.backend.pendingEncodedFrames.lookup (Chunk.read source).sessionId) = .ok assembly) :
    ∃ earlier chunks, history.ofSession (Chunk.read source).sessionId = earlier ++ chunks ∧
      AssembledFrom (Chunk.read source).sessionId (chunks ++ [Chunk.read source]) assembly ∧
      ∀ chunk ∈ chunks, chunk.isFinal = false := by
  by_cases atStart : (Chunk.read source).payload.chunkOffset = 0
  · refine ⟨history.ofSession (Chunk.read source).sessionId, [], (append_nil _).symm, ?_, ?_⟩
    · exact AssembledFrom.start checked atStart join
    · intro chunk member
      cases member
  · cases found : history.backend.pendingEncodedFrames.lookup (Chunk.read source).sessionId with
    | none =>
      rw [found] at join
      unfold joinChunk at join
      rw [if_neg atStart] at join
      cases join
    | some pending =>
      rw [found] at join
      obtain ⟨earlier, chunks, recorded, assembled, notFinal⟩ :=
        tracked _ _ found
      exact ⟨earlier, chunks, recorded, assembled.extend checked atStart join, notFinal⟩

theorem starting_tracked (backend : VtRealBackend) : (starting backend).Tracked := by
  intro sessionId assembly found
  cases found

theorem Tracked.step (tracked : history.Tracked) (request : HostCalls × List UInt8) :
    (history.step surfaces request).Tracked := by
  obtain ⟨host, source⟩ := request
  unfold ChunkHistory.step
  rw [enqueueEncodedFrameChunk_eq]
  have judged := chunkOutcome_judged source history.backend
  dsimp only at judged ⊢
  generalize chunkOutcome source history.backend = outcome at judged ⊢
  cases judged with
  | refused _ => exact tracked
  | @joined assembly checked join notFinal =>
    intro sessionId pending found
    simp only [ChunkOutcome.accepts, if_true, Served.plain, setPending] at found ⊢
    rw [FiniteMap.lookup_insert_eq] at found
    rw [ofSession_append]
    split at found
    next same =>
      cases found
      obtain ⟨earlier, chunks, recorded, assembled, earlierNotFinal⟩ :=
        tracked.join checked join
      subst same
      refine ⟨earlier, chunks ++ [Chunk.read source], ?_, assembled, ?_⟩
      · rw [recorded, if_pos rfl, append_assoc]
      · intro chunk member
        rcases mem_append.1 member with before | last
        · exact earlierNotFinal chunk before
        · rw [mem_singleton.1 last]
          exact notFinal
    next different =>
      rw [if_neg (Ne.symm different), append_nil]
      exact tracked sessionId pending found
  | short _ =>
    intro sessionId pending found
    simp only [Served.plain, clearPending] at found
    rw [FiniteMap.lookup_erase_eq] at found
    split at found
    · cases found
    · exact tracked sessionId pending found
  | completed checked join final complete =>
    intro sessionId pending found
    simp only [ChunkOutcome.accepts, if_true, clearPending] at found ⊢
    rw [FiniteMap.lookup_erase_eq] at found
    rw [ofSession_append]
    split at found
    · cases found
    next different =>
      rw [if_neg (Ne.symm different), append_nil]
      exact tracked sessionId pending found

theorem run_tracked (surfaces : Surfaces) (backend : VtRealBackend)
    (requests : List (HostCalls × List UInt8)) :
    (Execution.run (step surfaces) (starting backend) requests).Tracked :=
  Execution.invariant_of_step (fun _ request tracked => tracked.step request)
    (starting_tracked backend) requests

theorem mem_dispatchDecodeAssembledFrame {backend : VtRealBackend}
    {sessionId : Nat} {bytes : List UInt8} {timing : Timing}
    {frame : DecoderFrame}
    (handed : frame ∈ (backend.dispatchDecodeAssembledFrame host sessionId bytes timing).2.toList) :
    frame.sessionId = sessionId ∧ frame.bytes = bytes ∧ frame.timing = timing := by
  unfold dispatchDecodeAssembledFrame at handed
  repeat' split at handed
  all_goals simp only [Option.toList_none, not_mem_nil, Option.toList_some, mem_singleton] at handed
  all_goals
    subst handed
    exact ⟨rfl, rfl, rfl⟩

/-- The frame is what the given chunks make, the last of which is its only
final one, and it has the length they declare. -/
def FrameOf (frame : DecoderFrame) (chunks : List Chunk) : Prop :=
  ∃ run last total, chunks = run ++ [last] ∧ last.isFinal = true ∧
    (∀ chunk ∈ run, chunk.isFinal = false) ∧
    frame.bytes.length = total.toNat ∧
    AssembledFrom frame.sessionId chunks
      { bytes := frame.bytes, totalSize := total, timing := frame.timing }

/-- A frame handed to the decoder is made of the last accepted chunks of its
session. -/
theorem Tracked.frame (tracked : history.Tracked) {frame : DecoderFrame}
    (handed : frame ∈ (enqueueEncodedFrameChunk host source
      history.backend surfaces).decoded) :
    ∃ earlier chunks, (history.step surfaces (host, source)).ofSession frame.sessionId =
        earlier ++ chunks ∧ FrameOf frame chunks := by
  unfold ChunkHistory.step
  rw [enqueueEncodedFrameChunk_eq] at handed ⊢
  have judged := chunkOutcome_judged source history.backend
  dsimp only at judged ⊢
  generalize chunkOutcome source history.backend = outcome at judged handed ⊢
  cases judged with
  | refused _ => cases handed
  | joined _ _ _ => cases handed
  | short _ => cases handed
  | @completed assembly checked join final complete =>
    obtain ⟨session, bytes, timing⟩ :=
      mem_dispatchDecodeAssembledFrame handed
    obtain ⟨earlier, chunks, recorded, assembled, notFinal⟩ :=
      tracked.join checked join
    have length : assembly.bytes.length = assembly.totalSize.toNat := by
      have fits := assembled.fits
      have bounded := assembled.bounded
      rw [maxChunkedEncodedFrameBytes] at bounded
      rw [← complete, UInt32.toNat_ofNat', Nat.mod_eq_of_lt]
      omega
    refine ⟨earlier, chunks ++ [Chunk.read source], ?_, chunks,
      Chunk.read source, assembly.totalSize, rfl, final, notFinal, ?_, ?_⟩
    · simp only [ChunkOutcome.accepts, if_true]
      rw [ofSession_append, session, if_pos rfl, recorded, append_assoc]
    · rw [bytes, length]
    · rw [session, bytes, timing]
      exact assembled

theorem lookup_other_session {sessionId : Nat} (other : sessionId ≠ (Chunk.read source).sessionId) :
    (enqueueEncodedFrameChunk host source history.backend
      surfaces).backend.pendingEncodedFrames.lookup sessionId =
        history.backend.pendingEncodedFrames.lookup sessionId := by
  rw [enqueueEncodedFrameChunk_eq]
  split
  · rfl
  · simp [Served.plain, setPending, other]
  · simp [Served.plain, clearPending, other]
  · simp [clearPending, other]

/-- A final chunk that leaves its frame short is rejected and discards its own
assembly. -/
theorem pending_of_short (short : VtRealBackend.ShortFinal source history.backend) :
    let served := enqueueEncodedFrameChunk host source history.backend surfaces
    (chunkOutcome source history.backend).accepts = false ∧
      served.status ≠ Status.ok ∧
      served.backend = history.backend.clearPending (Chunk.read source).sessionId := by
  intro served
  have equation := enqueueEncodedFrameChunk_eq host source history.backend surfaces
  rw [short.outcome] at equation ⊢
  have result : served = .plain (history.backend.clearPending (Chunk.read source).sessionId)
      surfaces Status.invalidState := equation
  have failed : Status.invalidState ≠ Status.ok := by decide
  rw [result]
  exact ⟨rfl, failed, rfl⟩

theorem backend_of_rejected (rejected : (chunkOutcome source
      history.backend).accepts = false)
    (notShort : ¬ VtRealBackend.ShortFinal source history.backend) :
    let served := enqueueEncodedFrameChunk host source history.backend surfaces
    served.status ≠ Status.ok ∧ served.backend = history.backend := by
  intro served
  have equation := enqueueEncodedFrameChunk_eq host source history.backend surfaces
  have judged := chunkOutcome_judged source history.backend
  generalize chunkOutcome source history.backend = outcome at judged rejected equation
  cases judged with
  | refused failed =>
    have result : served = .plain history.backend surfaces _ := equation
    rw [result]
    exact ⟨failed, rfl⟩
  | joined _ _ _ => cases rejected
  | short short => exact absurd short notShort
  | completed _ _ _ _ => cases rejected

/-- The status of an accepted chunk is `STATUS_OK`, or the answer of the
decoder to the frame the chunk completed. -/
theorem status_of_accepted (accepted : (chunkOutcome source
      history.backend).accepts = true) :
    let served := enqueueEncodedFrameChunk host source history.backend surfaces
    served.status = Status.ok ∨ (Chunk.read source).isFinal = true ∧
      ∃ bytes timing, served.status = (served.backend.dispatchDecodeAssembledFrame host
          (Chunk.read source).sessionId bytes timing).1 := by
  intro served
  have equation := enqueueEncodedFrameChunk_eq host source history.backend surfaces
  have judged := chunkOutcome_judged source history.backend
  generalize chunkOutcome source history.backend = outcome at judged accepted equation
  cases judged with
  | refused _ => cases accepted
  | joined _ _ _ =>
    have result : served = .plain _ surfaces Status.ok := equation
    rw [result]
    exact Or.inl rfl
  | short _ => cases accepted
  | @completed assembly _ _ final _ =>
    refine Or.inr ⟨final, assembly.bytes, assembly.timing, ?_⟩
    dsimp only [served]
    rw [equation]

/-- Chunked assembly over every sequence of chunk requests, seen at the next
request: the frame it hands to the decoder is made of the last accepted chunks
of its session; no assembly exceeds its declared total; other sessions keep
their assemblies; a short final chunk is rejected and discards its own
assembly, and every other rejected chunk changes nothing. -/
theorem chunked_assembly_sound (surfaces : Surfaces)
    (backend : VtRealBackend) (requests : List (HostCalls × List UInt8))
    (host : HostCalls) (source : List UInt8) :
    let history :=
      Execution.run (ChunkHistory.step surfaces) (starting backend) requests
    let chunk := Chunk.read source
    let outcome := chunkOutcome source history.backend
    let served := enqueueEncodedFrameChunk host source history.backend surfaces
    (∀ frame ∈ served.decoded, ∃ earlier chunks,
      (history.step surfaces (host, source)).ofSession frame.sessionId =
        earlier ++ chunks ∧ FrameOf frame chunks) ∧
    (∀ sessionId assembly, history.backend.pendingEncodedFrames.lookup sessionId = some assembly →
      assembly.bytes.length ≤ assembly.totalSize.toNat) ∧
    (∀ sessionId, sessionId ≠ chunk.sessionId →
      served.backend.pendingEncodedFrames.lookup sessionId =
        history.backend.pendingEncodedFrames.lookup sessionId) ∧
    (VtRealBackend.ShortFinal source history.backend →
      outcome.accepts = false ∧ served.status ≠ Status.ok ∧
        served.backend = history.backend.clearPending chunk.sessionId) ∧
    (outcome.accepts = false → ¬ VtRealBackend.ShortFinal source history.backend →
      served.status ≠ Status.ok ∧ served.backend = history.backend) ∧
    (outcome.accepts = true → served.status = Status.ok ∨
      chunk.isFinal = true ∧ ∃ bytes timing, served.status =
        (served.backend.dispatchDecodeAssembledFrame host chunk.sessionId
          bytes timing).1) := by
  intro history chunk outcome served
  have tracked : history.Tracked := run_tracked surfaces backend requests
  refine ⟨?_, ?_, ?_, ?_, ?_, ?_⟩
  · intro frame handed
    exact tracked.frame handed
  · intro sessionId assembly found
    obtain ⟨_, _, _, assembled, _⟩ := tracked sessionId assembly found
    exact assembled.fits
  · intro sessionId other
    exact lookup_other_session other
  · intro short
    exact pending_of_short short
  · intro rejected notShort
    exact backend_of_rejected rejected notShort
  · intro accepted
    exact status_of_accepted accepted

end ChunkHistory

end VtFerry
