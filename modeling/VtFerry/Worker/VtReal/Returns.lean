import VtFerry.Worker.VtReal.LeaseTable

/-!
# Buffers that are queued to the host

A buffer becomes queued when the encoder accepts a frame of it, and a dequeue
of the frame's output makes it free again.  `dispatch_queued` says of every
request which buffers are queued after it and that their outputs still wait.
Two requests are special: releasing an output that waits, and destroying a
session with outputs whose buffers survive it.
-/

namespace VtFerry

open LeaseTable

/-- The session `DESTROY_SESSION` names. -/
def destroyedSession (opcode : Option Opcode) (source : List UInt8) :
    Option Nat :=
  match opcode with
  | some .destroySession => some (HandlePayload.read source).handle.toNat
  | _ => none

namespace VtRealBackend

variable {host : HostCalls} {source : List UInt8}
variable {backend : VtRealBackend} {surfaces : Surfaces}
variable {lease : Lease} {poolId : Nat} {released : List Nat}

/-- The buffer of the lease is in a pool and queued to the host. -/
def QueuedUnder (backend : VtRealBackend) (lease : Lease) (poolId : Nat) :
    Prop :=
  ∃ buffer, backend.buffers.lookup lease.id = some buffer ∧
    buffer.generation = lease.generation ∧ buffer.poolId = poolId ∧
    buffer.state = .queuedToHost

/-- Every stored output of the session that has its buffer queued comes from
a pool of the session. -/
def SettledSession (backend : VtRealBackend) (sessionId : Nat) : Prop :=
  ∀ outputId output poolId, backend.outputState.items.lookup outputId = some output →
    output.reply.sessionId = sessionId →
    backend.QueuedUnder output.lease poolId →
    poolId ∈ backend.poolsOfSession sessionId

/-- The stored output stays, and in its lane if it waits there. -/
def StaysQueued (before after : OutputQueue) (outputId : Nat) (output : VtRealOutput) : Prop :=
  after.items.lookup outputId = some output ∧ (outputId ∈ before.lane output.reply.sessionId →
      outputId ∈ after.lane output.reply.sessionId)

/-- Why a buffer is queued after a request: its frame was just accepted, or
it was queued before and its outputs stay, but for the released ones. -/
def Returns (backend : VtRealBackend) (served : Served)
    (released : List Nat) (lease : Lease) (poolId : Nat) : Prop :=
  (∃ frame ∈ served.encoded, frame.frame.lease = lease) ∨
    backend.QueuedUnder lease poolId ∧ ∀ outputId output,
        backend.outputState.items.lookup outputId = some output →
        output.lease = lease → outputId ∉ released →
        StaysQueued backend.outputState served.backend.outputState outputId output

variable {bufferId : Nat} {set : VtRealBuffer}

theorem QueuedUnder.of_setBuffer
    (queued : (backend.setBuffer bufferId set).QueuedUnder lease poolId) :
    backend.QueuedUnder lease poolId ∨ bufferId = lease.id ∧ set.state = .queuedToHost ∧
        set.generation = lease.generation ∧ set.poolId = poolId := by
  obtain ⟨buffer, found, generation, inPool, state⟩ := queued
  rw [lookup_setBuffer] at found
  split at found
  next same =>
    cases found
    exact .inr ⟨same.symm, state, generation, inPool⟩
  · exact .inl ⟨buffer, found, generation, inPool, state⟩

/-- Wrapping a buffer or making it anything but queued queues nothing. -/
theorem QueuedUnder.of_quiet {buffer : VtRealBuffer}
    (queued : (backend.setBuffer bufferId set).QueuedUnder lease poolId)
    (found : backend.buffers.lookup bufferId = some buffer)
    (same : set.state = .queuedToHost → set.generation = buffer.generation ∧
      set.poolId = buffer.poolId ∧ buffer.state = .queuedToHost) :
    backend.QueuedUnder lease poolId := by
  rcases queued.of_setBuffer with before | ⟨rfl, state, generation, inPool⟩
  · exact before
  · obtain ⟨sameGeneration, samePool, was⟩ := same state
    exact ⟨buffer, found, sameGeneration.symm.trans generation, samePool.symm.trans inPool, was⟩

def Named (backend : VtRealBackend) : Prop :=
  ∀ id buffer, backend.buffers.lookup id = some buffer → buffer.id = id

theorem Named.setBuffer {buffer : VtRealBuffer} (named : backend.Named)
    (found : backend.buffers.lookup bufferId = some buffer)
    (same : set.id = buffer.id) : (backend.setBuffer bufferId set).Named := by
  intro id other lookup
  rw [lookup_setBuffer] at lookup
  split at lookup
  next here =>
    cases lookup
    rw [here, same]
    exact named bufferId buffer found
  · exact named id other lookup

theorem Encodes.queuedUnder {before after : VtRealBackend}
    {frames : List EncoderFrame} (encodes : Encodes before after frames)
    (named : before.Named) (queued : after.QueuedUnder lease poolId) :
    (∃ frame ∈ frames, frame.frame.lease = lease) ∨
      before.QueuedUnder lease poolId := by
  induction encodes with
  | done => exact .inr queued
  | wrapped pixelBuffer found _ induction =>
    rcases induction (named.setBuffer found rfl) queued with new | earlier
    · exact .inl new
    · exact .inr (earlier.of_quiet found fun state => ⟨rfl, rfl, state⟩)
  | @queued before after frames bufferId buffer frame pixelBuffer found _
      names _ _ induction =>
      rcases induction (named.setBuffer found rfl) queued with
        ⟨new, member, same⟩ | earlier
      · exact .inl ⟨new, List.mem_cons_of_mem _ member, same⟩
      · rcases earlier.of_setBuffer with was | ⟨rfl, _, generation, _⟩
        · exact .inr was
        · refine .inl ⟨frame, List.mem_cons_self, ?_⟩
          have id := named lease.id buffer found
          rw [FrameContext.lease, names, id]
          exact congrArg (Lease.mk lease.id) generation

theorem QueuedUnder.of_freed {outputs : List VtRealOutput}
    (queued : (backend.markAllReusable outputs).QueuedUnder lease poolId) :
    backend.QueuedUnder lease poolId ∧ lease ∉ outputs.map VtRealOutput.lease := by
  obtain ⟨buffer, found, generation, inPool, state⟩ := queued
  rw [lookup_markAllReusable] at found
  obtain ⟨was, found, freed⟩ := Option.map_eq_some_iff.mp found
  unfold freedBy at freed
  split at freed
  · rw [← freed] at state
    cases state
  next kept =>
    rw [freed] at kept found
    refine ⟨⟨buffer, found, generation, inPool, state⟩, ?_⟩
    intro taken
    refine kept ⟨state, ?_⟩
    rw [generation]
    exact taken

theorem QueuedUnder.of_removePools {poolIds : List Nat}
    (queued : (backend.removePools poolIds).QueuedUnder lease poolId) :
    backend.QueuedUnder lease poolId ∧ poolId ∉ poolIds := by
  obtain ⟨buffer, found, generation, inPool, state⟩ := queued
  dsimp only [removePools] at found
  rw [FiniteMap.lookup_retain, Option.filter_eq_some_iff] at found
  obtain ⟨found, kept⟩ := found
  refine ⟨⟨buffer, found, generation, inPool, state⟩, ?_⟩
  rw [← inPool]
  simpa using kept

theorem QueuedUnder.of_slots {payload : CreateBufferPoolPayload}
    {pool : IOSurfacePool} {made : Nat} {after : VtRealBackend}
    (filled : SlotsOf payload pool made backend after.buffers)
    (queued : after.QueuedUnder lease poolId) :
    backend.QueuedUnder lease poolId := by
  obtain ⟨buffer, found, generation, inPool, state⟩ := queued
  rw [filled lease.id] at found
  split at found
  · obtain ⟨pixelBuffer, _, made⟩ := Option.map_eq_some_iff.mp found
    rw [← made] at state
    cases state
  · exact ⟨buffer, found, generation, inPool, state⟩

/-! ## The encode queue -/

variable {outputId : Nat}

theorem staysQueued_of_same {before after : OutputQueue}
    {output : VtRealOutput} (same : after = before)
    (stored : before.items.lookup outputId = some output) :
    StaysQueued before after outputId output := by
  subst same
  exact ⟨stored, id⟩

variable {served : Served}

theorem returns_of_same (queued : backend.QueuedUnder lease poolId)
    (same : served.backend.outputState = backend.outputState) :
    backend.Returns served released lease poolId :=
  .inr ⟨queued, fun _ _ stored _ _ => staysQueued_of_same same stored⟩

variable {sessionId : Nat}

/-- A buffer that is still queued after a dequeue has its output waiting, if
it had. -/
theorem returns_of_taken {count : Nat}
    (taken : served.backend = backend.afterTaking sessionId count)
    (queued : served.backend.QueuedUnder lease poolId) :
    backend.Returns served released lease poolId := by
  rw [taken] at queued
  obtain ⟨before, untaken⟩ := queued.of_freed
  refine .inr ⟨before, ?_⟩
  rintro outputId output stored rfl _
  rw [taken, afterTaking_eq]
  refine ⟨stored, ?_⟩
  intro waits
  rw [TicketQueue.lane_pop]
  split
  next same =>
    rw [same] at waits ⊢
    rw [← List.take_append_drop count (backend.outputState.lane sessionId)] at waits
    rcases List.mem_append.mp waits with popped | left
    · refine absurd ?_ untaken
      apply List.mem_map_of_mem
      refine List.mem_map.mpr ⟨(outputId, output), ?_, rfl⟩
      exact List.mem_filterMap.mpr ⟨outputId, popped, by rw [stored]; rfl⟩
    · exact left
  · exact waits

/-- A session is removed with its outputs: a buffer that stays queued is in
no pool of the session, so its output was not one of them. -/
theorem removeSession_stays {output : VtRealOutput} (settled : backend.SettledSession sessionId)
    (queued : backend.QueuedUnder output.lease poolId)
    (outside : poolId ∉ backend.poolsOfSession sessionId)
    (stored : backend.outputState.items.lookup outputId = some output) :
    StaysQueued backend.outputState
      (backend.removeSession sessionId).outputState outputId output := by
  have other : output.reply.sessionId ≠ sessionId := by
    intro same
    exact outside (settled outputId output poolId stored same queued)
  dsimp only [removeSession]
  constructor
  · dsimp only
    rw [FiniteMap.lookup_retain, stored]
    simp [other]
  · intro waits
    unfold TicketQueue.lane
    dsimp only
    rw [FiniteMap.lookup_erase_eq, if_neg other]
    exact waits

/-! ## All requests -/

/-- After any request a queued buffer was just accepted by the encoder, or
was queued before and its output stays in the queue. -/
theorem Effect.returns {opcode : Option Opcode}
    (effect : Effect host source backend surfaces opcode served)
    (named : backend.Named)
    (settled : ∀ sessionId, destroyedSession opcode source = some sessionId →
      backend.SettledSession sessionId)
    (queued : served.backend.QueuedUnder lease poolId) :
    backend.Returns served (releasedOutputs opcode source) lease poolId := by
  cases effect with
  | entryClaimed _ _ _ _ build =>
    refine returns_of_same ?_ build.outputState
    cases build with
    | refused _ _ => exact queued
    | abandoned _ _ filled | built _ filled _ => exact queued.of_slots filled
  | encodeDestroyed named _ _ =>
    obtain ⟨before, outside⟩ := queued.of_removePools
    refine .inr ⟨before, ?_⟩
    rintro outputId output stored rfl _
    subst named
    exact removeSession_stays (settled _ rfl) before outside stored
  | poolDestroyed _ => exact returns_of_same queued.of_removePools.1 rfl
  | unwrapped _ _ found _ _ | leased _ found _ _ _ _ _ _
  | recycled _ found _ _ =>
    exact returns_of_same (queued.of_quiet found fun state => by cases state) rfl
  | read _ found _ _ | written _ found _ _ =>
    exact returns_of_same (queued.of_quiet found fun state => ⟨rfl, rfl, state⟩) rfl
  | encoded encodes _ =>
    rcases encodes.queuedUnder named queued with new | earlier
    · exact .inl new
    · exact returns_of_same earlier rfl
  | dequeued _ _ _ => exact returns_of_taken (afterTaking_eq ..).symm queued
  | released _ _ others =>
    refine .inr ⟨queued, ?_⟩
    intro outputId output stored _ other
    exact ⟨(others outputId other).trans stored, fun waits => waits⟩
  | decodedDequeued dequeue =>
    cases dequeue with
    | _ => exact returns_of_same queued rfl
  | _ => exact returns_of_same queued rfl

end VtRealBackend

end VtFerry
