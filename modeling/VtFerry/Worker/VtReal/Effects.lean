import VtFerry.Worker.VtReal.BufferEffects

/-!
# What a request can change

`Effect` lists what a dispatched request can leave and answer, with what it has
checked by then.  The backend it leaves is the one before with some tables
replaced, so whatever depends on the other tables only is the same.  Everything
that is to be shown of all requests is a case analysis over it.
-/

namespace VtFerry

open List

/-- The outputs `RELEASE_OUTPUT` and its batch form name. -/
def releasedOutputs (opcode : Option Opcode) (source : List UInt8) :
    List Nat :=
  let batch := ReleaseOutputBatchPayload.read source
  match opcode with
  | some .releaseOutput => [(HandlePayload.read source).handle.toNat]
  | some .releaseOutputBatch =>
    (batch.outputIds.take (min batch.outputCount.toNat maxOutputBatch)).map (·.toNat)
  | _ => []

/-- The session a dequeue names, and how many outputs it takes at most. -/
def dequeueLimits (opcode : Option Opcode) (source : List UInt8) :
    Option (Nat × Nat) :=
  let batch := DequeueOutputBatchPayload.read source
  match opcode with
  | some .dequeueOutput => some ((HandlePayload.read source).handle.toNat, 1)
  | some .dequeueOutputBatch =>
    some (batch.sessionId.toNat, OutputQueue.batchLimit batch.maxOutputs)
  | _ => none

/-- The decode session whose set-up a request changes. -/
def configuredSession (opcode : Option Opcode) (source : List UInt8) :
    Option Nat :=
  match opcode with
  | some .setDecodeFormat =>
    some (SetDecodeFormatPayload.read source).sessionId.toNat
  | some .bindDecodeOutputPool =>
    some (BindDecodeOutputPoolPayload.read source).sessionId.toNat
  | _ => none

/-- Requests that neither name a lease nor end one. -/
def leaseless : Option Opcode → Bool
  | some .allocBuffer | some .readBuffer | some .writeBuffer
  | some .recycleBuffer | some .encodeFrame | some .destroyBufferPool
  | some .destroySession | some .dequeueOutput
  | some .dequeueOutputBatch => false
  | _ => true

theorem Served.leases_of_other {served : Served}
    (other : ∀ reply, served.body ≠ .lease reply) : served.leases = [] := by
  unfold Served.leases
  split
  next reply body => exact absurd body (other reply)
  · rfl

namespace VtRealBackend

def poppedDecoded (backend : VtRealBackend) (sessionId : Nat) :
    TicketQueue Nat VtRealDecodedOutput :=
  (backend.decodedOutputState.queue.pop sessionId 1).2

variable (host : HostCalls) (source : List UInt8)
variable (backend : VtRealBackend) (surfaces : Surfaces)

/-- The outcomes of `DEQUEUE_DECODED_FRAME` for a session. -/
inductive DecodedDequeue (sessionId : Nat) : Served → Prop
  | refused {status : UInt32} (failed : status ≠ Status.ok) :
      DecodedDequeue sessionId (.plain backend surfaces status)
  | frame {session : VtRealDecodeSession} {ticket : Nat} {rest : List Nat}
      {output : VtRealDecodedOutput}
      (known : backend.decodeSessions.lookup sessionId = some session)
      (waiting : backend.decodedOutputState.queue.lane sessionId = ticket :: rest)
      (found : backend.decodedOutputState.queue.items.lookup ticket = some output) :
      DecodedDequeue sessionId
        (.ok { backend with
            decodedOutputState :=
              { backend.decodedOutputState with
                queue := backend.poppedDecoded sessionId } }
          surfaces
          (.decodedFrame (decodedFrameReply sessionId ticket session.chunkedOutput output)))
  | lost {session : VtRealDecodeSession} {ticket : Nat} {rest : List Nat}
      (known : backend.decodeSessions.lookup sessionId = some session)
      (waiting : backend.decodedOutputState.queue.lane sessionId = ticket :: rest)
      (missing : backend.decodedOutputState.queue.items.lookup ticket = none) :
      DecodedDequeue sessionId
        (.plain { backend with
            decodedOutputState :=
              { backend.decodedOutputState with
                queue := backend.poppedDecoded sessionId } }
          surfaces Status.timeout)
  | error {session : VtRealDecodeSession} {status : Int32}
      (known : backend.decodeSessions.lookup sessionId = some session)
      (empty : backend.decodedOutputState.queue.lane sessionId = [])
      (recorded : backend.decodedOutputState.decodeErrors.lookup sessionId = some status) :
      DecodedDequeue sessionId
        (.ok { backend with
            decodedOutputState :=
              { queue := backend.poppedDecoded sessionId
                decodeErrors :=
                  backend.decodedOutputState.decodeErrors.erase sessionId } }
          surfaces (.decodedFrame (decodeErrorReply sessionId status)))
  | drained {session : VtRealDecodeSession}
      (known : backend.decodeSessions.lookup sessionId = some session)
      (empty : backend.decodedOutputState.queue.lane sessionId = [])
      (unrecorded : backend.decodedOutputState.decodeErrors.lookup sessionId = none) :
      DecodedDequeue sessionId
        (.plain { backend with
            decodedOutputState :=
              { queue := backend.poppedDecoded sessionId
                decodeErrors :=
                  backend.decodedOutputState.decodeErrors.erase sessionId } }
          surfaces Status.timeout)

inductive Effect : Option Opcode → Served → Prop
  | refused {opcode : Option Opcode} {status : UInt32}
      (failed : status ≠ Status.ok) :
      Effect opcode (.plain backend surfaces status)
  | answered {opcode : Option Opcode} {status : UInt32} {body : ReplyBody}
      {decoded : List DecoderFrame} (calm : leaseless opcode = true)
      (other : ∀ reply, body ≠ .lease reply) :
      Effect opcode ⟨backend, surfaces, status, body, [], decoded⟩
  | idSpent {status : UInt32} :
      Effect (some .createSession)
        (.plain { backend with nextHostId := backend.nextHostId + 1 } surfaces status)
  | decodeOpened {reply : CreateSessionReply} :
      Effect (some .createSession)
        (.ok { backend with
            nextHostId := backend.nextHostId + 1
            decodeSessions := backend.decodeSessions.insert backend.nextHostId
              { formatDescription := none
                vtSession := none
                chunkedOutput := false } }
          surfaces (.session reply))
  | encodeOpened {reply : CreateSessionReply}
      {context : SessionCallbackContext}
      (own : context.sessionId = backend.nextHostId) :
      Effect (some .createSession)
        (.ok { backend with
            nextHostId := backend.nextHostId + 1
            sessions := backend.sessions.insert backend.nextHostId
              { context := context, prepared := false } }
          surfaces (.session reply))
  | prepared {sessionId : Nat} {session : VtRealSession}
      (known : backend.sessions.lookup sessionId = some session) :
      Effect (some .prepareSession)
        (.plain { backend with
            sessions := backend.sessions.insert sessionId
              { session with prepared := true } }
          surfaces Status.ok)
  | entryClaimed {entryId : Nat} {entry : DirectoryEntry}
      {built : VtRealBackend × UInt32 × ReplyBody}
      (reaches : ReachesDirectory source backend)
      (matched : surfaces.directory.firstMatch
        (poolShape (CreateBufferPoolPayload.read source)) = some entryId)
      (present : surfaces.directory.entries[entryId]? = some entry)
      (unclaimed : entry.claimed = false)
      (build : PoolBuild host (CreateBufferPoolPayload.read source) entryId
        entry.pool backend built) :
      Effect (some .createBufferPool) ⟨built.1,
          { surfaces with
            directory := surfaces.directory.setClaimed entryId true },
          built.2.1, built.2.2, [], []⟩
  | decodeDestroyed {session : VtRealDecodeSession}
      (known : backend.decodeSessions.lookup
        (HandlePayload.read source).handle.toNat = some session) :
      Effect (some .destroySession)
        (.plain { backend with
            decodeSessions := backend.decodeSessions.erase
              (HandlePayload.read source).handle.toNat }
          surfaces Status.ok)
  | encodeDestroyed {sessionId : Nat}
      (named : sessionId = (HandlePayload.read source).handle.toNat)
      (absent : backend.decodeSessions.lookup sessionId = none)
      (live : (backend.sessions.lookup sessionId).isSome) :
      Effect (some .destroySession)
        (.plain ((backend.removeSession sessionId).removePools (backend.poolsOfSession sessionId))
          { surfaces with
            directory := surfaces.directory.releaseEntries
              (backend.entriesOf (backend.poolsOfSession sessionId)) }
          Status.ok)
  | poolUnknown
      (unknown : backend.pools.lookup (HandlePayload.read source).handle.toNat = none) :
      Effect (some .destroyBufferPool) (.plain backend surfaces Status.ok)
  | poolDestroyed {poolId : Nat}
      (named : poolId = (HandlePayload.read source).handle.toNat) :
      Effect (some .destroyBufferPool)
        (.plain (backend.removePools [poolId])
          { surfaces with
            directory := surfaces.directory.releaseEntries (backend.entriesOf [poolId]) }
          Status.ok)
  | unwrapped {status : UInt32} {pool : VtRealPool} {bufferId : Nat}
      {buffer : VtRealBuffer} (failed : status ≠ Status.ok)
      (known : backend.pools.lookup (HandlePayload.read source).handle.toNat = some pool)
      (found : backend.buffers.lookup bufferId = some buffer)
      (inPool : buffer.poolId = pool.id) (free : buffer.state = .recycled) :
      Effect (some .allocBuffer) (.plain (backend.setBuffer bufferId buffer.leased) surfaces status)
  | leased {pool : VtRealPool} {bufferId : Nat} {buffer : VtRealBuffer}
      {pixelBuffer : PixelBuffer} {memory : HostMemory}
      {reply : AllocBufferReply}
      (known : backend.pools.lookup (HandlePayload.read source).handle.toNat = some pool)
      (found : backend.buffers.lookup bufferId = some buffer)
      (inPool : buffer.poolId = pool.id) (free : buffer.state = .recycled)
      (id : reply.bufferId = bufferId)
      (generation : reply.generation = buffer.generation + 1)
      (slot : reply.slotIndex = buffer.slotIndex)
      (offset : reply.slotOffset = UInt32.ofNat buffer.slotOffset) :
      Effect (some .allocBuffer)
        (.ok (backend.setBuffer bufferId (buffer.leased.wrapped pixelBuffer))
          { surfaces with memory := memory } (.lease reply))
  | read {bufferId : Nat} {buffer : VtRealBuffer} {pixelBuffer : PixelBuffer}
      {offset length : UInt32} {bytes : List UInt8}
      (named : bufferId = (BufferRangePayload.read source).bufferId.toNat)
      (found : backend.buffers.lookup bufferId = some buffer)
      (generation : buffer.generation = (BufferRangePayload.read source).generation.toNat)
      (held : buffer.state ≠ .recycled) :
      Effect (some .readBuffer)
        (.ok (backend.setBuffer bufferId (buffer.wrapped pixelBuffer)) surfaces
          (.bufferBytes buffer.id buffer.generation offset length bytes))
  | written {bufferId : Nat} {buffer : VtRealBuffer}
      {pixelBuffer : PixelBuffer} {memory : HostMemory}
      (named : bufferId = (BufferRangePayload.read source).bufferId.toNat)
      (found : backend.buffers.lookup bufferId = some buffer)
      (generation : buffer.generation = (BufferRangePayload.read source).generation.toNat)
      (writable : buffer.state = .guestWritable) :
      Effect (some .writeBuffer)
        (.plain (backend.setBuffer bufferId (buffer.wrapped pixelBuffer))
          { surfaces with memory := memory } Status.ok)
  | recycled {bufferId : Nat} {buffer : VtRealBuffer}
      (named : bufferId = (RecycleBufferPayload.read source).bufferId.toNat)
      (found : backend.buffers.lookup bufferId = some buffer)
      (generation : buffer.generation = (RecycleBufferPayload.read source).generation.toNat)
      (held : buffer.state ≠ .recycled) :
      Effect (some .recycleBuffer) (.plain (backend.setBuffer bufferId
          { buffer with state := .recycled }) surfaces Status.ok)
  | encoded {opcode : Option Opcode} {status : UInt32}
      {buffers : FiniteMap Nat VtRealBuffer} {frames : List EncoderFrame}
      (encodes : Encodes backend { backend with buffers := buffers } frames)
      (named : opcode = some .encodeFrameBatch ∨ opcode = some .encodeFrame ∧
        NamesWritable (EncodeFramePayload.read source) backend) :
      Effect opcode ⟨{ backend with buffers := buffers }, surfaces, status, .empty, frames, []⟩
  | dequeued {opcode : Option Opcode} {sessionId count : Nat}
      {status : UInt32} {body : ReplyBody}
      (limits : dequeueLimits opcode source = some (sessionId, count))
      (answers : status = Status.ok ∨ backend.takenOutputs sessionId count = [])
      (other : ∀ reply, body ≠ .lease reply) :
      Effect opcode
        ⟨{ backend with
            buffers := freed (backend.takenOutputs sessionId count) backend.buffers
            outputState := (backend.outputState.pop sessionId count).2 },
          surfaces, status, body, [], []⟩
  | released {opcode : Option Opcode} {status : UInt32}
      {items : FiniteMap Nat VtRealOutput} (calm : leaseless opcode = true)
      (fewer : ∀ id output, items.lookup id = some output →
        backend.outputState.items.lookup id = some output)
      (others : ∀ id, id ∉ releasedOutputs opcode source →
        items.lookup id = backend.outputState.items.lookup id) :
      Effect opcode
        (.plain { backend with
            outputState := { backend.outputState with items := items } }
          surfaces status)
  | assembled {status : UInt32} {decoded : List DecoderFrame}
      {pending : FiniteMap Nat PendingEncodedFrame}
      (live : (backend.decodeSessions.lookup (EnqueueEncodedFrameChunkPayload.read
          source).sessionId.toNat).isSome)
      (others : ∀ id, id ≠ (EnqueueEncodedFrameChunkPayload.read source).sessionId.toNat →
        pending.lookup id = backend.pendingEncodedFrames.lookup id) :
      Effect (some .enqueueEncodedFrameChunk)
        ⟨{ backend with pendingEncodedFrames := pending }, surfaces, status, .empty, [], decoded⟩
  | configured {opcode : Option Opcode} {status : UInt32} {sessionId : Nat}
      {session later : VtRealDecodeSession} (calm : leaseless opcode = true)
      (named : configuredSession opcode source = some sessionId)
      (known : backend.decodeSessions.lookup sessionId = some session)
      (decoder : later.vtSession = session.vtSession ∨ later.vtSession = none ∨
        opcode = some .setDecodeFormat ∧ status = Status.ok) :
      Effect opcode
        (.plain { backend with
            decodeSessions := backend.decodeSessions.insert sessionId later }
          surfaces status)
  | decodedDequeued {served : Served}
      (dequeue : DecodedDequeue backend surfaces (HandlePayload.read source).handle.toNat served) :
      Effect (some .dequeueDecodedFrame) served
  | decodedReleased {outputId : Nat} {output : VtRealDecodedOutput}
      (named : outputId = (SessionOutputPayload.read source).outputId.toNat)
      (found : backend.decodedOutputState.queue.items.lookup outputId = some output) :
      Effect (some .releaseDecodedFrame)
        (.plain { backend with
            decodedOutputState :=
              { backend.decodedOutputState with
                queue := backend.decodedOutputState.queue.discard outputId } }
          surfaces Status.ok)

variable {host source backend surfaces} {response : List UInt8}

/-! ## Sessions -/

theorem hello_effect :
    Effect host source backend surfaces (some .hello) (hello source backend surfaces) := by
  unfold hello
  repeat' split
  all_goals first
    | exact .refused (by decide)
    | exact .answered rfl nofun

theorem setProperty_effect :
    Effect host source backend surfaces (some .setProperty)
      (setProperty host source backend surfaces) := by
  unfold setProperty
  dsimp only
  repeat' split
  all_goals exact .answered rfl nofun

theorem createSession_effect :
    Effect host source backend surfaces (some .createSession)
      (createSession host source backend surfaces) := by
  unfold createSession
  dsimp only
  split
  · exact .refused (by decide)
  split
  · exact .decodeOpened
  split
  · exact .refused (by decide)
  split
  · exact .idSpent
  · exact .encodeOpened rfl

theorem prepareSession_effect :
    Effect host source backend surfaces (some .prepareSession)
      (prepareSession host source backend surfaces) := by
  unfold prepareSession
  dsimp only
  split
  · exact .refused (by decide)
  split
  · exact .refused (by decide)
  next session known =>
    split
    · exact .refused (by decide)
    · exact .prepared known

theorem destroySession_effect :
    Effect host source backend surfaces (some .destroySession)
      (destroySession source backend surfaces) := by
  unfold destroySession
  dsimp only
  split
  · exact .refused (by decide)
  split
  next decodes =>
    obtain ⟨session, known⟩ := Option.isSome_iff_exists.mp decodes
    exact .decodeDestroyed known
  next encodes =>
    split
    · exact .refused (by decide)
    next live =>
      exact .encodeDestroyed rfl (Option.not_isSome_iff_eq_none.mp encodes)
        (Option.isSome_iff_ne_none.mpr (mt Option.isNone_iff_eq_none.mpr live))

/-! ## Pools and buffers -/

theorem createBufferPool_effect :
    Effect host source backend surfaces (some .createBufferPool)
      (createBufferPool host source backend surfaces) := by
  rcases createBufferPool_cases host source backend surfaces with
    ⟨_, failed, _, result⟩ |
    ⟨entryId, entry, reaches, matched, present, unclaimed, result⟩
  · rw [result]
    exact .refused failed
  · rw [result]
    exact .entryClaimed reaches matched present unclaimed (buildPool_cases ..)

theorem destroyBufferPool_effect :
    Effect host source backend surfaces (some .destroyBufferPool)
      (destroyBufferPool source backend surfaces) := by
  unfold destroyBufferPool
  dsimp only
  split
  · exact .refused (by decide)
  split
  next unknown => exact .poolUnknown unknown
  · exact .poolDestroyed rfl

theorem allocBuffer_effect :
    Effect host source backend surfaces (some .allocBuffer)
      (allocBuffer host source backend surfaces) := by
  unfold allocBuffer
  split
  · exact .refused (by decide)
  split
  · exact .refused (by decide)
  next pool known =>
    dsimp only
    split
    · exact .refused (by decide)
    next bufferId buffer chosen =>
      obtain ⟨found, inPool, free⟩ :=
        mem_freeBuffers.mp (mem_of_getElem? chosen)
      split
      next status ensured =>
        exact .unwrapped (vtfEnsureSourcePixelBuffer_error ensured) known found inPool free
      next ready pixelBuffer ensured =>
        obtain rfl := vtfEnsureSourcePixelBuffer_ok ensured
        exact .leased known found inPool free rfl rfl rfl rfl

theorem readBuffer_effect :
    Effect host source backend surfaces (some .readBuffer)
      (readBuffer host source response backend surfaces) := by
  unfold readBuffer
  split
  · exact .refused (by decide)
  dsimp only
  split
  · exact .refused (by decide)
  next buffer found =>
    split
    · exact .refused (by decide)
    next same =>
      split
      · exact .refused (by decide)
      next held =>
        split
        · exact .refused (by decide)
        split
        · exact .refused (by decide)
        split
        next status ensured => exact .refused (vtfEnsureSourcePixelBuffer_error ensured)
        next ready pixelBuffer ensured =>
          obtain rfl := vtfEnsureSourcePixelBuffer_ok ensured
          exact .read rfl found (Decidable.not_not.mp same) held

theorem writeBuffer_effect :
    Effect host source backend surfaces (some .writeBuffer)
      (writeBuffer host source backend surfaces) := by
  unfold writeBuffer
  split
  · exact .refused (by decide)
  dsimp only
  split
  · exact .refused (by decide)
  split
  · exact .refused (by decide)
  next buffer found =>
    split
    · exact .refused (by decide)
    next same =>
      split
      · exact .refused (by decide)
      next writable =>
        split
        · exact .refused (by decide)
        split
        next status ensured => exact .refused (vtfEnsureSourcePixelBuffer_error ensured)
        next ready pixelBuffer ensured =>
          obtain rfl := vtfEnsureSourcePixelBuffer_ok ensured
          exact .written rfl found (Decidable.not_not.mp same) (Decidable.not_not.mp writable)

theorem recycleBuffer_effect :
    Effect host source backend surfaces (some .recycleBuffer)
      (recycleBuffer source backend surfaces) := by
  unfold recycleBuffer
  split
  · exact .refused (by decide)
  dsimp only
  split
  next buffer _ found =>
    split
    · exact .refused (by decide)
    split
    · exact .refused (by decide)
    next same =>
      split
      · exact .refused (by decide)
      next held => exact .recycled rfl found (Decidable.not_not.mp same) held
  · exact .refused (by decide)

/-! ## Encoding -/

theorem encodeFrame_effect :
    Effect host source backend surfaces (some .encodeFrame)
      (encodeFrame host source backend surfaces) := by
  unfold encodeFrame
  split
  · exact .refused (by decide)
  rcases encodeFramePayload_cases host 0 (EncodeFramePayload.read source)
      backend with ⟨status, failed, refused⟩ | ⟨names, encodes⟩
  · rw [refused]
    exact .refused failed
  · dsimp only
    generalize encodeFramePayload host 0 (EncodeFramePayload.read source)
      backend = result at encodes ⊢
    obtain ⟨after, status, frame⟩ := result
    have same := encodes.eq
    dsimp only at same encodes ⊢
    generalize after.buffers = buffers at same
    subst same
    exact .encoded encodes (Or.inr ⟨rfl, names⟩)

theorem encodeFrameBatch_effect :
    Effect host source backend surfaces (some .encodeFrameBatch)
      (encodeFrameBatch host source backend surfaces) := by
  unfold encodeFrameBatch
  split
  · exact .refused (by decide)
  dsimp only
  obtain ⟨frames, encodes, all⟩ := encodeFrames_encodes host
    (EncodeFrameBatchPayload.read source).sessionId
    ((EncodeFrameBatchPayload.read source).frames.take
      (min (EncodeFrameBatchPayload.read source).frameCount.toNat maxEncodeBatch)) 0 backend []
  rw [all]
  have same := encodes.eq
  generalize (encodeFrames ..).1 = after at same encodes ⊢
  generalize after.buffers = buffers at same
  subst same
  exact .encoded encodes (Or.inl rfl)

/-! ## Outputs -/

theorem effect_afterTaking {opcode : Option Opcode} {sessionId count : Nat}
    {status : UInt32} {body : ReplyBody}
    (limits : dequeueLimits opcode source = some (sessionId, count))
    (answers : status = Status.ok ∨ backend.takenOutputs sessionId count = [])
    (other : ∀ reply, body ≠ .lease reply) :
    Effect host source backend surfaces opcode
      ⟨backend.afterTaking sessionId count, surfaces, status, body, [], []⟩ := by
  rw [afterTaking_eq]
  exact .dequeued limits answers other

theorem dequeueOutput_effect :
    Effect host source backend surfaces (some .dequeueOutput)
      (dequeueOutput source backend surfaces) := by
  unfold dequeueOutput
  split
  · exact .refused (by decide)
  dsimp only [popOutputs, answerDequeue, Served.plain, Served.ok]
  split
  next none =>
    have taken : backend.takenOutputs (HandlePayload.read source).handle.toNat 1 = [] := none
    rw [← afterTaking_of_none taken]
    exact effect_afterTaking rfl (Or.inr taken) nofun
  next output rest some =>
    have taken : backend.takenOutputs
        (HandlePayload.read source).handle.toNat 1 = output :: rest := some
    obtain rfl := takenOutputs_one taken
    rw [← taken]
    exact effect_afterTaking rfl (Or.inl rfl) nofun

theorem dequeueOutputBatch_effect :
    Effect host source backend surfaces (some .dequeueOutputBatch)
      (dequeueOutputBatch source backend surfaces) := by
  unfold dequeueOutputBatch
  split
  · exact .refused (by decide)
  dsimp only [popOutputs, answerDequeueBatch, Served.plain, Served.ok]
  split
  next none =>
    have taken : backend.takenOutputs (DequeueOutputBatchPayload.read source).sessionId.toNat
        (OutputQueue.batchLimit (DequeueOutputBatchPayload.read source).maxOutputs) = [] :=
      isEmpty_iff.mp none
    rw [← afterTaking_of_none taken]
    exact effect_afterTaking rfl (Or.inr taken) nofun
  · exact effect_afterTaking rfl (Or.inl rfl) nofun

theorem readOutput_backend : (readOutput source response backend surfaces).backend = backend := by
  unfold readOutput
  dsimp only
  repeat' split
  all_goals rfl

theorem readOutput_effect :
    Effect host source backend surfaces (some .readOutput)
      (readOutput source response backend surfaces) := by
  unfold readOutput
  dsimp only
  repeat' split
  all_goals exact .answered rfl nofun

theorem drain_effect :
    Effect host source backend surfaces (some .drain) (drain host source backend surfaces) := by
  unfold drain
  dsimp only
  repeat' split
  all_goals exact .answered rfl (fun _ same => by cases same)

section Releases

variable {outputId : UInt64} {outputIds : List UInt64}

theorem releaseOutputIds_unknown
    (unknown : backend.outputState.items.lookup outputId.toNat = none) :
    releaseOutputIds (outputId :: outputIds) backend = (backend, Status.invalidHandle) := by
  rw [releaseOutputIds, releaseOutputId, unknown]
  rfl

theorem releaseOutputIds_known {output : VtRealOutput}
    (known : backend.outputState.items.lookup outputId.toNat = some output) :
    releaseOutputIds (outputId :: outputIds) backend =
      releaseOutputIds outputIds { backend with
        outputState := backend.outputState.discard outputId.toNat } := by
  rw [releaseOutputIds, releaseOutputId, known]
  rfl

theorem lookup_discard {other : Nat} :
    (backend.outputState.discard outputId.toNat).items.lookup other =
      if other = outputId.toNat then none
      else backend.outputState.items.lookup other :=
  FiniteMap.lookup_erase_eq ..

theorem releaseOutputId_eq_ids (outputId : UInt64) (backend : VtRealBackend) :
    backend.releaseOutputId outputId.toNat =
      releaseOutputIds [outputId] backend := by
  cases found : backend.outputState.items.lookup outputId.toNat with
  | none => rw [releaseOutputIds_unknown found, releaseOutputId, found]
  | some output =>
    rw [releaseOutputIds_known found, releaseOutputId, found]
    rfl

theorem releaseOutputIds_eq (outputIds : List UInt64) (backend : VtRealBackend) :
    ∃ items, (∀ id output, items.lookup id = some output →
        backend.outputState.items.lookup id = some output) ∧
      (∀ id, id ∉ outputIds.map (·.toNat) → items.lookup id = backend.outputState.items.lookup id) ∧
      (releaseOutputIds outputIds backend).1 =
        { backend with
          outputState := { backend.outputState with items := items } } := by
  induction outputIds generalizing backend with
  | nil => exact ⟨_, fun _ _ kept => kept, fun _ _ => rfl, rfl⟩
  | cons outputId rest induction =>
    cases found : backend.outputState.items.lookup outputId.toNat with
    | none =>
      rw [releaseOutputIds_unknown found]
      exact ⟨_, fun _ _ kept => kept, fun _ _ => rfl, rfl⟩
    | some output =>
      rw [releaseOutputIds_known found]
      obtain ⟨items, fewer, others, result⟩ := induction
        { backend with
          outputState := backend.outputState.discard outputId.toNat }
      refine ⟨items, ?_, ?_, result⟩
      · intro id output kept
        have left := fewer id output kept
        rw [lookup_discard] at left
        split at left
        · cases left
        · exact left
      · intro id unlisted
        rw [map_cons, mem_cons, not_or] at unlisted
        rw [others id unlisted.2, lookup_discard, if_neg unlisted.1]

end Releases

theorem releaseOutput_effect :
    Effect host source backend surfaces (some .releaseOutput)
      (releaseOutput source backend surfaces) := by
  unfold releaseOutput
  split
  · exact .refused (by decide)
  rw [releaseOutputId_eq_ids]
  obtain ⟨items, fewer, others, result⟩ := releaseOutputIds_eq
    [(HandlePayload.read source).handle] backend
  dsimp only
  rw [result]
  exact .released rfl fewer others

theorem releaseOutputBatch_effect :
    Effect host source backend surfaces (some .releaseOutputBatch)
      (releaseOutputBatch source backend surfaces) := by
  unfold releaseOutputBatch
  split
  · exact .refused (by decide)
  obtain ⟨items, fewer, others, result⟩ := releaseOutputIds_eq
    ((ReleaseOutputBatchPayload.read source).outputIds.take
      (min (ReleaseOutputBatchPayload.read source).outputCount.toNat maxOutputBatch)) backend
  dsimp only
  rw [result]
  exact .released rfl fewer others

/-! ## Decoding -/

theorem enqueueEncodedFrame_effect :
    Effect host source backend surfaces (some .enqueueEncodedFrame)
      (enqueueEncodedFrame host source backend surfaces) := by
  unfold enqueueEncodedFrame
  dsimp only
  repeat' split
  all_goals exact .answered rfl nofun

theorem enqueueEncodedFrameChunk_effect :
    Effect host source backend surfaces (some .enqueueEncodedFrameChunk)
      (enqueueEncodedFrameChunk host source backend surfaces) := by
  unfold enqueueEncodedFrameChunk
  dsimp only
  split
  · exact .answered rfl nofun
  split
  · exact .answered rfl nofun
  next present =>
    have live := Option.isSome_iff_ne_none.mpr (mt Option.isNone_iff_eq_none.mpr present)
    split
    · exact .answered rfl nofun
    split
    · refine .assembled live ?_
      intro id other
      rw [FiniteMap.lookup_insert_eq, if_neg other]
    have erased : ∀ id, id ≠ (EnqueueEncodedFrameChunkPayload.read source).sessionId.toNat →
        (backend.pendingEncodedFrames.erase (EnqueueEncodedFrameChunkPayload.read
            source).sessionId.toNat).lookup id =
          backend.pendingEncodedFrames.lookup id := by
      intro id other
      rw [FiniteMap.lookup_erase_eq, if_neg other]
    split
    · exact .assembled live erased
    · exact .assembled live erased

theorem setDecodeFormat_effect :
    Effect host source backend surfaces (some .setDecodeFormat)
      (setDecodeFormat host source backend surfaces) := by
  unfold setDecodeFormat
  dsimp only
  repeat' split
  all_goals first
    | exact .answered rfl nofun
    | exact .configured rfl rfl (by assumption) (by simp [*])

theorem bindDecodeOutputPool_effect :
    Effect host source backend surfaces (some .bindDecodeOutputPool)
      (bindDecodeOutputPool source backend surfaces) := by
  unfold bindDecodeOutputPool
  dsimp only
  repeat' split
  all_goals first
    | exact .answered rfl nofun
    | exact .configured rfl rfl (by assumption) (by simp [*])

theorem dequeueDecodedFrame_cases :
    DecodedDequeue backend surfaces (HandlePayload.read source).handle.toNat
      (dequeueDecodedFrame source backend surfaces) := by
  unfold dequeueDecodedFrame
  dsimp only
  generalize (HandlePayload.read source).handle.toNat = sessionId
  split
  · exact .refused (by decide)
  cases known : backend.decodeSessions.lookup sessionId with
  | none => exact .refused (by decide)
  | some session =>
    cases waiting : backend.decodedOutputState.queue.lane sessionId with
    | nil =>
      simp only [TicketQueue.pop, waiting, take_nil, DecodedOutputQueue.takeDecodeError]
      cases recorded : backend.decodedOutputState.decodeErrors.lookup sessionId with
      | none => exact .drained known waiting recorded
      | some status => exact .error known waiting recorded
    | cons ticket rest =>
      simp only [TicketQueue.pop, waiting, take_succ_cons,
        take_zero, TicketQueue.collect, filterMap_cons,
        filterMap_nil]
      cases found : backend.decodedOutputState.queue.items.lookup ticket with
      | none => exact .lost known waiting found
      | some output => exact .frame known waiting found

theorem releaseDecodedFrame_cases (source : List UInt8)
    (backend : VtRealBackend) (surfaces : Surfaces) :
    (∃ status, status ≠ Status.ok ∧ releaseDecodedFrame source backend surfaces =
        .plain backend surfaces status) ∨
    ∃ output, backend.decodedOutputState.queue.items.lookup
        (SessionOutputPayload.read source).outputId.toNat = some output ∧
      releaseDecodedFrame source backend surfaces =
        .plain { backend with
            decodedOutputState :=
              { backend.decodedOutputState with
                queue := backend.decodedOutputState.queue.discard
                  (SessionOutputPayload.read source).outputId.toNat } }
          surfaces Status.ok := by
  unfold releaseDecodedFrame
  dsimp only
  split
  · exact Or.inl ⟨_, by decide, rfl⟩
  split
  · exact Or.inl ⟨_, by decide, rfl⟩
  next output found => exact Or.inr ⟨output, found, rfl⟩

theorem releaseDecodedFrame_effect :
    Effect host source backend surfaces (some .releaseDecodedFrame)
      (releaseDecodedFrame source backend surfaces) := by
  rcases releaseDecodedFrame_cases source backend surfaces with
    ⟨_, failed, result⟩ | ⟨_, found, result⟩
  · rw [result]
    exact .refused failed
  · rw [result]
    exact .decodedReleased rfl found

theorem readDecodedFrame_backend :
    (readDecodedFrame host source response backend surfaces).backend =
      backend := by
  unfold readDecodedFrame
  dsimp only
  repeat' split
  all_goals rfl

theorem readDecodedFrame_effect :
    Effect host source backend surfaces (some .readDecodedFrame)
      (readDecodedFrame host source response backend surfaces) := by
  unfold readDecodedFrame
  dsimp only
  repeat' split
  all_goals exact .answered rfl nofun

theorem readDecodedFrameChunk_backend :
    (readDecodedFrameChunk host source response backend surfaces).backend =
      backend := by
  unfold readDecodedFrameChunk
  dsimp only
  repeat' split
  all_goals rfl

theorem readDecodedFrameChunk_effect :
    Effect host source backend surfaces (some .readDecodedFrameChunk)
      (readDecodedFrameChunk host source response backend surfaces) := by
  unfold readDecodedFrameChunk
  dsimp only
  repeat' split
  all_goals exact .answered rfl nofun

/-! ## All requests -/

theorem dispatch_effect (host : HostCalls) (request : Request)
    (response : List UInt8) (backend : VtRealBackend) (surfaces : Surfaces) :
    Effect host request.payload backend surfaces (Opcode.ofCode? request.opcode)
      (dispatch host request response backend surfaces) := by
  unfold dispatch
  dsimp only
  cases Opcode.ofCode? request.opcode with
  | none => exact .answered rfl nofun
  | some opcode =>
    cases opcode with
    | hello => exact hello_effect
    | ping | getCaps => exact .answered rfl nofun
    | createSession => exact createSession_effect
    | setProperty => exact setProperty_effect
    | prepareSession => exact prepareSession_effect
    | createBufferPool => exact createBufferPool_effect
    | allocBuffer => exact allocBuffer_effect
    | readBuffer => exact readBuffer_effect
    | writeBuffer => exact writeBuffer_effect
    | encodeFrame => exact encodeFrame_effect
    | encodeFrameBatch => exact encodeFrameBatch_effect
    | dequeueOutput => exact dequeueOutput_effect
    | readOutput => exact readOutput_effect
    | releaseOutput => exact releaseOutput_effect
    | dequeueOutputBatch => exact dequeueOutputBatch_effect
    | releaseOutputBatch => exact releaseOutputBatch_effect
    | recycleBuffer => exact recycleBuffer_effect
    | drain => exact drain_effect
    | destroySession => exact destroySession_effect
    | enqueueEncodedFrame => exact enqueueEncodedFrame_effect
    | dequeueDecodedFrame => exact .decodedDequeued dequeueDecodedFrame_cases
    | releaseDecodedFrame => exact releaseDecodedFrame_effect
    | setDecodeFormat => exact setDecodeFormat_effect
    | readDecodedFrame => exact readDecodedFrame_effect
    | bindDecodeOutputPool => exact bindDecodeOutputPool_effect
    | readDecodedFrameChunk => exact readDecodedFrameChunk_effect
    | destroyBufferPool => exact destroyBufferPool_effect
    | enqueueEncodedFrameChunk => exact enqueueEncodedFrameChunk_effect

section Effects

variable {opcode : Option Opcode} {served : Served}

theorem Effect.encodes (effect : Effect host source backend surfaces opcode served) :
    served.encoded = [] ∨ Encodes backend served.backend served.encoded := by
  cases effect with
  | encoded encodes _ => exact Or.inr encodes
  | decodedDequeued dequeue =>
    cases dequeue with
    | _ => exact Or.inl rfl
  | _ => exact Or.inl rfl

theorem Effect.next_le (effect : Effect host source backend surfaces opcode served) :
    backend.nextHostId ≤ served.backend.nextHostId := by
  cases effect with
  | idSpent | decodeOpened | encodeOpened _ => exact Nat.le_succ _
  | entryClaimed _ _ _ _ build => exact build.next_le
  | decodedDequeued dequeue =>
    cases dequeue with
    | _ => exact Nat.le_refl _
  | _ => exact Nat.le_refl _

/-! ## The encode queue -/

/-- How a request may change the encode queue. -/
inductive QueueAfter (queue : OutputQueue) : OutputQueue → Prop
  | same : QueueAfter queue queue
  | popped (sessionId count : Nat) :
      QueueAfter queue (queue.pop sessionId count).2
  | released {items : FiniteMap Nat VtRealOutput}
      (fewer : ∀ id output, items.lookup id = some output → queue.items.lookup id = some output) :
      QueueAfter queue { queue with items := items }
  | removed (sessionId : Nat) :
      QueueAfter queue
        { queue with
          lanes := queue.lanes.erase sessionId
          items := queue.items.retain fun _ output =>
            output.reply.sessionId != sessionId }

theorem Effect.queueAfter (effect : Effect host source backend surfaces opcode served) :
    QueueAfter backend.outputState served.backend.outputState := by
  cases effect with
  | entryClaimed _ _ _ _ build =>
    rw [build.outputState]
    exact .same
  | encodeDestroyed _ _ _ => exact .removed _
  | dequeued _ _ _ => exact .popped _ _
  | released _ fewer _ => exact .released fewer
  | decodedDequeued dequeue =>
    cases dequeue with
    | _ => exact .same
  | _ => exact .same

variable {queue later : OutputQueue} {id : Nat}

theorem QueueAfter.items (after : QueueAfter queue later)
    {output : VtRealOutput} (found : later.items.lookup id = some output) :
    queue.items.lookup id = some output := by
  cases after with
  | same => exact found
  | popped _ _ => exact found
  | released fewer => exact fewer id output found
  | removed _ => exact FiniteMap.lookup_of_retain found

theorem QueueAfter.lanes (after : QueueAfter queue later)
    {tickets : List Nat} (known : later.lanes.lookup id = some tickets) :
    ∃ earlier, queue.lanes.lookup id = some earlier := by
  cases after with
  | same | released _ => exact ⟨tickets, known⟩
  | popped sessionId count =>
    dsimp only [TicketQueue.pop] at known
    rw [FiniteMap.lookup_modify] at known
    split at known
    · obtain ⟨earlier, was, _⟩ := Option.map_eq_some_iff.mp known
      exact ⟨earlier, was⟩
    · exact ⟨tickets, known⟩
  | removed _ => exact ⟨tickets, FiniteMap.lookup_of_erase known⟩

theorem QueueAfter.next (after : QueueAfter queue later) : later.next = queue.next := by
  cases after with
  | same => rfl
  | popped _ _ => rfl
  | released _ => rfl
  | removed _ => rfl

theorem QueueAfter.lane (after : QueueAfter queue later) (sessionId : Nat) :
    (later.lane sessionId).Sublist (queue.lane sessionId) := by
  cases after with
  | same => exact List.Sublist.refl _
  | popped popped count =>
    rw [TicketQueue.lane_pop]
    split
    · exact drop_sublist _ _
    · exact List.Sublist.refl _
  | released _ => exact List.Sublist.refl _
  | removed removed =>
    unfold TicketQueue.lane
    dsimp only
    rw [FiniteMap.lookup_erase_eq]
    split
    · exact nil_sublist _
    · exact List.Sublist.refl _

theorem Effect.items (effect : Effect host source backend surfaces opcode served) (id : Nat)
    (output : VtRealOutput)
    (found : served.backend.outputState.items.lookup id = some output) :
    backend.outputState.items.lookup id = some output :=
  effect.queueAfter.items found

end Effects

end VtRealBackend

end VtFerry
