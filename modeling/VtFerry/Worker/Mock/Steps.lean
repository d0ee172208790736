import VtFerry.Worker.Mock

/-!
# What a request does to the mock backend

`Step` lists what a dispatched request can leave and answer, with what it has
checked by then.  Whatever is to be shown of every request is a case analysis
over it.
-/

namespace VtFerry

open KeyedList Mock

namespace MockBackend

/-- Requests that name no lease and give out none. -/
def leaseless : Option Opcode → Bool
  | some .allocBuffer | some .readBuffer | some .writeBuffer
  | some .recycleBuffer | some .encodeFrame | some .destroySession => false
  | _ => true

variable (capacity : Nat) (source : List UInt8) (backend : MockBackend)

inductive Step : Option Opcode → Served → Prop
  | refused {opcode : Option Opcode} {status : UInt32}
      (failed : status = Status.ok → opcode = some .createBufferPool) :
      Step opcode (backend.refuse status)
  | answered {opcode : Option Opcode} {body : ReplyBody}
      (calm : leaseless opcode = true) (other : ∀ reply, body ≠ .lease reply) :
      Step opcode (backend.write capacity body)
  | done {opcode : Option Opcode} (calm : leaseless opcode = true) :
      Step opcode ⟨backend, Status.ok, some .empty⟩
  | sessionMade {session : Mock.Session} {reply : CreateSessionReply}
      (id : session.id = backend.nextHostId) :
      Step (some .createSession) (write
          { backend with
            nextHostId := backend.nextHostId + 1
            sessions := backend.sessions ++ [session] }
          capacity (.session reply))
  | prepared (sessionId : Nat) :
      Step (some .prepareSession)
        ⟨{ backend with
            sessions := modifyFirst (fun session => session.id == sessionId)
              (fun session => { session with prepared := true })
              backend.sessions },
          Status.ok, some .empty⟩
  | poolMade (payload : CreateBufferPoolPayload) :
      Step (some .createBufferPool) (write
          { backend with
            nextHostId := backend.nextHostId + 1
            pools := backend.pools ++ [newPool payload backend.nextHostId] }
          capacity (poolReply payload backend.nextHostId))
  | reused {pool : Pool} {buffer : Buffer}
      (found : backend.findPool pool.id = some pool)
      (free : backend.buffers.find? (recyclable pool.id) = some buffer)
      (named : pool.id = (HandlePayload.read source).handle.toNat) :
      Step (some .allocBuffer) (reuseBuffer capacity pool buffer backend)
  | slotOpened {pool : Pool} {start : Nat}
      (found : backend.findPool pool.id = some pool)
      (below : pool.bufferCount < pool.maxBuffers)
      (range : slotRange pool.bufferCount pool.slotRegionSize pool.backing.length = some start)
      (named : pool.id = (HandlePayload.read source).handle.toNat) :
      Step (some .allocBuffer) ((backend.openSlot pool start).write capacity
          (leaseReply (newBuffer pool backend.nextHostId)))
  | read {buffer : Buffer} {offset length : UInt32} {bytes : List UInt8}
      (found : backend.findBuffer (BufferRangePayload.read source).bufferId.toNat = some buffer)
      (generation : buffer.generation = (BufferRangePayload.read source).generation.toNat)
      (held : buffer.state ≠ .recycled) :
      Step (some .readBuffer)
        (backend.write capacity (.bufferBytes buffer.id buffer.generation offset length bytes))
  | written {buffer : Buffer} {pool : Pool} {start : Nat}
      (found : backend.findBuffer (BufferRangePayload.read source).bufferId.toNat = some buffer)
      (generation : buffer.generation = (BufferRangePayload.read source).generation.toNat)
      (writable : buffer.state = .guestWritable)
      (poolFound : backend.findPool buffer.poolId = some pool)
      (range : slotRange buffer.slotIndex pool.slotRegionSize pool.backing.length = some start)
      (inside : (BufferRangePayload.read source).offset.toNat +
        (source.drop BufferRangePayload.size).length ≤ buffer.totalSize) :
      Step (some .writeBuffer) ⟨backend.modifyPool pool.id fun pool =>
            { pool with
              backing := overwrite pool.backing
                (start + (BufferRangePayload.read source).offset.toNat)
                (source.drop BufferRangePayload.size) },
          Status.ok, some .empty⟩
  | recycled {buffer : Buffer}
      (found : backend.findBuffer (RecycleBufferPayload.read source).bufferId.toNat = some buffer)
      (generation : buffer.generation = (RecycleBufferPayload.read source).generation.toNat)
      (held : buffer.state ≠ .recycled) :
      Step (some .recycleBuffer)
        ⟨backend.modifyBuffer buffer.id fun buffer =>
            { buffer with state := .recycled },
          Status.ok, some .empty⟩
  | queued {session : Mock.Session} {buffer : Buffer} {picture : List UInt8}
      (found : backend.findBuffer
        (EncodeFramePayload.read source).imageBufferHostId.toNat = some buffer)
      (generation : buffer.generation =
        (EncodeFramePayload.read source).imageBufferGeneration.toNat)
      (writable : buffer.state = .guestWritable) :
      Step (some .encodeFrame)
        (encodePicture session buffer (EncodeFramePayload.read source) picture backend)
  | taken {opcode : Option Opcode} (sessionId count : Nat)
      {body : ReplyBody} (calm : leaseless opcode = true)
      (other : ∀ reply, body ≠ .lease reply)
      (small : body.size ≤ 16 + maxOutputBatch * 232) :
      Step opcode ((takeOutputs sessionId count backend []).1.write capacity body)
  | released {output : Output} {isNamed : Output → Bool}
      (found : backend.outputs.find? isNamed = some output) :
      Step (some .releaseOutput)
        ⟨{ backend.modifyBuffer output.sourceBufferId (unqueue output.sourceBufferGeneration) with
            outputs := backend.outputs.eraseP isNamed
            outputBytesTotal :=
              backend.outputBytesTotal - output.reply.sampleSize.toNat },
          Status.ok, some .empty⟩
  | destroyed {sessionId : Nat}
      (named : sessionId = (HandlePayload.read source).handle.toNat) :
      Step (some .destroySession)
        ⟨{ (backend.removeOutputsForSession sessionId).removePoolsForSession sessionId with
            sessions := backend.sessions.filter fun session =>
              session.id != sessionId },
          Status.ok, some .empty⟩

variable {capacity source backend}

theorem findPool_self {id : Nat} {pool : Pool} (found : backend.findPool id = some pool) :
    backend.findPool pool.id = some pool := by
  have same : pool.id = id := key_of_find found
  rw [same]
  exact found

/-! ## The handlers -/

theorem createSession_step : Step capacity source backend
    (some .createSession) (createSession capacity source backend) := by
  unfold createSession
  split
  · exact .refused nofun
  split
  · exact .refused nofun
  · exact .sessionMade rfl

theorem createBufferPool_step : Step capacity source backend
    (some .createBufferPool) (createBufferPool capacity source backend) := by
  unfold createBufferPool
  dsimp only
  repeat' split
  all_goals first
    | exact .refused fun _ => rfl
    | exact .poolMade _

theorem setProperty_step : Step capacity source backend (some .setProperty)
    (setProperty source backend) := by
  unfold setProperty
  split
  · exact .refused nofun
  split
  · exact .refused nofun
  · exact .done rfl

theorem prepareSession_step : Step capacity source backend
    (some .prepareSession) (prepareSession source backend) := by
  unfold prepareSession
  dsimp only
  split
  · exact .refused nofun
  split
  · exact .refused nofun
  · exact .prepared _

theorem drain_step : Step capacity source backend (some .drain)
    (drain capacity source backend) := by
  unfold drain
  dsimp only
  split
  · exact .refused nofun
  split
  · exact .refused nofun
  · exact .answered rfl (by simp)

theorem allocBuffer_step : Step capacity source backend (some .allocBuffer)
    (allocBuffer capacity source backend) := by
  unfold allocBuffer
  split
  · exact .refused nofun
  split
  · exact .refused nofun
  next pool found =>
    split
    next buffer free => exact .reused (findPool_self found) free (key_of_find found)
    · unfold openBuffer
      split
      · exact .refused nofun
      next room =>
        split
        · exact .refused nofun
        next start range =>
          exact .slotOpened (findPool_self found)
            (UInt32.not_le.mp fun full => room (.inl full)) range
            (key_of_find found)

theorem readBuffer_step : Step capacity source backend (some .readBuffer)
    (readBuffer capacity source backend) := by
  unfold readBuffer
  dsimp only
  repeat' split
  all_goals try exact .refused nofun
  next buffer found generation held _ _ _ _ _ _ _ =>
    exact .read found (Decidable.not_not.mp generation) held

theorem writeBuffer_step : Step capacity source backend (some .writeBuffer)
    (writeBuffer source backend) := by
  unfold writeBuffer
  dsimp only
  repeat' split
  all_goals try exact .refused nofun
  next buffer found generation writable bounds _ pool poolFound _ start range =>
    refine .written found (Decidable.not_not.mp generation)
      (Decidable.not_not.mp writable) poolFound range ?_
    rw [List.length_drop]
    simp only [outOfBounds, Bool.or_eq_true, decide_eq_true_eq, not_or] at bounds
    omega

theorem recycleBuffer_step : Step capacity source backend
    (some .recycleBuffer) (recycleBuffer source backend) := by
  unfold recycleBuffer
  dsimp only
  repeat' split
  all_goals try exact .refused nofun
  next pool buffer _ found _ generation held =>
    exact .recycled found (Decidable.not_not.mp generation) held

theorem encodeFrame_step : Step capacity source backend (some .encodeFrame)
    (encodeFrame source backend) := by
  unfold encodeFrame
  dsimp only
  repeat' split
  all_goals try exact .refused nofun
  next buffer found generation writable _ _ _ _ _ _ =>
    exact .queued found (Decidable.not_not.mp generation) (Decidable.not_not.mp writable)

theorem takeOutputs_isPrefix (sessionId remaining : Nat)
    (backend : MockBackend) (replies : List DequeueOutputReply) :
    replies <+: (takeOutputs sessionId remaining backend replies).2 := by
  induction remaining generalizing backend replies with
  | zero => exact List.prefix_rfl
  | succ remaining induction =>
    rw [takeOutputs]
    split
    · exact List.prefix_rfl
    next reply taken took =>
      exact (List.prefix_append replies [reply]).trans (induction taken (replies ++ [reply]))

theorem takeOutputs_empty {sessionId remaining : Nat}
    (empty : (takeOutputs sessionId remaining backend []).2 = []) :
    (takeOutputs sessionId remaining backend []).1 = backend := by
  cases remaining with
  | zero => rfl
  | succ remaining =>
    rw [takeOutputs] at empty ⊢
    split at empty
    · rfl
    next reply taken took =>
      have kept := takeOutputs_isPrefix sessionId remaining taken [reply]
      rw [List.nil_append] at empty
      rw [empty] at kept
      exact absurd (List.prefix_nil.mp kept) (List.cons_ne_nil _ _)

theorem dequeueOutput_step : Step capacity source backend
    (some .dequeueOutput) (dequeueOutput capacity source backend) := by
  unfold dequeueOutput
  split
  · exact .refused nofun
  split
  · exact .refused nofun
  next reply taken took =>
    have one : takeOutputs (HandlePayload.read source).handle.toNat 1
        backend [] = (taken, [reply]) := by
      rw [takeOutputs, took]
      rfl
    have step : Step capacity source backend (some .dequeueOutput)
        ((takeOutputs _ 1 backend []).1.write capacity (.output reply)) :=
      .taken (HandlePayload.read source).handle.toNat _ rfl (by simp)
        (by simp [ReplyBody.size, maxOutputBatch])
    rwa [one] at step

theorem dequeueOutputBatch_step : Step capacity source backend (some .dequeueOutputBatch)
    (dequeueOutputBatch capacity source backend) := by
  unfold dequeueOutputBatch
  split
  · exact .refused nofun
  · dsimp only
    split
    next empty =>
      rw [takeOutputs_empty (List.isEmpty_iff.mp empty)]
      exact .refused nofun
    · exact .taken _ _ rfl (by simp) (Nat.le_refl _)

theorem readOutput_step : Step capacity source backend (some .readOutput)
    (readOutput capacity source backend) := by
  unfold readOutput
  dsimp only
  split
  · exact .refused nofun
  split
  · exact .refused nofun
  · exact .answered rfl (by simp)

theorem releaseOutput_step : Step capacity source backend
    (some .releaseOutput) (releaseOutput source backend) := by
  unfold releaseOutput
  dsimp only
  split
  · exact .refused nofun
  split
  · exact .refused nofun
  next found => exact .released found

theorem destroySession_step : Step capacity source backend
    (some .destroySession) (destroySession source backend) := by
  unfold destroySession
  dsimp only
  split
  · exact .refused nofun
  split
  · exact .refused nofun
  · exact .destroyed rfl

theorem dispatch_step (version : UInt16) (request : Request) :
    Step capacity request.payload backend (Opcode.ofCode? request.opcode)
      (dispatch capacity version request backend) := by
  unfold dispatch
  dsimp only
  split
  · exact .refused nofun
  · cases Opcode.ofCode? request.opcode with
    | none => exact .refused nofun
    | some opcode =>
      cases opcode with
      | hello | getCaps => exact .answered rfl (by simp)
      | ping => exact .done rfl
      | createSession => exact createSession_step
      | createBufferPool => exact createBufferPool_step
      | allocBuffer => exact allocBuffer_step
      | readBuffer => exact readBuffer_step
      | writeBuffer => exact writeBuffer_step
      | recycleBuffer => exact recycleBuffer_step
      | setProperty => exact setProperty_step
      | prepareSession => exact prepareSession_step
      | encodeFrame => exact encodeFrame_step
      | dequeueOutput => exact dequeueOutput_step
      | dequeueOutputBatch => exact dequeueOutputBatch_step
      | readOutput => exact readOutput_step
      | releaseOutput => exact releaseOutput_step
      | destroySession => exact destroySession_step
      | drain => exact drain_step
      | _ => exact .refused nofun

end MockBackend

end VtFerry
