import VtFerry.Worker.VtReal.PoolEffects

/-!
# What the buffer requests do

`ALLOC_BUFFER`, `READ_BUFFER`, `WRITE_BUFFER`, `RECYCLE_BUFFER` and the encode
requests write at most one buffer at a time: `Encodes` is a run of the encoder
over the frames of a request.  A dequeue frees the source buffers of the outputs
it takes.
-/

namespace VtFerry

open LeaseTable

/-- The buffer once its pixel buffer is there: the one it has, or else the
given one. -/
def VtRealBuffer.wrapped (buffer : VtRealBuffer) (pixelBuffer : PixelBuffer) :
    VtRealBuffer :=
  { buffer with pixelBuffer := some (buffer.pixelBuffer.getD pixelBuffer) }

def VtRealBuffer.leased (buffer : VtRealBuffer) : VtRealBuffer :=
  { buffer with
    generation := buffer.generation + 1
    state := .guestWritable }

def FrameContext.lease (frame : FrameContext) : Lease :=
  ⟨frame.bufferId, frame.bufferGeneration⟩

def VtRealOutput.lease (output : VtRealOutput) : Lease :=
  ⟨output.sourceBufferId, output.sourceBufferGeneration⟩

namespace VtRealBackend

variable {host : HostCalls} {source response : List UInt8}
variable {backend : VtRealBackend} {surfaces : Surfaces}

@[simp] theorem lookup_setBuffer (backend : VtRealBackend) (bufferId : Nat)
    (buffer : VtRealBuffer) (id : Nat) :
    (backend.setBuffer bufferId buffer).buffers.lookup id =
      if id = bufferId then some buffer else backend.buffers.lookup id :=
  FiniteMap.lookup_insert_eq backend.buffers bufferId id buffer

variable {buffer : VtRealBuffer}

theorem vtfEnsureSourcePixelBuffer_ok {ready : VtRealBuffer} {pixelBuffer : PixelBuffer}
    (ensured : vtfEnsureSourcePixelBuffer host buffer = .ok (ready, pixelBuffer)) :
    ready = buffer.wrapped pixelBuffer := by
  unfold vtfEnsureSourcePixelBuffer at ensured
  split at ensured
  next present =>
    cases ensured
    rw [VtRealBuffer.wrapped, present, Option.getD_some, ← present]
  next absent =>
    split at ensured
    · cases ensured
    split at ensured
    · cases ensured
      rw [VtRealBuffer.wrapped, absent]
      rfl
    split at ensured
    · cases ensured
    · cases ensured

theorem vtfEnsureSourcePixelBuffer_error {status : UInt32}
    (ensured : vtfEnsureSourcePixelBuffer host buffer = .error status) :
    status ≠ Status.ok := by
  unfold vtfEnsureSourcePixelBuffer at ensured
  split at ensured
  · cases ensured
  split at ensured
  · cases ensured
    decide
  split at ensured
  · cases ensured
  split at ensured
  next nonzero _ =>
    cases ensured
    intro zero
    apply nonzero
    rw [← Int32.toInt32_toUInt32 host.wrapStatus, zero]
    rfl
  · cases ensured
    decide

/-! ## Leasing -/

theorem mem_freeBuffers {poolId bufferId : Nat} :
    ⟨bufferId, buffer⟩ ∈ backend.freeBuffers poolId ↔
      backend.buffers.lookup bufferId = some buffer ∧
        buffer.poolId = poolId ∧ buffer.state = .recycled := by
  rw [freeBuffers, List.mem_filter, FiniteMap.lookup_eq_some_iff]
  simp

/-! ## Encoding -/

/-- The frame carries the context of a session of the backend. -/
def FrameOf (backend : VtRealBackend) (frame : EncoderFrame) : Prop :=
  ∃ id session, backend.sessions.lookup id = some session ∧ frame.context = session.context

/-- A run of the encoder over some frames: each found its buffer writable, and
either left it so, with its pixel buffer made, or queued it. -/
inductive Encodes : VtRealBackend → VtRealBackend → List EncoderFrame → Prop
  | done {backend : VtRealBackend} : Encodes backend backend []
  | wrapped {backend after : VtRealBackend} {frames : List EncoderFrame}
      {bufferId : Nat} {buffer : VtRealBuffer} (pixelBuffer : PixelBuffer)
      (found : backend.buffers.lookup bufferId = some buffer)
      (rest : Encodes (backend.setBuffer bufferId (buffer.wrapped pixelBuffer)) after frames) :
      Encodes backend after frames
  | queued {backend after : VtRealBackend} {frames : List EncoderFrame}
      {bufferId : Nat} {buffer : VtRealBuffer} {frame : EncoderFrame}
      (pixelBuffer : PixelBuffer)
      (found : backend.buffers.lookup bufferId = some buffer)
      (writable : buffer.state = .guestWritable)
      (names : frame.frame = ⟨buffer.id, buffer.generation⟩)
      (ofSession : backend.FrameOf frame)
      (rest : Encodes (backend.setBuffer bufferId
          { buffer.wrapped pixelBuffer with state := .queuedToHost }) after
        frames) :
      Encodes backend after (frame :: frames)

theorem Encodes.trans {first second third : VtRealBackend}
    {frames more : List EncoderFrame} (left : Encodes first second frames)
    (right : Encodes second third more) :
    Encodes first third (frames ++ more) := by
  induction left with
  | done => exact right
  | wrapped pixelBuffer found _ induction =>
    exact .wrapped pixelBuffer found (induction right)
  | queued pixelBuffer found writable names ofSession _ induction =>
    exact .queued pixelBuffer found writable names ofSession (induction right)

theorem Encodes.eq {before after : VtRealBackend} {frames : List EncoderFrame}
    (encodes : Encodes before after frames) :
    after = { before with buffers := after.buffers } := by
  induction encodes with
  | done => rfl
  | wrapped _ _ _ induction => exact induction
  | queued _ _ _ _ _ _ induction => exact induction

/-- The buffer the payload names is held under the payload's generation and
may be written. -/
def NamesWritable (payload : EncodeFramePayload) (backend : VtRealBackend) : Prop :=
  ∃ buffer, backend.buffers.lookup payload.imageBufferHostId.toNat = some buffer ∧
      buffer.generation = payload.imageBufferGeneration.toNat ∧
      buffer.state = .guestWritable

theorem encodeFramePayload_cases (host : HostCalls) (index : Nat)
    (payload : EncodeFramePayload) (backend : VtRealBackend) :
    (∃ status, status ≠ Status.ok ∧ encodeFramePayload host index payload backend =
        (backend, status, none)) ∨
    NamesWritable payload backend ∧
      Encodes backend (encodeFramePayload host index payload backend).1
        (encodeFramePayload host index payload backend).2.2.toList := by
  unfold encodeFramePayload
  dsimp only
  split
  · exact Or.inl ⟨_, by decide, rfl⟩
  next session known =>
    split
    · exact Or.inl ⟨_, by decide, rfl⟩
    split
    · exact Or.inl ⟨_, by decide, rfl⟩
    split
    · exact Or.inl ⟨_, by decide, rfl⟩
    next buffer found =>
      split
      · exact Or.inl ⟨_, by decide, rfl⟩
      next same =>
        split
        · exact Or.inl ⟨_, by decide, rfl⟩
        next notWritable =>
          have writable := Decidable.not_not.mp notWritable
          split
          next status ensured =>
            exact Or.inl ⟨status, vtfEnsureSourcePixelBuffer_error ensured, rfl⟩
          next ready pixelBuffer ensured =>
            obtain rfl := vtfEnsureSourcePixelBuffer_ok ensured
            refine Or.inr ⟨⟨buffer, found, Decidable.not_not.mp same, writable⟩, ?_⟩
            split
            · exact .wrapped pixelBuffer found .done
            split
            · have unchanged : { buffer.wrapped pixelBuffer with
                  state := .guestWritable } =
                  buffer.wrapped pixelBuffer := by
                rw [← writable]
                rfl
              rw [unchanged]
              exact .wrapped pixelBuffer found .done
            · exact .queued pixelBuffer found writable rfl ⟨_, session, known, rfl⟩ .done

theorem encodeFramePayload_encodes (host : HostCalls) (index : Nat)
    (payload : EncodeFramePayload) (backend : VtRealBackend) :
    Encodes backend (encodeFramePayload host index payload backend).1
      (encodeFramePayload host index payload backend).2.2.toList := by
  rcases encodeFramePayload_cases host index payload backend with
    ⟨_, _, refused⟩ | ⟨_, encodes⟩
  · rw [refused]
    exact .done
  · exact encodes

theorem encodeFrames_encodes (host : HostCalls) (sessionId : UInt64)
    (payloads : List EncodeFramePayload) (index : Nat)
    (backend : VtRealBackend) (accepted : List EncoderFrame) :
    ∃ frames, Encodes backend (encodeFrames host sessionId payloads index backend accepted).1
        frames ∧
      (encodeFrames host sessionId payloads index backend accepted).2.2 = accepted ++ frames := by
  induction payloads generalizing index backend accepted with
  | nil => exact ⟨[], .done, (List.append_nil accepted).symm⟩
  | cons payload rest induction =>
    have first := encodeFramePayload_encodes host index payload backend
    rw [encodeFrames]
    split
    · exact ⟨[], .done, (List.append_nil accepted).symm⟩
    · dsimp only
      split
      · exact ⟨_, first, rfl⟩
      · obtain ⟨frames, later, all⟩ := induction (index + 1)
          (encodeFramePayload host index payload backend).1
          (accepted ++ (encodeFramePayload host index payload backend).2.2.toList)
        exact ⟨_, first.trans later, by rw [all, List.append_assoc]⟩

/-! ## Dequeuing -/

def takenOutputs (backend : VtRealBackend) (sessionId count : Nat) :
    List VtRealOutput :=
  (backend.outputState.collect ((backend.outputState.lane sessionId).take count)).map Prod.snd

def afterTaking (backend : VtRealBackend) (sessionId count : Nat) :
    VtRealBackend :=
  { backend with
    outputState := (backend.outputState.pop sessionId count).2
  }.markAllReusable (backend.takenOutputs sessionId count)

variable {sessionId count : Nat}

theorem afterTaking_of_none (none : backend.takenOutputs sessionId count = []) :
    backend.afterTaking sessionId count =
      { backend with
        outputState := (backend.outputState.pop sessionId count).2 } := by
  rw [afterTaking, none]
  rfl

theorem takenOutputs_one {output : VtRealOutput} {rest : List VtRealOutput}
    (taken : backend.takenOutputs sessionId 1 = output :: rest) :
    rest = [] := by
  have collected : (backend.takenOutputs sessionId 1).length ≤ 1 := by
    unfold takenOutputs
    rw [List.length_map]
    refine (List.length_filterMap_le _ _).trans ?_
    rw [List.length_take]
    exact Nat.min_le_left _ _
  rw [taken, List.length_cons] at collected
  exact List.eq_nil_of_length_eq_zero (by omega)

def freedBy (outputs : List VtRealOutput) (id : Nat) (buffer : VtRealBuffer) :
    VtRealBuffer :=
  if buffer.state = .queuedToHost ∧ ⟨id, buffer.generation⟩ ∈ outputs.map VtRealOutput.lease then
    { buffer with state := .recycled }
  else buffer

variable {id : Nat}

theorem freedBy_of_recycled {outputs : List VtRealOutput}
    (recycled : buffer.state ≠ .queuedToHost) :
    freedBy outputs id buffer = buffer :=
  if_neg fun freed => recycled freed.1

theorem freedBy_cons (output : VtRealOutput) (outputs : List VtRealOutput)
    (id : Nat) (buffer : VtRealBuffer) :
    freedBy outputs id (freedBy [output] id buffer) = freedBy (output :: outputs) id buffer := by
  by_cases queued : buffer.state = .queuedToHost
  · by_cases named : output.lease = ⟨id, buffer.generation⟩
    · have first : freedBy [output] id buffer =
          { buffer with state := .recycled } := if_pos ⟨queued, by simp [named]⟩
      have both : freedBy (output :: outputs) id buffer =
          { buffer with state := .recycled } := if_pos ⟨queued, by simp [named]⟩
      rw [first, both]
      exact freedBy_of_recycled (by simp)
    · simp [freedBy, Ne.symm named]
  · simp only [freedBy_of_recycled queued]

theorem lookup_markSourceBufferReusable (backend : VtRealBackend)
    (output : VtRealOutput) (id : Nat) :
    (backend.markSourceBufferReusable output.sourceBufferId
      output.sourceBufferGeneration).buffers.lookup id =
      (backend.buffers.lookup id).map (freedBy [output] id) := by
  rw [markSourceBufferReusable, FiniteMap.lookup_modify]
  cases backend.buffers.lookup id with
  | none => split <;> rfl
  | some buffer =>
    by_cases same : id = output.sourceBufferId
    · subst same
      simp [freedBy, VtRealOutput.lease, and_comm]
    · simp [freedBy, VtRealOutput.lease, same]

theorem lookup_markAllReusable (backend : VtRealBackend) (outputs : List VtRealOutput) (id : Nat) :
    (backend.markAllReusable outputs).buffers.lookup id =
      (backend.buffers.lookup id).map (freedBy outputs id) := by
  induction outputs generalizing backend with
  | nil =>
    have unchanged : freedBy [] id = fun buffer => buffer := by
      funext buffer
      exact if_neg (by simp)
    rw [unchanged, Option.map_id']
    rfl
  | cons output outputs induction =>
    have step := induction (backend.markSourceBufferReusable output.sourceBufferId
        output.sourceBufferGeneration)
    rw [lookup_markSourceBufferReusable, Option.map_map] at step
    refine step.trans ?_
    congr 1
    funext buffer
    exact freedBy_cons output outputs id buffer

def freed (outputs : List VtRealOutput)
    (buffers : FiniteMap Nat VtRealBuffer) : FiniteMap Nat VtRealBuffer :=
  outputs.foldl (fun buffers output =>
    buffers.modify output.sourceBufferId fun buffer =>
      if buffer.generation = output.sourceBufferGeneration ∧ buffer.state = .queuedToHost then
        { buffer with state := .recycled }
      else buffer) buffers

theorem markAllReusable_eq (backend : VtRealBackend) (outputs : List VtRealOutput) :
    backend.markAllReusable outputs =
      { backend with buffers := freed outputs backend.buffers } := by
  induction outputs generalizing backend with
  | nil => rfl
  | cons output outputs induction => exact induction _

theorem afterTaking_eq (backend : VtRealBackend) (sessionId count : Nat) :
    backend.afterTaking sessionId count =
      { backend with
        buffers := freed (backend.takenOutputs sessionId count) backend.buffers
        outputState := (backend.outputState.pop sessionId count).2 } :=
  markAllReusable_eq _ _

end VtRealBackend

end VtFerry
