import VtFerry.Worker.ReplyBytes
import VtFerry.Worker.SessionRemoval
import VtFerry.Worker.VtReal.DecodedReads

/-!
# What a reused response buffer can show

A connection has one response buffer for all its replies and sends the first
bytes of it.  The bytes sent are a function of the request and the backend if
the handler wrote all of them.  Two handlers may not: `READ_BUFFER` sends the
bytes it found when the pixels could not be copied, and `READ_DECODED_FRAME`
copies row by row into the response buffer and skips the end of every row that
is shorter in the decoder's image than in the canonical layout.
-/

namespace VtFerry

open List Patches

/-! ## Requests that hand out bytes of the response buffer -/

namespace VtRealBackend

def written (host : HostCalls) (header : MessageHeader)
    (payload response : List UInt8) (backend : VtRealBackend)
    (surfaces : Surfaces) : List UInt8 :=
  let served :=
    backend.dispatch host ⟨header.opcode, payload⟩ response surfaces
  let reply : Reply := ⟨served.status, served.body.bytes⟩
  (Server.replyHeader header reply).bytes ++ reply.payload

/-- The layout `READ_BUFFER` flattens a buffer to. -/
def bufferLayout (buffer : VtRealBuffer) : BufferLayoutReply :=
  vtfFillBufferLayout buffer.width.toUInt32 buffer.height.toUInt32 buffer.pixelFormat

/-- `READ_BUFFER` passes all its checks and gets to the pixels of a buffer. -/
structure ReadsBuffer (host : HostCalls) (source : List UInt8)
    (backend : VtRealBackend) (ready : VtRealBuffer) (pixels : PixelBuffer) :
    Prop where
  long : BufferRangePayload.size ≤ source.length
  granted : ∃ buffer, backend.buffers.lookup (BufferRangePayload.read source).bufferId.toNat =
      some buffer ∧
    buffer.generation = (BufferRangePayload.read source).generation.toNat ∧
    buffer.state ≠ .recycled ∧
    rangeFits buffer (BufferRangePayload.read source) = true ∧
    vtfEnsureSourcePixelBuffer host buffer = .ok (ready, pixels)
  fits : BufferRangePayload.size +
    (BufferRangePayload.read source).length.toNat ≤ transportStorageCapacity

/-- Where the reply is a function of the request and the backend: bytes are
read from a buffer only if its pixels can be copied, and a decoded frame is
read whole only if every byte of it lies in a copied row. -/
def RepliesFromState (host : HostCalls) (request : Request) (backend : VtRealBackend) : Prop :=
  match Opcode.ofCode? request.opcode with
  | some .readBuffer =>
    ∀ ready pixels, ReadsBuffer host request.payload backend ready pixels →
        (BufferRangePayload.read request.payload).length = 0 ∨
          ¬ CopyFails host.nulls pixels (bufferLayout ready)
  | some .readDecodedFrame =>
    ∀ output, ReadsDecodedFrame host request.payload backend output →
      CopyFails host.nulls output.imageBuffer (decodedLayout output) ∨
        ∀ position < (decodedLayout output).totalSize.toNat,
          Overwrites output.imageBuffer (decodedLayout output) position
  | _ => True

section Handlers

variable {host : HostCalls} {source response first second : List UInt8}
  {backend : VtRealBackend} {surfaces : Surfaces}

/-- The bytes of a `READ_BUFFER` reply. -/
def bufferReadBytes (host : HostCalls) (payload : BufferRangePayload)
    (response : List UInt8) (ready : VtRealBuffer) (pixels : PixelBuffer)
    (surfaces : Surfaces) : List UInt8 :=
  match vtfCopyPixelBufferToBytes surfaces.memory host.nulls pixels
      (replicate ready.mappedSize 0) ready.width.toUInt32
      ready.height.toUInt32 ready.pixelFormat with
  | some flat => (flat.drop payload.offset.toNat).take payload.length.toNat
  | none =>
    (response.drop BufferRangePayload.size).take payload.length.toNat

theorem readBuffer_of_reads {ready : VtRealBuffer} {pixels : PixelBuffer}
    (reads : ReadsBuffer host source backend ready pixels)
    (full : response.length = transportStorageCapacity) :
    readBuffer host source response backend surfaces = .ok (backend.setBuffer
          (BufferRangePayload.read source).bufferId.toNat ready) surfaces
        (.bufferBytes ready.id ready.generation (BufferRangePayload.read source).offset
          (BufferRangePayload.read source).length
          (bufferReadBytes host (BufferRangePayload.read source) response
            ready pixels surfaces)) := by
  obtain ⟨buffer, found, current, leased, inside, wrapped⟩ := reads.granted
  have long := Nat.not_lt_of_le reads.long
  have fits := Nat.not_lt_of_le (full ▸ reads.fits)
  simp only [readBuffer, long, found, current, leased, inside, fits, wrapped,
    if_false, ne_eq, not_true_eq_false, Bool.not_true, Bool.false_eq_true]
  rfl

theorem readBuffer_of_not_reads
    (refused : ∀ ready pixels, ¬ ReadsBuffer host source backend ready pixels)
    (firstFull : first.length = transportStorageCapacity)
    (secondFull : second.length = transportStorageCapacity) :
    readBuffer host source first backend surfaces =
      readBuffer host source second backend surfaces := by
  unfold readBuffer
  rw [firstFull, secondFull]
  split
  · rfl
  next long =>
    dsimp only
    split
    · rfl
    next buffer found =>
      split
      · rfl
      next current =>
        split
        · rfl
        next leased =>
          split
          · rfl
          next inside =>
            split
            · rfl
            next fits =>
              split
              · rfl
              next ready pixels wrapped =>
                exact absurd
                  { long := Nat.le_of_not_lt long
                    granted := ⟨buffer, found, not_not.mp current, leased,
                      by simpa using inside, wrapped⟩
                    fits := Nat.le_of_not_lt fits }
                  (refused ready pixels)

/-- The response buffer has room for every frame that is read inline. -/
theorem ReadsDecodedFrame.fits {output : VtRealDecodedOutput}
    (reads : ReadsDecodedFrame host source backend output)
    (full : response.length = transportStorageCapacity) :
    readDecodedFrameReplySize + (decodedLayout output).totalSize.toNat ≤
      response.length := by
  have bound := reads.small
  rw [full]
  simp only [maxDecodedFrameBytes, transportStorageCapacity, readDecodedFrameReplySize] at bound ⊢
  omega

theorem ReadsDecodedFrame.frame_fits {output : VtRealDecodedOutput}
    (reads : ReadsDecodedFrame host source backend output)
    (response : List UInt8)
    (full : response.length = transportStorageCapacity) :
    (decodedLayout output).totalSize.toNat ≤ (response.drop readDecodedFrameReplySize).length := by
  rw [length_drop]
  exact Nat.le_sub_of_add_le' (reads.fits full)

/-- The reply is the same whatever the response buffer holds. -/
def Determined (respond : List UInt8 → Served) : Prop :=
  ∀ first second, first.length = transportStorageCapacity →
    second.length = transportStorageCapacity → (respond first).status = (respond second).status ∧
        (respond first).body.bytes = (respond second).body.bytes

theorem Determined.of_eq {respond : List UInt8 → Served}
    (same : ∀ first second, first.length = transportStorageCapacity →
      second.length = transportStorageCapacity → respond first = respond second) :
    Determined respond := by
  intro first second firstFull secondFull
  rw [same first second firstFull secondFull]
  exact ⟨rfl, rfl⟩

theorem readBuffer_determined_iff (host : HostCalls) (source : List UInt8)
    (backend : VtRealBackend) (surfaces : Surfaces) :
    Determined (fun response =>
        readBuffer host source response backend surfaces) ↔
      ∀ ready pixels, ReadsBuffer host source backend ready pixels →
        (BufferRangePayload.read source).length = 0 ∨
          ¬ CopyFails host.nulls pixels (bufferLayout ready) := by
  constructor
  · intro determined ready pixels reads
    by_contra unguarded
    obtain ⟨nonempty, fails⟩ := not_or.mp unguarded
    have failed := fun destination =>
      vtfCopyPixelBufferToBytes_eq_none surfaces.memory destination (not_not.mp fails)
    have same := (determined (replicate _ 0) (replicate _ 1) length_replicate length_replicate).2
    dsimp only at same
    rw [readBuffer_of_reads reads length_replicate,
      readBuffer_of_reads reads length_replicate] at same
    have bytes := append_cancel_left same
    simp only [bufferReadBytes, failed, drop_replicate, take_replicate] at bytes
    have empty : (BufferRangePayload.read source).length.toNat = 0 := by
      have bound := reads.fits
      have none := (replicate_inj.mp bytes).2.resolve_right (by decide)
      omega
    exact nonempty (UInt32.toNat_inj.mp empty)
  · intro guarded
    apply Determined.of_eq
    intro first second firstFull secondFull
    by_cases reading : ∃ ready pixels, ReadsBuffer host source backend ready pixels
    · obtain ⟨ready, pixels, reads⟩ := reading
      rw [readBuffer_of_reads reads firstFull, readBuffer_of_reads reads secondFull]
      have bytes : bufferReadBytes host (BufferRangePayload.read source) first
            ready pixels surfaces =
          bufferReadBytes host (BufferRangePayload.read source) second ready
            pixels surfaces := by
        unfold bufferReadBytes
        rcases guarded ready pixels reads with empty | copies
        · simp [empty]
        · unfold bufferLayout at copies
          rw [vtfCopyPixelBufferToBytes_eq_some _ _ copies]
      rw [bytes]
    · simp only [not_exists] at reading
      exact readBuffer_of_not_reads reading firstFull secondFull

/-- Two copies of one image into the response buffer agree on the frame. -/
theorem take_applyAll_eq_iff (patches : List (Patch UInt8)) {count : Nat}
    (sameLength : first.length = second.length)
    (inside : count ≤ first.length) :
    (applyAll patches first).take count = (applyAll patches second).take count ↔
      ∀ position < count, Patched patches position ∨
        first[position]? = second[position]? := by
  constructor
  · intro same position bound
    have atPosition := congrArg (·[position]?) same
    simp only [getElem?_take_of_lt bound] at atPosition
    exact (applyAll_agree_iff patches sameLength (by omega)).mp atPosition
  · intro agree
    apply ext_getElem?
    intro position
    by_cases bound : position < count
    · rw [getElem?_take_of_lt bound, getElem?_take_of_lt bound]
      exact (applyAll_agree_iff patches sameLength (by omega)).mpr (agree position bound)
    · rw [getElem?_take_eq_none (Nat.le_of_not_lt bound),
        getElem?_take_eq_none (Nat.le_of_not_lt bound)]

theorem readDecodedFrame_determined_iff (host : HostCalls)
    (source : List UInt8) (backend : VtRealBackend) (surfaces : Surfaces) :
    Determined (fun response =>
        readDecodedFrame host source response backend surfaces) ↔
      ∀ output, ReadsDecodedFrame host source backend output →
        CopyFails host.nulls output.imageBuffer (decodedLayout output) ∨
          ∀ position < (decodedLayout output).totalSize.toNat,
            Overwrites output.imageBuffer (decodedLayout output) position := by
  constructor
  · intro determined output reads
    by_contra unguarded
    obtain ⟨copies, uncovered⟩ := not_or.mp unguarded
    have copied := fun destination =>
      vtfCopyPixelBufferToBytes_eq_some surfaces.memory destination copies
    have same := (determined (replicate _ 0) (replicate _ 1) length_replicate length_replicate).2
    dsimp only at same
    rw [readDecodedFrame_of_reads reads (reads.fits length_replicate),
      readDecodedFrame_of_reads reads (reads.fits length_replicate)] at same
    simp only [copied] at same
    have record := append_inj same (by simp)
    apply uncovered
    intro position bound
    have room := reads.frame_fits (replicate _ 0) length_replicate
    have agree := (take_applyAll_eq_iff _ (by simp) room).mp record.2 position bound
    rcases agree with covered | agree
    · exact (patched_copyPatches _ _ _ _).mp covered
    · simp only [drop_replicate, length_replicate, getElem?_replicate] at agree room
      rw [if_pos (by omega), if_pos (by omega)] at agree
      exact absurd agree (by decide)
  · intro guarded
    apply Determined.of_eq
    intro first second firstFull secondFull
    rcases readDecodedFrame_cases host source first backend surfaces with
      ⟨status, _, refused⟩ | ⟨output, reads, _⟩
    · rw [refused first rfl, refused second (secondFull.trans firstFull.symm)]
    · rw [readDecodedFrame_of_reads reads (reads.fits firstFull),
        readDecodedFrame_of_reads reads (reads.fits secondFull)]
      by_cases fails : CopyFails host.nulls output.imageBuffer (decodedLayout output)
      · rw [vtfCopyPixelBufferToBytes_eq_none _ _ fails,
          vtfCopyPixelBufferToBytes_eq_none _ _ fails]
      · rw [vtfCopyPixelBufferToBytes_eq_some _ _ fails,
          vtfCopyPixelBufferToBytes_eq_some _ _ fails]
        have covered := (guarded output reads).resolve_left fails
        apply congrArg fun bytes => Served.ok backend surfaces (.decodedBytes _ _ bytes)
        apply (take_applyAll_eq_iff _ (by simp [firstFull, secondFull])
          (reads.frame_fits first firstFull)).mpr
        intro position bound
        exact .inl ((patched_copyPatches _ _ _ _).mpr (covered position bound))

end Handlers

theorem written_eq_iff (host : HostCalls) (header : MessageHeader)
    (payload : List UInt8) (backend : VtRealBackend) (surfaces : Surfaces) :
    (∀ first second, first.length = transportStorageCapacity →
      second.length = transportStorageCapacity →
        written host header payload first backend surfaces =
          written host header payload second backend surfaces) ↔
      Determined fun response =>
        backend.dispatch host ⟨header.opcode, payload⟩ response surfaces := by
  constructor
  · intro same first second firstFull secondFull
    have ⟨headers, payloads⟩ := append_inj (same first second firstFull secondFull) (by simp)
    have statuses := congrArg (fun bytes => (MessageHeader.read bytes).status) headers
    simp only [MessageHeader.read_bytes] at statuses
    exact ⟨statuses, payloads⟩
  · intro determined first second firstFull secondFull
    obtain ⟨status, body⟩ := determined first second firstFull secondFull
    unfold written
    dsimp only at status body ⊢
    rw [status, body]

/-- The bytes written for a request are the same for any two contents of the
response buffer exactly if the pixels it asks for are copied in full. -/
theorem written_independent_iff (host : HostCalls) (header : MessageHeader)
    (payload : List UInt8) (backend : VtRealBackend) (surfaces : Surfaces) :
    (∀ first second, first.length = transportStorageCapacity →
      second.length = transportStorageCapacity →
        written host header payload first backend surfaces =
          written host header payload second backend surfaces) ↔
      RepliesFromState host ⟨header.opcode, payload⟩ backend := by
  rw [written_eq_iff]
  unfold dispatch RepliesFromState
  cases Opcode.ofCode? header.opcode with
  | none => exact iff_of_true (Determined.of_eq fun _ _ _ _ => rfl) trivial
  | some opcode =>
    cases opcode with
    | readBuffer => exact readBuffer_determined_iff host payload _ _
    | readDecodedFrame => exact readDecodedFrame_determined_iff host payload _ _
    | readOutput =>
      apply iff_of_true _ trivial
      apply Determined.of_eq
      intro first second firstFull secondFull
      simp only [readOutput, firstFull, secondFull]
    | readDecodedFrameChunk =>
      apply iff_of_true _ trivial
      apply Determined.of_eq
      intro first second firstFull secondFull
      simp only [readDecodedFrameChunk, firstFull, secondFull]
    | _ => exact iff_of_true (Determined.of_eq fun _ _ _ _ => rfl) trivial

end VtRealBackend

/-! ## Replies that show what the buffer held -/

open LittleEndian WorkerProcess

def requestHeader (opcode : Opcode) (payload : List UInt8) :
    MessageHeader where
  version := transportVersion
  opcode := opcode.code
  flags := 0
  requestId := 1
  payloadLen := UInt32.ofNat payload.length
  status := 0

/-- After the run the reply on connection 0 does not depend on the response
buffer. -/
def WorkerProcess.WritesOneReplyAfter (events : List WorkerEvent)
    (host : HostCalls) (opcode : Opcode) (payload : List UInt8) : Prop :=
  let process := Execution.run WorkerProcess.step twoSlotStart events
  ∃ connection, process.connections.lookup 0 = some connection ∧
    ∀ first second, first.length = transportStorageCapacity →
      second.length = transportStorageCapacity →
        connection.backend.written host (requestHeader opcode payload)
            payload first process.surfaces =
          connection.backend.written host (requestHeader opcode payload)
            payload second process.surfaces

/-- A 16 by 2 NV12 image whose rows are shorter than the canonical 64. -/
def narrowImage : PixelBuffer :=
  wrapSlotPlanar 0 0 16 2 32 PixelFormat.nv12

/-- `READ_BUFFER` shows the buffer when the base address is null, and
`READ_DECODED_FRAME` shows it behind the short rows of an image. -/
theorem stale_bytes_written :
    ¬ WorkerProcess.WritesOneReplyAfter [.connect, .request 0 {} twoSlotRequest [],
        .request 0 {} (allocRequest 1) []]
      { nulls := { base := true } } .readBuffer
      (u64Bytes 3 ++ u64Bytes 1 ++ u32Bytes 0 ++ u32Bytes 4) ∧
    ¬ WorkerProcess.WritesOneReplyAfter [.connect, .request 0 {} decodeSessionRequest [],
        .decoderCallback 0 1 ⟨0, some narrowImage, ⟨0, 600, 600, 1⟩⟩]
      {} .readDecodedFrame (u64Bytes 1 ++ u64Bytes 70000) := by
  refine ⟨?_, ?_⟩
  · rintro ⟨connection, isOpen, same⟩
    cases isOpen
    have determined := (VtRealBackend.readBuffer_determined_iff _ _ _ _).mp
      ((VtRealBackend.written_eq_iff _ _ _ _ _).mp same)
    rcases determined _ _ ⟨by decide, ⟨_, rfl, rfl, by decide, rfl, rfl⟩, by decide⟩ with
      empty | copies
    · cases empty
    · exact copies (.inr (.inl ⟨.inl rfl, rfl⟩))
  · rintro ⟨connection, isOpen, same⟩
    cases isOpen
    have determined :=
      (VtRealBackend.readDecodedFrame_determined_iff _ _ _ _).mp
        ((VtRealBackend.written_eq_iff _ _ _ _ _).mp same)
    rcases determined ⟨1, ⟨0, 600, 600, 1⟩, 0, narrowImage⟩
        ⟨by decide, ⟨_, rfl, rfl⟩, rfl, by decide, rfl⟩ with fails | covered
    · rcases fails with none | ⟨whole, _⟩ | ⟨_, index, bound, missing⟩
      · cases none
      · exact absurd whole (by decide)
      · rcases missing with beyond | null
        · exact absurd bound (Nat.not_lt_of_le beyond)
        · cases null
    · rcases covered 32 (by decide) with ⟨whole, _⟩ | ⟨_, copied⟩
      · exact absurd whole (by decide)
      · exact absurd copied (by decide)

end VtFerry
