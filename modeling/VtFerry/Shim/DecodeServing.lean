import VtFerry.Shim.DecodeDrain
import VtFerry.Shim.FrameFetch
import VtFerry.Worker.Delivery.Decode

/-!
# Serving the decode side of one guest

What the worker answers to the requests of the drain loop, and what the guest
reads out of the replies: the frame at the head of its queue, and then its
pixels, inline or in chunks.
-/

namespace VtFerry

open List LittleEndian Patches Pieces

theorem unusedBytes_eq_encode (size : Nat) : unusedBytes size = encode size 0 := by
  induction size with
  | zero => rfl
  | succ size induction =>
    rw [unusedBytes, replicate_succ, encode, ← induction]
    rfl

namespace Shim

variable {world : SoloWorld} {nulls : NullAddresses}
variable {sessionId outputId : UInt64}

/-! ## The head of the queue -/

def dequeuedFrame (outputId : UInt64) (chunkedOutput : Bool)
    (output : VtRealDecodedOutput) : DequeuedFrame where
  outputId := outputId
  bufferHostId := if chunkedOutput then outputId else 0
  width := UInt32.ofNat output.imageBuffer.width
  height := UInt32.ofNat output.imageBuffer.height
  pixelFormat := output.imageBuffer.pixelFormat
  presentation := ⟨output.timing.ptsValue, output.timing.ptsTimescale⟩
  duration := ⟨output.timing.durationValue, output.timing.durationTimescale⟩
  status := output.status.toUInt32

theorem read_decodedFrameReply (named : Nat) (outputId : UInt64)
    (chunkedOutput : Bool) (output : VtRealDecodedOutput) :
    DequeuedFrame.read (VtRealBackend.decodedFrameReply named
        outputId.toNat chunkedOutput output).bytes =
      dequeuedFrame outputId chunkedOutput output := by
  simp only [DequeuedFrame.read, VtRealBackend.decodedFrameReply,
    DequeueDecodedFrameReply.bytes, u32At, u64At, i32At, i64At, u32Bytes,
    u64Bytes, i32Bytes, i64Bytes, idBytes, unusedBytes_eq_encode,
    append_assoc]
  simp (disch := decide) [word_skip, dequeuedFrame]
  refine ⟨?_, UInt32.ofNat_mod_size, UInt32.ofNat_mod_size⟩
  cases chunkedOutput with
  | true => simp
  | false => rfl

section Head

variable {solo : Solo} {session : VtRealDecodeSession}
variable {output : VtRealDecodedOutput} {waiting : List Nat}

def popDecoded (backend : VtRealBackend) (sessionId : UInt64) :
    VtRealBackend :=
  backend.withDecodedQueue (backend.decodedOutputState.queue.pop sessionId.toNat 1).2

theorem served_dequeue (known : solo.backend.decodeSessions.lookup sessionId.toNat = some session) :
    world.served solo (handleRequest .dequeueDecodedFrame sessionId) =
      (popDecoded solo.backend sessionId).answerDecodedDequeue solo.surfaces ⟨sessionId.toNat,
          (solo.backend.decodedOutputState.queue.lane sessionId.toNat).take 1,
          session.chunkedOutput⟩ := by
  have handle : HandlePayload.read (u64Bytes sessionId) = ⟨sessionId⟩ := by
    have read := u64At_append sessionId []
    rw [append_nil] at read
    rw [HandlePayload.read, read]
  have long : ¬ (u64Bytes sessionId).length < HandlePayload.size := by
    simp [u64Bytes, HandlePayload.size]
  unfold SoloWorld.served VtRealBackend.dispatch handleRequest
  rw [Opcode.ofCode?_code]
  dsimp only
  rw [VtRealBackend.dequeueDecodedFrame_eq, if_neg long, handle]
  dsimp only
  rw [known]
  rfl

theorem served_dequeue_head
    (known : solo.backend.decodeSessions.lookup sessionId.toNat = some session)
    (head : solo.backend.decodedOutputState.queue.lane sessionId.toNat = outputId.toNat :: waiting)
    (stored : solo.backend.decodedOutputState.queue.items.lookup outputId.toNat = some output) :
    world.served solo (handleRequest .dequeueDecodedFrame sessionId) =
      .ok (popDecoded solo.backend sessionId) solo.surfaces
        (.decodedFrame (VtRealBackend.decodedFrameReply sessionId.toNat
          outputId.toNat session.chunkedOutput output)) := by
  have collected : (popDecoded solo.backend
      sessionId).decodedOutputState.queue.collect [outputId.toNat] =
        [(outputId.toNat, output)] := by
    simp only [TicketQueue.collect, popDecoded, VtRealBackend.withDecodedQueue,
      TicketQueue.pop, filterMap_cons, stored, Option.map_some,
      filterMap_nil]
  rw [served_dequeue known, head, take_succ_cons, take_zero, VtRealBackend.answerDecodedDequeue]
  dsimp only
  rw [collected]

theorem dequeueDecodedFrame_head {sent : List Request}
    (known : solo.backend.decodeSessions.lookup sessionId.toNat = some session)
    (head : solo.backend.decodedOutputState.queue.lane sessionId.toNat = outputId.toNat :: waiting)
    (stored : solo.backend.decodedOutputState.queue.items.lookup outputId.toNat = some output) :
    dequeueDecodedFrame world.serve sessionId ⟨solo, sent⟩ =
      (⟨⟨popDecoded solo.backend sessionId, solo.surfaces, solo.turn + 1⟩,
          sent ++ [handleRequest .dequeueDecodedFrame sessionId]⟩,
        .ok (dequeuedFrame outputId session.chunkedOutput output)) := by
  have long : ¬ (ReplyBody.decodedFrame (VtRealBackend.decodedFrameReply
      sessionId.toNat outputId.toNat session.chunkedOutput
        output)).bytes.length < DequeuedFrame.size := by
    simp [ReplyBody.bytes, DequeueDecodedFrameReply.bytes, u32Bytes, i32Bytes,
      u64Bytes, i64Bytes, DequeuedFrame.size]
  have served : world.serve solo (handleRequest .dequeueDecodedFrame sessionId) = _ :=
    SoloWorld.serve_of_ok (served_dequeue_head known head stored)
  simp only [dequeueDecodedFrame, sendRequest, sendRequestBytes, served, if_neg long]
  rw [ReplyBody.bytes, read_decodedFrameReply]

end Head

/-! ## Its pixels -/

section Pixels

variable {solo : Solo} {session : VtRealDecodeSession}
variable {output : VtRealDecodedOutput} {sent : List Request}

theorem byteRange_of_copies {memory : HostMemory} {image : PixelBuffer}
    {layout : BufferLayoutReply} {offset length : Nat}
    (copies : ¬ CopyFails nulls image layout)
    (fits : offset + length ≤ layout.totalSize.toNat)
    (nonempty : 0 < length) :
    ∃ bytes, vtfCopyPixelBufferByteRange memory nulls image layout offset
      length = some bytes ∧ length ≤ bytes.length := by
  have into : vtfCopyPixelBufferByteRangeInto memory nulls image layout offset
      length (replicate length 0) = _ :=
    byteRangeInto_eq copies fits (Nat.ne_of_gt nonempty) _
  refine ⟨_, by rw [byteRange_eq_into, into]; rfl, ?_⟩
  refine Nat.le_trans ?_ (length_le_applyAll _ _)
  simp

theorem fetchFrame_chunked (grants : world.Grants nulls transportStorageCapacity)
    (known : solo.backend.decodeSessions.lookup sessionId.toNat = some session)
    (chunked : session.chunkedOutput = true)
    (stored : solo.backend.decodedOutputState.queue.items.lookup outputId.toNat = some output)
    (copies : ¬ CopyFails nulls output.imageBuffer (imageLayout output.imageBuffer))
    (real : outputId ≠ 0) :
    ∃ pixels, (fetchFrame world.serve sessionId
        (dequeuedFrame outputId session.chunkedOutput output)
        ⟨solo, sent⟩).2 = .ok (pixels, output.status.toUInt32) ∧
      pixels.length = (imageLayout output.imageBuffer).totalSize.toNat := by
  have queues : solo.Queues sessionId outputId solo.surfaces.memory
      output.imageBuffer :=
    ⟨⟨session, known, chunked⟩, ⟨output, stored, rfl⟩, rfl⟩
  have answered : ∀ offset length (caller : Caller Solo),
      caller.transport.Queues sessionId outputId solo.surfaces.memory output.imageBuffer →
      0 < length → length ≤ writeBufferChunkBytes →
      offset + length ≤ (imageLayout output.imageBuffer).totalSize.toNat →
        (fetchPiece world.serve readDecodedFrameChunkReplySize
          (chunkReadRequest sessionId outputId) offset length
          caller).1.transport.Queues sessionId outputId solo.surfaces.memory output.imageBuffer ∧
        ∃ piece, (fetchPiece world.serve readDecodedFrameChunkReplySize
          (chunkReadRequest sessionId outputId) offset length caller).2 =
            .ok piece ∧ ∀ rest : List UInt8, rest.length =
                (imageLayout output.imageBuffer).totalSize.toNat - (offset + length) →
              (piece ++ rest).length =
                (imageLayout output.imageBuffer).totalSize.toNat - offset := by
    intro offset length caller queues nonempty bound fits
    have room : VtRealBackend.readDecodedFrameChunkReplySize + length ≤
        transportStorageCapacity :=
      Nat.le_trans (Nat.add_le_add_left bound _) (by decide)
    obtain ⟨bytes, range, long⟩ := byteRange_of_copies copies fits nonempty
    obtain ⟨kept, fetched⟩ := fetchPiece_of_range grants queues fits room range long
    refine ⟨kept, _, fetched, ?_⟩
    intro rest tail
    rw [length_append, length_take, tail]
    omega
  obtain ⟨-, pixels, fetched, sized⟩ := fetchPieces_collects (by decide)
    (fun offset bytes => bytes.length = (imageLayout output.imageBuffer).totalSize.toNat - offset)
    (fun offset finished => (Nat.sub_eq_zero_of_le finished).symm)
    answered 0 ⟨solo, sent⟩ queues
  refine ⟨pixels, ?_, sized⟩
  have whole : (readDecodedFrameChunk world.serve sessionId outputId
      (imageLayout output.imageBuffer).totalSize.toNat ⟨solo, sent⟩).2 =
        .ok pixels := fetched
  unfold fetchFrame
  rw [if_pos (by simpa [dequeuedFrame, chunked] using real)]
  dsimp only [dequeuedFrame]
  rw [vtfDecodeLayoutForFormat_eq, ← vtfFillBufferLayout_eq]
  unfold imageLayout at whole
  generalize readDecodedFrameChunk world.serve sessionId outputId _ _ = result at whole ⊢
  obtain ⟨caller, outcome⟩ := result
  subst whole
  rfl

theorem served_read :
    world.served solo (frameRequest .readDecodedFrame sessionId outputId) =
      VtRealBackend.readDecodedFrame (world.host solo.turn)
        (SessionOutputPayload.bytes ⟨sessionId, outputId⟩)
        (world.response solo.turn) solo.backend solo.surfaces := by
  unfold SoloWorld.served VtRealBackend.dispatch frameRequest
  rw [Opcode.ofCode?_code]

theorem fetchFrame_of_bytes {next : Solo} {status : UInt32}
    {pixels : List UInt8} {frame : DequeuedFrame}
    (inline : frame.bufferHostId = 0) (short : pixels.length < 2 ^ 32)
    (reply : world.serve solo (frameRequest .readDecodedFrame sessionId frame.outputId) =
      (next, .ok (ReplyBody.decodedBytes frame.outputId.toNat status pixels).bytes)) :
    fetchFrame world.serve sessionId frame ⟨solo, sent⟩ =
      (⟨next, sent ++ [frameRequest .readDecodedFrame sessionId
          frame.outputId]⟩, .ok (pixels, status)) := by
  have header : (idBytes frame.outputId.toNat ++ sizeBytes pixels.length ++
      u32Bytes status).length = readDecodedFrameReplySize := by
    simp [u32Bytes, readDecodedFrameReplySize]
  have length : (ReplyBody.decodedBytes frame.outputId.toNat status
      pixels).bytes.length = readDecodedFrameReplySize + pixels.length := by
    rw [ReplyBody.bytes, length_append, header]
  have sized : (decodedSampleSize (ReplyBody.decodedBytes
      frame.outputId.toNat status pixels).bytes).toNat = pixels.length := by
    simp only [decodedSampleSize, ReplyBody.bytes, idBytes, sizeBytes, u32At, append_assoc]
    rw [word_skip _ _ _ (by decide), word_encode_append, UInt32.toNat_ofNat']
    omega
  have marked : decodedStatus (ReplyBody.decodedBytes frame.outputId.toNat
      status pixels).bytes = status := by
    simp only [decodedStatus, ReplyBody.bytes, idBytes, sizeBytes, u32At, u32Bytes, append_assoc]
    simp (disch := decide) [word_skip]
  have body : ((ReplyBody.decodedBytes frame.outputId.toNat status
      pixels).bytes.take (readDecodedFrameReplySize + pixels.length)).drop
        readDecodedFrameReplySize = pixels := by
    rw [take_of_length_le (Nat.le_of_eq length)]
    exact drop_left' header
  have headed : ¬ (ReplyBody.decodedBytes frame.outputId.toNat status
      pixels).bytes.length < readDecodedFrameReplySize := by
    omega
  have whole : ¬ (ReplyBody.decodedBytes frame.outputId.toNat status
      pixels).bytes.length < readDecodedFrameReplySize + pixels.length := by
    omega
  unfold fetchFrame
  rw [if_neg (by simpa using inline)]
  simp only [readDecodedFrame, sendRequest, sendRequestBytes, reply, id,
    if_neg headed, sized, marked, if_neg whole, body]

theorem fetchFrame_inline (grants : world.Grants nulls transportStorageCapacity)
    (known : solo.backend.decodeSessions.lookup sessionId.toNat = some session)
    (inline : session.chunkedOutput = false)
    (stored : solo.backend.decodedOutputState.queue.items.lookup outputId.toNat = some output)
    (copies : ¬ CopyFails nulls output.imageBuffer (imageLayout output.imageBuffer))
    (small : (imageLayout output.imageBuffer).totalSize.toNat ≤ maxDecodedFrameBytes) :
    ∃ pixels, (fetchFrame world.serve sessionId
        (dequeuedFrame outputId session.chunkedOutput output)
        ⟨solo, sent⟩).2 = .ok (pixels, output.status.toUInt32) ∧
      pixels.length = (imageLayout output.imageBuffer).totalSize.toNat := by
  have room : VtRealBackend.readDecodedFrameReplySize +
      (imageLayout output.imageBuffer).totalSize.toNat ≤ (world.response solo.turn).length :=
    (Nat.add_le_add_left small _).trans (Nat.le_trans (by decide) (grants.room solo.turn))
  have reads : VtRealBackend.ReadsDecodedFrame (world.host solo.turn)
      (SessionOutputPayload.bytes ⟨sessionId, outputId⟩) solo.backend
      output := by
    refine ⟨?_, ?_, ?_, small, grants.locks solo.turn⟩
    · rw [SessionOutputPayload.length_bytes]
    · rw [SessionOutputPayload.read_bytes]
      exact ⟨session, known, inline⟩
    · rw [SessionOutputPayload.read_bytes]
      exact stored
  have served : world.served solo (frameRequest .readDecodedFrame sessionId outputId) = _ :=
    served_read.trans (VtRealBackend.readDecodedFrame_of_reads reads room)
  rw [grants.nulls, SessionOutputPayload.read_bytes,
    vtfCopyPixelBufferToBytes_eq_some _ _ copies] at served
  have long := length_le_applyAll (copyPatches solo.surfaces.memory output.imageBuffer
      (imageLayout output.imageBuffer))
    ((world.response solo.turn).drop VtRealBackend.readDecodedFrameReplySize)
  rw [length_drop] at long
  have sized : ((applyAll (copyPatches solo.surfaces.memory
      output.imageBuffer (imageLayout output.imageBuffer))
      ((world.response solo.turn).drop VtRealBackend.readDecodedFrameReplySize)).take
      (imageLayout output.imageBuffer).totalSize.toNat).length =
        (imageLayout output.imageBuffer).totalSize.toNat := by
    rw [length_take]
    omega
  have word := (imageLayout output.imageBuffer).totalSize.toNat_lt
  refine ⟨_, ?_, sized⟩
  have isInline : (dequeuedFrame outputId session.chunkedOutput output).bufferHostId = 0 := by
    simp [dequeuedFrame, inline]
  rw [fetchFrame_of_bytes isInline (Nat.lt_of_le_of_lt (Nat.le_of_eq sized) word)
    (SoloWorld.serve_of_ok served)]

theorem fetchFrame_refused (known : solo.backend.decodeSessions.lookup sessionId.toNat =
      some session)
    (inline : session.chunkedOutput = false)
    (stored : solo.backend.decodedOutputState.queue.items.lookup outputId.toNat = some output)
    (large : maxDecodedFrameBytes < (imageLayout output.imageBuffer).totalSize.toNat) :
    (fetchFrame world.serve sessionId (dequeuedFrame outputId session.chunkedOutput output)
        ⟨solo, sent⟩).2 = .error Status.resourceExhausted.toInt32 := by
  have served : world.served solo (frameRequest .readDecodedFrame sessionId outputId) =
        .plain solo.backend solo.surfaces Status.resourceExhausted := by
    have long : ¬ (SessionOutputPayload.bytes
        ⟨sessionId, outputId⟩).length < SessionOutputPayload.size := by
      rw [SessionOutputPayload.length_bytes]
      omega
    unfold imageLayout at large
    rw [served_read, VtRealBackend.readDecodedFrame, if_neg long, SessionOutputPayload.read_bytes]
    simp [known, inline, stored, large]
  unfold fetchFrame
  rw [if_neg (by simp [dequeuedFrame, inline])]
  simp only [readDecodedFrame, sendRequest, sendRequestBytes,
    SoloWorld.serve, dequeuedFrame, served]
  rfl

end Pixels

end Shim

end VtFerry
