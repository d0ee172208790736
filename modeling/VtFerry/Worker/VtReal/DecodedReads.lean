import VtFerry.Worker.FrameCopy
import VtFerry.Worker.VtReal.DecodedOutputs

/-!
# When a decoded frame is read

`READ_DECODED_FRAME` and `READ_DECODED_FRAME_CHUNK` each make a row of checks
before they copy pixels.  For each of them, the checks are collected in one
structure; the request is answered with pixels exactly if they all pass and
the copy finds its addresses.
-/

namespace VtFerry

namespace VtRealBackend

def decodedLayout (output : VtRealDecodedOutput) : BufferLayoutReply :=
  vtfFillBufferLayout (UInt32.ofNat output.imageBuffer.width)
    (UInt32.ofNat output.imageBuffer.height) output.imageBuffer.pixelFormat

/-- `READ_DECODED_FRAME` passes its checks and gets to an image. -/
structure ReadsDecodedFrame (host : HostCalls) (source : List UInt8)
    (backend : VtRealBackend) (output : VtRealDecodedOutput) : Prop where
  long : SessionOutputPayload.size ≤ source.length
  inline : ∃ session, backend.decodeSessions.lookup
      (SessionOutputPayload.read source).sessionId.toNat = some session ∧
    session.chunkedOutput = false
  queued : backend.decodedOutputState.queue.items.lookup
    (SessionOutputPayload.read source).outputId.toNat = some output
  small : (decodedLayout output).totalSize.toNat ≤ maxDecodedFrameBytes
  locked : host.lockPixels 0 = true

/-- `READ_DECODED_FRAME_CHUNK` passes its checks and gets to an image. -/
structure ReadsDecodedChunk (host : HostCalls) (source : List UInt8)
    (backend : VtRealBackend) (output : VtRealDecodedOutput) : Prop where
  long : ReadDecodedFrameChunkPayload.size ≤ source.length
  chunked : ∃ session, backend.decodeSessions.lookup
      (ReadDecodedFrameChunkPayload.read source).sessionId.toNat = some session ∧
    session.chunkedOutput = true
  queued : backend.decodedOutputState.queue.items.lookup
    (ReadDecodedFrameChunkPayload.read source).outputId.toNat = some output
  inside : ¬ ((decodedLayout output).totalSize.toNat <
      (ReadDecodedFrameChunkPayload.read source).offset.toNat ∨
    (decodedLayout output).totalSize.toNat -
        (ReadDecodedFrameChunkPayload.read source).offset.toNat <
      (ReadDecodedFrameChunkPayload.read source).length.toNat)
  locked : host.lockPixels 0 = true

section Handlers

variable {host : HostCalls} {source response : List UInt8}
  {backend : VtRealBackend} {surfaces : Surfaces}
  {output : VtRealDecodedOutput}

theorem readDecodedFrame_of_reads (reads : ReadsDecodedFrame host source backend output)
    (fits : readDecodedFrameReplySize + (decodedLayout output).totalSize.toNat ≤ response.length) :
    readDecodedFrame host source response backend surfaces =
      match vtfCopyPixelBufferToBytes surfaces.memory host.nulls
          output.imageBuffer (response.drop readDecodedFrameReplySize)
          (UInt32.ofNat output.imageBuffer.width)
          (UInt32.ofNat output.imageBuffer.height)
          output.imageBuffer.pixelFormat with
      | none => .plain backend surfaces Status.internalFailure
      | some copied =>
        .ok backend surfaces (.decodedBytes (SessionOutputPayload.read source).outputId.toNat
            output.status.toUInt32
            (copied.take (decodedLayout output).totalSize.toNat)) := by
  obtain ⟨session, found, inline⟩ := reads.inline
  have long := Nat.not_lt_of_le reads.long
  have small := Nat.not_lt_of_le reads.small
  have fits := Nat.not_lt_of_le fits
  unfold decodedLayout at small fits
  simp only [readDecodedFrame, long, found, inline, reads.queued, small, fits,
    reads.locked, if_false, Bool.false_eq_true, Bool.not_true]
  rfl

/-- A request that fails a check is refused, whatever the response buffer of
that size holds. -/
theorem readDecodedFrame_cases (host : HostCalls)
    (source response : List UInt8) (backend : VtRealBackend)
    (surfaces : Surfaces) :
    (∃ status, status ≠ Status.ok ∧ ∀ other : List UInt8, other.length = response.length →
        readDecodedFrame host source other backend surfaces = .plain backend surfaces status) ∨
    ∃ output, ReadsDecodedFrame host source backend output ∧ readDecodedFrameReplySize +
        (decodedLayout output).totalSize.toNat ≤ response.length := by
  by_cases long : source.length < SessionOutputPayload.size
  · refine .inl ⟨Status.internalFailure, by decide, ?_⟩
    intro other _
    simp [readDecodedFrame, long]
  cases known : backend.decodeSessions.lookup
      (SessionOutputPayload.read source).sessionId.toNat with
  | none =>
    refine .inl ⟨Status.invalidHandle, by decide, ?_⟩
    intro other _
    simp [readDecodedFrame, long, known]
  | some session =>
    by_cases chunked : session.chunkedOutput = true
    · refine .inl ⟨Status.invalidState, by decide, ?_⟩
      intro other _
      simp [readDecodedFrame, long, known, chunked]
    cases queued : backend.decodedOutputState.queue.items.lookup
        (SessionOutputPayload.read source).outputId.toNat with
    | none =>
      refine .inl ⟨Status.invalidHandle, by decide, ?_⟩
      intro other _
      simp [readDecodedFrame, long, known, chunked, queued]
    | some output =>
      by_cases large : (decodedLayout output).totalSize.toNat > maxDecodedFrameBytes
      · refine .inl ⟨Status.resourceExhausted, by decide, ?_⟩
        intro other _
        unfold decodedLayout at large
        simp [readDecodedFrame, long, known, chunked, queued, large]
      by_cases short : response.length < readDecodedFrameReplySize +
          (decodedLayout output).totalSize.toNat
      · refine .inl ⟨Status.internalFailure, by decide, ?_⟩
        intro other sameLength
        rw [← sameLength] at short
        unfold decodedLayout at large short
        simp [readDecodedFrame, long, known, chunked, queued, large, short]
      by_cases locked : host.lockPixels 0 = true
      · exact .inr ⟨output,
          { long := Nat.le_of_not_lt long
            inline := ⟨session, known, by simpa using chunked⟩
            queued := queued
            small := Nat.le_of_not_lt large
            locked := locked },
          Nat.le_of_not_lt short⟩
      · refine .inl ⟨Status.internalFailure, by decide, ?_⟩
        intro other sameLength
        rw [← sameLength] at short
        unfold decodedLayout at large short
        simp [readDecodedFrame, long, known, chunked, queued, large, short, locked]

/-- A frame is read whole exactly if the checks pass, the reply fits and the
pixels can be copied. -/
theorem readDecodedFrame_ok_iff :
    (readDecodedFrame host source response backend surfaces).status = Status.ok ↔
      ∃ output, ReadsDecodedFrame host source backend output ∧ readDecodedFrameReplySize +
          (decodedLayout output).totalSize.toNat ≤ response.length ∧
        ¬ CopyFails host.nulls output.imageBuffer (decodedLayout output) := by
  constructor
  · intro done
    rcases readDecodedFrame_cases host source response backend surfaces with
      ⟨status, failed, refused⟩ | ⟨output, reads, fits⟩
    · rw [refused response rfl] at done
      exact absurd done failed
    · refine ⟨output, reads, fits, ?_⟩
      intro fails
      rw [readDecodedFrame_of_reads reads fits, vtfCopyPixelBufferToBytes_eq_none _ _ fails] at done
      cases done
  · rintro ⟨output, reads, fits, copies⟩
    rw [readDecodedFrame_of_reads reads fits, vtfCopyPixelBufferToBytes_eq_some _ _ copies]
    rfl

theorem readDecodedFrameChunk_of_reads (reads : ReadsDecodedChunk host source backend output)
    (fits : readDecodedFrameChunkReplySize +
      (ReadDecodedFrameChunkPayload.read source).length.toNat ≤ response.length) :
    readDecodedFrameChunk host source response backend surfaces =
      match vtfCopyPixelBufferByteRange surfaces.memory host.nulls
          output.imageBuffer (decodedLayout output)
          (ReadDecodedFrameChunkPayload.read source).offset.toNat
          (ReadDecodedFrameChunkPayload.read source).length.toNat with
      | none => .plain backend surfaces Status.internalFailure
      | some bytes =>
        .ok backend surfaces (.decodedChunk
            (ReadDecodedFrameChunkPayload.read source).outputId.toNat
            (ReadDecodedFrameChunkPayload.read source).offset
            (ReadDecodedFrameChunkPayload.read source).length
            output.status.toUInt32 bytes) := by
  obtain ⟨session, found, chunked⟩ := reads.chunked
  have long := Nat.not_lt_of_le reads.long
  have inside := reads.inside
  have fits := Nat.not_lt_of_le fits
  unfold decodedLayout at inside
  simp only [readDecodedFrameChunk, long, found, chunked, reads.queued,
    inside, fits, reads.locked, if_false, Bool.false_eq_true, Bool.not_true]
  rfl

theorem readDecodedFrameChunk_cases (host : HostCalls)
    (source response : List UInt8) (backend : VtRealBackend)
    (surfaces : Surfaces) :
    (∃ status, status ≠ Status.ok ∧ readDecodedFrameChunk host source response backend surfaces =
        .plain backend surfaces status) ∨
    ∃ output, ReadsDecodedChunk host source backend output ∧ readDecodedFrameChunkReplySize +
        (ReadDecodedFrameChunkPayload.read source).length.toNat ≤
          response.length := by
  unfold readDecodedFrameChunk
  dsimp only
  split
  · exact .inl ⟨_, by decide, rfl⟩
  next long =>
    split
    · exact .inl ⟨_, by decide, rfl⟩
    next session known =>
      split
      · exact .inl ⟨_, by decide, rfl⟩
      next chunked =>
        split
        · exact .inl ⟨_, by decide, rfl⟩
        next output queued =>
          split
          · exact .inl ⟨_, by decide, rfl⟩
          next inside =>
            split
            · exact .inl ⟨_, by decide, rfl⟩
            next short =>
              split
              · exact .inl ⟨_, by decide, rfl⟩
              next locked =>
                refine .inr ⟨output, ⟨Nat.le_of_not_lt long, ⟨session, known, ?_⟩, queued,
                  inside, ?_⟩, Nat.le_of_not_lt short⟩
                · simpa using chunked
                · simpa using locked

/-- A chunk is read exactly if the checks pass, the reply fits and the pixels
of the range can be copied. -/
theorem readDecodedFrameChunk_ok_iff :
    (readDecodedFrameChunk host source response backend surfaces).status = Status.ok ↔
      ∃ output, ReadsDecodedChunk host source backend output ∧ readDecodedFrameChunkReplySize +
          (ReadDecodedFrameChunkPayload.read source).length.toNat ≤ response.length ∧
        ¬ RangeCopyFails host.nulls output.imageBuffer (decodedLayout output)
          (ReadDecodedFrameChunkPayload.read source).offset.toNat
          (ReadDecodedFrameChunkPayload.read source).length.toNat := by
  constructor
  · intro done
    rcases readDecodedFrameChunk_cases host source response backend
        surfaces with ⟨status, failed, refused⟩ | ⟨output, reads, fits⟩
    · rw [refused] at done
      exact absurd done failed
    · refine ⟨output, reads, fits, ?_⟩
      intro fails
      rw [readDecodedFrameChunk_of_reads reads fits,
        (vtfCopyPixelBufferByteRange_eq_none_iff _ _ _ _ reads.inside).mpr fails] at done
      cases done
  · rintro ⟨output, reads, fits, copies⟩
    obtain ⟨bytes, copied⟩ := Option.ne_none_iff_exists'.mp
      (mt (vtfCopyPixelBufferByteRange_eq_none_iff surfaces.memory _ _ _ reads.inside).mp copies)
    rw [readDecodedFrameChunk_of_reads reads fits, copied]
    rfl

end Handlers

end VtRealBackend

end VtFerry
