import VtFerry.Shim.DecodeTransport
import VtFerry.Shim.LayoutAgreement
import VtFerry.Worker.RangeCopy
import VtFerry.Worker.ResponseReuse

/-!
# Fetching a decoded frame in chunks

A guest fetches a large frame by asking for one range after another.  Here the
worker serves this one guest and nothing else happens in between; what the
host frameworks answer and what the response buffer holds may change from one
request to the next.  The ranges are slices of the frame, so the chunks join
to the frame, whatever their size.
-/

namespace VtFerry

open List LittleEndian Patches Pieces

namespace Shim

/-! ## A worker for one guest -/

/-- What is around the backend, by the number of requests served. -/
structure SoloWorld where
  host : Nat → HostCalls
  response : Nat → List UInt8

/-- A backend that serves one connection. -/
structure Solo where
  backend : VtRealBackend
  surfaces : Surfaces
  turn : Nat

namespace SoloWorld

def served (world : SoloWorld) (solo : Solo) (request : Request) : Served :=
  solo.backend.dispatch (world.host solo.turn) request (world.response solo.turn) solo.surfaces

def serve (world : SoloWorld) : Send Solo := fun solo request =>
  let served := world.served solo request
  ({ backend := served.backend
     surfaces := served.surfaces
     turn := solo.turn + 1 },
    answer served)

theorem serve_of_ok {world : SoloWorld} {solo : Solo} {request : Request}
    {backend : VtRealBackend} {surfaces : Surfaces} {body : ReplyBody}
    (served : world.served solo request = .ok backend surfaces body) :
    world.serve solo request = (⟨backend, surfaces, solo.turn + 1⟩, .ok body.bytes) := by
  unfold serve
  rw [served]
  rfl

/-- CoreVideo locks images and answers with these addresses, and the response
buffer has at least this size. -/
structure Grants (world : SoloWorld) (nulls : NullAddresses) (capacity : Nat) : Prop where
  locks : ∀ turn, (world.host turn).lockPixels 0 = true
  nulls : ∀ turn, (world.host turn).nulls = nulls
  room : ∀ turn, capacity ≤ (world.response turn).length

end SoloWorld

/-- The image is queued at the worker as an output of a session in chunked
mode. -/
structure Solo.Queues (solo : Solo) (sessionId outputId : UInt64)
    (memory : HostMemory) (image : PixelBuffer) : Prop where
  chunked : ∃ session, solo.backend.decodeSessions.lookup sessionId.toNat = some session ∧
      session.chunkedOutput = true
  queued : ∃ output, solo.backend.decodedOutputState.queue.items.lookup
    outputId.toNat = some output ∧ output.imageBuffer = image
  memory : solo.surfaces.memory = memory

end Shim

/-! ## Slices -/

section Slices

variable {memory : HostMemory} {nulls : NullAddresses}
variable {image : PixelBuffer} {width height pixelFormat : UInt32}

variable {copied : List UInt8}

theorem copies_of_some {destination : List UInt8}
    (succeeds : vtfCopyPixelBufferToBytes memory nulls image destination
      width height pixelFormat = some copied) :
    ¬ CopyFails nulls image (vtfFillBufferLayout width height pixelFormat) := by
  intro fails
  rw [vtfCopyPixelBufferToBytes_eq_none _ _ fails] at succeeds
  cases succeeds

theorem totalSize_of_no_rows : (vtfFillBufferLayout width 0 pixelFormat).totalSize = 0 := by
  rw [vtfFillBufferLayout_eq, layoutWith]
  split
  · simp [biplanarLayout]
  · simp

variable {size offset length : Nat}

theorem byteRangeInto_of_copied (small : exactTotalSize width height pixelFormat < 2 ^ 32)
    (room : (vtfFillBufferLayout width height pixelFormat).totalSize.toNat ≤
      size) (succeeds : vtfCopyPixelBufferToBytes memory nulls image
      (replicate size 0) width height pixelFormat = some copied)
    (fits : offset + length ≤ (vtfFillBufferLayout width height pixelFormat).totalSize.toNat)
    (destination : List UInt8) :
    vtfCopyPixelBufferByteRangeInto memory nulls image
        (vtfFillBufferLayout width height pixelFormat) offset length
        destination =
      (true, (copied.drop offset).take length ++ destination.drop length) := by
  have copies := copies_of_some succeeds
  by_cases some : length = 0
  · subst some
    have nonempty : (vtfFillBufferLayout width height
        pixelFormat).planes.length ≠ 0 := fun empty => copies (.inl empty)
    have inside : ¬ ((vtfFillBufferLayout width height pixelFormat).totalSize.toNat < offset ∨
        (vtfFillBufferLayout width height pixelFormat).totalSize.toNat -
          offset < 0) := by
      omega
    unfold vtfCopyPixelBufferByteRangeInto
    dsimp only
    rw [if_neg nonempty, if_neg inside, if_pos rfl]
    rfl
  · have tall : 0 < height := by
      rw [UInt32.pos_iff_ne_zero]
      rintro rfl
      have none : (0 : UInt32).toNat = 0 := rfl
      rw [totalSize_of_no_rows] at fits
      omega
    have tiles : (vtfFillBufferLayout width height pixelFormat).Tiles
        (exactTotalSize width height pixelFormat) := by
      rw [vtfFillBufferLayout_eq]
      exact layoutWith_tiles tall small
    rw [byteRangeInto_eq copies fits some, applyAll_rangePatches tiles copies
      (tiles.size ▸ fits) (tiles.size ▸ room)]
    rw [vtfCopyPixelBufferToBytes_eq_some _ _ copies] at succeeds
    cases succeeds
    rfl

theorem byteRange_of_copied (small : exactTotalSize width height pixelFormat < 2 ^ 32)
    (room : (vtfFillBufferLayout width height pixelFormat).totalSize.toNat ≤
      size) (succeeds : vtfCopyPixelBufferToBytes memory nulls image
      (replicate size 0) width height pixelFormat = some copied)
    (fits : offset + length ≤ (vtfFillBufferLayout width height pixelFormat).totalSize.toNat) :
    vtfCopyPixelBufferByteRange memory nulls image
        (vtfFillBufferLayout width height pixelFormat) offset length =
      some ((copied.drop offset).take length) := by
  rw [byteRange_eq_into, byteRangeInto_of_copied small room succeeds fits]
  simp

theorem byteRangeInto_outside {layout : BufferLayoutReply}
    (outside : layout.totalSize.toNat < offset + length)
    (destination : List UInt8) :
    vtfCopyPixelBufferByteRangeInto memory nulls image layout offset length
      destination = (false, destination) := by
  have refused : layout.totalSize.toNat < offset ∨ layout.totalSize.toNat - offset < length := by
    omega
  unfold vtfCopyPixelBufferByteRangeInto
  dsimp only
  rw [if_pos refused]
  exact ite_self _

theorem length_copied (succeeds : vtfCopyPixelBufferToBytes memory nulls image
      (replicate size 0) width height pixelFormat = some copied) :
    size ≤ copied.length := by
  rw [vtfCopyPixelBufferToBytes_eq_some _ _ (copies_of_some succeeds)] at succeeds
  cases succeeds
  have kept := length_le_applyAll (copyPatches memory image
    (vtfFillBufferLayout width height pixelFormat)) (replicate size 0)
  rwa [length_replicate] at kept

end Slices

/-! ## Chunks -/

namespace Shim

variable {world : SoloWorld} {nulls : NullAddresses} {memory : HostMemory}
variable {image : PixelBuffer} {sessionId outputId : UInt64}

/-- The canonical layout of an image of the given size. -/
def imageLayout (image : PixelBuffer) : BufferLayoutReply :=
  vtfFillBufferLayout (UInt32.ofNat image.width) (UInt32.ofNat image.height) image.pixelFormat

theorem served_chunkRead {solo : Solo} {capacity offset length : Nat}
    (grants : world.Grants nulls capacity)
    (queues : solo.Queues sessionId outputId memory image)
    (fits : offset + length ≤ (imageLayout image).totalSize.toNat)
    (replyFits : VtRealBackend.readDecodedFrameChunkReplySize + length ≤ capacity) :
    ∃ status, world.served solo (chunkReadRequest sessionId outputId offset length) =
      match vtfCopyPixelBufferByteRange memory nulls image (imageLayout image) offset length with
      | none => .plain solo.backend solo.surfaces Status.internalFailure
      | some bytes =>
        .ok solo.backend solo.surfaces (.decodedChunk outputId.toNat (UInt32.ofNat offset)
            (UInt32.ofNat length) status bytes) := by
  obtain ⟨session, known, chunked⟩ := queues.chunked
  obtain ⟨output, queued, isImage⟩ := queues.queued
  have word := (imageLayout image).totalSize.toNat_lt
  have offsetWord : (UInt32.ofNat offset).toNat = offset := by
    rw [UInt32.toNat_ofNat', Nat.mod_eq_of_lt (by omega)]
  have lengthWord : (UInt32.ofNat length).toNat = length := by
    rw [UInt32.toNat_ofNat', Nat.mod_eq_of_lt (by omega)]
  have layout : VtRealBackend.decodedLayout output = imageLayout image := by
    rw [VtRealBackend.decodedLayout, isImage]
    rfl
  have served : world.served solo (chunkReadRequest sessionId outputId offset length) =
      VtRealBackend.readDecodedFrameChunk (world.host solo.turn)
        (ReadDecodedFrameChunkPayload.bytes ⟨sessionId, outputId,
          UInt32.ofNat offset, UInt32.ofNat length⟩)
        (world.response solo.turn) solo.backend solo.surfaces := by
    unfold SoloWorld.served VtRealBackend.dispatch chunkReadRequest
    rw [Opcode.ofCode?_code]
  have reads : VtRealBackend.ReadsDecodedChunk (world.host solo.turn)
      (ReadDecodedFrameChunkPayload.bytes ⟨sessionId, outputId,
        UInt32.ofNat offset, UInt32.ofNat length⟩) solo.backend output := by
    refine ⟨?_, ?_, ?_, ?_, grants.locks solo.turn⟩
    · rw [ReadDecodedFrameChunkPayload.length_bytes]
    · rw [ReadDecodedFrameChunkPayload.read_bytes]
      exact ⟨session, known, chunked⟩
    · rw [ReadDecodedFrameChunkPayload.read_bytes]
      exact queued
    · rw [ReadDecodedFrameChunkPayload.read_bytes, layout]
      dsimp only
      omega
  have wide : VtRealBackend.readDecodedFrameChunkReplySize +
      (ReadDecodedFrameChunkPayload.read (ReadDecodedFrameChunkPayload.bytes
        ⟨sessionId, outputId, UInt32.ofNat offset, UInt32.ofNat length⟩)).length.toNat ≤
        (world.response solo.turn).length := by
    rw [ReadDecodedFrameChunkPayload.read_bytes]
    dsimp only
    rw [lengthWord]
    exact replyFits.trans (grants.room solo.turn)
  refine ⟨output.status.toUInt32, ?_⟩
  rw [served, VtRealBackend.readDecodedFrameChunk_of_reads reads wide,
    ReadDecodedFrameChunkPayload.read_bytes]
  dsimp only
  rewrite [offsetWord, lengthWord, queues.memory, grants.nulls, layout, isImage]
  rfl

theorem fetchPiece_of_range {caller : Caller Solo}
    {capacity offset length : Nat} {bytes : List UInt8}
    (grants : world.Grants nulls capacity)
    (queues : caller.transport.Queues sessionId outputId memory image)
    (fits : offset + length ≤ (imageLayout image).totalSize.toNat)
    (replyFits : VtRealBackend.readDecodedFrameChunkReplySize + length ≤ capacity)
    (range : vtfCopyPixelBufferByteRange memory nulls image
      (imageLayout image) offset length = some bytes)
    (long : length ≤ bytes.length) :
    (fetchPiece world.serve readDecodedFrameChunkReplySize
        (chunkReadRequest sessionId outputId) offset length
        caller).1.transport.Queues sessionId outputId memory image ∧
      (fetchPiece world.serve readDecodedFrameChunkReplySize
        (chunkReadRequest sessionId outputId) offset length caller).2 =
          .ok (bytes.take length) := by
  obtain ⟨status, served⟩ := served_chunkRead grants queues fits replyFits
  rw [range] at served
  have fetched := fetchPiece_of_reply world.serve (SoloWorld.serve_of_ok served) long
  rw [show readDecodedFrameChunkReplySize = (idBytes outputId.toNat ++
      u32Bytes (UInt32.ofNat offset) ++ u32Bytes (UInt32.ofNat length) ++
      u32Bytes status ++ unusedBytes 4).length by simp [u32Bytes,
        readDecodedFrameChunkReplySize], fetched]
  exact ⟨⟨queues.chunked, queues.queued, queues.memory⟩, rfl⟩

theorem readDecodedFrameChunks_eq {solo : Solo} {sent : List Request}
    {cap size : Nat} (positive : 0 < cap) {copied : List UInt8}
    (grants : world.Grants nulls (VtRealBackend.readDecodedFrameChunkReplySize + cap))
    (queues : solo.Queues sessionId outputId memory image)
    (small : exactTotalSize (UInt32.ofNat image.width)
      (UInt32.ofNat image.height) image.pixelFormat < 2 ^ 32)
    (room : (imageLayout image).totalSize.toNat ≤ size)
    (succeeds : vtfCopyPixelBufferToBytes memory nulls image
      (replicate size 0) (UInt32.ofNat image.width)
      (UInt32.ofNat image.height) image.pixelFormat = some copied) :
    (readDecodedFrameChunks world.serve cap positive sessionId outputId
        (imageLayout image).totalSize.toNat ⟨solo, sent⟩).2 =
      .ok (copied.take (imageLayout image).totalSize.toNat) := by
  have long := room.trans (length_copied succeeds)
  have slices : ∀ offset length (caller : Caller Solo),
      caller.transport.Queues sessionId outputId memory image →
      0 < length → length ≤ cap →
      offset + length ≤ (imageLayout image).totalSize.toNat →
        (fetchPiece world.serve readDecodedFrameChunkReplySize
          (chunkReadRequest sessionId outputId) offset length
          caller).1.transport.Queues sessionId outputId memory image ∧
        (fetchPiece world.serve readDecodedFrameChunkReplySize
          (chunkReadRequest sessionId outputId) offset length caller).2 =
            .ok ((copied.drop offset).take length) := by
    intro offset length caller queues _ bound fits
    have sliceLength : ((copied.drop offset).take length).length = length := by
      rw [length_take, length_drop]
      omega
    have fetched := fetchPiece_of_range grants queues fits (Nat.add_le_add_left bound _)
      (byteRange_of_copied small room succeeds fits) (Nat.le_of_eq sliceLength.symm)
    rwa [take_of_length_le (Nat.le_of_eq sliceLength)] at fetched
  have joined := (fetchPieces_eq positive slices 0 ⟨solo, sent⟩ queues).2
  simpa [readDecodedFrameChunks] using joined

/-- A frame was copied into zeroes.  Then copying a range of it gives the same
bytes, whatever the destination held, a range that is not inside the frame is
refused with the destination as it was, and chunks of any size fetched one
after the other are the frame. -/
theorem range_copy_is_slice (memory : HostMemory) (nulls : NullAddresses)
    (image : PixelBuffer) (width height pixelFormat : UInt32)
    (small : exactTotalSize width height pixelFormat < 2 ^ 32) (size : Nat)
    (room : (vtfFillBufferLayout width height pixelFormat).totalSize.toNat ≤ size)
    (copied : List UInt8)
    (succeeds : vtfCopyPixelBufferToBytes memory nulls image
      (replicate size 0) width height pixelFormat = some copied) :
    let layout := vtfFillBufferLayout width height pixelFormat
    (∀ offset length destination, offset + length ≤ layout.totalSize.toNat →
      vtfCopyPixelBufferByteRangeInto memory nulls image layout offset length destination =
        (true, (copied.drop offset).take length ++ destination.drop length)) ∧
    (∀ offset length destination, layout.totalSize.toNat < offset + length →
      vtfCopyPixelBufferByteRangeInto memory nulls image layout offset length
        destination = (false, destination)) ∧
    (∀ (world : SoloWorld) (solo : Solo) (sent : List Request)
        (sessionId outputId : UInt64) (cap : Nat) (positive : 0 < cap),
      width = UInt32.ofNat image.width →
      height = UInt32.ofNat image.height →
      pixelFormat = image.pixelFormat →
      world.Grants nulls (VtRealBackend.readDecodedFrameChunkReplySize + cap) →
      solo.Queues sessionId outputId memory image →
        (readDecodedFrameChunks world.serve cap positive sessionId outputId
            layout.totalSize.toNat ⟨solo, sent⟩).2 =
          .ok (copied.take layout.totalSize.toNat)) := by
  intro layout
  refine ⟨?_, ?_, ?_⟩
  · intro offset length destination fits
    exact byteRangeInto_of_copied small room succeeds fits destination
  · intro offset length destination outside
    exact byteRangeInto_outside outside destination
  · intro world solo sent sessionId outputId cap positive isWidth isHeight isFormat grants queues
    subst isWidth isHeight isFormat
    exact readDecodedFrameChunks_eq positive grants queues small room succeeds

/-- The canonical frame of `narrowImage` over memory that counts its bytes:
the rows of 32 bytes are padded to 64. -/
def narrowFrame : List UInt8 :=
  ([0, 32, 64].map fun start =>
    (range 32).map (fun index => UInt8.ofNat (start + index)) ++ replicate 32 0).flatten

theorem narrow_range_copied :
    vtfCopyPixelBufferByteRangeInto (fun _ offset => UInt8.ofNat offset) {}
        narrowImage (vtfFillBufferLayout 16 2 PixelFormat.nv12) 60 10
        (replicate 10 7) =
      (true, [0, 0, 0, 0, 32, 33, 34, 35, 36, 37]) :=
  ((range_copy_is_slice (fun _ offset => UInt8.ofNat offset) {} narrowImage
    16 2 PixelFormat.nv12 (by decide) 192 (by decide) narrowFrame
    (by decide +kernel)).1 60 10 (replicate 10 7) (by decide)).trans (by decide)

end Shim

end VtFerry
