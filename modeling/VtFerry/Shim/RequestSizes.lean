import VtFerry.Shim.Upload

/-!
# Request sizes

The worker hangs up on a request whose header announces more than its storage
holds.  The chunks of a pixel buffer always fit.  An encoded frame fits only
while it goes inline and leaves room for the header: the bound that selects
the inline form, which is also the size of a chunk, is twice the worker's
storage.
-/

namespace VtFerry

open List Pieces

/-- The header `send_request_dynamic` puts before the payload. -/
def Request.header (request : Request) (requestId : UInt64) :
    MessageHeader where
  version := transportVersion
  opcode := request.opcode
  flags := 0
  requestId := requestId
  payloadLen := UInt32.ofNat request.payload.length
  status := 0

/-- A connection thread that waits for a request and reads this header closes
the stream. -/
def Server.HangsUp (header : MessageHeader) : Prop :=
  Server.afterRead (Server.requestFraming.receive MessageHeader.size
    header.bytes .start).1 = .closed

theorem Server.hangsUp_iff (header : MessageHeader) :
    Server.HangsUp header ↔
      transportStorageCapacity < header.payloadLen.toNat := by
  have whole : header.bytes.take MessageHeader.size = header.bytes :=
    take_of_length_le (Nat.le_of_eq header.length_bytes)
  have received : (Server.requestFraming.receive MessageHeader.size
      header.bytes .start).1 = Server.requestFraming.afterHeader header := by
    simp [FramedStream.Framing.receive, FramedStream.Reader.start, Server.requestFraming, whole]
  unfold Server.HangsUp
  rw [received, FramedStream.Framing.afterHeader]
  by_cases small : header.payloadLen.toNat ≤ transportStorageCapacity
  · have accepted : Server.requestFraming.accepts header = true :=
      decide_eq_true small
    rw [if_pos accepted]
    split
    · simp [Server.afterRead, small]
    · simp [Server.afterRead, small]
  · have refused : ¬ Server.requestFraming.accepts header = true :=
      fun accepted => small (of_decide_eq_true accepted)
    rw [if_neg refused]
    simp only [Server.afterRead, true_iff]
    omega

namespace Request

/-- The worker does not hang up on the request. -/
def Fits (request : Request) : Prop :=
  ∀ requestId, ¬ Server.HangsUp (request.header requestId)

variable {request : Request}

theorem header_payloadLen (requestId : UInt64) (short : request.payload.length < 2 ^ 32) :
    (request.header requestId).payloadLen.toNat = request.payload.length := by
  rw [header, UInt32.toNat_ofNat']
  exact Nat.mod_eq_of_lt short

theorem fits_of_le (small : request.payload.length ≤ transportStorageCapacity) :
    request.Fits := by
  intro requestId
  have short : request.payload.length < 2 ^ 32 :=
    Nat.lt_of_le_of_lt small (by decide)
  rw [Server.hangsUp_iff, header_payloadLen requestId short]
  exact Nat.not_lt_of_le small

theorem hangsUp_of_lt (requestId : UInt64)
    (large : transportStorageCapacity < request.payload.length)
    (short : request.payload.length < 2 ^ 32) :
    Server.HangsUp (request.header requestId) := by
  rw [Server.hangsUp_iff, header_payloadLen requestId short]
  exact large

end Request

namespace Shim

variable {State : Type} {send : Send State}

/-- No request sent so far makes the worker hang up. -/
def Caller.AllFit (caller : Caller State) : Prop :=
  ∀ request ∈ caller.sent, request.Fits

def HasSent (request : Request) (caller : Caller State) : Prop :=
  request ∈ caller.sent

theorem sendUnit_sent (send : Send State) (request : Request) (caller : Caller State) :
    (sendUnit send request caller).1.sent = caller.sent ++ [request] :=
  rfl

variable {caller : Caller State} {request : Request}

theorem Caller.AllFit.sendRequestBytes (allFit : caller.AllFit) (fits : request.Fits) :
    (sendRequestBytes send request caller).1.AllFit := by
  intro other member
  rcases mem_append.mp member with earlier | now
  · exact allFit other earlier
  · obtain rfl := mem_singleton.mp now
    exact fits

theorem Caller.AllFit.sendUnit (allFit : caller.AllFit) (fits : request.Fits) :
    (sendUnit send request caller).1.AllFit :=
  allFit.sendRequestBytes fits

theorem allFit_of_eq {Result : Type} {action : Caller State × Result}
    {outcome : Result} (result : action = (caller, outcome))
    (allFit : action.1.AllFit) :
    caller.AllFit := by
  rw [result] at allFit
  exact allFit

/-! ## Uploading a pixel buffer -/

theorem writeBufferRequest_fits (bufferId generation : UInt64) (offset : Nat)
    {piece : List UInt8} (small : piece.length ≤ writeBufferChunkBytes) :
    (writeBufferRequest bufferId generation offset piece).Fits := by
  apply Request.fits_of_le
  rw [writeBufferRequest, length_append, BufferRangePayload.length_bytes]
  calc BufferRangePayload.size + piece.length ≤ BufferRangePayload.size + writeBufferChunkBytes :=
        Nat.add_le_add_left small _
    _ ≤ transportStorageCapacity := by decide

theorem Caller.AllFit.writeBuffer (allFit : caller.AllFit)
    (bufferId generation : UInt64) (bytes : List UInt8) :
    (writeBuffer send bufferId generation bytes caller).1.AllFit := by
  apply sendPieces_invariant
  · intro offset piece caller small allFit
    exact allFit.sendUnit (writeBufferRequest_fits bufferId generation offset small)
  · exact allFit

theorem Caller.AllFit.uploadImage (allFit : caller.AllFit) (image : ImageBuffer) :
    (uploadImage send image caller).1.AllFit := by
  unfold Shim.uploadImage
  split
  · exact allFit
  · exact allFit.writeBuffer _ _ _

theorem Caller.AllFit.prepareSession (allFit : caller.AllFit) (session : CompressionSession) :
    (vtfPrepareSessionIfNeeded send session caller).2.1.AllFit := by
  unfold vtfPrepareSessionIfNeeded
  split
  · exact allFit
  · have fits : Request.Fits ⟨Opcode.prepareSession.code,
        LittleEndian.u64Bytes session.proxyId⟩ := by
      apply Request.fits_of_le
      rw [LittleEndian.u64Bytes, LittleEndian.length_encode]
      decide
    have sent : (Shim.sendRequestBytes send _ caller).1.AllFit :=
      allFit.sendRequestBytes fits
    split
    next result => rwa [result] at sent
    next result => rwa [result] at sent

theorem Caller.AllFit.encodeFrame (allFit : caller.AllFit) (payload : EncodeFramePayload) :
    (encodeFrame send payload caller).1.AllFit := by
  apply allFit.sendUnit
  apply Request.fits_of_le
  rw [EncodeFramePayload.length_bytes]
  decide

/-- Encoding a pixel buffer of any size sends only requests that fit. -/
theorem compressionSessionEncodeFrame_allFit (send : Send State)
    (pushed : Bool) (session : CompressionSession) (image : ImageBuffer)
    (presentation duration : Time) (allFit : caller.AllFit) :
    (compressionSessionEncodeFrame send pushed session image presentation
      duration caller).caller.AllFit := by
  have prepared : (vtfPrepareSessionIfNeeded send session caller).2.1.AllFit :=
    allFit.prepareSession session
  unfold compressionSessionEncodeFrame
  split
  · exact allFit
  split
  · exact allFit
  · dsimp only
    split
    · exact prepared
    split
    next result => exact allFit_of_eq result (prepared.uploadImage image)
    next result =>
      have uploaded := allFit_of_eq result (prepared.uploadImage image)
      split
      · exact uploaded
      split
      next encoded => exact allFit_of_eq encoded (uploaded.encodeFrame _)
      next encoded => exact allFit_of_eq encoded (uploaded.encodeFrame _)

/-! ## Submitting an encoded frame -/

variable {frame : List UInt8}

theorem decodeFrame_sent_inline (send : Send State)
    (session : DecompressionSession) (sample : SampleBuffer)
    (caller : Caller State) (isOpen : session.invalidated = false)
    (formatted : session.formatSet = true) (carries : sample.data = some frame)
    (nonempty : 1 ≤ frame.length)
    (inline : frame.length ≤ maxEncodedFrameBytes) :
    ∃ request : Request, request.payload.length = EnqueueEncodedFramePayload.size + frame.length ∧
      (decompressionSessionDecodeFrame send session sample caller).1.sent =
        caller.sent ++ [request] := by
  have size : (UInt32.ofNat frame.length).toNat = frame.length := by
    rw [UInt32.toNat_ofNat']
    exact Nat.mod_eq_of_lt (Nat.lt_of_le_of_lt inline (by decide))
  unfold decompressionSessionDecodeFrame vtfDecompressionEnqueueInline enqueueEncodedFrame
  simp only [isOpen, formatted, carries, inline, size,
    Nat.ne_of_gt (Nat.lt_of_lt_of_le Nat.zero_lt_one nonempty), ne_eq,
    not_true_eq_false, if_false, if_true, Bool.false_eq_true, Bool.not_true]
  refine ⟨_, ?_, sendUnit_sent send _ caller⟩
  rw [length_append, EnqueueEncodedFramePayload.length_bytes]

theorem enqueueEncodedFrameChunked_first (send : Send State)
    (head : EnqueueEncodedFrameChunkPayload) (caller : Caller State)
    (nonempty : frame ≠ []) (short : frame.length ≤ 2 ^ 32 - 1) :
    HasSent (chunkRequest head frame.length 0 (frame.take maxEncodedFrameBytes))
      (enqueueEncodedFrameChunked send head frame caller).1 := by
  unfold enqueueEncodedFrameChunked
  rw [if_neg (by simpa using nonempty), if_neg (Nat.not_lt_of_le short)]
  apply sendPieces_first
  · intro offset piece caller _ sent
    exact mem_append_left _ sent
  · exact nonempty
  · exact mem_append_right _ (mem_singleton_self _)

theorem decodeFrame_sent_chunked (send : Send State)
    (session : DecompressionSession) (sample : SampleBuffer)
    (caller : Caller State) (isOpen : session.invalidated = false)
    (formatted : session.formatSet = true) (carries : sample.data = some frame)
    (chunked : maxEncodedFrameBytes < frame.length)
    (bounded : frame.length ≤ 64 * 1024 * 1024) :
    ∃ request : Request, request.payload.length =
        EnqueueEncodedFrameChunkPayload.size + maxEncodedFrameBytes ∧
      request ∈ (decompressionSessionDecodeFrame send session sample caller).1.sent := by
  have positive : 0 < frame.length := by omega
  have first_length : (frame.take maxEncodedFrameBytes).length =
      maxEncodedFrameBytes := by
    rw [length_take]
    exact Nat.min_eq_left (Nat.le_of_lt chunked)
  unfold decompressionSessionDecodeFrame vtfDecompressionEnqueueChunked
  simp only [isOpen, formatted, carries, Nat.not_le_of_lt chunked,
    Nat.ne_of_gt positive, if_false, Bool.false_eq_true, Bool.not_true]
  refine ⟨_, ?_, enqueueEncodedFrameChunked_first send _ caller
    (ne_nil_of_length_pos positive) (by omega)⟩
  rw [chunkRequest, length_append, EnqueueEncodedFrameChunkPayload.length_bytes, first_length]

theorem not_fits_of_length {length : Nat} (exactly : request.payload.length = length)
    (large : transportStorageCapacity < length) (short : length < 2 ^ 32) :
    ¬ request.Fits := by
  intro fits
  rw [← exactly] at large short
  exact fits 0 (Request.hangsUp_of_lt 0 large short)

/-- Uploading a pixel buffer never makes the worker hang up.  Submitting an
encoded frame does not exactly when nothing is sent, for want of an open
session with a format, or when the frame fits the worker's storage together
with the header of the inline request. -/
theorem shim_requests_fit_iff (send : Send State) (transport : State)
    (pushed : Bool) (session : CompressionSession) (image : ImageBuffer)
    (presentation duration : Time) (decoder : DecompressionSession)
    (sample : SampleBuffer) (frame : List UInt8)
    (carries : sample.data = some frame) (nonempty : 1 ≤ frame.length)
    (bounded : frame.length ≤ 64 * 1024 * 1024) :
    (∀ request ∈ (compressionSessionEncodeFrame send pushed session image
        presentation duration ⟨transport, []⟩).caller.sent, request.Fits) ∧
    ((∀ request ∈ (decompressionSessionDecodeFrame send decoder sample
        ⟨transport, []⟩).1.sent, request.Fits) ↔
      decoder.invalidated = true ∨ decoder.formatSet = false ∨
        frame.length + EnqueueEncodedFramePayload.size ≤ transportStorageCapacity) := by
  have silent : (⟨transport, []⟩ : Caller State).AllFit :=
    fun _ none => absurd none not_mem_nil
  refine ⟨compressionSessionEncodeFrame_allFit send pushed session image
    presentation duration silent, ?_⟩
  by_cases closed : decoder.invalidated = true
  · simp [decompressionSessionDecodeFrame, closed]
  · have isOpen : decoder.invalidated = false := by simpa using closed
    by_cases formatted : decoder.formatSet = true
    · simp only [isOpen, formatted, Bool.false_eq_true, Bool.true_eq_false, false_or]
      by_cases inline : frame.length ≤ maxEncodedFrameBytes
      · obtain ⟨request, length, sent⟩ := decodeFrame_sent_inline send
          decoder sample ⟨transport, []⟩ isOpen formatted carries nonempty inline
        rw [sent]
        constructor
        · intro fits
          by_contra large
          refine not_fits_of_length length (by omega) ?_ (fits request (by simp))
          exact Nat.lt_of_le_of_lt (Nat.add_le_add_left inline _) (by decide)
        · intro small other member
          obtain rfl : other = request := by simpa using member
          apply Request.fits_of_le
          omega
      · have chunked : maxEncodedFrameBytes < frame.length := by omega
        obtain ⟨request, length, sent⟩ := decodeFrame_sent_chunked send
          decoder sample ⟨transport, []⟩ isOpen formatted carries chunked bounded
        have large : ¬ frame.length + EnqueueEncodedFramePayload.size ≤
            transportStorageCapacity := by
          unfold maxEncodedFrameBytes at chunked
          unfold transportStorageCapacity
          omega
        refine iff_of_false ?_ large
        intro fits
        exact not_fits_of_length length (by decide) (by decide) (fits request sent)
    · have unformatted : decoder.formatSet = false := by simpa using formatted
      have quiet : (decompressionSessionDecodeFrame send decoder sample
          ⟨transport, []⟩).1.sent = [] := by
        simp only [decompressionSessionDecodeFrame, isOpen, carries,
          unformatted, Bool.false_eq_true, if_false]
        split
        · rfl
        · rfl
      rw [quiet]
      simp [unformatted]

/-- A transport that answers every request with an empty payload. -/
def answering : Send Unit :=
  fun transport _ => (transport, .ok [])

def formattedSession : DecompressionSession where
  proxyId := 1
  invalidated := false
  formatSet := true

def sampleOf (frame : List UInt8) : SampleBuffer where
  data := some frame
  presentationTimestamp := ⟨0, 600⟩

/-- A frame of one byte fits. -/
theorem one_byte_frame_fits :
    (decompressionSessionDecodeFrame answering formattedSession (sampleOf [7]) ⟨(), []⟩).1.AllFit :=
  (shim_requests_fit_iff answering () true ⟨1, false, true, 0⟩
    ⟨1, 1, 1, .guestWritable, false, 1, none, by simp⟩ ⟨0, 600⟩ ⟨0, 600⟩
    formattedSession (sampleOf [7]) [7] rfl (by decide) (by decide)).2.mpr
    (Or.inr (Or.inr (by decide)))

/-- A frame one byte over the bound is sent inline, and the worker hangs up on
the request. -/
theorem two_mebibyte_frame_closes_connection :
    ∃ request ∈ (decompressionSessionDecodeFrame answering formattedSession
        (sampleOf (replicate 2097089 0)) ⟨(), []⟩).1.sent,
      ∀ requestId, Server.HangsUp (request.header requestId) := by
  have length : (replicate 2097089 (0 : UInt8)).length = 2097089 :=
    length_replicate
  obtain ⟨request, exactly, sent⟩ := decodeFrame_sent_inline answering
    formattedSession (sampleOf (replicate 2097089 0)) ⟨(), []⟩ rfl rfl
    rfl (by rw [length]; decide) (by rw [length]; decide)
  rw [length] at exactly
  refine ⟨request, by rw [sent]; simp, ?_⟩
  intro requestId
  apply Request.hangsUp_of_lt requestId
  · rw [exactly]
    decide
  · rw [exactly]
    decide

end Shim

end VtFerry
