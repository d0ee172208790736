import VtFerry.Shim.DecodeServing
import VtFerry.Shim.Delivery
import VtFerry.Worker.OutputReads

/-!
# Decode sessions of the guest

Format descriptions are built from explicit parameter sets, without
dimensions, or from a configuration record with dimensions.
`VTDecompressionSessionCreate` makes the session at the worker, sends it the
parameter sets and, if the dimensions promise a frame above the inline limit,
switches it to chunked mode.  The worker applies the limit to the layout of
the frames it decodes; the two disagree for descriptions without dimensions
and for formats larger than the guest's estimate.
-/

namespace VtFerry

open LittleEndian

namespace Shim

/-! ## Format descriptions -/

def vtfCreateVideoFormatDescription (codecType : UInt32)
    (width height : Int32) (parameterSetCount : Nat)
    (parameterSetSizes : List UInt32) (parameterSetData : List UInt8)
    (nalHeaderLength : Int32) : VideoFormat where
  codecType := codecType
  width := width
  height := height
  nalHeaderLength := nalHeaderLength
  parameterSets := cutParameterSets
    (parameterSetSizes.take (min parameterSetCount 4)) parameterSetData

/-- `vtf_format_description_from_parameter_sets`: the worker is left to derive
the dimensions. -/
def vtfFormatDescriptionFromParameterSets (codecType : UInt32)
    (parameterSets : List (List UInt8)) (nalUnitHeaderLength : Int32) :
    Except Int32 VideoFormat :=
  if parameterSets.length = 0 ∨ parameterSets.length > 4 then .error (-12710)
  else if parameterSets.any fun set =>
      set.length == 0 || decide (set.length > 2 ^ 32 - 1) then
    .error (-12710)
  else
    .ok (vtfCreateVideoFormatDescription codecType 0 0 parameterSets.length
      (parameterSets.map fun set => UInt32.ofNat set.length)
      parameterSets.flatten nalUnitHeaderLength)

/-- `CMVideoFormatDescriptionCreate`, given the parameter sets and the length
prefix found in the extensions. -/
def videoFormatDescriptionCreate (codecType : UInt32) (width height : Int32)
    (extracted : Option (List (List UInt8) × Int32)) : VideoFormat where
  codecType := codecType
  width := width
  height := height
  nalHeaderLength := (extracted.map Prod.snd).getD 0
  parameterSets := ((extracted.map Prod.fst).getD []).take 4

/-- A description of a stream of the given dimensions, built in one of the
two ways. -/
def VideoFormat.Describes (format : VideoFormat) (width height : Nat) :
    Prop :=
  (∃ codecType parameterSets nalUnitHeaderLength,
    vtfFormatDescriptionFromParameterSets codecType parameterSets
      nalUnitHeaderLength = .ok format) ∨
  ∃ codecType extracted, format = videoFormatDescriptionCreate codecType
    (Int32.ofNat width) (Int32.ofNat height) extracted

/-! ## Parameter sets on the wire -/

/-- The packing loop of `vtf_pack_decode_format_payload`: the sizes of the
sets, and the data they were appended to. -/
def packParameterSets : List (List UInt8) → List UInt8 → Except Int32 (List UInt32 × List UInt8)
  | [], packed => .ok ([], packed)
  | set :: sets, packed =>
    if packed.length + set.length > maxParameterSetBytes then
      .error (-12902)
    else
      match packParameterSets sets (packed ++ set) with
      | .error status => .error status
      | .ok (sizes, data) => .ok (UInt32.ofNat set.length :: sizes, data)

/-- `SetDecodeFormatPayload`; the dimensions are not read by the worker. -/
def decodeFormatBytes (payload : SetDecodeFormatPayload) (width height : UInt32) : List UInt8 :=
  u64Bytes payload.sessionId ++ (u32Bytes payload.codec ++
    (u32Bytes width ++ (u32Bytes height ++ (u32Bytes payload.nalHeaderLength ++
        (u32Bytes payload.parameterSetCount ++ (u32Bytes 0 ++
          (payload.parameterSetSizes.flatMap u32Bytes ++ payload.parameterSetData)))))))

/-- `vtf_pack_decode_format_payload`.  The accessors of the parameter sets
refuse a description of another codec, and an index that is not there. -/
def vtfPackDecodeFormatPayload (sessionId : UInt64) (codec : UInt32)
    (format : VideoFormat) : Except Int32 SetDecodeFormatPayload :=
  let expected := if codec = Codec.hvc1 then Codec.hvc1 else Codec.avc1
  if format.codecType ≠ expected then .error (-12710)
  else if format.parameterSets.length = 0 then .error (-12710)
  else if format.parameterSets.length > maxParameterSets then .error (-12902)
  else
    match packParameterSets format.parameterSets [] with
    | .error status => .error status
    | .ok (sizes, data) =>
      .ok
        { sessionId := sessionId
          codec := codec
          nalHeaderLength := format.nalHeaderLength.toUInt32
          parameterSetCount := UInt32.ofNat format.parameterSets.length
          parameterSetSizes :=
            sizes ++ List.replicate (maxParameterSets - sizes.length) 0
          parameterSetData :=
            data ++ List.replicate (maxParameterSetBytes - data.length) 0 }

/-! ## Sessions -/

/-- `DEFERRED_OUTPUT_RELEASES`, and whether a destroyed session drops them. -/
structure Deferred where
  dropOnDestroy : Bool
  outputIds : List UInt64
  deriving DecidableEq, Repr

/-- The size of `CreateSessionReply`. -/
def createSessionReplySize : Nat := 24

variable {State : Type} (send : Send State)

def createSession (payload : CreateSessionPayload) (caller : Caller State) :
    Caller State × Except Int32 UInt64 :=
  sendRequest send createSessionReplySize (u64At · 0) ⟨Opcode.createSession.code,
      u32Bytes payload.kind ++ (u32Bytes payload.codec ++
        (u32Bytes payload.width ++ (u32Bytes payload.height ++
          (u32Bytes payload.pixelFormat ++ unusedBytes 16))))⟩ caller

/-- `destroy_session`: deferred releases go out before it, or not at all. -/
def destroySession (deferred : Deferred) (sessionId : UInt64)
    (caller : Caller State) : Caller State × Except Int32 Unit :=
  if deferred.dropOnDestroy then
    sendUnit send (handleRequest .destroySession sessionId) caller
  else
    match releaseChunks send (deferred.outputIds.toChunks maxOutputBatch) caller with
    | (caller, .error status) => (caller, .error status)
    | (caller, .ok ()) =>
      sendUnit send (handleRequest .destroySession sessionId) caller

def setDecodeFormat (payload : SetDecodeFormatPayload)
    (width height : UInt32) (caller : Caller State) :
    Caller State × Except Int32 Unit :=
  sendUnit send ⟨Opcode.setDecodeFormat.code, decodeFormatBytes payload width height⟩ caller

def usizeOf (value : Int32) : Nat :=
  value.toInt64.toUInt64.toNat

/-- `nominal_frame_bytes`, in the 64 bits of a `usize`. -/
def VideoFormat.nominalFrameBytes (format : VideoFormat) : Nat :=
  usizeOf format.width * usizeOf format.height % 2 ^ 64 * 3 % 2 ^ 64 / 2

/-- `VTDecompressionSessionCreate`.  A session that cannot be set up is
destroyed again. -/
def decompressionSessionCreate (deferred : Deferred) (format : VideoFormat)
    (caller : Caller State) :
    Caller State × Except Int32 DecompressionSession :=
  let payload : CreateSessionPayload :=
    { kind := sessionKindDecode
      codec := format.codecType
      width := format.width.toUInt32
      height := format.height.toUInt32
      pixelFormat := 0 }
  match createSession send payload caller with
  | (caller, .error _) => (caller, .error (-12902))
  | (caller, .ok sessionId) =>
    match vtfPackDecodeFormatPayload sessionId format.codecType format with
    | .error _ =>
      ((destroySession send deferred sessionId caller).1, .error (-12902))
    | .ok packed =>
      match setDecodeFormat send packed format.width.toUInt32 format.height.toUInt32 caller with
      | (caller, .error _) =>
        ((destroySession send deferred sessionId caller).1, .error (-12902))
      | (caller, .ok ()) =>
        let session : DecompressionSession :=
          { proxyId := sessionId
            invalidated := false
            formatSet := true }
        if format.nominalFrameBytes > maxDecodedFrameBytes then
          match bindDecodeOutputPool send ⟨sessionId, 0⟩ caller with
          | (caller, .error _) =>
            ((destroySession send deferred sessionId caller).1, .error (-12902))
          | (caller, .ok ()) => (caller, .ok session)
        else (caller, .ok session)

/-! ## The mode of a new session -/

/-- The mode the worker has a session in. -/
def Solo.Mode (solo : Solo) (sessionId : UInt64) (chunked : Bool) : Prop :=
  ∃ session, solo.backend.decodeSessions.lookup sessionId.toNat = some session ∧
      session.chunkedOutput = chunked

/-- A format changes at most the session it names, and never its mode. -/
theorem setDecodeFormat_cases (host : HostCalls) (source : List UInt8)
    (backend : VtRealBackend) (surfaces : Surfaces) :
    (∃ status, VtRealBackend.setDecodeFormat host source backend surfaces =
      .plain backend surfaces status) ∨
    ∃ named session later status, VtRealBackend.setDecodeFormat host source backend surfaces =
        .plain { backend with
          decodeSessions := backend.decodeSessions.insert named later }
          surfaces status ∧
      backend.decodeSessions.lookup named = some session ∧
      later.chunkedOutput = session.chunkedOutput := by
  unfold VtRealBackend.setDecodeFormat
  dsimp only
  split
  · exact .inl ⟨_, rfl⟩
  split
  · exact .inl ⟨_, rfl⟩
  split
  · exact .inl ⟨_, rfl⟩
  split
  · exact .inl ⟨_, rfl⟩
  split
  · exact .inl ⟨_, rfl⟩
  next session known =>
    split
    · exact .inl ⟨_, rfl⟩
    split
    · exact .inl ⟨_, rfl⟩
    split
    · exact .inr ⟨_, session, _, _, rfl, known, rfl⟩
    · exact .inr ⟨_, session, _, _, rfl, known, rfl⟩

theorem setDecodeFormat_mode {host : HostCalls} {source : List UInt8}
    {backend : VtRealBackend} {surfaces : Surfaces} {id : Nat}
    {session : VtRealDecodeSession}
    (known : backend.decodeSessions.lookup id = some session) :
    ∃ later, (VtRealBackend.setDecodeFormat host source backend
        surfaces).backend.decodeSessions.lookup id = some later ∧
      later.chunkedOutput = session.chunkedOutput := by
  rcases setDecodeFormat_cases host source backend surfaces with
    ⟨status, same⟩ | ⟨named, found, later, status, changed, there, mode⟩
  · rw [same]
    exact ⟨session, known, rfl⟩
  · rw [changed]
    by_cases isNamed : id = named
    · subst isNamed
      rw [known] at there
      cases there
      exact ⟨later, by simp [Served.plain], mode⟩
    · exact ⟨session, by simp [Served.plain, isNamed, known], rfl⟩

section Creation

variable (world : SoloWorld) {solo : Solo} (sent : List Request)

theorem createSession_decode (codec width height : UInt32)
    (bounded : solo.backend.nextHostId < 2 ^ 64) :
    (createSession world.serve ⟨sessionKindDecode, codec, width, height, 0⟩
        ⟨solo, sent⟩).2 = .ok (UInt64.ofNat solo.backend.nextHostId) ∧
      (createSession world.serve ⟨sessionKindDecode, codec, width, height, 0⟩
        ⟨solo, sent⟩).1.transport.Mode (UInt64.ofNat solo.backend.nextHostId) false := by
  have read : CreateSessionPayload.read (u32Bytes sessionKindDecode ++
      (u32Bytes codec ++ (u32Bytes width ++ (u32Bytes height ++ (u32Bytes 0 ++ unusedBytes 16))))) =
      ⟨sessionKindDecode, codec, width, height, 0⟩ := by
    simp only [CreateSessionPayload.read, u32At, u32Bytes]
    simp (disch := decide) [word_skip]
  have id : (UInt64.ofNat solo.backend.nextHostId).toNat =
      solo.backend.nextHostId := by
    rw [UInt64.toNat_ofNat', Nat.mod_eq_of_lt bounded]
  have reply : u64At (ReplyBody.session ⟨solo.backend.nextHostId, width,
      height, 0⟩).bytes 0 = UInt64.ofNat solo.backend.nextHostId := by
    simp only [ReplyBody.bytes, CreateSessionReply.bytes, idBytes, u64At, List.append_assoc]
    rw [word_encode_append]
    exact UInt64.ofNat_mod_size
  have long : ¬ (ReplyBody.session ⟨solo.backend.nextHostId, width, height,
      0⟩).bytes.length < createSessionReplySize := by
    simp [ReplyBody.bytes, CreateSessionReply.bytes, u32Bytes, createSessionReplySize]
  have served : world.served solo ⟨Opcode.createSession.code,
      u32Bytes sessionKindDecode ++ (u32Bytes codec ++ (u32Bytes width ++
        (u32Bytes height ++ (u32Bytes 0 ++ unusedBytes 16))))⟩ =
      .ok { solo.backend with
        nextHostId := solo.backend.nextHostId + 1
        decodeSessions := solo.backend.decodeSessions.insert
          solo.backend.nextHostId ⟨none, none, false⟩ }
        solo.surfaces
        (.session ⟨solo.backend.nextHostId, width, height, 0⟩) := by
    unfold SoloWorld.served VtRealBackend.dispatch
    rw [Opcode.ofCode?_code]
    dsimp only
    rw [VtRealBackend.createSession, read, if_neg]
    · rfl
    · simp [u32Bytes, unusedBytes, CreateSessionPayload.size]
  simp only [createSession, sendRequest, sendRequestBytes,
    SoloWorld.serve_of_ok served, if_neg long, reply, Solo.Mode, true_and]
  refine ⟨⟨none, none, false⟩, ?_, rfl⟩
  rw [id]
  simp

theorem setDecodeFormat_served {caller : Caller Solo} {sessionId : UInt64}
    {chunked : Bool} (payload : SetDecodeFormatPayload)
    (width height : UInt32) (mode : caller.transport.Mode sessionId chunked) :
    (setDecodeFormat world.serve payload width height
      caller).1.transport.Mode sessionId chunked := by
  obtain ⟨session, known, rfl⟩ := mode
  have served : world.served caller.transport ⟨Opcode.setDecodeFormat.code,
      decodeFormatBytes payload width height⟩ =
      VtRealBackend.setDecodeFormat (world.host caller.transport.turn)
        (decodeFormatBytes payload width height) caller.transport.backend
        caller.transport.surfaces := by
    unfold SoloWorld.served VtRealBackend.dispatch
    rw [Opcode.ofCode?_code]
  unfold Solo.Mode setDecodeFormat sendUnit sendRequestBytes SoloWorld.serve
  dsimp only
  rw [served]
  exact setDecodeFormat_mode known

theorem bindDecodeOutputPool_served {caller : Caller Solo}
    {sessionId : UInt64} (mode : caller.transport.Mode sessionId false) :
    (bindDecodeOutputPool world.serve ⟨sessionId, 0⟩ caller).1.transport.Mode sessionId true := by
  obtain ⟨session, known, inline⟩ := mode
  have served : world.served caller.transport ⟨Opcode.bindDecodeOutputPool.code,
        BindDecodeOutputPoolPayload.bytes ⟨sessionId, 0⟩⟩ =
      .plain { caller.transport.backend with
        decodeSessions := caller.transport.backend.decodeSessions.insert
          sessionId.toNat { session with chunkedOutput := true } }
        caller.transport.surfaces Status.ok := by
    unfold SoloWorld.served VtRealBackend.dispatch
    rw [Opcode.ofCode?_code]
    dsimp only
    rw [VtRealBackend.bindDecodeOutputPool, BindDecodeOutputPoolPayload.read_bytes, if_neg]
    · simp [known, inline]
    · rw [BindDecodeOutputPoolPayload.length_bytes]
      omega
  unfold Solo.Mode bindDecodeOutputPool sendUnit sendRequestBytes SoloWorld.serve
  dsimp only
  rw [served]
  refine ⟨{ session with chunkedOutput := true }, ?_, rfl⟩
  simp [Served.plain]

/-- A created session is in chunked mode exactly if the nominal size is above
the inline limit. -/
theorem decompressionSessionCreate_mode {deferred : Deferred}
    {format : VideoFormat} {caller : Caller Solo}
    {session : DecompressionSession}
    (bounded : solo.backend.nextHostId < 2 ^ 64)
    (created : decompressionSessionCreate world.serve deferred format
      ⟨solo, sent⟩ = (caller, .ok session)) :
    caller.transport.Mode session.proxyId
      (decide (maxDecodedFrameBytes < format.nominalFrameBytes)) := by
  obtain ⟨answered, inline⟩ := createSession_decode world sent
    format.codecType format.width.toUInt32 format.height.toUInt32 bounded
  unfold decompressionSessionCreate at created
  dsimp only at created
  generalize createSession world.serve _ _ = made at created answered inline
  obtain ⟨made, outcome⟩ := made
  subst answered
  dsimp only at created
  split at created
  · cases created
  next packed _ =>
    have formatted := setDecodeFormat_served world packed
      format.width.toUInt32 format.height.toUInt32 inline
    split at created
    · cases created
    next next isSet =>
      rw [isSet] at formatted
      by_cases large : format.nominalFrameBytes > maxDecodedFrameBytes
      · have bound := bindDecodeOutputPool_served world formatted
        rw [if_pos large] at created
        split at created
        · cases created
        next last isBound =>
          rw [isBound] at bound
          cases created
          rwa [decide_eq_true large]
      · rw [if_neg large] at created
        cases created
        rwa [decide_eq_false large]

end Creation

/-! ## Frames of a new session -/

theorem usizeOf_ofNat {value : Nat} (small : value < 2 ^ 31) :
    usizeOf (Int32.ofNat value) = value := by
  have signed : (Int32.ofNat value).toInt64.toInt = value := by
    rw [Int32.toInt_toInt64, Int32.toInt_ofNat_of_lt small]
  have nonnegative : 0 ≤ (Int32.ofNat value).toInt64 := by
    rw [Int64.le_iff_toInt_le, signed]
    exact Int.natCast_nonneg value
  rw [usizeOf, Int64.toNat_toUInt64_of_le nonnegative, Int64.toNatClampNeg, signed]
  rfl

theorem Int32_ofNat_eq_zero {value : Nat} (small : value < 2 ^ 31)
    (zero : (0 : Int32) = Int32.ofNat value) : value = 0 := by
  rw [← usizeOf_ofNat small, ← zero]
  rfl

/-- The nominal size is that of the stream if the description has the
dimensions, and zero otherwise. -/
theorem nominalFrameBytes_large_iff {format : VideoFormat}
    {width height : Nat} (described : format.Describes width height)
    (narrow : width < 2 ^ 31) (low : height < 2 ^ 31) :
    maxDecodedFrameBytes < format.nominalFrameBytes ↔
      format.width = Int32.ofNat width ∧ format.height = Int32.ofNat height ∧
        maxDecodedFrameBytes < width * height * 3 / 2 := by
  rcases described with
    ⟨codecType, parameterSets, headerLength, made⟩ |
    ⟨codecType, extracted, rfl⟩
  · have dimensions : format.width = 0 ∧ format.height = 0 := by
      unfold vtfFormatDescriptionFromParameterSets at made
      split at made
      · cases made
      split at made
      · cases made
      · cases made
        exact ⟨rfl, rfl⟩
    constructor
    · intro large
      rw [VideoFormat.nominalFrameBytes, dimensions.1, dimensions.2] at large
      exact absurd large (by decide)
    · rintro ⟨isWidth, -, large⟩
      rw [dimensions.1] at isWidth
      rw [Int32_ofNat_eq_zero narrow isWidth] at large
      simp at large
  · have product : width * height < 2 ^ 31 * 2 ^ 31 :=
      Nat.mul_lt_mul'' narrow low
    have nominal : (videoFormatDescriptionCreate codecType (Int32.ofNat width) (Int32.ofNat height)
        extracted).nominalFrameBytes = width * height * 3 / 2 := by
      rw [VideoFormat.nominalFrameBytes, videoFormatDescriptionCreate,
        usizeOf_ofNat narrow, usizeOf_ofNat low]
      omega
    rw [nominal]
    constructor
    · intro large
      exact ⟨rfl, rfl, large⟩
    · rintro ⟨-, -, large⟩
      exact large

/-- A frame of a created session is at the head of its queue, and can be
copied.  The guest dequeues it, and then fetches it exactly if its layout is
within the inline limit, or the description has the dimensions and the nominal
size is above the limit; otherwise the read is refused for its size. -/
theorem created_session_fetches_iff (world : SoloWorld) (nulls : NullAddresses)
    (grants : world.Grants nulls transportStorageCapacity)
    (deferred : Deferred) (format : VideoFormat) (solo : Solo)
    (sent : List Request) (bounded : solo.backend.nextHostId < 2 ^ 64)
    (width height : Nat) (narrow : width < 2 ^ 31) (low : height < 2 ^ 31)
    (described : format.Describes width height) (caller : Caller Solo)
    (session : DecompressionSession)
    (created : decompressionSessionCreate world.serve deferred format
      ⟨solo, sent⟩ = (caller, .ok session))
    (later : Solo) (laterSent : List Request)
    (kept : later.backend.decodeSessions.lookup session.proxyId.toNat =
      caller.transport.backend.decodeSessions.lookup session.proxyId.toNat)
    (outputId : UInt64) (real : outputId ≠ 0) (waiting : List Nat)
    (head : later.backend.decodedOutputState.queue.lane
      session.proxyId.toNat = outputId.toNat :: waiting)
    (output : VtRealDecodedOutput)
    (stored : later.backend.decodedOutputState.queue.items.lookup outputId.toNat = some output)
    (isWidth : output.imageBuffer.width = width)
    (isHeight : output.imageBuffer.height = height)
    (copies : ¬ CopyFails nulls output.imageBuffer (imageLayout output.imageBuffer)) :
    let dequeued := dequeueDecodedFrame world.serve session.proxyId ⟨later, laterSent⟩
    ∃ frame, dequeued.2 = .ok frame ∧
      let fetched := (fetchFrame world.serve session.proxyId frame dequeued.1).2
      ((∃ pixels, fetched = .ok pixels) ↔
        (vtfFillBufferLayout (UInt32.ofNat width) (UInt32.ofNat height)
            output.imageBuffer.pixelFormat).totalSize.toNat ≤
            maxDecodedFrameBytes ∨
          format.width = Int32.ofNat width ∧ format.height = Int32.ofNat height ∧
            maxDecodedFrameBytes < width * height * 3 / 2) ∧
      ((∃ pixels, fetched = .ok pixels) ∨ fetched = .error Status.resourceExhausted.toInt32) := by
  intro dequeued
  have layout : vtfFillBufferLayout (UInt32.ofNat width)
      (UInt32.ofNat height) output.imageBuffer.pixelFormat =
        imageLayout output.imageBuffer := by
    rw [imageLayout, isWidth, isHeight]
  obtain ⟨record, known, mode⟩ :=
    decompressionSessionCreate_mode world sent bounded created
  rw [← kept] at known
  have taken : dequeued = _ := dequeueDecodedFrame_head known head stored
  rw [taken, layout, ← nominalFrameBytes_large_iff described narrow low]
  refine ⟨_, rfl, ?_⟩
  intro fetched
  by_cases large : maxDecodedFrameBytes < format.nominalFrameBytes
  · rw [decide_eq_true large] at mode
    obtain ⟨pixels, answered, -⟩ : ∃ pixels, fetched = .ok (pixels, output.status.toUInt32) ∧ _ :=
      fetchFrame_chunked grants known mode stored copies real
    exact ⟨iff_of_true ⟨_, answered⟩ (.inr large), .inl ⟨_, answered⟩⟩
  · rw [decide_eq_false large] at mode
    by_cases small : (imageLayout output.imageBuffer).totalSize.toNat ≤ maxDecodedFrameBytes
    · obtain ⟨pixels, answered, -⟩ :
          ∃ pixels, fetched = .ok (pixels, output.status.toUInt32) ∧ _ :=
        fetchFrame_inline grants known mode stored copies small
      exact ⟨iff_of_true ⟨_, answered⟩ (.inl small), .inl ⟨_, answered⟩⟩
    · have refused : fetched = .error Status.resourceExhausted.toInt32 :=
        fetchFrame_refused known mode stored (Nat.lt_of_not_le small)
      refine ⟨iff_of_false ?_ (not_or.mpr ⟨small, large⟩), .inr refused⟩
      rintro ⟨pixels, answered⟩
      rw [refused] at answered
      cases answered

/-- A host that does all that is asked of it, around cleared responses. -/
def willingWorld : SoloWorld :=
  ⟨fun _ => {}, fun _ => clearedResponse⟩

def freshSolo : Solo :=
  ⟨VtRealBackend.fresh, noSurfaces, 0⟩

theorem willingWorld_grants : willingWorld.Grants {} transportStorageCapacity :=
  ⟨fun _ => rfl, fun _ => rfl, fun _ => Nat.le_of_eq length_clearedResponse.symm⟩

def largeFrame : VtRealDecodedOutput where
  sessionId := 1
  timing := ⟨0, 600, 600, 1⟩
  status := 0
  imageBuffer := wrapSlotPlanar 0 0 1920 1080 1920 PixelFormat.nv12

theorem largeFrame_copies : ¬ CopyFails {} largeFrame.imageBuffer
    (imageLayout largeFrame.imageBuffer) := by
  unfold CopyFails CopiesWhole
  decide

/-- The worker once its decoder put the large frame on the empty queue. -/
def Solo.withLargeFrame (solo : Solo) : Solo :=
  { solo with
    backend := solo.backend.withDecodedQueue
      (((TicketQueue.mk ∅ ∅ 70000).store 70000 largeFrame).push 1 70000) }

theorem Solo.lookup_withLargeFrame (solo : Solo) (id : Nat) :
    solo.withLargeFrame.backend.decodeSessions.lookup id =
      solo.backend.decodeSessions.lookup id :=
  rfl

def streamSets : List (List UInt8) :=
  [[103, 100, 0, 40], [104, 238]]

def recordFormat : VideoFormat :=
  videoFormatDescriptionCreate Codec.avc1 1920 1080 (some (streamSets, 4))

theorem recordFormat_describes : recordFormat.Describes 1920 1080 :=
  .inr ⟨Codec.avc1, some (streamSets, 4), rfl⟩

def bareFormat : VideoFormat :=
  vtfCreateVideoFormatDescription Codec.avc1 0 0 2 [4, 2] streamSets.flatten 4

def sessionFor (format : VideoFormat) :
    Caller Solo × Except Int32 DecompressionSession :=
  decompressionSessionCreate willingWorld.serve ⟨false, []⟩ format ⟨freshSolo, []⟩

theorem sessionFor_eq {format : VideoFormat} {session : DecompressionSession}
    (answered : (sessionFor format).2 = .ok session) :
    decompressionSessionCreate willingWorld.serve ⟨false, []⟩ format
      ⟨freshSolo, []⟩ = ((sessionFor format).1, .ok session) := by
  rw [← answered]
  rfl

/-- The worker when the guest drains its first frame. -/
def ready (format : VideoFormat) : Solo :=
  (sessionFor format).1.transport.withLargeFrame

/-- With the dimensions in the description, the frame is fetched. -/
theorem record_format_frame_fetched :
    (sessionFor recordFormat).2 = .ok ⟨1, false, true⟩ ∧
    ∃ frame, (dequeueDecodedFrame willingWorld.serve 1 ⟨ready recordFormat, []⟩).2 = .ok frame ∧
      ∃ pixels, (fetchFrame willingWorld.serve 1 frame (dequeueDecodedFrame willingWorld.serve 1
          ⟨ready recordFormat, []⟩).1).2 = .ok pixels := by
  have isCreated : (sessionFor recordFormat).2 = .ok ⟨1, false, true⟩ := by
    decide +kernel
  have fetches := created_session_fetches_iff
    willingWorld {} willingWorld_grants ⟨false, []⟩ recordFormat freshSolo []
    (by decide) 1920 1080 (by decide) (by decide) recordFormat_describes
    (sessionFor recordFormat).1 ⟨1, false, true⟩ (sessionFor_eq isCreated)
    (ready recordFormat) []
    (Solo.lookup_withLargeFrame _ _) 70000 (by decide) []
    (by decide +kernel) largeFrame (by decide +kernel) rfl rfl
    largeFrame_copies
  dsimp only at fetches
  obtain ⟨frame, dequeued, fetched, -⟩ := fetches
  refine ⟨isCreated, frame, dequeued, ?_⟩
  apply fetched.mpr
  exact .inr ⟨by decide, by decide, by decide⟩

/-- Made from the parameter sets alone, the description has no dimensions, the
session stays in inline mode, and the read is refused for its size. -/
theorem bare_format_frame_refused :
    vtfFormatDescriptionFromParameterSets Codec.avc1 streamSets 4 = .ok bareFormat ∧
    (sessionFor bareFormat).2 = .ok ⟨1, false, true⟩ ∧
    ∃ frame, (dequeueDecodedFrame willingWorld.serve 1 ⟨ready bareFormat, []⟩).2 = .ok frame ∧
      (fetchFrame willingWorld.serve 1 frame (dequeueDecodedFrame willingWorld.serve 1
          ⟨ready bareFormat, []⟩).1).2 =
        .error Status.resourceExhausted.toInt32 := by
  refine ⟨by decide +kernel, by decide +kernel, dequeuedFrame 70000 false largeFrame, ?_, ?_⟩
  · decide +kernel
  · decide +kernel

end Shim

end VtFerry
