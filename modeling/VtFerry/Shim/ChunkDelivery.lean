import VtFerry.Shim.DecodeTransport
import VtFerry.Worker.ChunkAssembly
import VtFerry.Worker.VtReal.SessionEffects

/-!
# Delivering a frame in chunks

The sending loop of `enqueue_encoded_frame_chunked` against the worker that
assembles the chunks.  Between two chunks the worker may serve any number of
other requests, as long as they are not for the frame's session.  A chunk at
offset 0 starts the assembly over, so what an earlier frame left behind is of
no consequence; the last chunk hands the whole frame to the decoder and clears
the assembly.
-/

namespace VtFerry

open List LittleEndian Pieces VtRealBackend

/-! ## Requests in between -/

namespace VtRealBackend

/-- The request changes the decode session with this id or its assembly, if
there is one. -/
def Addresses (request : Request) (id : Nat) : Prop :=
  match Opcode.ofCode? request.opcode with
  | some .destroySession =>
    (HandlePayload.read request.payload).handle.toNat = id
  | some .setDecodeFormat =>
    (SetDecodeFormatPayload.read request.payload).sessionId.toNat = id
  | some .bindDecodeOutputPool =>
    (BindDecodeOutputPoolPayload.read request.payload).sessionId.toNat = id
  | some .enqueueEncodedFrameChunk =>
    (Chunk.read request.payload).sessionId = id
  | _ => False

/-- The assembly of this session is as it was, and so is the session, unless
its id was not given out yet. -/
structure Untouched (id : Nat) (before after : VtRealBackend) : Prop where
  session : id < before.nextHostId →
    after.decodeSessions.lookup id = before.decodeSessions.lookup id
  pending : after.pendingEncodedFrames.lookup id = before.pendingEncodedFrames.lookup id

theorem dispatch_untouched {id : Nat} (host : HostCalls) (request : Request)
    (response : List UInt8) (backend : VtRealBackend) (surfaces : Surfaces)
    (other : ¬ Addresses request id) :
    Untouched id backend (dispatch host request response backend surfaces).backend := by
  have effect := dispatch_effect host request response backend surfaces
  unfold Addresses at other
  generalize dispatch host request response backend surfaces = served at effect ⊢
  generalize Opcode.ofCode? request.opcode = opcode at effect other
  cases effect with
  | decodeOpened =>
    refine ⟨?_, rfl⟩
    intro old
    simp [Served.ok, Nat.ne_of_lt old]
  | entryClaimed _ _ _ _ build =>
    have same := build.sameSessions
    exact ⟨fun _ => by rw [same.decodeSessions], by rw [same.pendingEncodedFrames]⟩
  | decodeDestroyed _ => exact ⟨fun _ => by simp [Served.plain, Ne.symm other], rfl⟩
  | assembled _ others => exact ⟨fun _ => rfl, others id (Ne.symm other)⟩
  | @configured _ _ sessionId _ _ _ named _ _ =>
    have differs : id ≠ sessionId := by
      unfold configuredSession at named
      split at named
      · cases named
        exact Ne.symm other
      · cases named
        exact Ne.symm other
      · cases named
    exact ⟨fun _ => by simp [Served.plain, differs], rfl⟩
  | decodedDequeued dequeue =>
    cases dequeue with
    | _ => exact ⟨fun _ => rfl, rfl⟩
  | _ => exact ⟨fun _ => rfl, rfl⟩

/-- The ids on the decode side were all given out. -/
def Drawn (backend : VtRealBackend) : Prop :=
  ∀ id, backend.DecodeNames id → id < backend.nextHostId

theorem Drawn.dispatch {backend : VtRealBackend} (drawn : backend.Drawn)
    (host : HostCalls) (request : Request) (response : List UInt8)
    (surfaces : Surfaces) :
    (dispatch host request response backend surfaces).backend.Drawn := by
  have grows := (dispatch_effect host request response backend surfaces).decodeGrows
  intro id names
  rcases grows.names id names with before | ⟨_, below⟩
  · exact Nat.lt_of_lt_of_le (drawn id before) grows.next_le
  · exact below

end VtRealBackend

namespace Shim

/-! ## One chunk -/

/-- The assembly of a frame of the given size after its first bytes. -/
def partialFrame (head : EnqueueEncodedFrameChunkPayload) (total : Nat)
    (bytes : List UInt8) : PendingEncodedFrame where
  bytes := bytes
  totalSize := UInt32.ofNat total
  timing := head.timing

section Chunks

variable {head : EnqueueEncodedFrameChunkPayload} {total offset : Nat}
variable {before piece : List UInt8} {backend : VtRealBackend}

theorem read_chunkRequest :
    Chunk.read (chunkRequest head total offset piece).payload =
      { payload :=
          { head with
            chunkOffset := UInt32.ofNat offset
            chunkLength := UInt32.ofNat piece.length
            totalEncodedSize := UInt32.ofNat total
            isFinalChunk := if offset + piece.length = total then 1 else 0 }
        data := piece } := by
  unfold Chunk.read chunkRequest
  rw [EnqueueEncodedFrameChunkPayload.read_bytes_append,
    drop_left' (EnqueueEncodedFrameChunkPayload.length_bytes _)]

theorem checkChunk_chunkRequest (nonempty : piece ≠ []) (fits : offset + piece.length ≤ total)
    (bounded : total ≤ maxChunkedEncodedFrameBytes) :
    checkChunk (chunkRequest head total offset piece).payload = none := by
  have some : 0 < piece.length := length_pos_iff.mpr nonempty
  have small : total < 2 ^ 32 := Nat.lt_of_le_of_lt bounded (by decide)
  have word : ∀ value, value ≤ total → (UInt32.ofNat value).toNat = value := by
    intro value le
    rw [UInt32.toNat_ofNat', Nat.mod_eq_of_lt (by omega)]
  have pieceWord := word piece.length (by omega)
  have offsetWord := word offset (by omega)
  have totalWord := word total (Nat.le_refl _)
  have length : (chunkRequest head total offset piece).payload.length =
      EnqueueEncodedFrameChunkPayload.size + piece.length := by
    rw [chunkRequest, length_append, EnqueueEncodedFrameChunkPayload.length_bytes]
  have read : EnqueueEncodedFrameChunkPayload.read
      (chunkRequest head total offset piece).payload = _ :=
    congrArg Chunk.payload read_chunkRequest
  have chunkNonzero : UInt32.ofNat piece.length ≠ 0 := by
    rw [ne_eq, ← UInt32.toNat_inj, pieceWord]
    exact Nat.ne_of_gt some
  have totalNonzero : UInt32.ofNat total ≠ 0 := by
    have positive : 0 < total := by omega
    rw [ne_eq, ← UInt32.toNat_inj, totalWord]
    exact Nat.ne_of_gt positive
  unfold checkChunk
  dsimp only
  rw [read, length]
  dsimp only
  rw [pieceWord, offsetWord, totalWord, if_neg (by omega),
    if_neg (fun different => different rfl), if_neg, if_neg, if_neg]
  · rintro ⟨zero, -⟩
    exact chunkNonzero zero
  · omega
  · rintro (zero | large)
    · exact totalNonzero zero
    · omega

/-- The chunk joins what was sent before it, if that is what is there. -/
theorem joinChunk_chunkRequest (small : total < 2 ^ 32)
    (fits : before.length + piece.length ≤ total)
    {pending : Option PendingEncodedFrame}
    (continued : before ≠ [] → pending = some (partialFrame head total before)) :
    joinChunk (Chunk.read (chunkRequest head total before.length
          piece).payload).payload piece pending =
      .ok (partialFrame head total (before ++ piece)) := by
  rw [read_chunkRequest]
  unfold joinChunk
  cases before with
  | nil => rfl
  | cons byte bytes =>
    have word : (UInt32.ofNat (byte :: bytes).length).toNat = (byte :: bytes).length := by
      rw [UInt32.toNat_ofNat', Nat.mod_eq_of_lt (by omega)]
    have nonzero : UInt32.ofNat (byte :: bytes).length ≠ 0 := by
      rw [ne_eq, ← UInt32.toNat_inj, word]
      exact Nat.succ_ne_zero _
    rw [continued (cons_ne_nil _ _), if_neg nonzero]
    dsimp only [partialFrame]
    rw [if_neg (fun different => different rfl), word, if_neg (fun different => different rfl)]

theorem chunkOutcome_chunkRequest (nonempty : piece ≠ [])
    (fits : before.length + piece.length ≤ total)
    (bounded : total ≤ maxChunkedEncodedFrameBytes)
    (known : (backend.decodeSessions.lookup head.sessionId.toNat).isSome = true)
    (continued : before ≠ [] → backend.pendingEncodedFrames.lookup head.sessionId.toNat =
        some (partialFrame head total before)) :
    chunkOutcome (chunkRequest head total before.length piece).payload backend =
      if before.length + piece.length = total then
        .completed (partialFrame head total (before ++ piece))
      else .joined (partialFrame head total (before ++ piece)) := by
  have small : total < 2 ^ 32 := Nat.lt_of_le_of_lt bounded (by decide)
  have session : (Chunk.read (chunkRequest head total before.length
      piece).payload).sessionId = head.sessionId.toNat := by
    rw [read_chunkRequest]
    rfl
  have data : (Chunk.read (chunkRequest head total before.length piece).payload).data = piece := by
    rw [read_chunkRequest]
  have known : ¬ (backend.decodeSessions.lookup head.sessionId.toNat).isNone = true := by
    rw [Option.isNone_iff_eq_none]
    intro unknown
    rw [unknown] at known
    cases known
  unfold chunkOutcome
  dsimp only
  rw [checkChunk_chunkRequest nonempty fits bounded, session, data]
  dsimp only
  rw [if_neg known, joinChunk_chunkRequest small fits continued]
  dsimp only
  rw [read_chunkRequest]
  by_cases final : before.length + piece.length = total
  · have complete : UInt32.ofNat (partialFrame head total (before ++ piece)).bytes.length =
          (partialFrame head total (before ++ piece)).totalSize := by
      rw [partialFrame, length_append, final]
    simp [Chunk.isFinal, final, complete]
  · simp [Chunk.isFinal, final]

end Chunks

/-! ## A worker that serves others in between -/

structure OtherRequest where
  host : HostCalls
  request : Request
  response : List UInt8

/-- What is around the worker, by the number of requests of the guest served
so far: the requests of others that come before the next one, and the host's
answers to it. -/
structure SharedWorld where
  between : Nat → List OtherRequest
  host : Nat → HostCalls
  response : Nat → List UInt8

/-- The worker, with the frames that requests of the guest handed to the
decoder and the number of the request. -/
structure Shared where
  backend : VtRealBackend
  drawn : backend.Drawn
  surfaces : Surfaces
  turn : Nat
  handed : List (Nat × DecoderFrame)

namespace Shared

def serveOther (shared : Shared) (other : OtherRequest) : Shared :=
  let served := shared.backend.dispatch other.host other.request other.response shared.surfaces
  { shared with
    backend := served.backend
    drawn := shared.drawn.dispatch other.host other.request other.response shared.surfaces
    surfaces := served.surfaces }

/-- While others were served, nothing happened to this session. -/
structure Waited (id : Nat) (before after : Shared) : Prop where
  untouched : VtRealBackend.Untouched id before.backend after.backend
  next_le : before.backend.nextHostId ≤ after.backend.nextHostId
  turn : after.turn = before.turn
  handed : after.handed = before.handed

theorem Waited.refl (id : Nat) (shared : Shared) : Waited id shared shared :=
  ⟨⟨fun _ => rfl, rfl⟩, Nat.le_refl _, rfl, rfl⟩

theorem Waited.serveOther {id : Nat} {before after : Shared}
    {other : OtherRequest} (waited : Waited id before after)
    (spared : ¬ VtRealBackend.Addresses other.request id) :
    Waited id before (after.serveOther other) := by
  have step := dispatch_untouched other.host other.request
    other.response after.backend after.surfaces spared
  have grown := (dispatch_effect other.host other.request
    other.response after.backend after.surfaces).next_le
  refine ⟨⟨?_, ?_⟩, waited.next_le.trans grown, waited.turn, waited.handed⟩
  · intro old
    exact (step.session (Nat.lt_of_lt_of_le old waited.next_le)).trans
      (waited.untouched.session old)
  · exact step.pending.trans waited.untouched.pending

theorem waited_run {id : Nat} {others : List OtherRequest} {shared : Shared}
    (spared : ∀ other ∈ others, ¬ VtRealBackend.Addresses other.request id) :
    Waited id shared (Execution.run serveOther shared others) := by
  have waiting : ∀ after, Waited id shared after →
      Waited id shared (Execution.run serveOther after others) := by
    induction others with
    | nil => exact fun after waited => waited
    | cons other others induction =>
      intro after waited
      exact induction (fun later member => spared later (mem_cons_of_mem _ member))
        _ (waited.serveOther (spared other mem_cons_self))
  exact waiting shared (.refl id shared)

end Shared

namespace SharedWorld

/-- No request in between is for this session. -/
def Spares (world : SharedWorld) (id : Nat) : Prop :=
  ∀ turn, ∀ other ∈ world.between turn, ¬ VtRealBackend.Addresses other.request id

def reached (world : SharedWorld) (shared : Shared) : Shared :=
  Execution.run Shared.serveOther shared (world.between shared.turn)

def served (world : SharedWorld) (shared : Shared) (request : Request) :
    Served :=
  (world.reached shared).backend.dispatch (world.host shared.turn) request
    (world.response shared.turn) (world.reached shared).surfaces

def serve (world : SharedWorld) : Send Shared := fun shared request =>
  let served := world.served shared request
  ({ backend := served.backend
     drawn := (world.reached shared).drawn.dispatch (world.host shared.turn)
       request (world.response shared.turn) (world.reached shared).surfaces
     surfaces := served.surfaces
     turn := shared.turn + 1
     handed := (world.reached shared).handed ++
       served.decoded.map fun frame => (shared.turn, frame) },
    answer served)

section Serving

variable (world : SharedWorld) (shared : Shared) (request : Request)

theorem backend_serve : (world.serve shared request).1.backend =
    (world.served shared request).backend :=
  rfl

theorem handed_serve : (world.serve shared request).1.handed = (world.reached shared).handed ++
      (world.served shared request).decoded.map fun frame =>
        (shared.turn, frame) :=
  rfl

theorem answer_serve : (world.serve shared request).2 = answer (world.served shared request) :=
  rfl

end Serving

end SharedWorld

/-! ## The loop -/

/-- `enqueue_encoded_frame_chunked` with chunks of at most `cap` bytes. -/
def enqueueEncodedFrameChunks {State : Type} (send : Send State) (cap : Nat)
    (positive : 0 < cap) (head : EnqueueEncodedFrameChunkPayload)
    (encodedBytes : List UInt8) (caller : Caller State) :
    Caller State × Except Int32 Unit :=
  if encodedBytes.isEmpty then (caller, .error (-12902))
  else if encodedBytes.length > 2 ^ 32 - 1 then (caller, .error (-12902))
  else
    sendPieces cap positive (fun offset piece => sendUnit send
        (chunkRequest head encodedBytes.length offset piece))
      0 encodedBytes caller

/-- The frame the decoder is given for a whole frame of the guest. -/
def wholeFrame (head : EnqueueEncodedFrameChunkPayload)
    (format : FormatDescription) (whole : List UInt8) : DecoderFrame where
  sessionId := head.sessionId.toNat
  bytes := whole
  timing := head.timing
  format := format

/-- How far the delivery of a frame has come when `rest` is left of it. -/
structure Delivering (world : SharedWorld) (cap : Nat) (head : EnqueueEncodedFrameChunkPayload)
    (format : FormatDescription) (whole : List UInt8) (start : Shared)
    (offset : Nat) (rest : List UInt8) (shared : Shared) : Prop where
  session : ∃ session, shared.backend.decodeSessions.lookup head.sessionId.toNat = some session ∧
    session.formatDescription = some format ∧ session.vtSession.isSome = true
  split : ∃ before, before.length = offset ∧ whole = before ++ rest ∧ (before ≠ [] →
      shared.backend.pendingEncodedFrames.lookup head.sessionId.toNat =
        some (partialFrame head whole.length before))
  turn : ∃ chunks, shared.turn = start.turn + chunks ∧ offset = chunks * cap
  handed : shared.handed = start.handed
  others : ∀ other, other ≠ head.sessionId.toNat → world.Spares other →
    shared.backend.pendingEncodedFrames.lookup other =
      start.backend.pendingEncodedFrames.lookup other

/-- How the delivery ends: the last chunk is answered as the decoder takes the
frame, and leaves no assembly. -/
structure Delivered (world : SharedWorld) (cap : Nat) (head : EnqueueEncodedFrameChunkPayload)
    (format : FormatDescription) (whole : List UInt8) (start : Shared)
    (answered : Except Int32 Unit) (shared : Shared) : Prop where
  /-- All chunks were sent, and all but the last were accepted. -/
  turn : ∃ chunks, shared.turn = start.turn + chunks + 1 ∧ chunks * cap < whole.length ∧
    whole.length ≤ (chunks + 1) * cap
  answered : answered =
    if (world.host (shared.turn - 1)).createSample && (world.host (shared.turn - 1)).decodeFrame
    then .ok () else .error Status.internalFailure.toInt32
  /-- The decoder is given the frame with the last chunk, if its sample buffer
  can be made. -/
  handed : shared.handed = start.handed ++
    if (world.host (shared.turn - 1)).createSample
    then [(shared.turn - 1, wholeFrame head format whole)] else []
  cleared : shared.backend.pendingEncodedFrames.lookup head.sessionId.toNat = none
  others : ∀ other, other ≠ head.sessionId.toNat → world.Spares other →
    shared.backend.pendingEncodedFrames.lookup other =
      start.backend.pendingEncodedFrames.lookup other

section Delivery

variable {world : SharedWorld} {cap : Nat} {head : EnqueueEncodedFrameChunkPayload}
variable {format : FormatDescription} {whole : List UInt8} {start : Shared}
variable {offset : Nat} {piece rest : List UInt8} {shared : Shared}

theorem served_chunkRequest {before : List UInt8} {total : Nat}
    (nonempty : piece ≠ []) (fits : before.length + piece.length ≤ total)
    (bounded : total ≤ maxChunkedEncodedFrameBytes)
    {session : VtRealDecodeSession}
    (known : (world.reached shared).backend.decodeSessions.lookup
      head.sessionId.toNat = some session)
    (formatted : session.formatDescription = some format)
    (decoder : session.vtSession.isSome = true)
    (continued : before ≠ [] → (world.reached shared).backend.pendingEncodedFrames.lookup
        head.sessionId.toNat = some (partialFrame head total before)) :
    world.served shared (chunkRequest head total before.length piece) =
      if before.length + piece.length = total then
        { Served.plain ((world.reached shared).backend.clearPending
            head.sessionId.toNat) (world.reached shared).surfaces
            (if (world.host shared.turn).createSample && (world.host shared.turn).decodeFrame
              then Status.ok else Status.internalFailure) with
          decoded := if (world.host shared.turn).createSample
            then [wholeFrame head format (before ++ piece)] else [] }
      else
        .plain ((world.reached shared).backend.setPending
          head.sessionId.toNat (partialFrame head total (before ++ piece)))
          (world.reached shared).surfaces Status.ok := by
  have session : (Chunk.read (chunkRequest head total before.length
      piece).payload).sessionId = head.sessionId.toNat := by
    rw [read_chunkRequest]
    rfl
  have outcome := chunkOutcome_chunkRequest nonempty fits bounded (by rw [known]; rfl) continued
  have handler : world.served shared (chunkRequest head total before.length piece) =
      enqueueEncodedFrameChunk (world.host shared.turn)
        (chunkRequest head total before.length piece).payload
        (world.reached shared).backend (world.reached shared).surfaces := by
    unfold SharedWorld.served dispatch chunkRequest
    rw [Opcode.ofCode?_code]
  rw [handler, enqueueEncodedFrameChunk_eq, outcome, session]
  by_cases final : before.length + piece.length = total
  · obtain ⟨decoding, isDecoding⟩ := Option.isSome_iff_exists.mp decoder
    simp only [if_pos final, dispatchDecodeAssembledFrame,
      clearPending, known, formatted, isDecoding, partialFrame, Served.plain]
    cases (world.host shared.turn).createSample <;> rfl
  · simp only [if_neg final]

/-- What serving the next chunk comes to. -/
theorem Delivering.served (spares : world.Spares head.sessionId.toNat)
    (bounded : whole.length ≤ maxChunkedEncodedFrameBytes) (nonempty : piece ≠ [])
    (delivering : Delivering world cap head format whole start offset (piece ++ rest) shared) :
    ∃ before session, before.length = offset ∧ whole = before ++ (piece ++ rest) ∧
      (world.reached shared).backend.decodeSessions.lookup head.sessionId.toNat = some session ∧
      session.formatDescription = some format ∧ session.vtSession.isSome = true ∧
      world.served shared (chunkRequest head whole.length offset piece) =
        if rest = [] then
          { Served.plain ((world.reached shared).backend.clearPending
              head.sessionId.toNat) (world.reached shared).surfaces
              (if (world.host shared.turn).createSample && (world.host shared.turn).decodeFrame
                then Status.ok else Status.internalFailure) with
            decoded := if (world.host shared.turn).createSample
              then [wholeFrame head format whole] else [] }
        else
          .plain ((world.reached shared).backend.setPending
            head.sessionId.toNat (partialFrame head whole.length (before ++ piece)))
            (world.reached shared).surfaces Status.ok := by
  have waited : Shared.Waited head.sessionId.toNat shared
      (world.reached shared) := Shared.waited_run (spares shared.turn)
  obtain ⟨session, known, formatted, decoder⟩ := delivering.session
  obtain ⟨before, rfl, whole_eq, continued⟩ := delivering.split
  have length : whole.length = before.length + (piece.length + rest.length) := by
    rw [whole_eq, length_append, length_append]
  have known : (world.reached shared).backend.decodeSessions.lookup
      head.sessionId.toNat = some session := by
    rw [waited.untouched.session (shared.drawn _ (.session known)), known]
  have pending : before ≠ [] →
      (world.reached shared).backend.pendingEncodedFrames.lookup head.sessionId.toNat =
          some (partialFrame head whole.length before) := by
    intro some
    rw [waited.untouched.pending]
    exact continued some
  refine ⟨before, session, rfl, whole_eq, known, formatted, decoder, ?_⟩
  rw [served_chunkRequest nonempty (by omega) bounded known formatted decoder pending]
  by_cases last : rest = []
  · subst last
    rw [append_nil] at whole_eq
    rw [if_pos (by simpa using length.symm), if_pos rfl, ← whole_eq]
  · have more := length_pos_iff.mpr last
    rw [if_neg (by omega), if_neg last]

theorem Delivering.reached_others {other : Nat} (different : other ≠ head.sessionId.toNat)
    (spared : world.Spares other)
    (delivering : Delivering world cap head format whole start offset rest shared) :
    (world.reached shared).backend.pendingEncodedFrames.lookup other =
      start.backend.pendingEncodedFrames.lookup other := by
  have apart : Shared.Waited other shared (world.reached shared) :=
    Shared.waited_run (spared shared.turn)
  rw [apart.untouched.pending]
  exact delivering.others other different spared

/-- A chunk that is not the last is accepted, and takes the delivery one piece
further. -/
theorem Delivering.serve (positive : 0 < cap) (spares : world.Spares head.sessionId.toNat)
    (bounded : whole.length ≤ maxChunkedEncodedFrameBytes)
    (full : piece.length = cap) (more : rest ≠ [])
    (delivering : Delivering world cap head format whole start offset (piece ++ rest) shared) :
    (world.serve shared (chunkRequest head whole.length offset piece)).2 = .ok [] ∧
      Delivering world cap head format whole start (offset + piece.length) rest
        (world.serve shared (chunkRequest head whole.length offset piece)).1 := by
  have waited : Shared.Waited head.sessionId.toNat shared
      (world.reached shared) := Shared.waited_run (spares shared.turn)
  obtain ⟨before, session, rfl, whole_eq, known, formatted, decoder, served⟩ :=
    delivering.served spares bounded (length_pos_iff.mp (full ▸ positive))
  rw [if_neg more] at served
  have backend : (world.serve shared (chunkRequest head whole.length
      before.length piece)).1.backend =
        (world.reached shared).backend.setPending head.sessionId.toNat
          (partialFrame head whole.length (before ++ piece)) := by
    rw [SharedWorld.backend_serve, served]
    rfl
  obtain ⟨chunks, turn, offset⟩ := delivering.turn
  constructor
  · rw [SharedWorld.answer_serve, served]
    rfl
  · exact
      { session := ⟨session, by rw [backend]; exact known, formatted,
          decoder⟩
        split := ⟨before ++ piece, length_append,
          by rw [whole_eq, append_assoc], fun _ => by
            rw [backend]
            simp [setPending]⟩
        turn := ⟨chunks + 1, congrArg (· + 1) turn, by rw [offset, full, Nat.succ_mul]⟩
        handed := by
          rw [SharedWorld.handed_serve, served, waited.handed, delivering.handed]
          exact append_nil _
        others := by
          intro other different spared
          rw [← delivering.reached_others different spared, backend]
          simp [setPending, different] }

theorem Delivering.serve_last (spares : world.Spares head.sessionId.toNat)
    (bounded : whole.length ≤ maxChunkedEncodedFrameBytes)
    (nonempty : piece ≠ []) (short : piece.length ≤ cap)
    (delivering : Delivering world cap head format whole start offset piece shared) :
    Delivered world cap head format whole start
      ((world.serve shared (chunkRequest head whole.length offset piece)).2.map fun _ => ())
      (world.serve shared (chunkRequest head whole.length offset piece)).1 := by
  have waited : Shared.Waited head.sessionId.toNat shared
      (world.reached shared) := Shared.waited_run (spares shared.turn)
  rw [← append_nil piece] at delivering
  obtain ⟨before, session, rfl, whole_eq, _, _, _, served⟩ :=
    delivering.served spares bounded nonempty
  rw [if_pos rfl] at served
  have backend : (world.serve shared (chunkRequest head whole.length
      before.length piece)).1.backend = (world.reached shared).backend.clearPending
          head.sessionId.toNat := by
    rw [SharedWorld.backend_serve, served]
    rfl
  obtain ⟨chunks, turn, offset⟩ := delivering.turn
  have some := length_pos_iff.mpr nonempty
  have length : whole.length = chunks * cap + piece.length := by
    rw [whole_eq, append_nil, length_append, offset]
  have now : (world.serve shared (chunkRequest head whole.length before.length piece)).1.turn - 1 =
      shared.turn := rfl
  exact
    { turn := ⟨chunks, congrArg (· + 1) turn, by omega, by rw [Nat.succ_mul]; omega⟩
      answered := by
        rw [SharedWorld.answer_serve, served, now]
        cases (world.host shared.turn).createSample <;>
          cases (world.host shared.turn).decodeFrame <;> rfl
      handed := by
        rw [SharedWorld.handed_serve, served, waited.handed, delivering.handed, now]
        cases (world.host shared.turn).createSample <;> rfl
      cleared := by
        rw [backend]
        simp [clearPending]
      others := by
        intro other different spared
        rw [← delivering.reached_others different spared, backend]
        simp [clearPending, different] }

end Delivery

/-- A frame of at most 64 MiB is sent in chunks of any size to a session with
a decoder, whatever is left of earlier frames, and whatever else the worker
serves in between.  Every chunk before the last is accepted; with the last
one, and not before, the decoder is given the frame, once, and the answer is
`STATUS_OK` exactly if the decoder takes it; no assembly is left, and those of
other sessions are untouched. -/
theorem chunked_frame_delivered (world : SharedWorld) (cap : Nat)
    (positive : 0 < cap) (head : EnqueueEncodedFrameChunkPayload)
    (whole : List UInt8) (nonempty : whole ≠ [])
    (bounded : whole.length ≤ maxChunkedEncodedFrameBytes)
    (start : Shared) (sent : List Request) (session : VtRealDecodeSession)
    (known : start.backend.decodeSessions.lookup head.sessionId.toNat = some session)
    (format : FormatDescription)
    (formatted : session.formatDescription = some format)
    (decoder : session.vtSession.isSome = true)
    (spares : world.Spares head.sessionId.toNat) :
    let result := enqueueEncodedFrameChunks world.serve cap positive head whole ⟨start, sent⟩
    Delivered world cap head format whole start result.2 result.1.transport := by
  intro result
  have started : Delivering world cap head format whole start 0 whole start :=
    { session := ⟨session, known, formatted, decoder⟩
      split := ⟨[], rfl, rfl, fun none => absurd rfl none⟩
      turn := ⟨0, rfl, (Nat.zero_mul cap).symm⟩
      handed := rfl
      others := fun _ _ _ => rfl }
  have sending : result = sendPieces cap positive (fun offset piece => sendUnit world.serve
        (chunkRequest head whole.length offset piece)) 0 whole
      ⟨start, sent⟩ := by
    have short : ¬ whole.length > 2 ^ 32 - 1 :=
      Nat.not_lt_of_le (bounded.trans (by decide))
    dsimp only [result]
    unfold enqueueEncodedFrameChunks
    rw [if_neg (by simpa using nonempty), if_neg short]
  rw [sending]
  refine sendPieces_ends (fun offset rest (caller : Caller Shared) =>
      Delivering world cap head format whole start offset rest caller.transport)
    (fun ended => Delivered world cap head format whole start ended.2 ended.1.transport)
    ?_ ?_ 0 whole ⟨start, sent⟩ nonempty started
  · intro offset piece rest caller full more delivering
    obtain ⟨answered, next⟩ := delivering.serve positive spares bounded full more
    refine ⟨?_, next⟩
    unfold sendUnit sendRequestBytes
    dsimp only
    rw [answered]
    rfl
  · intro offset piece caller some short delivering
    have ended := delivering.serve_last spares bounded some short
    unfold sendUnit sendRequestBytes
    dsimp only at ended ⊢
    exact ended

/-- A worker with one decode session, whose id is 1. -/
def decodingWorker (session : VtRealDecodeSession) : Shared where
  backend :=
    { fresh with
      decodeSessions := (∅ : FiniteMap Nat VtRealDecodeSession).insert 1 session
      nextHostId := 2 }
  drawn := by
    intro id names
    cases names with
    | session known =>
      by_cases first : id = 1
      · subst first
        exact Nat.lt_succ_self 1
      · dsimp only at known
        rw [FiniteMap.lookup_insert_eq, if_neg first] at known
        cases known
    | lane known => cases known
    | output found => cases found
    | error recorded => cases recorded
    | assembly found => cases found
  surfaces := ⟨⟨[]⟩, fun _ _ => 0⟩
  turn := 0
  handed := []

/-- Nobody else is served, and the host does what it is asked. -/
def quietWorld : SharedWorld :=
  ⟨fun _ => [], fun _ => {}, fun _ => []⟩

def threeByteHead : EnqueueEncodedFrameChunkPayload :=
  ⟨1, ⟨7, 600, 1, 600⟩, 0, 0, 0, 0, 0⟩

def someFormat : FormatDescription :=
  ⟨Codec.avc1, [[103], [104]], 4⟩

/-- A decoder that refuses every frame. -/
def brokenWorld : SharedWorld :=
  ⟨fun _ => [], fun _ => { decodeFrame := false }, fun _ => []⟩

/-- Three bytes in chunks of two: the frame arrives with the second one, and
the guest learns whether the decoder took it. -/
theorem three_bytes_delivered :
    let sent (world : SharedWorld) := enqueueEncodedFrameChunks world.serve 2 (by decide)
      threeByteHead [1, 2, 3] ⟨decodingWorker ⟨some someFormat, some someFormat, false⟩, []⟩
    let frames := [(1, wholeFrame threeByteHead someFormat [1, 2, 3])]
    (sent quietWorld).2 = .ok () ∧ (sent quietWorld).1.transport.handed = frames ∧
      (sent brokenWorld).2 = .error Status.internalFailure.toInt32 ∧
      (sent brokenWorld).1.transport.handed = frames := by
  intro sent frames
  have delivered (world : SharedWorld) (spares : world.Spares 1) :=
    chunked_frame_delivered world 2 (by decide) threeByteHead [1, 2, 3] (by decide)
      (by decide) (decodingWorker ⟨some someFormat, some someFormat, false⟩) []
      ⟨some someFormat, some someFormat, false⟩ (by decide) someFormat rfl rfl spares
  have quiet := delivered quietWorld fun _ _ member => absurd member not_mem_nil
  have broken := delivered brokenWorld fun _ _ member => absurd member not_mem_nil
  exact ⟨quiet.answered.trans (by decide +kernel), quiet.handed.trans (by decide +kernel),
    broken.answered.trans (by decide +kernel), broken.handed.trans (by decide +kernel)⟩

/-- A session that was not given a format has no decoder: the last chunk is
refused, and no frame is handed on. -/
theorem formatless_frame_refused :
    let result := enqueueEncodedFrameChunks quietWorld.serve 2 (by decide)
      threeByteHead [1, 2, 3] ⟨decodingWorker ⟨none, none, false⟩, []⟩
    result.2 = .error Status.invalidState.toInt32 ∧ result.1.transport.handed = [] := by
  decide +kernel

end Shim

end VtFerry
