import VtFerry.Worker.FlightSafety
import VtFerry.Worker.SessionNames

/-!
# Destroying a session

`DESTROY_SESSION` should remove exactly one session: afterwards every table is
the table before it without what belonged to the session, the directory has
lost the claims of the session's pools and nothing else, and no buffer that
stays is left queued by a frame of the session.  The encode branches of both
backends do remove all that belongs to the session, but they leave the buffers
of other pools queued; the decode branch removes the session record only.
-/

namespace VtFerry

open Execution LeaseTable LittleEndian

/-! ## The VideoToolbox backend -/

/-- The directory after some entries were released: their claims are gone and
nothing else has changed. -/
def Surfaces.Released (before after : Surfaces) (entryIds : List Nat) : Prop :=
  after.memory = before.memory ∧ ∀ entryId, after.directory.entries[entryId]? =
      before.directory.entries[entryId]?.map fun entry =>
        if entryId ∈ entryIds then { entry with claimed := false } else entry

theorem IOSurfacePoolDirectory.getElem?_releaseEntries
    (directory : IOSurfacePoolDirectory) (entryIds : List Nat)
    (entryId : Nat) :
    (directory.releaseEntries entryIds).entries[entryId]? =
      directory.entries[entryId]?.map fun entry =>
        if entryId ∈ entryIds then { entry with claimed := false }
        else entry := by
  induction entryIds generalizing directory with
  | nil => simp [releaseEntries]
  | cons released entryIds induction =>
    have later := induction (directory.releaseEntry released)
    unfold releaseEntries at later ⊢
    rw [List.foldl_cons, later]
    simp only [releaseEntry, setClaimed, List.getElem?_modify]
    cases directory.entries[entryId]? with
    | none => rfl
    | some entry =>
      by_cases same : released = entryId
      · simp [same]
      · simp [same, Ne.symm same]

namespace VtRealBackend

variable {backend : VtRealBackend} {surfaces : Surfaces}

/-- The buffer's pool belongs to the session. -/
def Owns (backend : VtRealBackend) (sessionId : Nat) (buffer : VtRealBuffer) : Bool :=
  (backend.pools.lookup buffer.poolId).any (·.sessionId == sessionId)

def sessionEntries (backend : VtRealBackend) (sessionId : Nat) : List Nat :=
  backend.entriesOf (backend.poolsOfSession sessionId)

/-- `after` is `before` without the session: each table has lost exactly what
belonged to it. -/
structure Without (before after : VtRealBackend) (sessionId : Nat) :
    Prop where
  sessions : ∀ id, after.sessions.lookup id =
    if id = sessionId then none else before.sessions.lookup id
  decodeSessions : ∀ id, after.decodeSessions.lookup id =
    if id = sessionId then none else before.decodeSessions.lookup id
  assemblies : ∀ id, after.pendingEncodedFrames.lookup id =
    if id = sessionId then none else before.pendingEncodedFrames.lookup id
  lanes : ∀ id, after.outputState.lanes.lookup id =
    if id = sessionId then none else before.outputState.lanes.lookup id
  outputs : ∀ ticket, after.outputState.items.lookup ticket =
    (before.outputState.items.lookup ticket).filter (·.reply.sessionId != sessionId)
  decodedLanes : ∀ id, after.decodedOutputState.queue.lanes.lookup id =
    if id = sessionId then none
    else before.decodedOutputState.queue.lanes.lookup id
  decodedOutputs : ∀ ticket, after.decodedOutputState.queue.items.lookup ticket =
      (before.decodedOutputState.queue.items.lookup ticket).filter (·.sessionId != sessionId)
  decodeErrors : ∀ id, after.decodedOutputState.decodeErrors.lookup id =
    if id = sessionId then none
    else before.decodedOutputState.decodeErrors.lookup id
  pools : ∀ poolId, after.pools.lookup poolId =
    (before.pools.lookup poolId).filter (·.sessionId != sessionId)
  buffers : ∀ bufferId, after.buffers.lookup bufferId =
    (before.buffers.lookup bufferId).filter fun buffer => !before.Owns sessionId buffer
  nextHostId : after.nextHostId = before.nextHostId
  nextOutput : after.outputState.next = before.outputState.next
  nextDecoded : after.decodedOutputState.queue.next = before.decodedOutputState.queue.next

/-- No buffer is still queued under a lease the session queued. -/
def Unqueued (backend : VtRealBackend) (queued : Lease → Prop) : Prop :=
  ∀ bufferId buffer, backend.buffers.lookup bufferId = some buffer →
    buffer.state = .queuedToHost → ¬ queued ⟨bufferId, buffer.generation⟩

/-- The request removed exactly the session; `queued` are the leases that
frames of the session queued. -/
structure RemovesExactly (backend : VtRealBackend) (surfaces : Surfaces)
    (served : Served) (sessionId : Nat) (queued : Lease → Prop) : Prop where
  tables : backend.Without served.backend sessionId
  directory : surfaces.Released served.surfaces (backend.sessionEntries sessionId)
  unqueued : served.backend.Unqueued queued

/-- A decode session has nothing but its record; the buffers still queued by
frames of an encode session are in pools of its own. -/
structure Removable (backend : VtRealBackend) (sessionId : Nat) (queued : Lease → Prop) : Prop where
  decode : (backend.decodeSessions.lookup sessionId).isSome →
    backend.decodedOutputState.queue.lanes.lookup sessionId = none ∧
    (∀ ticket output, backend.decodedOutputState.queue.items.lookup ticket = some output →
      output.sessionId ≠ sessionId) ∧
    backend.decodedOutputState.decodeErrors.lookup sessionId = none ∧
    backend.pendingEncodedFrames.lookup sessionId = none
  encode : ∀ bufferId buffer, backend.buffers.lookup bufferId = some buffer →
    buffer.state = .queuedToHost → queued ⟨bufferId, buffer.generation⟩ →
    backend.Owns sessionId buffer = true

variable {sessionId : Nat}

theorem owns_iff {buffer : VtRealBuffer} :
    backend.Owns sessionId buffer = true ↔
      buffer.poolId ∈ backend.poolsOfSession sessionId := by
  rw [Owns, Option.any_eq_true, mem_poolsOfSession]
  simp

theorem lookup_without {Value : Type} {table : FiniteMap Nat Value}
    {key : Nat} (absent : table.lookup key = none) (other : Nat) :
    table.lookup other = if other = key then none else table.lookup other := by
  split
  next same => rw [same, absent]
  · rfl

theorem filter_without {Value : Type} {table : FiniteMap Nat Value} {keep : Value → Bool}
    (all : ∀ key value, table.lookup key = some value → keep value = true)
    (key : Nat) : table.lookup key = (table.lookup key).filter keep := by
  cases found : table.lookup key with
  | none => rfl
  | some value => rw [Option.filter_some, if_pos (all key value found)]

theorem pools_removed (sessionId poolId : Nat) :
    (backend.removePools (backend.poolsOfSession sessionId)).pools.lookup poolId =
      (backend.pools.lookup poolId).filter (·.sessionId != sessionId) := by
  rw [lookup_pools_removePools]
  split
  next owned =>
    obtain ⟨pool, found, owner⟩ := mem_poolsOfSession.mp owned
    simp [found, owner, Option.filter_some]
  next other =>
    cases found : backend.pools.lookup poolId with
    | none => rfl
    | some pool =>
      have foreign : pool.sessionId ≠ sessionId := by
        intro owner
        exact other (mem_poolsOfSession.mpr ⟨pool, found, owner⟩)
      simp [foreign, Option.filter_some]

theorem buffers_removed (sessionId bufferId : Nat) :
    (backend.removePools (backend.poolsOfSession sessionId)).buffers.lookup bufferId =
      (backend.buffers.lookup bufferId).filter fun buffer => !backend.Owns sessionId buffer := by
  rw [removePools, FiniteMap.lookup_retain]
  cases backend.buffers.lookup bufferId with
  | none => rfl
  | some buffer =>
    have same : (!(backend.poolsOfSession sessionId).contains
        buffer.poolId) = !backend.Owns sessionId buffer := by
      rw [Bool.eq_iff_iff, Bool.not_eq_true', Bool.not_eq_true',
        Bool.eq_false_iff, Bool.eq_false_iff, ne_eq, ne_eq,
        List.contains_iff_mem, owns_iff]
    rw [Option.filter_some, Option.filter_some, same]

variable {queued : Lease → Prop}

/-- A decode session that has nothing but its record is removed exactly. -/
theorem removesExactly_decode
    (unnamed : ∀ id session, backend.sessions.lookup id = some session → id ≠ sessionId)
    (unlaned : ∀ id tickets, backend.outputState.lanes.lookup id = some tickets → id ≠ sessionId)
    (unsent : ∀ ticket output, backend.outputState.items.lookup ticket = some output →
      output.reply.sessionId ≠ sessionId)
    (unpooled : ∀ poolId pool, backend.pools.lookup poolId = some pool → pool.sessionId ≠ sessionId)
    (unqueued : ∀ lease, ¬ queued lease) :
    backend.RemovesExactly surfaces
      (.plain { backend with
        decodeSessions := backend.decodeSessions.erase sessionId }
        surfaces Status.ok) sessionId queued ↔
      backend.decodedOutputState.queue.lanes.lookup sessionId = none ∧
      (∀ ticket output, backend.decodedOutputState.queue.items.lookup ticket = some output →
        output.sessionId ≠ sessionId) ∧
      backend.decodedOutputState.decodeErrors.lookup sessionId = none ∧
      backend.pendingEncodedFrames.lookup sessionId = none := by
  have absent : ∀ {Value : Type} {table : FiniteMap Nat Value},
      (∀ id value, table.lookup id = some value → id ≠ sessionId) →
      table.lookup sessionId = none := by
    intro Value table others
    rw [Option.eq_none_iff_forall_ne_some]
    intro value found
    exact others sessionId value found rfl
  constructor
  · intro removed
    have lanes := removed.tables.decodedLanes sessionId
    have errors := removed.tables.decodeErrors sessionId
    have assemblies := removed.tables.assemblies sessionId
    rw [if_pos rfl] at lanes errors assemblies
    refine ⟨lanes, ?_, errors, assemblies⟩
    intro ticket output found same
    have kept := removed.tables.decodedOutputs ticket
    dsimp only [Served.plain] at kept
    rw [found, Option.filter_some, if_neg (by simp [same])] at kept
    cases kept
  · rintro ⟨lanes, outputs, errors, assemblies⟩
    refine ⟨?_, ⟨rfl, ?_⟩, fun _ _ _ _ => unqueued _⟩
    · refine ⟨lookup_without (absent unnamed), fun id => FiniteMap.lookup_erase_eq _ _ _,
        lookup_without assemblies, lookup_without (absent unlaned),
        filter_without ?_, lookup_without lanes, filter_without ?_,
        lookup_without errors, filter_without ?_, filter_without ?_,
        rfl, rfl, rfl⟩
      · intro ticket output found
        simpa using unsent ticket output found
      · intro ticket output found
        simpa using outputs ticket output found
      · intro poolId pool found
        simpa using unpooled poolId pool found
      · intro bufferId buffer _
        rw [Bool.not_eq_true', Bool.eq_false_iff, ne_eq, owns_iff, mem_poolsOfSession]
        rintro ⟨pool, found, owner⟩
        exact unpooled _ pool found owner
    · intro entryId
      have free : entryId ∉ backend.sessionEntries sessionId := by
        intro held
        obtain ⟨poolId, owned, _⟩ := mem_entriesOf.mp held
        obtain ⟨pool, found, owner⟩ := mem_poolsOfSession.mp owned
        exact unpooled poolId pool found owner
      simp [free, Served.plain]

/-- An encode session is removed exactly if the buffers its frames have left
queued are its own. -/
theorem removesExactly_encode (unnamed : ¬ backend.DecodeNames sessionId) :
    backend.RemovesExactly surfaces (.plain ((backend.removeSession sessionId).removePools
          (backend.poolsOfSession sessionId))
        { surfaces with
          directory := surfaces.directory.releaseEntries
            (backend.sessionEntries sessionId) } Status.ok)
      sessionId queued ↔
      ∀ bufferId buffer, backend.buffers.lookup bufferId = some buffer →
        buffer.state = .queuedToHost →
        queued ⟨bufferId, buffer.generation⟩ →
        backend.Owns sessionId buffer = true := by
  have absent : ∀ {Value : Type} {table : FiniteMap Nat Value},
      (∀ value, table.lookup sessionId = some value → backend.DecodeNames sessionId) →
      table.lookup sessionId = none := by
    intro Value table names
    rw [Option.eq_none_iff_forall_ne_some]
    intro value found
    exact unnamed (names value found)
  have left : ∀ bufferId, ((backend.removeSession sessionId).removePools
      (backend.poolsOfSession sessionId)).buffers.lookup bufferId =
      (backend.buffers.lookup bufferId).filter fun buffer => !backend.Owns sessionId buffer :=
    fun bufferId => buffers_removed sessionId bufferId
  constructor
  · intro removed bufferId buffer found state isQueued
    by_contra foreign
    rw [Bool.not_eq_true] at foreign
    refine removed.unqueued bufferId buffer ?_ state isQueued
    dsimp only [Served.plain]
    rw [left, found, Option.filter_some, foreign]
    rfl
  · intro owned
    refine ⟨?_, ⟨rfl, ?_⟩, ?_⟩
    · refine ⟨fun id => FiniteMap.lookup_erase_eq _ _ _,
        lookup_without (absent fun _ known => .session known),
        lookup_without (absent fun _ found => .assembly found),
        fun id => FiniteMap.lookup_erase_eq _ _ _,
        fun ticket => FiniteMap.lookup_retain _ _ _,
        lookup_without (absent fun _ known => .lane known),
        filter_without ?_,
        lookup_without (absent fun _ recorded => .error recorded),
        fun poolId => pools_removed sessionId poolId, left, rfl, rfl, rfl⟩
      intro ticket output found
      rw [bne_iff_ne]
      rintro rfl
      exact unnamed (.output found)
    · exact surfaces.directory.getElem?_releaseEntries _
    · intro bufferId buffer found state isQueued
      dsimp only [Served.plain] at found
      rw [left] at found
      obtain ⟨was, foreign⟩ := Option.filter_eq_some_iff.mp found
      rw [owned bufferId buffer was state isQueued] at foreign
      cases foreign

variable {source : List UInt8}

/-- `DESTROY_SESSION` of a live session: the decode branch, or the encode
branch. -/
theorem destroySession_ok (done : (destroySession source backend surfaces).status = Status.ok) :
    let sessionId := (HandlePayload.read source).handle.toNat
    ((backend.decodeSessions.lookup sessionId).isSome ∧ destroySession source backend surfaces =
        .plain { backend with
          decodeSessions := backend.decodeSessions.erase sessionId }
          surfaces Status.ok) ∨
    ((backend.sessions.lookup sessionId).isSome ∧
      ¬ (backend.decodeSessions.lookup sessionId).isSome ∧
      destroySession source backend surfaces = .plain ((backend.removeSession sessionId).removePools
            (backend.poolsOfSession sessionId))
          { surfaces with
            directory := surfaces.directory.releaseEntries
              (backend.sessionEntries sessionId) } Status.ok) := by
  revert done
  unfold destroySession
  dsimp only
  split
  · intro failed
    have refused : Status.internalFailure ≠ Status.ok := by decide
    exact absurd failed refused
  split
  next decode => exact fun _ => Or.inl ⟨decode, rfl⟩
  next decode =>
    split
    · intro failed
      have refused : Status.invalidHandle ≠ Status.ok := by decide
      exact absurd failed refused
    next encode =>
      exact fun _ => Or.inr ⟨Option.isSome_iff_ne_none.mpr
          (mt Option.isNone_iff_eq_none.mpr encode), decode, rfl⟩

end VtRealBackend

/-- A lease that a frame of the session queued. -/
def QueuedBy (frames : List (Nat × EncoderFrame)) (id sessionId : Nat) (lease : Lease) : Prop :=
  ∃ frame, (id, frame) ∈ frames ∧ frame.context.sessionId = sessionId ∧ frame.frame.lease = lease

theorem VtRealBackend.removesExactly_iff {connection : Connection}
    {frames : List (Nat × EncoderFrame)} {id : Nat} {surfaces : Surfaces}
    (sorted : connection.Sorted fun frame => (id, frame) ∈ frames)
    (done : (connection.backend.destroySession source surfaces).status = Status.ok) :
    connection.backend.RemovesExactly surfaces (connection.backend.destroySession source surfaces)
        (HandlePayload.read source).handle.toNat
        (QueuedBy frames id (HandlePayload.read source).handle.toNat) ↔
      connection.backend.Removable (HandlePayload.read source).handle.toNat
        (QueuedBy frames id (HandlePayload.read source).handle.toNat) := by
  rcases destroySession_ok done with
    ⟨decode, result⟩ | ⟨encode, notDecode, result⟩
  · rw [result]
    generalize (HandlePayload.read source).handle.toNat = sessionId at decode ⊢
    have named : connection.backend.DecodeNames sessionId := by
      obtain ⟨session, known⟩ := Option.isSome_iff_exists.mp decode
      exact .session known
    have unqueued : ∀ lease, ¬ QueuedBy frames id sessionId lease := by
      rintro lease ⟨frame, member, rfl, _⟩
      exact (sorted.frames frame member).2 named
    have unnamed : ∀ other session, connection.backend.sessions.lookup other = some session →
        other ≠ sessionId := by
      rintro other session known rfl
      exact (sorted.sessions other session known).2.2 named
    have unlaned : ∀ other tickets,
        connection.backend.outputState.lanes.lookup other = some tickets →
        other ≠ sessionId := by
      rintro other tickets known rfl
      exact (sorted.lanes other tickets known).2 named
    have unsent : ∀ ticket output,
        connection.backend.outputState.items.lookup ticket = some output →
        output.reply.sessionId ≠ sessionId := by
      rintro ticket output found rfl
      exact (sorted.outputs ticket output found).2 named
    have unpooled : ∀ poolId pool, connection.backend.pools.lookup poolId = some pool →
        pool.sessionId ≠ sessionId := by
      rintro poolId pool found rfl
      exact (sorted.pools poolId pool found).2 named
    rw [removesExactly_decode unnamed unlaned unsent unpooled unqueued]
    constructor
    · intro bare
      exact ⟨fun _ => bare, fun _ _ _ _ queued => absurd queued (unqueued _)⟩
    · intro removable
      exact removable.decode decode
  · rw [result]
    generalize (HandlePayload.read source).handle.toNat = sessionId at encode notDecode ⊢
    have unnamed : ¬ connection.backend.DecodeNames sessionId := by
      obtain ⟨session, known⟩ := Option.isSome_iff_exists.mp encode
      exact (sorted.sessions sessionId session known).2.2
    rw [removesExactly_encode unnamed]
    constructor
    · intro owned
      exact ⟨fun decode => absurd decode notDecode, owned⟩
    · intro removable
      exact removable.encode

/-! ## The mock backend -/

namespace MockBackend

open Mock

variable {backend : MockBackend}

/-- The leases queued by a request, with the session that queued them. -/
def queues (backend : MockBackend) (request : MockRequest) :
    List (Nat × Lease) :=
  let payload := EncodeFramePayload.read request.request.payload
  if Opcode.ofCode? request.request.opcode = some .encodeFrame ∧
      (backend.serve request).reply.isSome then
    [(payload.sessionId.toNat,
      ⟨payload.imageBufferHostId.toNat, payload.imageBufferGeneration.toNat⟩)]
  else []

def step (backend : MockBackend) (request : MockRequest) : MockBackend :=
  (backend.serve request).backend

def Owns (backend : MockBackend) (sessionId : Nat) (buffer : Buffer) :
    Bool :=
  (backend.findPool buffer.poolId).any (·.sessionId == sessionId)

structure Without (before after : MockBackend) (sessionId : Nat) : Prop where
  sessions : after.sessions = before.sessions.filter (·.id != sessionId)
  pools : after.pools = before.pools.filter (·.sessionId != sessionId)
  buffers : after.buffers = before.buffers.filter fun buffer =>
    !before.Owns sessionId buffer
  outputs : after.outputs = before.outputs.filter (·.reply.sessionId != sessionId)
  nextHostId : after.nextHostId = before.nextHostId
  nextOutputId : after.nextOutputId = before.nextOutputId

structure RemovesExactly (before after : MockBackend) (sessionId : Nat)
    (queued : Lease → Prop) : Prop where
  tables : before.Without after sessionId
  unqueued : ∀ buffer ∈ after.buffers, buffer.state = .queuedToHost →
    ¬ queued ⟨buffer.id, buffer.generation⟩

def Removable (backend : MockBackend) (sessionId : Nat) (queued : Lease → Prop) : Prop :=
  ∀ buffer ∈ backend.buffers, buffer.state = .queuedToHost → queued ⟨buffer.id, buffer.generation⟩ →
    backend.Owns sessionId buffer = true

theorem run_wellKept (maxOutputCount maxOutputBytes : Nat) (requests : List MockRequest) :
    (run step (resetFromEnv maxOutputCount maxOutputBytes) requests).WellKept := by
  have preserved : ∀ (backend : MockBackend) (request : MockRequest),
      backend.WellKept → (backend.step request).WellKept :=
    fun _ request kept => (serve_advances kept request).kept
  exact invariant_of_step preserved (resetFromEnv_wellKept maxOutputCount maxOutputBytes) requests

theorem destroySession_without (kept : backend.WellKept)
    (done : (destroySession source backend).reply.isSome) :
    backend.Without (destroySession source backend).backend
      (HandlePayload.read source).handle.toNat := by
  revert done
  unfold destroySession
  split
  · intro refused
    cases refused
  · dsimp only
    split
    · intro refused
      cases refused
    · intro _
      have swept := removed_swept backend (HandlePayload.read source).handle.toNat backend.sessions
      refine ⟨rfl, rfl, swept.buffers.trans ?_, rfl, rfl, rfl⟩
      apply List.filter_congr
      intro buffer _
      rw [Bool.eq_iff_iff, decide_eq_true_iff, Bool.not_eq_true',
        Bool.eq_false_iff, ne_eq, mem_sessionPools_iff kept]
      rfl

theorem serve_destroySession {request : MockRequest}
    (opcode : Opcode.ofCode? request.request.opcode = some .destroySession)
    (done : (backend.serve request).reply.isSome) :
    backend.serve request = destroySession request.request.payload backend := by
  unfold serve dispatch at done ⊢
  rw [opcode] at done ⊢
  dsimp only at done ⊢
  split at done
  · cases done
  next version => rw [if_neg version]

theorem removesExactly_iff (kept : backend.WellKept)
    (done : (destroySession source backend).reply.isSome) :
    backend.RemovesExactly (destroySession source backend).backend
        (HandlePayload.read source).handle.toNat queued ↔
      backend.Removable (HandlePayload.read source).handle.toNat queued := by
  have without := destroySession_without kept done
  have left := without.buffers
  constructor
  · intro removed buffer member state isQueued
    by_contra foreign
    rw [Bool.not_eq_true] at foreign
    refine removed.unqueued buffer ?_ state isQueued
    rw [left, List.mem_filter, foreign]
    exact ⟨member, rfl⟩
  · intro owned
    refine ⟨without, ?_⟩
    intro buffer member state isQueued
    rw [left, List.mem_filter] at member
    obtain ⟨was, foreign⟩ := member
    rw [owned buffer was state isQueued] at foreign
    cases foreign

end MockBackend

/-! ## The result -/

/-- A `DESTROY_SESSION` that succeeds removes exactly its session if and only
if the session can be removed so: in every reachable state of either
backend. -/
theorem session_removed_exactly_iff (surfaces : Surfaces) (events : List WorkerEvent)
    (live : Execution.Obeys WorkerProcess.step WorkerProcess.DecoderLive (.started surfaces) events)
    (maxOutputCount maxOutputBytes : Nat)
    (requests : List MockBackend.MockRequest) :
    (let process := run WorkerProcess.step (.started surfaces) events
      ∀ id connection, process.connections.lookup id = some connection →
      ∀ host request response, Opcode.ofCode? request.opcode = some .destroySession →
      let served := connection.backend.dispatch host request response process.surfaces
      let sessionId := (HandlePayload.read request.payload).handle.toNat
      let queued := QueuedBy (WorkerProcess.acceptedFrames surfaces events) id sessionId
      served.status = Status.ok →
      (connection.backend.RemovesExactly process.surfaces served sessionId queued ↔
        connection.backend.Removable sessionId queued)) ∧
    (let start := MockBackend.resetFromEnv maxOutputCount maxOutputBytes
      let backend := run MockBackend.step start requests
      let queues := trail MockBackend.step MockBackend.queues start requests
      ∀ request : MockBackend.MockRequest,
        Opcode.ofCode? request.request.opcode = some .destroySession →
      let served := backend.serve request
      let sessionId :=
        (HandlePayload.read request.request.payload).handle.toNat
      let queued := fun lease => (sessionId, lease) ∈ queues
      served.reply.isSome →
      (backend.RemovesExactly served.backend sessionId queued ↔
        backend.Removable sessionId queued)) := by
  refine ⟨?_, ?_⟩
  · intro process id connection isOpen host request response opcode served sessionId queued done
    have sorted := (WorkerProcess.run_sorted surfaces events live).connections id connection isOpen
    have handled : served = connection.backend.destroySession request.payload process.surfaces := by
      dsimp only [served, VtRealBackend.dispatch]
      rw [opcode]
    rw [handled] at done ⊢
    exact VtRealBackend.removesExactly_iff sorted done
  · intro start backend queues request opcode served sessionId queued done
    have kept : backend.WellKept :=
      MockBackend.run_wellKept maxOutputCount maxOutputBytes requests
    have handled := MockBackend.serve_destroySession opcode done
    dsimp only [served] at done ⊢
    rw [handled] at done ⊢
    exact MockBackend.removesExactly_iff kept done

def decodeSessionRequest : Request where
  opcode := Opcode.createSession.code
  payload := u32Bytes sessionKindDecode ++ u32Bytes Codec.avc1 ++
    u32Bytes 16 ++ u32Bytes 16 ++ u32Bytes PixelFormat.bgra ++
    List.replicate 16 0

def destroyRequest (sessionId : UInt64) : Request where
  opcode := Opcode.destroySession.code
  payload := u64Bytes sessionId

/-- The request removes exactly its session after the given run. -/
def WorkerProcess.DestroysAfter (events : List WorkerEvent) (sessionId : UInt64) : Prop :=
  let process := run WorkerProcess.step twoSlotStart events
  ∃ connection, process.connections.lookup 0 = some connection ∧
    connection.backend.RemovesExactly process.surfaces
      (connection.backend.dispatch {} (destroyRequest sessionId) [] process.surfaces)
      sessionId.toNat
      (QueuedBy (acceptedFrames twoSlotStart.surfaces events) 0 sessionId.toNat)

def ownPoolRequest (sessionId : UInt64) : Request :=
  VtRealBackend.createPoolRequest (u64Bytes sessionId ++ u32Bytes 2 ++
    u32Bytes PixelFormat.bgra ++ u32Bytes 16 ++ u32Bytes 16 ++ u64Bytes 0)

/-- Session 1 has a pool of its own with a queued buffer, whose output waits;
session 5 decodes. -/
def ownFrame : List WorkerEvent :=
  [.connect, .request 0 {} WorkerProcess.encodeSessionRequest [],
    .request 0 {} (WorkerProcess.prepareRequest 1) [],
    .request 0 {} (ownPoolRequest 1) [], .request 0 {} (allocRequest 2) [],
    .request 0 {} (WorkerProcess.encodeRequest 1 4 1) [],
    .encoderCallback 0 0 ⟨0, some [7], ⟨0, 600, 600, 1⟩, none, true⟩,
    .callbackStep 0 0, .callbackStep 0 0, .callbackStep 0 0,
    .request 0 {} decodeSessionRequest []]

/-- The same for session 1000 of the mock backend. -/
def mockOwnFrame : List MockBackend.MockRequest :=
  [⟨4096, transportVersion, WorkerProcess.encodeSessionRequest⟩,
    ⟨4096, transportVersion, WorkerProcess.prepareRequest 1000⟩,
    ⟨4096, transportVersion, ownPoolRequest 1000⟩,
    ⟨4096, transportVersion, allocRequest 1001⟩,
    ⟨4096, transportVersion, WorkerProcess.encodeRequest 1000 1002 1⟩]

/-- Sessions that own a pool, its queued buffer and an output are removed
exactly, and so is a decode session without frames. -/
theorem owning_sessions_removed :
    ((run WorkerProcess.step WorkerProcess.twoSlotStart ownFrame).connections.lookup
      0).map (fun connection => (connection.backend.poolsOfSession 1,
        connection.backend.outputState.lane 1, connection.backend.buffers.values.map (·.state))) =
      some ([2], [50000], [.queuedToHost, .recycled]) ∧
    WorkerProcess.DestroysAfter ownFrame 1 ∧ WorkerProcess.DestroysAfter ownFrame 5 ∧
    let backend := run MockBackend.step (.resetFromEnv 128 4096) mockOwnFrame
    backend.outputs.length = 1 ∧ backend.buffers.length = 1 ∧ backend.RemovesExactly
      (backend.serve ⟨4096, transportVersion, destroyRequest 1000⟩).backend 1000
      fun lease => (1000, lease) ∈ trail MockBackend.step MockBackend.queues
        (.resetFromEnv 128 4096) mockOwnFrame := by
  obtain ⟨real, mock⟩ := session_removed_exactly_iff WorkerProcess.twoSlotStart.surfaces
    ownFrame (by simp [ownFrame, Execution.Obeys, WorkerProcess.DecoderLive]) 128 4096 mockOwnFrame
  refine ⟨by decide +kernel, ⟨_, rfl, ?_⟩, ⟨_, rfl, ?_⟩, by decide +kernel, by decide +kernel, ?_⟩
  · refine (real 0 _ rfl {} (destroyRequest 1) [] rfl rfl).mpr ⟨fun known => (by cases known), ?_⟩
    intro bufferId buffer found _ _
    exact List.all_eq_true.mp (by decide +kernel) buffer
      (FiniteMap.mem_values_iff.mpr ⟨bufferId, found⟩)
  · refine (real 0 _ rfl {} (destroyRequest 5) [] rfl rfl).mpr ⟨?_, ?_⟩
    · intro _
      exact ⟨rfl, fun _ _ found => (by cases found), rfl, rfl⟩
    · rintro bufferId buffer found state ⟨frame, member, named, _⟩
      have others : ∀ pair ∈ WorkerProcess.acceptedFrames WorkerProcess.twoSlotStart.surfaces
          ownFrame, pair.2.context.sessionId ≠ 5 := by
        decide +kernel
      exact absurd named (others (0, frame) member)
  · refine (mock ⟨4096, transportVersion, destroyRequest 1000⟩ rfl (by decide +kernel)).mpr ?_
    intro buffer member _ _
    exact List.all_eq_true.mp (by decide +kernel) buffer member

/-- A destroyed encode session leaves the buffer of its frame queued, and a
destroyed decode session its recorded error. -/
theorem destroyed_sessions_leave_traces :
    ¬ WorkerProcess.DestroysAfter WorkerProcess.oneFrameInFlight 4 ∧
    ¬ WorkerProcess.DestroysAfter [.connect, .request 0 {} decodeSessionRequest [],
        .decoderCallback 0 1 ⟨-12909, none, ⟨0, 600, 600, 1⟩⟩] 1 := by
  refine ⟨?_, ?_⟩
  · rintro ⟨connection, isOpen, removed⟩
    cases isOpen
    exact removed.unqueued 3 _ rfl rfl ⟨_, List.Mem.head _, rfl, rfl⟩
  · rintro ⟨connection, isOpen, removed⟩
    cases isOpen
    cases removed.tables.decodeErrors 1

end VtFerry
