import VtFerry.Worker.VtReal.Effects

/-!
# What a request does to sessions

The sessions of a backend are named in many tables: its two session tables,
the encode and decode queues, the recorded decode errors, the assemblies and
the pools.  Most requests leave the session tables and everything on the
decode side alone.  A decode name is new only when a session is created, and
then it is an id that was not drawn before.
-/

namespace VtFerry

namespace VtRealBackend

/-- The session tables and the decode side are the same. -/
structure SameSessions (before after : VtRealBackend) : Prop where
  sessions : after.sessions = before.sessions
  decodeSessions : after.decodeSessions = before.decodeSessions
  pendingEncodedFrames : after.pendingEncodedFrames = before.pendingEncodedFrames
  decodedOutputState : after.decodedOutputState = before.decodedOutputState

theorem SameSessions.refl (backend : VtRealBackend) :
    SameSessions backend backend :=
  ⟨rfl, rfl, rfl, rfl⟩

/-- Where a session id occurs on the decode side of a backend. -/
inductive DecodeNames (backend : VtRealBackend) : Nat → Prop
  | session {id : Nat} {session : VtRealDecodeSession}
      (known : backend.decodeSessions.lookup id = some session) :
      DecodeNames backend id
  | lane {id : Nat} {tickets : List Nat}
      (known : backend.decodedOutputState.queue.lanes.lookup id = some tickets) :
      DecodeNames backend id
  | output {ticket : Nat} {output : VtRealDecodedOutput}
      (found : backend.decodedOutputState.queue.items.lookup ticket = some output) :
      DecodeNames backend output.sessionId
  | error {id : Nat} {status : Int32}
      (recorded : backend.decodedOutputState.decodeErrors.lookup id = some status) :
      DecodeNames backend id
  | assembly {id : Nat} {pending : PendingEncodedFrame}
      (found : backend.pendingEncodedFrames.lookup id = some pending) :
      DecodeNames backend id

/-- Decode names come from before or are drawn on the way. -/
structure DecodeGrows (before after : VtRealBackend) : Prop where
  next_le : before.nextHostId ≤ after.nextHostId
  names : ∀ id, after.DecodeNames id → before.DecodeNames id ∨
      before.nextHostId ≤ id ∧ id < after.nextHostId

variable {host : HostCalls} {source : List UInt8}
variable {backend before after : VtRealBackend} {surfaces : Surfaces}
variable {id sessionId : Nat} {opcode : Option Opcode} {served : Served}

/-! ## New decode names -/

theorem DecodeNames.of_same (names : after.DecodeNames id)
    (sessions : after.decodeSessions = before.decodeSessions)
    (pending : after.pendingEncodedFrames = before.pendingEncodedFrames)
    (decoded : after.decodedOutputState = before.decodedOutputState) :
    before.DecodeNames id := by
  cases names with
  | session known => exact .session (sessions ▸ known)
  | lane known => exact .lane (decoded ▸ known)
  | output found => exact .output (decoded ▸ found)
  | error recorded => exact .error (decoded ▸ recorded)
  | assembly found => exact .assembly (pending ▸ found)

theorem decodeNames_of_popped {errors : FiniteMap Nat Int32}
    (fewer : ∀ id status, errors.lookup id = some status →
      backend.decodedOutputState.decodeErrors.lookup id = some status)
    (names : { backend with
      decodedOutputState :=
        { queue := backend.poppedDecoded sessionId
          decodeErrors := errors } : VtRealBackend }.DecodeNames id) :
    backend.DecodeNames id := by
  cases names with
  | session known => exact .session known
  | lane known =>
    dsimp only [poppedDecoded, TicketQueue.pop] at known
    rw [FiniteMap.lookup_modify] at known
    split at known
    · obtain ⟨earlier, was, _⟩ := Option.map_eq_some_iff.mp known
      exact .lane was
    · exact .lane known
  | output found => exact .output found
  | error recorded => exact .error (fewer _ _ recorded)
  | assembly found => exact .assembly found

theorem DecodedDequeue.decodeNames (dequeue : DecodedDequeue backend surfaces sessionId served)
    (names : served.backend.DecodeNames id) : backend.DecodeNames id := by
  have erased : ∀ id status,
      (backend.decodedOutputState.decodeErrors.erase sessionId).lookup id = some status →
      backend.decodedOutputState.decodeErrors.lookup id = some status :=
    fun _ _ found => FiniteMap.lookup_of_erase found
  cases dequeue with
  | refused _ => exact names
  | frame _ _ _ | lost _ _ _ => exact decodeNames_of_popped (fun _ _ found => found) names
  | error _ _ _ | drained _ _ _ => exact decodeNames_of_popped erased names

theorem PoolBuild.sameSessions {payload : CreateBufferPoolPayload}
    {entryId : Nat} {pool : IOSurfacePool}
    {built : VtRealBackend × UInt32 × ReplyBody}
    (build : PoolBuild host payload entryId pool backend built) :
    SameSessions backend built.1 := by
  cases build with
  | _ => exact ⟨rfl, rfl, rfl, rfl⟩

theorem SameSessions.decodeNames (same : SameSessions before after)
    (names : after.DecodeNames id) : before.DecodeNames id :=
  names.of_same same.decodeSessions same.pendingEncodedFrames same.decodedOutputState

theorem Effect.decodeGrows (effect : Effect host source backend surfaces opcode served) :
    DecodeGrows backend served.backend := by
  refine ⟨effect.next_le, fun id names => ?_⟩
  cases effect with
  | decodeOpened =>
    by_cases new : id = backend.nextHostId
    · right
      dsimp only [Served.ok]
      omega
    · left
      cases names with
      | session known =>
        dsimp only [Served.ok] at known
        rw [FiniteMap.lookup_insert_eq, if_neg new] at known
        exact .session known
      | lane known => exact .lane known
      | output found => exact .output found
      | error recorded => exact .error recorded
      | assembly found => exact .assembly found
  | entryClaimed _ _ _ _ build => exact Or.inl (build.sameSessions.decodeNames names)
  | decodeDestroyed _ =>
    left
    cases names with
    | session known => exact .session (FiniteMap.lookup_of_erase known)
    | lane known => exact .lane known
    | output found => exact .output found
    | error recorded => exact .error recorded
    | assembly found => exact .assembly found
  | assembled live others =>
    left
    cases names with
    | session known => exact .session known
    | lane known => exact .lane known
    | output found => exact .output found
    | error recorded => exact .error recorded
    | assembly found =>
      by_cases same : id = (EnqueueEncodedFrameChunkPayload.read source).sessionId.toNat
      · obtain ⟨session, known⟩ := Option.isSome_iff_exists.mp live
        exact .session (same ▸ known)
      · exact .assembly ((others id same).symm.trans found)
  | configured _ _ known _ =>
    left
    cases names with
    | session found =>
      dsimp only [Served.plain] at found
      rw [FiniteMap.lookup_insert_eq] at found
      split at found
      next same => exact .session (same ▸ known)
      · exact .session found
    | lane known => exact .lane known
    | output found => exact .output found
    | error recorded => exact .error recorded
    | assembly found => exact .assembly found
  | decodedDequeued dequeue => exact Or.inl (dequeue.decodeNames names)
  | decodedReleased _ _ =>
    left
    cases names with
    | session known => exact .session known
    | lane known => exact .lane known
    | output found => exact .output (FiniteMap.lookup_of_erase found)
    | error recorded => exact .error recorded
    | assembly found => exact .assembly found
  | _ => exact Or.inl (names.of_same rfl rfl rfl)

/-! ## Names on the encode side -/

/-- An encode session after the request was there before under the same
context, or it has just been made for an id not drawn before. -/
def SessionsFrom (before after : VtRealBackend) : Prop :=
  ∀ id session, after.sessions.lookup id = some session →
    (∃ earlier, before.sessions.lookup id = some earlier ∧ earlier.context = session.context) ∨
    id = before.nextHostId ∧ session.context.sessionId = id ∧
      after.nextHostId = before.nextHostId + 1 ∧
      ∀ other, after.DecodeNames other → before.DecodeNames other

theorem sessionsFrom_of_same (same : after.sessions = before.sessions) :
    SessionsFrom before after := by
  intro id session known
  rw [same] at known
  exact Or.inl ⟨session, known, rfl⟩

theorem Effect.sessionsFrom (effect : Effect host source backend surfaces opcode served) :
    SessionsFrom backend served.backend := by
  cases effect with
  | encodeOpened own =>
    intro id session known
    dsimp only [Served.ok] at known
    rw [FiniteMap.lookup_insert_eq] at known
    split at known
    next new =>
      cases known
      exact Or.inr ⟨new, own.trans new.symm, rfl, fun _ names => names.of_same rfl rfl rfl⟩
    · exact Or.inl ⟨session, known, rfl⟩
  | @prepared _ earlier was =>
    intro id session known
    dsimp only [Served.plain] at known
    rw [FiniteMap.lookup_insert_eq] at known
    split at known
    next same =>
      cases known
      exact Or.inl ⟨earlier, same ▸ was, rfl⟩
    · exact Or.inl ⟨session, known, rfl⟩
  | entryClaimed _ _ _ _ build => exact sessionsFrom_of_same build.sameSessions.sessions
  | encodeDestroyed _ _ _ =>
    intro id session known
    exact Or.inl ⟨session, FiniteMap.lookup_of_erase known, rfl⟩
  | decodedDequeued dequeue =>
    cases dequeue with
    | _ => exact sessionsFrom_of_same rfl
  | _ => exact sessionsFrom_of_same rfl

variable {poolId : Nat}

theorem PoolBuild.pools {payload : CreateBufferPoolPayload} {entryId : Nat}
    {pool : IOSurfacePool} {built : VtRealBackend × UInt32 × ReplyBody}
    {record : VtRealPool}
    (build : PoolBuild host payload entryId pool backend built)
    (found : built.1.pools.lookup poolId = some record) :
    backend.pools.lookup poolId = some record ∨ record.sessionId = payload.sessionId.toNat := by
  cases build with
  | refused _ _ | abandoned _ _ _ => exact Or.inl found
  | built _ _ _ =>
    dsimp only at found
    rw [FiniteMap.lookup_insert_eq] at found
    split at found
    · cases found
      exact Or.inr rfl
    · exact Or.inl found

theorem lookup_of_removePools {poolIds : List Nat} {pool : VtRealPool}
    (found : (backend.removePools poolIds).pools.lookup poolId = some pool) :
    backend.pools.lookup poolId = some pool := by
  rw [lookup_pools_removePools] at found
  split at found
  · cases found
  · exact found

/-- A pool after the request was there before, or belongs to a session the
request found. -/
theorem Effect.pools {pool : VtRealPool}
    (effect : Effect host source backend surfaces opcode served)
    (found : served.backend.pools.lookup poolId = some pool) :
    backend.pools.lookup poolId = some pool ∨ backend.sessionKnown pool.sessionId = true := by
  cases effect with
  | entryClaimed reaches _ _ _ build =>
    rcases build.pools found with earlier | owner
    · exact Or.inl earlier
    · exact Or.inr (owner ▸ reaches.2)
  | encodeDestroyed _ _ _ | poolDestroyed _ => exact Or.inl (lookup_of_removePools found)
  | decodedDequeued dequeue =>
    cases dequeue with
    | _ => exact Or.inl found
  | _ => exact Or.inl found

/-! ## The sessions of accepted frames -/

theorem Encodes.frameOf {frames : List EncoderFrame} (encodes : Encodes before after frames) :
    ∀ frame ∈ frames, before.FrameOf frame := by
  induction encodes with
  | done => simp
  | wrapped _ _ _ induction => exact induction
  | queued _ _ _ _ ofSession _ induction =>
    intro frame member
    rcases List.mem_cons.mp member with rfl | later
    · exact ofSession
    · exact induction frame later

theorem Effect.frameOf {frame : EncoderFrame}
    (effect : Effect host source backend surfaces opcode served)
    (accepted : frame ∈ served.encoded) : backend.FrameOf frame := by
  rcases effect.encodes with none | encodes
  · rw [none] at accepted
    cases accepted
  · exact encodes.frameOf frame accepted

end VtRealBackend

end VtFerry
