import VtFerry.Shim.DecodeSession
import VtFerry.Worker.Delivery.Encode

/-!
# Deferred releases

With deferral on, `release_output` puts the output's id on one list for all
sessions.  The list is sent in batches when it is long enough, on a flush and
before a session is destroyed, unless destroying a session drops it.  A batch
stops at its first unknown id, and what comes after it is never sent again.  So
no release is lost as long as no stored output is listed after an unknown one,
and a dropped list has outputs of the destroyed session only.
-/

namespace VtFerry

open List LittleEndian Pieces

namespace VtRealBackend

variable {backend : VtRealBackend} {outputId : UInt64}
variable {outputIds : List UInt64}

/-- The worker has the output, dequeued or not. -/
def Stores (backend : VtRealBackend) (outputId : UInt64) : Prop :=
  (backend.outputState.items.lookup outputId.toNat).isSome

/-- No stored output is listed after one that is not. -/
def StoredFirst (backend : VtRealBackend) (outputIds : List UInt64) : Prop :=
  outputIds.Pairwise fun earlier later =>
    backend.Stores later → backend.Stores earlier

theorem releaseOutputIds_append (first second : List UInt64) (backend : VtRealBackend) :
    releaseOutputIds (first ++ second) backend =
      if (releaseOutputIds first backend).2 = Status.ok then
        releaseOutputIds second (releaseOutputIds first backend).1
      else releaseOutputIds first backend := by
  induction first generalizing backend with
  | nil => rfl
  | cons outputId rest induction =>
    cases found : backend.outputState.items.lookup outputId.toNat with
    | none =>
      rw [cons_append, releaseOutputIds_unknown found, releaseOutputIds_unknown found]
      rfl
    | some output =>
      rw [cons_append, releaseOutputIds_known found, releaseOutputIds_known found]
      exact induction _

theorem lookup_releaseOutputIds_of_other {ticket : Nat}
    (other : ∀ outputId ∈ outputIds, ticket ≠ outputId.toNat) :
    (releaseOutputIds outputIds backend).1.outputState.items.lookup ticket =
      backend.outputState.items.lookup ticket := by
  obtain ⟨items, -, others, result⟩ := releaseOutputIds_eq outputIds backend
  rw [result]
  apply others ticket
  intro listed
  obtain ⟨outputId, member, same⟩ := mem_map.mp listed
  exact other outputId member same.symm

/-- A list releases all its outputs exactly when the unknown ones come
last. -/
theorem releaseOutputIds_releases_iff (once : outputIds.Nodup) :
    (∀ outputId ∈ outputIds, ¬ (releaseOutputIds outputIds backend).1.Stores outputId) ↔
      backend.StoredFirst outputIds := by
  induction outputIds generalizing backend with
  | nil => simp [StoredFirst]
  | cons outputId rest induction =>
    obtain ⟨fresh, once⟩ := nodup_cons.mp once
    have apart : ∀ other ∈ rest, other.toNat ≠ outputId.toNat :=
      fun other listed same => fresh (UInt64.toNat_inj.mp same ▸ listed)
    cases found : backend.outputState.items.lookup outputId.toNat with
    | none =>
      have unknown : ¬ backend.Stores outputId := by simp [Stores, found]
      rw [releaseOutputIds_unknown found]
      constructor
      · intro gone
        have none : ∀ other ∈ rest, ¬ backend.Stores other :=
          fun other listed => gone other (mem_cons_of_mem _ listed)
        refine pairwise_cons.mpr ⟨?_, ?_⟩
        · exact fun later listed stored => absurd stored (none later listed)
        · exact pairwise_of_forall_mem_list fun _ _ later listed stored =>
            absurd stored (none later listed)
      · intro ordered other listed stored
        rcases mem_cons.mp listed with rfl | later
        · exact unknown stored
        · exact unknown ((pairwise_cons.mp ordered).1 other later stored)
    | some output =>
      have known : backend.Stores outputId := by simp [Stores, found]
      rw [releaseOutputIds_known found, forall_mem_cons, induction once]
      generalize left : { backend with
        outputState := backend.outputState.discard outputId.toNat } = later
      have same : ∀ other ∈ rest, later.Stores other ↔
          backend.Stores other := by
        intro other listed
        rw [← left]
        unfold Stores
        rw [lookup_discard, if_neg (apart other listed)]
      have gone : ¬ (releaseOutputIds rest later).1.Stores outputId := by
        unfold Stores
        rw [lookup_releaseOutputIds_of_other fun other listed => (apart other listed).symm, ← left,
          lookup_discard, if_pos rfl]
        simp
      rw [and_iff_right gone, StoredFirst, StoredFirst, pairwise_cons,
        and_iff_right fun _ _ _ => known]
      refine List.Pairwise.iff_of_mem ?_
      intro earlier later isEarlier isLater
      rw [same earlier isEarlier, same later isLater]

end VtRealBackend

namespace Shim

open VtRealBackend

@[simp] theorem ofCode?_handleRequest (opcode : Opcode) (handle : UInt64) :
    Opcode.ofCode? (handleRequest opcode handle).opcode = some opcode :=
  Opcode.ofCode?_code opcode

theorem handle_handleRequest (opcode : Opcode) (handle : UInt64) :
    (HandlePayload.read (handleRequest opcode handle).payload).handle =
      handle := by
  have read := u64At_append handle []
  rwa [append_nil] at read

theorem batch_releaseBatchRequest {outputIds : List UInt64}
    (fits : outputIds.length ≤ maxOutputBatch) :
    EncodeSide.batchIds (releaseBatchRequest outputIds).payload =
      outputIds := by
  have count : (ReleaseOutputBatchPayload.read
      (releaseBatchRequest outputIds).payload).outputCount.toNat =
        outputIds.length := by
    rw [ReleaseOutputBatchPayload.read, releaseBatchRequest, u32At_append, UInt32.toNat_ofNat']
    apply Nat.mod_eq_of_lt
    exact Nat.lt_of_le_of_lt fits (by decide)
  unfold EncodeSide.batchIds
  dsimp only
  rw [count, Nat.min_eq_left fits]
  apply ext_getElem
  · simp [ReleaseOutputBatchPayload.read, fits]
  · intro index _ inside
    have sized : ∀ outputId, (u64Bytes outputId).length = 8 :=
      fun outputId => length_encode 8 outputId.toNat
    obtain ⟨later, found⟩ := drop_records sized outputIds
      (replicate (8 * (maxOutputBatch - outputIds.length)) 0) index
      inside
    have read := u64At_append outputIds[index] later
    simp only [ReleaseOutputBatchPayload.read, getElem_take,
      getElem_map, getElem_range, releaseBatchRequest, u64At,
      u32Bytes]
    rw [word_skip _ _ _ (by omega), word_skip _ _ _ (by omega)]
    rw [u64At, ← found, word_drop] at read
    convert read using 3
    omega

/-- A client that defers releases, connected to its worker, with the setting of
`VT_FERRY_OUTPUT_RELEASE_BATCH_SIZE` and the outputs passed so far. -/
structure DeferringClient where
  caller : Caller Solo
  deferred : Deferred
  batchSize : Nat
  passed : List UInt64

inductive DeferringCall where
  | releaseOutput (outputId : UInt64)
  | flushDeferredOutputReleases
  | destroySession (sessionId : UInt64)
  deriving DecidableEq, Repr

namespace DeferringClient

def backend (client : DeferringClient) : VtRealBackend :=
  client.caller.transport.backend

/-- `std::mem::take` and `clear`. -/
def taken (client : DeferringClient) (caller : Caller Solo) :
    DeferringClient :=
  { client with
    caller := caller
    deferred := { client.deferred with outputIds := [] } }

def push (client : DeferringClient) (outputId : UInt64) : DeferringClient :=
  { client with
    deferred := { client.deferred with
      outputIds := client.deferred.outputIds ++ [outputId] }
    passed := client.passed ++ [outputId] }

variable (world : SoloWorld)

def flush (client : DeferringClient) : DeferringClient :=
  client.taken (releaseChunks world.serve
    (client.deferred.outputIds.toChunks maxOutputBatch) client.caller).1

def step (client : DeferringClient) : DeferringCall → DeferringClient
  | .releaseOutput outputId =>
    let pushed := client.push outputId
    if client.batchSize ≤ pushed.deferred.outputIds.length then
      pushed.flush world
    else pushed
  | .flushDeferredOutputReleases => client.flush world
  | .destroySession sessionId =>
    client.taken (destroySession world.serve client.deferred sessionId client.caller).1

/-- Each output is passed once, a list that is sent has its stored outputs
first, and a list that is dropped has no stored output of another live
session. -/
def Careful (client : DeferringClient) : DeferringCall → Prop
  | .releaseOutput outputId =>
    outputId ∉ client.passed ∧ (client.batchSize ≤ client.deferred.outputIds.length + 1 →
        client.backend.StoredFirst (client.deferred.outputIds ++ [outputId]))
  | .flushDeferredOutputReleases =>
    client.backend.StoredFirst client.deferred.outputIds
  | .destroySession sessionId =>
    if client.deferred.dropOnDestroy then
      ∀ outputId ∈ client.deferred.outputIds, ∀ output,
        client.backend.outputState.items.lookup outputId.toNat = some output →
          client.backend.sessions.lookup output.reply.sessionId ≠ none →
          output.reply.sessionId = sessionId.toNat ∧
            client.backend.decodeSessions.lookup sessionId.toNat = none
    else client.backend.StoredFirst client.deferred.outputIds

/-- The outputs that were passed are not stored, and no other output of the
worker `before` was released, as far as their sessions are alive. -/
structure Released (before : VtRealBackend) (client : DeferringClient) :
    Prop where
  passed : ∀ outputId ∈ client.passed, ∀ output,
    client.backend.outputState.items.lookup outputId.toNat = some output →
      client.backend.sessions.lookup output.reply.sessionId = none
  others : ∀ ticket output, before.outputState.items.lookup ticket = some output →
      ticket ∉ client.passed.map UInt64.toNat →
      client.backend.outputState.items.lookup ticket = some output ∨
        client.backend.sessions.lookup output.reply.sessionId = none

/-! ## Requests to the worker -/

variable {world} {client : DeferringClient}

theorem sendUnit_serve (request : Request) (caller : Caller Solo) :
    (sendUnit world.serve request caller).1.transport.backend =
        (world.served caller.transport request).backend ∧
      (sendUnit world.serve request caller).2 =
        if (world.served caller.transport request).status = Status.ok then
          .ok ()
        else .error (world.served caller.transport request).status.toInt32 := by
  refine ⟨rfl, ?_⟩
  unfold sendUnit sendRequestBytes SoloWorld.serve answer
  dsimp only
  split
  · rfl
  · rfl

theorem releaseOutputIds_status (outputIds : List UInt64) (backend : VtRealBackend) :
    (releaseOutputIds outputIds backend).2 = Status.ok ∨
      (releaseOutputIds outputIds backend).2 = Status.invalidHandle := by
  induction outputIds generalizing backend with
  | nil => exact Or.inl rfl
  | cons outputId rest induction =>
    cases found : backend.outputState.items.lookup outputId.toNat with
    | none =>
      rw [releaseOutputIds_unknown found]
      exact Or.inr rfl
    | some output =>
      rw [releaseOutputIds_known found]
      exact induction _

/-- A batch is the worker's loop over its ids. -/
theorem releaseOutputBatchNow_serve {outputIds : List UInt64}
    (few : outputIds.length ≤ maxOutputBatch) (caller : Caller Solo) :
    (releaseOutputBatchNow world.serve outputIds caller).1.transport.backend =
        (releaseOutputIds outputIds caller.transport.backend).1 ∧
      ((releaseOutputBatchNow world.serve outputIds caller).2 = .ok () ↔
        (releaseOutputIds outputIds caller.transport.backend).2 = Status.ok) := by
  have served : world.served caller.transport (releaseBatchRequest outputIds) =
        .plain (releaseOutputIds outputIds caller.transport.backend).1 caller.transport.surfaces
          (releaseOutputIds outputIds caller.transport.backend).2 := by
    have whole : ¬ (releaseBatchRequest outputIds).payload.length <
        ReleaseOutputBatchPayload.size := by
      have id_length : ∀ id, (u64Bytes id).length = 8 :=
        fun id => length_encode 8 id.toNat
      have word_length : ∀ word, (u32Bytes word).length = 4 :=
        fun word => length_encode 4 word.toNat
      simp only [releaseBatchRequest, ReleaseOutputBatchPayload.size,
        length_append, length_flatMap, id_length, word_length,
        map_const', sum_replicate_nat, length_replicate]
      omega
    have ids : take _ _ = outputIds := batch_releaseBatchRequest few
    have opcode : Opcode.ofCode? (releaseBatchRequest outputIds).opcode =
        some .releaseOutputBatch := Opcode.ofCode?_code .releaseOutputBatch
    unfold SoloWorld.served dispatch
    rw [opcode]
    dsimp only
    rw [releaseOutputBatch, if_neg whole]
    dsimp only
    rw [ids]
  obtain ⟨reached, answered⟩ := sendUnit_serve (releaseBatchRequest outputIds) caller
  rw [served] at reached answered
  unfold releaseOutputBatchNow
  split
  next empty =>
    obtain rfl := isEmpty_iff.mp empty
    exact ⟨rfl, by simp [releaseOutputIds]⟩
  · generalize sendUnit world.serve (releaseBatchRequest outputIds) caller =
      result at reached answered ⊢
    obtain ⟨after, outcome⟩ := result
    dsimp only at reached answered
    subst answered
    rcases releaseOutputIds_status outputIds caller.transport.backend with
      ok | unknown
    · simp only [Served.plain, ok, if_true]
      exact ⟨reached, by simp⟩
    · have failed : Status.invalidHandle ≠ Status.ok := by decide
      have other : Status.invalidHandle.toInt32 ≠
          Status.unsupportedOpcode.toInt32 := by decide
      simp only [Served.plain, unknown, if_neg failed, if_neg other]
      exact ⟨reached, by simp [failed]⟩

theorem releaseChunks_serve {chunks : List (List UInt64)}
    (few : ∀ chunk ∈ chunks, chunk.length ≤ maxOutputBatch)
    (caller : Caller Solo) :
    (releaseChunks world.serve chunks caller).1.transport.backend =
        (releaseOutputIds chunks.flatten caller.transport.backend).1 ∧
      ((releaseChunks world.serve chunks caller).2 = .ok () ↔
        (releaseOutputIds chunks.flatten caller.transport.backend).2 = Status.ok) := by
  induction chunks generalizing caller with
  | nil => exact ⟨rfl, by simp [releaseChunks, releaseOutputIds]⟩
  | cons chunk rest induction =>
    obtain ⟨reached, accepted⟩ := releaseOutputBatchNow_serve (few chunk mem_cons_self) caller
    have later := induction fun other listed =>
      few other (mem_cons_of_mem _ listed)
    rw [releaseChunks, flatten_cons, releaseOutputIds_append]
    generalize releaseOutputBatchNow world.serve chunk caller = result at reached accepted ⊢
    obtain ⟨after, outcome⟩ := result
    cases outcome with
    | ok _ =>
      rw [if_pos (accepted.mp rfl), ← reached]
      exact later after
    | error status =>
      rw [if_neg fun ok => by cases accepted.mpr ok]
      exact ⟨reached, accepted⟩

/-! ## What the worker loses -/

/-- Sessions and outputs only go away, and an output goes away with its session
or because it is among the released ones. -/
structure Loses (released : List UInt64) (before after : VtRealBackend) :
    Prop where
  sessions : ∀ id, before.sessions.lookup id = none → after.sessions.lookup id = none
  stored : ∀ ticket output, after.outputState.items.lookup ticket = some output →
      before.outputState.items.lookup ticket = some output
  lost : ∀ ticket output, before.outputState.items.lookup ticket = some output →
      after.outputState.items.lookup ticket = some output ∨
        after.sessions.lookup output.reply.sessionId = none ∨
        ticket ∈ released.map UInt64.toNat

theorem releaseOutputIds_loses (outputIds : List UInt64) (backend : VtRealBackend) :
    Loses outputIds backend (releaseOutputIds outputIds backend).1 := by
  obtain ⟨items, fewer, others, result⟩ :=
    releaseOutputIds_eq outputIds backend
  rw [result]
  refine ⟨fun _ none => none, fewer, ?_⟩
  intro ticket output found
  by_cases listed : ticket ∈ outputIds.map UInt64.toNat
  · exact Or.inr (Or.inr listed)
  · exact Or.inl ((others ticket listed).trans found)

theorem destroySession_loses (source : List UInt8) (backend : VtRealBackend) (surfaces : Surfaces) :
    Loses [] backend (VtRealBackend.destroySession source backend surfaces).backend := by
  have same : Loses [] backend backend :=
    ⟨fun _ none => none, fun _ _ found => found, fun _ _ => Or.inl⟩
  unfold VtRealBackend.destroySession
  split
  · exact same
  · dsimp only
    split
    · exact ⟨fun _ none => none, fun _ _ found => found, fun _ _ => Or.inl⟩
    split
    · exact same
    · refine ⟨?_, ?_, ?_⟩
      · intro id none
        apply (FiniteMap.lookup_erase_eq ..).trans
        split
        · rfl
        · exact none
      · exact fun _ _ found => FiniteMap.lookup_of_retain found
      · intro ticket output found
        by_cases own : output.reply.sessionId = (HandlePayload.read source).handle.toNat
        · apply Or.inr ∘ Or.inl
          exact (FiniteMap.lookup_erase_eq ..).trans (if_pos own)
        · left
          apply (FiniteMap.lookup_retain ..).trans
          rw [found, Option.filter_some, if_pos (by simpa using own)]

theorem destroySession_ends {source : List UInt8} {backend : VtRealBackend}
    {surfaces : Surfaces} (whole : ¬ source.length < HandlePayload.size)
    (encodes : backend.decodeSessions.lookup (HandlePayload.read source).handle.toNat = none) :
    (VtRealBackend.destroySession source backend surfaces).backend.sessions.lookup
        (HandlePayload.read source).handle.toNat = none := by
  unfold VtRealBackend.destroySession
  rw [if_neg whole]
  dsimp only
  rw [if_neg (by simp [encodes])]
  split
  next unknown => exact Option.isNone_iff_eq_none.mp unknown
  · exact (FiniteMap.lookup_erase_eq ..).trans (if_pos rfl)

/-! ## Whole runs -/

/-- What holds between the calls. -/
structure Keeps (before : VtRealBackend) (client : DeferringClient) :
    Prop where
  once : client.passed.Nodup
  listed : client.deferred.outputIds.Sublist client.passed
  passed : ∀ outputId ∈ client.passed, outputId ∈ client.deferred.outputIds ∨ ∀ output,
      client.backend.outputState.items.lookup outputId.toNat = some output →
        client.backend.sessions.lookup output.reply.sessionId = none
  others : ∀ ticket output, before.outputState.items.lookup ticket = some output →
      ticket ∉ client.passed.map UInt64.toNat →
      client.backend.outputState.items.lookup ticket = some output ∨
        client.backend.sessions.lookup output.reply.sessionId = none

variable {before : VtRealBackend}

/-- The list is emptied, and its outputs are gone or their sessions are. -/
theorem Keeps.taken {caller : Caller Solo} {released : List UInt64} (keeps : Keeps before client)
    (loses : Loses released client.backend caller.transport.backend)
    (known : ∀ outputId ∈ released, outputId ∈ client.passed)
    (gone : ∀ outputId ∈ client.deferred.outputIds, ∀ output,
      caller.transport.backend.outputState.items.lookup outputId.toNat = some output →
        caller.transport.backend.sessions.lookup output.reply.sessionId = none) :
    Keeps before (client.taken caller) where
  once := keeps.once
  listed := nil_sublist _
  passed outputId isPassed := by
    refine Or.inr fun output found => ?_
    rcases keeps.passed outputId isPassed with waiting | settled
    · exact gone outputId waiting output found
    · exact loses.sessions _ (settled output (loses.stored _ _ found))
  others ticket output found unpassed := by
    rcases keeps.others ticket output found unpassed with stored | dead
    · rcases loses.lost ticket output stored with still | dead | listed
      · exact Or.inl still
      · exact Or.inr dead
      · obtain ⟨outputId, member, rfl⟩ := mem_map.mp listed
        exact absurd (mem_map_of_mem (known outputId member)) unpassed
    · exact Or.inr (loses.sessions _ dead)

theorem releaseChunks_toChunks (outputIds : List UInt64) (caller : Caller Solo) :
    (releaseChunks world.serve (outputIds.toChunks maxOutputBatch) caller).1.transport.backend =
      (releaseOutputIds outputIds caller.transport.backend).1 := by
  have bounded : ∀ chunk ∈ outputIds.toChunks maxOutputBatch, chunk.length ≤ maxOutputBatch :=
    fun chunk listed => (bounded_of_mem_toChunks (by decide) listed).1
  rw [(releaseChunks_serve bounded caller).1, flatten_toChunks]

/-- A list with its stored outputs first can be sent. -/
theorem Keeps.flush (keeps : Keeps before client)
    (ordered : client.backend.StoredFirst client.deferred.outputIds) :
    Keeps before (client.flush world) := by
  have once := keeps.listed.nodup keeps.once
  have reached := @releaseChunks_toChunks world client.deferred.outputIds client.caller
  apply keeps.taken
  · rw [reached]
    exact releaseOutputIds_loses _ _
  · exact fun outputId listed => keeps.listed.subset listed
  · intro outputId listed output found
    rw [reached] at found
    refine absurd ?_ ((releaseOutputIds_releases_iff once).mpr ordered outputId listed)
    exact Option.isSome_of_eq_some found

/-- A session can be destroyed once no other live session has a stored output on
the list. -/
theorem Keeps.destroy (keeps : Keeps before client) {sessionId : UInt64}
    (own : ∀ outputId ∈ client.deferred.outputIds, ∀ output,
      client.backend.outputState.items.lookup outputId.toNat = some output →
        client.backend.sessions.lookup output.reply.sessionId ≠ none →
        output.reply.sessionId = sessionId.toNat ∧
          client.backend.decodeSessions.lookup sessionId.toNat = none) :
    Keeps before (client.taken (sendUnit world.serve
      (handleRequest .destroySession sessionId) client.caller).1) := by
  have handle := handle_handleRequest .destroySession sessionId
  have served : (sendUnit world.serve (handleRequest .destroySession sessionId)
        client.caller).1.transport.backend =
      (VtRealBackend.destroySession (handleRequest .destroySession sessionId).payload client.backend
        client.caller.transport.surfaces).backend := by
    rw [(sendUnit_serve _ _).1]
    unfold SoloWorld.served dispatch
    rw [ofCode?_handleRequest]
    rfl
  have loses := destroySession_loses
    (handleRequest .destroySession sessionId).payload client.backend
    client.caller.transport.surfaces
  rw [← served] at loses
  apply keeps.taken loses nofun
  intro outputId listed output found
  have stored := loses.stored _ _ found
  cases alive : client.backend.sessions.lookup output.reply.sessionId with
  | none => exact loses.sessions _ alive
  | some session =>
    obtain ⟨named, encodes⟩ := own outputId listed output stored (by simp [alive])
    rw [← handle] at named encodes
    rw [served, named]
    exact destroySession_ends (Nat.lt_irrefl 8) encodes

theorem Keeps.step (keeps : Keeps before client) {call : DeferringCall}
    (careful : client.Careful call) :
    Keeps before (client.step world call) := by
  cases call with
  | releaseOutput outputId =>
    obtain ⟨fresh, ordered⟩ := careful
    have pushed : Keeps before (client.push outputId) := by
      refine ⟨?_, keeps.listed.append (List.Sublist.refl _), ?_, ?_⟩
      · exact keeps.once.append (nodup_singleton _) (by simpa using fresh)
      · intro other listed
        rcases mem_append.mp listed with known | new
        · rcases keeps.passed other known with waiting | settled
          · exact Or.inl (mem_append_left _ waiting)
          · exact Or.inr settled
        · exact Or.inl (mem_append_right _ new)
      · intro ticket output found unpassed
        apply keeps.others ticket output found
        intro known
        apply unpassed
        rw [DeferringClient.push, map_append]
        exact mem_append_left _ known
    unfold DeferringClient.step
    dsimp only
    split
    next full =>
      apply pushed.flush
      apply ordered
      simpa [DeferringClient.push] using full
    · exact pushed
  | flushDeferredOutputReleases => exact keeps.flush careful
  | destroySession sessionId =>
    dsimp only [Careful] at careful
    dsimp only [DeferringClient.step, Shim.destroySession]
    split
    next dropped =>
      rw [if_pos dropped] at careful
      exact keeps.destroy careful
    next sent =>
      rw [if_neg sent] at careful
      have flushed := @Keeps.flush world client before keeps careful
      unfold DeferringClient.flush at flushed
      generalize releaseChunks world.serve (client.deferred.outputIds.toChunks maxOutputBatch)
        client.caller = result at flushed ⊢
      obtain ⟨caller, outcome⟩ := result
      cases outcome with
      | error status => exact flushed
      | ok _ => exact @Keeps.destroy world _ before flushed sessionId nofun

end DeferringClient

open DeferringClient

theorem deferred_releases_kept (world : SoloWorld) (start : DeferringClient)
    (fresh : start.passed = []) (empty : start.deferred.outputIds = [])
    (calls : List DeferringCall)
    (careful : Execution.Obeys (step world) Careful start
      (calls ++ [.flushDeferredOutputReleases])) :
    Released start.backend (Execution.run (step world) start
      (calls ++ [.flushDeferredOutputReleases])) := by
  have initially : Keeps start.backend start := by
    refine ⟨?_, ?_, ?_, fun _ _ found _ => Or.inl found⟩
    · simp [fresh]
    · simp [fresh, empty]
    · simp [fresh]
  have kept := Execution.invariant_of_obeys
    (fun _ _ keeps allowed => keeps.step allowed) initially careful
  rw [Execution.run_append] at kept ⊢
  refine ⟨?_, kept.others⟩
  intro outputId passed
  rcases kept.passed outputId passed with waiting | settled
  · cases waiting
  · exact settled

def storedOutput (sessionId outputId : Nat) : VtRealOutput where
  reply := ⟨sessionId, outputId, 1, 64, 64, 1, ⟨0, 1, 0, 1⟩, 1, 0, 4, [], []⟩
  sourceBufferId := 1
  sourceBufferGeneration := 1
  storage := [0]

def twoSessions (dropOnDestroy : Bool) : DeferringClient where
  caller :=
    { transport := ⟨{ VtRealBackend.fresh with
        sessions := (∅ : FiniteMap Nat VtRealSession)
          |>.insert 1 ⟨⟨1, 1, 1, 64, 64⟩, true⟩
          |>.insert 2 ⟨⟨2, 1, 1, 64, 64⟩, true⟩
        outputState := { OutputQueue.new with
          items := (∅ : FiniteMap Nat VtRealOutput)
            |>.insert 50000 (storedOutput 1 50000)
            |>.insert 50001 (storedOutput 2 50001) } },
        noSurfaces, 0⟩
      sent := [] }
  deferred := { outputIds := [], dropOnDestroy := dropOnDestroy }
  batchSize := 24
  passed := []

theorem two_releases_kept :
    Released (twoSessions false).backend (Execution.run (step willingWorld) (twoSessions false)
        ([.releaseOutput 50001, .releaseOutput 50000, .destroySession 1] ++
          [.flushDeferredOutputReleases])) := by
  apply deferred_releases_kept willingWorld (twoSessions false) rfl rfl
  refine ⟨?_, ?_, ?_, ?_, trivial⟩
  all_goals
    simp only [Careful, StoredFirst, Stores]
    decide +kernel

/-- The output of the live session 2 stays stored: its id is listed after that of
an output which went with session 1, or the list is dropped with session 1. -/
theorem releases_of_live_session_lost :
    ¬ Released (twoSessions false).backend (Execution.run (step willingWorld) (twoSessions false)
          ([.destroySession 1, .releaseOutput 50000, .releaseOutput 50001] ++
            [.flushDeferredOutputReleases])) ∧
      ¬ Released (twoSessions true).backend (Execution.run (step willingWorld) (twoSessions true)
          ([.releaseOutput 50001, .destroySession 1] ++ [.flushDeferredOutputReleases])) := by
  constructor
  all_goals
    intro released
    have ended := released.passed 50001 (by decide +kernel)
      (storedOutput 2 50001) (by decide +kernel)
    revert ended
    decide +kernel

end Shim

end VtFerry
