import VtFerry.Worker.ConnectionMoves

/-!
# Who holds which surface

Every event of the worker process is a transfer of directory entries among the
owners of one connection, so over all connections ownership stays exclusive in
every interleaving, and every claimed entry has an owner unless a
`CREATE_BUFFER_POOL` failed after it claimed one.
-/

namespace VtFerry

namespace WorkerProcess

def Holds (process : WorkerProcess) (id : Nat) (claimant : Claimant) (entryId : Nat) : Prop :=
  ∃ connection, process.connections.lookup id = some connection ∧ connection.Holds claimant entryId

/-- Entries change hands as `Transfer` allows. -/
def Transfers (leaks : Prop) (process next : WorkerProcess) : Prop :=
  Transfer leaks (fun owner : Nat × Claimant => process.Holds owner.1 owner.2)
    (fun owner : Nat × Claimant => next.Holds owner.1 owner.2)
    process.surfaces.directory.Claimed next.surfaces.directory.Claimed

/-! ## Steps of the process -/

structure Numbered (process : WorkerProcess) : Prop where
  connections : ∀ id connection, process.connections.lookup id = some connection →
      id < process.nextConnection
  pools : ∀ id connection, process.connections.lookup id = some connection →
      connection.backend.PoolsNumbered

variable {process next : WorkerProcess} {id : Nat}
variable {connection after : Connection}

theorem Numbered.update (numbered : process.Numbered)
    (found : process.connections.lookup id = some connection)
    (connections : next.connections = process.connections.insert id after)
    (nextConnection : next.nextConnection = process.nextConnection)
    (pools : after.backend.PoolsNumbered) : next.Numbered := by
  constructor
  · intro other opened lookup
    rw [connections, FiniteMap.lookup_insert_eq] at lookup
    rw [nextConnection]
    split at lookup
    next same =>
      rw [same]
      exact numbered.connections id connection found
    · exact numbered.connections other opened lookup
  · intro other opened lookup
    rw [connections, FiniteMap.lookup_insert_eq] at lookup
    split at lookup
    · cases lookup
      exact pools
    · exact numbered.pools other opened lookup

theorem holds_of_lookup (found : process.connections.lookup id = some connection) :
    process.Holds id = connection.Holds := by
  funext claimant entryId
  simp [Holds, found]

variable {leaks : Prop}

theorem transfers_of_connection (found : process.connections.lookup id = some connection)
    (connections : next.connections = process.connections.insert id after)
    (transfer : Transfer leaks connection.Holds after.Holds
      process.surfaces.directory.Claimed next.surfaces.directory.Claimed) :
    process.Transfers leaks next := by
  have foundAfter : next.connections.lookup id = some after := by
    rw [connections, FiniteMap.lookup_insert_eq, if_pos rfl]
  refine Transfer.ofParty id ?_ ?_
  · intro other different
    funext claimant entryId
    simp [Holds, connections, different]
  · rw [holds_of_lookup found, holds_of_lookup foundAfter]
    exact transfer

theorem transfers_refl (leaks : Prop) (process : WorkerProcess) :
    process.Transfers leaks process :=
  .keep (fun _ _ => Iff.rfl) (fun _ => Iff.rfl)

/-- The step leaves the numbering sound and is a transfer of entries. -/
def Accounts (leaks : Prop) (process next : WorkerProcess) : Prop :=
  next.Numbered ∧ process.Transfers leaks next

theorem Numbered.accounts_self (numbered : process.Numbered) (leaks : Prop) :
    process.Accounts leaks process :=
  ⟨numbered, transfers_refl leaks process⟩

theorem Numbered.accounts (numbered : process.Numbered)
    (found : process.connections.lookup id = some connection)
    (after : Connection)
    (connections : next.connections = process.connections.insert id after)
    (nextConnection : next.nextConnection = process.nextConnection)
    (pools : after.backend.PoolsNumbered)
    (transfer : Transfer leaks connection.Holds after.Holds
      process.surfaces.directory.Claimed next.surfaces.directory.Claimed) :
    process.Accounts leaks next :=
  ⟨numbered.update found connections nextConnection pools,
    transfers_of_connection found connections transfer⟩

theorem connect_accounts (numbered : process.Numbered) :
    process.Accounts leaks (process.step .connect) := by
  have absent : ∀ connection, ¬ process.connections.lookup
      process.nextConnection = some connection := by
    intro connection found
    exact Nat.lt_irrefl _ (numbered.connections _ connection found)
  refine ⟨⟨?_, ?_⟩, .keep ?_ (fun _ => Iff.rfl)⟩
  · intro other opened lookup
    simp only [step, setConnection, FiniteMap.lookup_insert_eq] at lookup ⊢
    split at lookup
    · omega
    · have below := numbered.connections other opened lookup
      omega
  · intro other opened lookup
    simp only [step, setConnection, FiniteMap.lookup_insert_eq] at lookup
    split at lookup
    · cases lookup
      intro poolId pool found
      cases found
    · exact numbered.pools other opened lookup
  · rintro ⟨other, claimant⟩ entryId
    simp only [step, Holds, setConnection, FiniteMap.lookup_insert_eq]
    by_cases same : other = process.nextConnection
    · subst same
      simp only [if_pos, absent, false_and, exists_false, iff_false]
      rintro ⟨connection, lookup, held⟩
      cases lookup
      cases claimant with
      | pool poolId =>
        obtain ⟨⟨pool, found, _⟩, _⟩ := held
        cases found
      | request => cases held
    · simp [same]

/-- The pool of a claimed entry cannot be built. -/
def BuildFails (host : HostCalls) (connection : Connection) : Prop :=
  ∃ payload entryId pool, connection.work = .building payload entryId pool ∧
      ¬ VtRealBackend.PoolBuilds host payload pool

/-- The event serves a `CREATE_BUFFER_POOL`, or the rest of one, that has
claimed an entry and cannot build its pool. -/
def Leaks (process : WorkerProcess) : WorkerEvent → Prop
  | .request id host request _ =>
    ∃ connection, process.connections.lookup id = some connection ∧ connection.work = .idle ∧
      connection.Leaks host request process.surfaces
  | .buildPool id host =>
    ∃ connection, process.connections.lookup id = some connection ∧ BuildFails host connection
  | _ => False

theorem request_accounts (numbered : process.Numbered)
    {host : HostCalls} {request : Request} {response : List UInt8}
    (found : process.connections.lookup id = some connection)
    (idle : connection.work = .idle) :
    process.Accounts (process.Leaks (.request id host request response))
      (process.afterServing id connection
        (connection.backend.dispatch host request response process.surfaces)) := by
  have pools := numbered.pools id connection found
  have transfer := Connection.dispatch_transfer host request response process.surfaces idle pools
  unfold afterServing
  refine numbered.accounts found
    { connection with
      backend := (connection.backend.dispatch host request response
        process.surfaces).backend } ?_ ?_ ?_ ?_
  · simp [setConnection]
  · simp [setConnection]
  · exact (VtRealBackend.dispatch_effect ..).poolsNumbered pools
  · rw [launch_surfaces]
    exact transfer.mono fun leaks => ⟨connection, found, idle, leaks⟩

variable {directory : IOSurfacePoolDirectory}

theorem claimEntry_transfer {shape : PoolShape} {entryId : Nat} {pool : IOSurfacePool}
    {payload : CreateBufferPoolPayload} {taken : IOSurfacePoolDirectory}
    (idle : connection.work = .idle)
    (takes : directory.takeMatching shape = (some (entryId, pool), taken)) :
    Transfer leaks connection.Holds
      { connection with
        work := .building payload entryId pool : Connection }.Holds
      directory.Claimed taken.Claimed := by
  rcases directory.takeMatching_cases shape with
    ⟨_, missed⟩ | ⟨id, entry, _, present, unclaimed, _, found⟩
  · cases missed.symm.trans takes
  · cases found.symm.trans takes
    refine .claim .request entryId ?_ ?_ ?_
    · exact IOSurfacePoolDirectory.not_claimed_of_unclaimed present unclaimed
    · intro claimant other
      cases claimant with
      | pool poolId => simp [Connection.Holds, idle, PoolWork.swept]
      | request => simp [Connection.Holds, idle, PoolWork.entries]
    · intro other
      exact IOSurfacePoolDirectory.claimed_setClaimed_true (List.getElem?_eq_some_iff.1 present).1

theorem buildPool_transfer {host : HostCalls}
    {payload : CreateBufferPoolPayload} {entryId : Nat} {pool : IOSurfacePool}
    {built : VtRealBackend × UInt32 × ReplyBody} {claimed : Nat → Prop}
    (work : connection.work = .building payload entryId pool)
    (pools : connection.backend.PoolsNumbered)
    (build : VtRealBackend.PoolBuild host payload entryId pool connection.backend built) :
    Transfer (BuildFails host connection) connection.Holds
      { connection with backend := built.1, work := .idle : Connection }.Holds
      claimed claimed := by
  cases build with
  | refused _ blocked
  | abandoned _ blocked _ =>
    refine .forget ⟨payload, entryId, pool, work, blocked⟩ ?_ (fun _ claimed => claimed)
    intro claimant other held
    cases claimant with
    | pool poolId => exact ⟨held.1, by simp [work, PoolWork.swept]⟩
    | request => cases held
  | built _ _ =>
    refine .handOver .request (.pool connection.backend.nextHostId) ?_ (fun _ => Iff.rfl)
    intro claimant other
    cases claimant with
    | pool poolId =>
      simp only [Connection.Holds, work, PoolWork.swept, PoolWork.entries]
      rw [VtRealBackend.poolHolds_insert pools _ _ rfl]
      simp
    | request => simp [Connection.Holds, PoolWork.entries]

theorem ConnectionMove.transfers {event : WorkerEvent}
    (move : ConnectionMove process id connection event after)
    (within : event.isLocal = true)
    (found : process.connections.lookup id = some connection)
    (pools : connection.backend.PoolsNumbered) :
    after.backend.PoolsNumbered ∧ Transfer (process.Leaks event) connection.Holds after.Holds
        process.surfaces.directory.Claimed
        process.surfaces.directory.Claimed := by
  cases move with
  | request | claimEntry | releaseDetached | releaseSession
  | encoderCallback => cases within
  | @buildPool host payload entryId pool building =>
    have outcome := VtRealBackend.buildPool_cases host payload entryId pool connection.backend
    exact ⟨pools.build outcome, (buildPool_transfer building pools outcome).mono
        fun fails => ⟨connection, found, fails⟩⟩
  | @detachPool source _ idle =>
    refine ⟨pools.removePools _, .handOver
      (.pool (HandlePayload.read source).handle.toNat) .request ?_
      (fun _ => Iff.rfl)⟩
    intro claimant entryId
    cases claimant with
    | pool poolId =>
      simp [Connection.Holds, idle, PoolWork.swept, VtRealBackend.poolHolds_removePools]
    | request =>
      simp [Connection.Holds, idle, PoolWork.swept, PoolWork.entries,
        VtRealBackend.mem_entriesOf, VtRealBackend.PoolHolds]
  | sweepPools sweeping =>
    refine ⟨pools.removePools _, .keep ?_ (fun _ => Iff.rfl)⟩
    intro claimant entryId
    cases claimant with
    | pool poolId =>
      simp [Connection.Holds, sweeping, PoolWork.swept,
        VtRealBackend.poolHolds_removePools, and_comm]
    | request => simp [Connection.Holds, sweeping, PoolWork.entries]
  | _ => exact ⟨pools, Connection.transfer_of_same_pools rfl rfl⟩

theorem releaseDetached_transfer {entryIds : List Nat}
    (work : connection.work = .releasing entryIds) :
    Transfer leaks connection.Holds
      { connection with work := .idle : Connection }.Holds directory.Claimed
      (directory.releaseEntries entryIds).Claimed := by
  refine .release (· = .request) ?_ ?_
  · intro claimant entryId
    cases claimant with
    | pool poolId => simp [Connection.Holds, work, PoolWork.swept]
    | request => simp [Connection.Holds, PoolWork.entries]
  · intro entryId
    simp [Connection.Holds, work, PoolWork.entries, IOSurfacePoolDirectory.claimed_releaseEntries]

/-- The pools of the session stop holding their entries when these are
released, although they are removed only afterwards. -/
theorem releaseSession_transfer {backend : VtRealBackend} {poolIds : List Nat}
    (idle : connection.work = .idle) (pools : backend.pools = connection.backend.pools) :
    Transfer leaks connection.Holds
      { connection with
        backend := backend, work := .sweeping poolIds : Connection }.Holds
      directory.Claimed
      (directory.releaseEntries (backend.entriesOf poolIds)).Claimed := by
  refine .release (fun claimant => ∃ poolId ∈ poolIds, claimant = .pool poolId) ?_ ?_
  · intro claimant entryId
    cases claimant with
    | pool poolId =>
      simp [Connection.Holds, VtRealBackend.PoolHolds, idle, PoolWork.swept, pools, and_comm]
    | request => simp [Connection.Holds, idle, PoolWork.entries]
  · intro entryId
    rw [IOSurfacePoolDirectory.claimed_releaseEntries,
      Connection.mem_entriesOf_iff_holds idle pools]

theorem disconnect_accounts (numbered : process.Numbered)
    (found : process.connections.lookup id = some connection)
    (idle : connection.work = .idle) :
    process.Accounts leaks (process.disconnect id connection) := by
  refine ⟨⟨?_, ?_⟩, .release (fun owner => owner.1 = id) ?_ ?_⟩
  · intro other opened lookup
    rw [disconnect, FiniteMap.lookup_erase_eq] at lookup
    split at lookup
    · cases lookup
    · exact numbered.connections other opened lookup
  · intro other opened lookup
    rw [disconnect, FiniteMap.lookup_erase_eq] at lookup
    split at lookup
    · cases lookup
    · exact numbered.pools other opened lookup
  · rintro ⟨other, claimant⟩ entryId
    simp only [Holds, disconnect, FiniteMap.lookup_erase_eq]
    by_cases same : other = id
    · simp [same]
    · simp [same]
  · intro entryId
    have given : entryId ∈ connection.backend.allEntries ↔ ∃ owner : Nat × Claimant, owner.1 = id ∧
          process.Holds owner.1 owner.2 entryId := by
      rw [VtRealBackend.mem_allEntries]
      constructor
      · rintro ⟨poolId, pool, lookup, entry⟩
        refine ⟨(id, .pool poolId), rfl, connection, found, ?_, ?_⟩
        · exact ⟨pool, lookup, entry⟩
        · simp [idle, PoolWork.swept]
      · rintro ⟨⟨_, claimant⟩, rfl, held⟩
        rw [holds_of_lookup found] at held
        cases claimant with
        | pool poolId =>
          obtain ⟨⟨pool, lookup, entry⟩, _⟩ := held
          exact ⟨poolId, pool, lookup, entry⟩
        | request =>
          rw [Connection.Holds, idle] at held
          cases held
    rw [← given]
    exact IOSurfacePoolDirectory.claimed_releaseEntries

theorem Moves.accounts {event : WorkerEvent} (numbered : process.Numbered)
    (moves : process.Moves event next) :
    process.Accounts (process.Leaks event) next := by
  cases moves with
  | still => exact numbered.accounts_self _
  | connects => exact connect_accounts numbered
  | serves found idle => exact request_accounts numbered found idle
  | claims found idle _ taken =>
    have pools := numbered.pools _ _ found
    exact numbered.accounts found _ rfl rfl pools (claimEntry_transfer idle taken)
  | sets within found move =>
    obtain ⟨pools, transfer⟩ := move.transfers within found (numbered.pools _ _ found)
    exact numbered.accounts found _ rfl rfl pools transfer
  | releases found releasing =>
    have pools := numbered.pools _ _ found
    exact numbered.accounts found _ rfl rfl pools (releaseDetached_transfer releasing)
  | sweeps _ found idle _ =>
    have pools := numbered.pools _ _ found
    exact numbered.accounts found _ rfl rfl pools (releaseSession_transfer idle rfl)
  | lands => exact ⟨⟨numbered.connections, numbered.pools⟩, transfers_refl _ process⟩
  | takesOver _ found =>
    have pools := numbered.pools _ _ found
    exact numbered.accounts found _ rfl rfl pools (Connection.transfer_of_same_pools rfl rfl)
  | disconnects found idle => exact disconnect_accounts numbered found idle

theorem step_accounts (numbered : process.Numbered) (event : WorkerEvent) :
    process.Accounts (process.Leaks event) (process.step event) :=
  (process.step_moves event).accounts numbered

/-! ## Whole executions -/

/-- Ids are sound and no two owners share an entry. -/
structure Owned (process : WorkerProcess) : Prop where
  numbered : process.Numbered
  exclusive : Exclusive (fun owner : Nat × Claimant => process.Holds owner.1 owner.2)
    process.surfaces.directory.Claimed

theorem not_holds_started (surfaces : Surfaces) (id : Nat) (claimant : Claimant) (entryId : Nat) :
    ¬ (started surfaces).Holds id claimant entryId := by
  rintro ⟨connection, found, _⟩
  cases found

theorem started_numbered (surfaces : Surfaces) : (started surfaces).Numbered := by
  constructor
  · intro id connection found
    cases found
  · intro id connection found
    cases found

theorem started_owned (surfaces : Surfaces) : (started surfaces).Owned := by
  refine ⟨started_numbered surfaces, ⟨?_, ?_⟩⟩
  · intro owner entryId held
    exact absurd held (not_holds_started surfaces _ _ _)
  · intro owner other entryId held _
    exact absurd held (not_holds_started surfaces _ _ _)

theorem Owned.step (owned : process.Owned) (event : WorkerEvent) : (process.step event).Owned := by
  obtain ⟨numbered, transfers⟩ := step_accounts owned.numbered event
  exact ⟨numbered, transfers.exclusive owned.exclusive⟩

theorem run_owned (surfaces : Surfaces) (events : List WorkerEvent) :
    (Execution.run step (started surfaces) events).Owned :=
  Execution.invariant_of_step (fun _ event owned => owned.step event)
    (started_owned surfaces) events

/-- The entry is held by a pool of an open connection.  A pool whose entry
`DESTROY_SESSION` has released, and that is about to be removed, is not
counted. -/
def LivePool (process : WorkerProcess) (id poolId entryId : Nat) : Prop :=
  process.Holds id (.pool poolId) entryId

/-- In every interleaving, no two live pools hold the same entry, an entry held
by a live pool is claimed, and an event that unclaims an entry takes it from
its only owner. -/
theorem surfaces_exclusively_owned (surfaces : Surfaces) (events : List WorkerEvent) :
    let process := Execution.run WorkerProcess.step (started surfaces) events
    (∀ id poolId other otherPool entryId, process.LivePool id poolId entryId →
      process.LivePool other otherPool entryId →
      id = other ∧ poolId = otherPool) ∧
    (∀ id poolId entryId, process.LivePool id poolId entryId →
      process.surfaces.directory.Claimed entryId) ∧
    (∀ event entryId, process.surfaces.directory.Claimed entryId →
      ¬ (process.step event).surfaces.directory.Claimed entryId →
      ∃ id claimant, process.Holds id claimant entryId ∧
        ¬ (process.step event).Holds id claimant entryId ∧
        ∀ other poolId, process.LivePool other poolId entryId →
          other = id ∧ Claimant.pool poolId = claimant) := by
  intro process
  have owned : process.Owned := run_owned surfaces events
  refine ⟨?_, ?_, ?_⟩
  · intro id poolId other otherPool entryId held alsoHeld
    have same := owned.exclusive.owner_unique (id, .pool poolId)
      (other, .pool otherPool) entryId held alsoHeld
    cases same
    exact ⟨rfl, rfl⟩
  · intro id poolId entryId held
    exact owned.exclusive.claimed_of_holds (id, .pool poolId) entryId held
  · intro event entryId before after
    obtain ⟨_, transfers⟩ := step_accounts owned.numbered event
    obtain ⟨⟨id, claimant⟩, held, gone⟩ :=
      transfers.released_by_owner before after
    refine ⟨id, claimant, held, gone, ?_⟩
    intro other poolId alsoHeld
    have same := owned.exclusive.owner_unique (other, .pool poolId)
      (id, claimant) entryId alsoHeld held
    cases same
    exact ⟨rfl, rfl⟩

end WorkerProcess

end VtFerry
