import VtFerry.Foundation.Ownership
import VtFerry.Worker.Process
import VtFerry.Worker.VtReal.Effects

/-!
# Directory entries change hands within a connection

The owners of directory entries are the live pools of a connection and the
pool request it is serving.  A request is a transfer of entries among them:
`CREATE_BUFFER_POOL` claims an entry, the requests that destroy pools release
entries, and the others leave entries where they are.  Only a
`CREATE_BUFFER_POOL` that fails after it claimed an entry leaks the claim.
-/

namespace VtFerry

/-- The entries a pool request has on its hands. -/
def PoolWork.entries : PoolWork → List Nat
  | .building _ entryId _ => [entryId]
  | .releasing entryIds => entryIds
  | _ => []

/-- The pools whose entries are released and that are about to be removed. -/
def PoolWork.swept : PoolWork → List Nat
  | .sweeping poolIds => poolIds
  | _ => []

/-- An owner of directory entries within one connection. -/
inductive Claimant where
  | pool (poolId : Nat)
  | request
  deriving DecidableEq, Repr

/-- The pool is in the backend's map and has the entry. -/
def VtRealBackend.PoolHolds (backend : VtRealBackend) (poolId entryId : Nat) : Prop :=
  ∃ pool, backend.pools.lookup poolId = some pool ∧ pool.iosurfaceEntryId = some entryId

def VtRealBackend.PoolsNumbered (backend : VtRealBackend) : Prop :=
  ∀ poolId pool, backend.pools.lookup poolId = some pool → poolId < backend.nextHostId

def Connection.Holds (connection : Connection) : Claimant → Nat → Prop
  | .pool poolId => fun entryId =>
    connection.backend.PoolHolds poolId entryId ∧ poolId ∉ connection.work.swept
  | .request => fun entryId => entryId ∈ connection.work.entries

/-! ## Requests served as a whole -/

namespace VtRealBackend

/-- The request claims an entry and then cannot build its pool. -/
def LeaksEntry (host : HostCalls) (source : List UInt8)
    (backend : VtRealBackend) (directory : IOSurfacePoolDirectory) : Prop :=
  ReachesDirectory source backend ∧ ∃ entryId entry,
      directory.firstMatch (poolShape (CreateBufferPoolPayload.read source)) = some entryId ∧
      directory.entries[entryId]? = some entry ∧
      ¬ PoolBuilds host (CreateBufferPoolPayload.read source) entry.pool

variable {host : HostCalls} {source response : List UInt8}
variable {backend : VtRealBackend} {surfaces : Surfaces}
variable {entryId : Nat}

theorem poolHolds_insert {poolId : Nat} {pool : VtRealPool} (numbered : backend.PoolsNumbered)
    (next : Nat) (buffers : FiniteMap Nat VtRealBuffer)
    (entry : pool.iosurfaceEntryId = some entryId) (other : Nat) :
    ({ backend with
        nextHostId := next
        buffers := buffers
        pools := backend.pools.insert backend.nextHostId pool } :
      VtRealBackend).PoolHolds poolId other ↔
      backend.PoolHolds poolId other ∨ poolId = backend.nextHostId ∧ other = entryId := by
  simp only [PoolHolds, FiniteMap.lookup_insert_eq]
  by_cases same : poolId = backend.nextHostId
  · have absent : ∀ pool, ¬ backend.pools.lookup backend.nextHostId = some pool := by
      intro pool found
      exact Nat.lt_irrefl _ (numbered backend.nextHostId pool found)
    subst same
    simp [absent, entry, eq_comm]
  · simp [same]

theorem PoolsNumbered.of_fewer {later : VtRealBackend} (numbered : backend.PoolsNumbered)
    (fewer : ∀ poolId pool, later.pools.lookup poolId = some pool →
      backend.pools.lookup poolId = some pool)
    (nextHostId : backend.nextHostId ≤ later.nextHostId) :
    later.PoolsNumbered := by
  intro poolId pool found
  exact Nat.lt_of_lt_of_le (numbered poolId pool (fewer poolId pool found)) nextHostId

theorem PoolsNumbered.removePools (numbered : backend.PoolsNumbered)
    (poolIds : List Nat) : (backend.removePools poolIds).PoolsNumbered := by
  refine numbered.of_fewer ?_ (Nat.le_refl _)
  intro poolId pool found
  rw [lookup_pools_removePools] at found
  split at found
  · cases found
  · exact found

theorem PoolsNumbered.build {payload : CreateBufferPoolPayload} {pool : IOSurfacePool}
    {built : VtRealBackend × UInt32 × ReplyBody} (numbered : backend.PoolsNumbered)
    (build : PoolBuild host payload entryId pool backend built) :
    built.1.PoolsNumbered := by
  cases build with
  | refused _ _ => exact numbered
  | abandoned _ _ _ =>
    exact numbered.of_fewer (fun _ _ found => found) (by dsimp only; omega)
  | built _ _ _ =>
    intro poolId built found
    dsimp only at found ⊢
    rw [FiniteMap.lookup_insert_eq] at found
    split at found
    · omega
    · have below := numbered poolId built found
      omega

theorem Effect.poolsNumbered {opcode : Option Opcode} {served : Served}
    (effect : Effect host source backend surfaces opcode served)
    (numbered : backend.PoolsNumbered) : served.backend.PoolsNumbered := by
  have next_le := effect.next_le
  cases effect with
  | entryClaimed _ _ _ _ build => exact numbered.build build
  | encodeDestroyed _ _ _ =>
    apply PoolsNumbered.removePools
    exact numbered
  | poolDestroyed _ => exact numbered.removePools _
  | decodedDequeued dequeue =>
    cases dequeue with
    | _ => exact numbered
  | _ => exact numbered.of_fewer (fun _ _ found => found) next_le

theorem poolHolds_removePools {poolIds : List Nat} {poolId : Nat} :
    (backend.removePools poolIds).PoolHolds poolId entryId ↔
      poolId ∉ poolIds ∧ backend.PoolHolds poolId entryId := by
  simp only [PoolHolds, lookup_pools_removePools]
  by_cases removed : poolId ∈ poolIds
  · simp [removed]
  · simp [removed]

end VtRealBackend

namespace Connection

variable {connection : Connection} {surfaces later : Surfaces}
variable {leaks : Prop}
variable {backend : VtRealBackend}

theorem transfer_of_same_pools (pools : backend.pools = connection.backend.pools)
    (directory : later.directory = surfaces.directory) :
    Transfer leaks connection.Holds
      { connection with backend := backend : Connection }.Holds
      surfaces.directory.Claimed later.directory.Claimed := by
  refine .keep ?_ ?_
  · intro claimant entryId
    cases claimant with
    | pool poolId => simp only [Holds, VtRealBackend.PoolHolds, pools]
    | request => exact Iff.rfl
  · intro entryId
    rw [directory]

theorem transfer_of_claimed {host : HostCalls} {source : List UInt8} {entry : DirectoryEntry}
    {built : VtRealBackend × UInt32 × ReplyBody} (idle : connection.work = .idle)
    (numbered : connection.backend.PoolsNumbered)
    (reaches : VtRealBackend.ReachesDirectory source connection.backend)
    (matched : surfaces.directory.firstMatch
      (VtRealBackend.poolShape (CreateBufferPoolPayload.read source)) = some entryId)
    (present : surfaces.directory.entries[entryId]? = some entry)
    (unclaimed : entry.claimed = false)
    (build : VtRealBackend.PoolBuild host (CreateBufferPoolPayload.read source)
      entryId entry.pool connection.backend built) :
    Transfer (VtRealBackend.LeaksEntry host source connection.backend surfaces.directory)
      connection.Holds { connection with backend := built.1 : Connection }.Holds
      surfaces.directory.Claimed
      (surfaces.directory.setClaimed entryId true).Claimed := by
  have inRange : entryId < surfaces.directory.entries.length :=
    (List.getElem?_eq_some_iff.1 present).1
  have free : ¬ surfaces.directory.Claimed entryId :=
    IOSurfacePoolDirectory.not_claimed_of_unclaimed present unclaimed
  have claims : ∀ other, (surfaces.directory.setClaimed entryId true).Claimed other ↔
        other = entryId ∨ surfaces.directory.Claimed other := by
    intro other
    exact IOSurfacePoolDirectory.claimed_setClaimed_true inRange
  have lost : ¬ VtRealBackend.PoolBuilds host (CreateBufferPoolPayload.read source) entry.pool →
      VtRealBackend.LeaksEntry host source connection.backend
        surfaces.directory := by
    intro blocked
    exact ⟨reaches, entryId, entry, matched, present, blocked⟩
  cases build with
  | refused _ blocked | abandoned _ blocked _ =>
    refine .forget (lost blocked) ?_ ?_
    · intro claimant other held
      cases claimant <;> exact held
    · intro other claimed
      exact (claims other).2 (Or.inr claimed)
  | built _ _ _ =>
    refine .claim (.pool connection.backend.nextHostId) entryId free ?_ claims
    intro claimant other
    cases claimant with
    | pool poolId =>
      simp only [Holds, idle, PoolWork.swept]
      rw [VtRealBackend.poolHolds_insert numbered _ _ rfl]
      simp
    | request => simp [Holds, idle, PoolWork.entries]

theorem mem_entriesOf_iff_holds (idle : connection.work = .idle)
    (pools : backend.pools = connection.backend.pools) {poolIds : List Nat} :
    entryId ∈ backend.entriesOf poolIds ↔
      ∃ giver : Claimant, (∃ poolId ∈ poolIds, giver = .pool poolId) ∧
        connection.Holds giver entryId := by
  rw [VtRealBackend.mem_entriesOf, pools]
  constructor
  · rintro ⟨poolId, member, holds⟩
    refine ⟨.pool poolId, ⟨poolId, member, rfl⟩, holds, ?_⟩
    simp [idle, PoolWork.swept]
  · rintro ⟨_, ⟨poolId, member, rfl⟩, holds, _⟩
    exact ⟨poolId, member, holds⟩

/-- Removing pools and releasing their entries, whatever else the request does
to the backend. -/
theorem transfer_of_removed_pools (idle : connection.work = .idle)
    (pools : backend.pools = connection.backend.pools) (poolIds : List Nat)
    (directory : later.directory = surfaces.directory.releaseEntries (backend.entriesOf poolIds)) :
    Transfer leaks connection.Holds
      { connection with
        backend := backend.removePools poolIds : Connection }.Holds
      surfaces.directory.Claimed later.directory.Claimed := by
  have samePools : ∀ poolId entryId, backend.PoolHolds poolId entryId ↔
      connection.backend.PoolHolds poolId entryId := by
    intro poolId entryId
    simp only [VtRealBackend.PoolHolds, pools]
  refine .release (fun claimant => ∃ poolId ∈ poolIds, claimant = .pool poolId) ?_ ?_
  · intro claimant entryId
    cases claimant with
    | pool poolId =>
      simp [Holds, idle, PoolWork.swept, VtRealBackend.poolHolds_removePools, samePools]
    | request => simp [Holds, idle, PoolWork.entries]
  · intro entryId
    rw [directory, IOSurfacePoolDirectory.claimed_releaseEntries,
      mem_entriesOf_iff_holds idle pools]

/-- The request is a `CREATE_BUFFER_POOL` that leaks the entry it claims. -/
def Leaks (connection : Connection) (host : HostCalls) (request : Request)
    (surfaces : Surfaces) : Prop :=
  Opcode.ofCode? request.opcode = some .createBufferPool ∧
    VtRealBackend.LeaksEntry host request.payload connection.backend surfaces.directory

theorem dispatch_transfer (host : HostCalls) (request : Request)
    (response : List UInt8) (surfaces : Surfaces)
    (idle : connection.work = .idle)
    (numbered : connection.backend.PoolsNumbered) :
    Transfer (connection.Leaks host request surfaces) connection.Holds
      { connection with
        backend := (connection.backend.dispatch host request response
          surfaces).backend : Connection }.Holds
      surfaces.directory.Claimed
      (connection.backend.dispatch host request response surfaces).surfaces.directory.Claimed := by
  have effect := VtRealBackend.dispatch_effect host request response connection.backend surfaces
  unfold Leaks
  revert effect
  generalize connection.backend.dispatch host request response surfaces = served
  generalize Opcode.ofCode? request.opcode = opcode
  intro effect
  cases effect with
  | entryClaimed reaches matched present unclaimed build =>
    rw [eq_self, true_and]
    exact transfer_of_claimed idle numbered reaches matched present unclaimed build
  | encodeDestroyed _ _ _ | poolDestroyed _ =>
    exact transfer_of_removed_pools idle rfl _ rfl
  | decodedDequeued dequeue =>
    cases dequeue with
    | _ => exact transfer_of_same_pools rfl rfl
  | _ => exact transfer_of_same_pools rfl rfl

end Connection

end VtFerry
