import VtFerry.Worker.VtReal.Dispatch

/-!
# What the pool requests do

`createBufferPool_cases` lists the outcomes of `CREATE_BUFFER_POOL`: refused
before an entry is claimed, failed after it, or built.  The rest of the file
describes pool removal by lookups.
-/

namespace VtFerry

namespace VtRealBackend

/-! ## Creating a pool -/

/-- The buffers a slot loop adds: `made` slots from `slotIndex` on, numbered
from the next host id on, on top of what was there. -/
def FilledSlots (payload : CreateBufferPoolPayload) (poolId region slotBytes slotIndex made : Nat)
    (before : VtRealBackend) (after : FiniteMap Nat VtRealBuffer) : Prop :=
  ∀ id, after.lookup id =
    if before.nextHostId ≤ id ∧ id < before.nextHostId + made then
      (wrapPoolSlot region ((slotIndex + (id - before.nextHostId)) * slotBytes)
        payload.width payload.height payload.pixelFormat).map
        (slotBuffer payload poolId region slotBytes (slotIndex + (id - before.nextHostId)) id)
    else before.buffers.lookup id

/-- The slot loop wraps every slot: the format is supported unless there is no
slot, and the host wraps each of them. -/
def SlotsWrap (host : HostCalls) (payload : CreateBufferPoolPayload)
    (slotIndex remaining : Nat) : Prop :=
  (remaining = 0 ∨ payload.pixelFormat = PixelFormat.bgra ∨
    payload.pixelFormat = PixelFormat.nv12) ∧
  ∀ slot, slotIndex ≤ slot → slot < slotIndex + remaining → host.wrapSlot slot = true

variable {region : Nat}

theorem wrapPoolSlot_eq_none_iff {offset : Nat} {width height pixelFormat : UInt32} :
    wrapPoolSlot region offset width height pixelFormat = none ↔
      pixelFormat ≠ PixelFormat.bgra ∧ pixelFormat ≠ PixelFormat.nv12 := by
  unfold wrapPoolSlot
  split
  next bgra => simp [bgra]
  next notBgra =>
    split
    next nv12 => simp [nv12]
    next notNv12 => simp [notBgra, notNv12]

variable {payload : CreateBufferPoolPayload} {poolId slotIndex : Nat}
variable {backend : VtRealBackend}

theorem FilledSlots.nothing {slotBytes : Nat} :
    FilledSlots payload poolId region slotBytes slotIndex 0 backend
      backend.buffers := by
  intro id
  have outside : ¬ (backend.nextHostId ≤ id ∧ id < backend.nextHostId + 0) := by omega
  rw [if_neg outside]

theorem FilledSlots.next {slotBytes made : Nat} {before : VtRealBackend}
    {after : FiniteMap Nat VtRealBuffer} {pixelBuffer : PixelBuffer}
    (wrapped : wrapPoolSlot region (slotIndex * slotBytes) payload.width
      payload.height payload.pixelFormat = some pixelBuffer)
    (rest : FilledSlots payload poolId region slotBytes (slotIndex + 1) made
      { before with
        nextHostId := before.nextHostId + 1
        buffers := before.buffers.insert before.nextHostId
          (slotBuffer payload poolId region slotBytes slotIndex
            before.nextHostId pixelBuffer) } after) :
    FilledSlots payload poolId region slotBytes slotIndex (made + 1) before
      after := by
  intro id
  rw [rest id]
  dsimp only
  by_cases first : id = before.nextHostId
  · subst first
    have outside : ¬ (before.nextHostId + 1 ≤ before.nextHostId ∧
        before.nextHostId < before.nextHostId + 1 + made) := by omega
    have inside : before.nextHostId ≤ before.nextHostId ∧
        before.nextHostId < before.nextHostId + (made + 1) := by omega
    rw [if_neg outside, if_pos inside]
    simp [wrapped]
  · by_cases later : before.nextHostId + 1 ≤ id ∧ id < before.nextHostId + 1 + made
    · have inside : before.nextHostId ≤ id ∧
          id < before.nextHostId + (made + 1) := by omega
      have shifted : slotIndex + 1 + (id - (before.nextHostId + 1)) =
          slotIndex + (id - before.nextHostId) := by omega
      rw [if_pos later, if_pos inside, shifted]
    · have outside : ¬ (before.nextHostId ≤ id ∧
          id < before.nextHostId + (made + 1)) := by omega
      rw [if_neg later, if_neg outside, FiniteMap.lookup_insert_eq, if_neg first]

variable {host : HostCalls}

theorem slotsWrap_succ {remaining : Nat} (supported : payload.pixelFormat = PixelFormat.bgra ∨
      payload.pixelFormat = PixelFormat.nv12)
    (first : host.wrapSlot slotIndex = true) :
    SlotsWrap host payload slotIndex (remaining + 1) ↔
      SlotsWrap host payload (slotIndex + 1) remaining := by
  constructor
  · rintro ⟨_, wraps⟩
    refine ⟨Or.inr supported, ?_⟩
    intro slot low high
    exact wraps slot (by omega) (by omega)
  · rintro ⟨_, wraps⟩
    refine ⟨Or.inr supported, ?_⟩
    intro slot low high
    by_cases same : slot = slotIndex
    · rw [same]
      exact first
    · exact wraps slot (by omega) (by omega)

/-- A lease of one of the first `count` slots, at the slot's offset. -/
def Placed (slotBytes count : Nat) (lease : PoolBufferLeaseReply) : Prop :=
  lease.slotIndex < count ∧ lease.slotOffset = UInt32.ofNat (lease.slotIndex * slotBytes)

/-- What the slot loop does: it adds the buffers of the slots it wrapped and
draws their ids; it succeeds exactly when every slot wraps. -/
theorem fillSlots_spec (host : HostCalls) (payload : CreateBufferPoolPayload)
    (poolId region slotBytes remaining slotIndex : Nat)
    (backend : VtRealBackend) (leases : List PoolBufferLeaseReply) :
    ∃ made buffers, (fillSlots host payload poolId region slotBytes remaining slotIndex
        backend leases).1 =
          { backend with
            nextHostId := backend.nextHostId + made
            buffers := buffers } ∧
      FilledSlots payload poolId region slotBytes slotIndex made backend buffers ∧
      ((∃ status, (fillSlots host payload poolId region slotBytes remaining
          slotIndex backend leases).2 = .error status ∧ status ≠ Status.ok ∧
          ¬ SlotsWrap host payload slotIndex remaining) ∨
        (∃ all, (fillSlots host payload poolId region slotBytes remaining
          slotIndex backend leases).2 = .ok all ∧ made = remaining ∧
          SlotsWrap host payload slotIndex remaining ∧
          ∀ lease ∈ all, lease ∈ leases ∨ Placed slotBytes (slotIndex + remaining) lease)) := by
  induction remaining generalizing slotIndex backend leases with
  | zero =>
    refine ⟨0, backend.buffers, rfl, FilledSlots.nothing, ?_⟩
    refine Or.inr ⟨leases, rfl, rfl, ⟨Or.inl rfl, ?_⟩, fun _ => Or.inl⟩
    intro slot low high
    omega
  | succ remaining induction =>
    rw [fillSlots]
    cases wrapped : wrapPoolSlot region (slotIndex * slotBytes)
        payload.width payload.height payload.pixelFormat with
    | none =>
      obtain ⟨notBgra, notNv12⟩ := wrapPoolSlot_eq_none_iff.1 wrapped
      refine ⟨0, backend.buffers, rfl, FilledSlots.nothing, Or.inl ⟨_, rfl, by decide, ?_⟩⟩
      rintro ⟨zero | bgra | nv12, _⟩
      · cases zero
      · exact notBgra bgra
      · exact notNv12 nv12
    | some pixelBuffer =>
      have supported : payload.pixelFormat = PixelFormat.bgra ∨
          payload.pixelFormat = PixelFormat.nv12 := by
        by_contra unsupported
        rw [not_or] at unsupported
        rw [wrapPoolSlot_eq_none_iff.2 unsupported] at wrapped
        cases wrapped
      dsimp only
      split
      next hostWraps =>
        obtain ⟨made, buffers, result, filled, outcome⟩ :=
          induction (slotIndex + 1)
            { backend with
              nextHostId := backend.nextHostId + 1
              buffers := backend.buffers.insert backend.nextHostId
                (slotBuffer payload poolId region slotBytes slotIndex
                  backend.nextHostId pixelBuffer) }
            (leases ++
              [{ bufferId := backend.nextHostId
                 generation := 0
                 slotIndex := slotIndex
                 slotOffset := UInt32.ofNat (slotIndex * slotBytes) }])
        have step : SlotsWrap host payload slotIndex (remaining + 1) ↔
            SlotsWrap host payload (slotIndex + 1) remaining :=
          slotsWrap_succ supported hostWraps
        refine ⟨made + 1, buffers, ?_, filled.next wrapped, ?_⟩
        · rw [result]
          simp only [Nat.add_assoc, Nat.add_comm 1]
        · rcases outcome with ⟨status, failed, notOk, blocked⟩ |
            ⟨all, succeeded, full, wraps, placed⟩
          · exact Or.inl ⟨status, failed, notOk, fun now =>
              blocked (step.1 now)⟩
          · refine Or.inr ⟨all, succeeded, congrArg (· + 1) full,
              step.2 wraps, fun lease listed => ?_⟩
            rw [← Nat.add_right_comm, Nat.add_assoc] at placed
            rcases placed lease listed with earlier | here
            · rcases List.mem_append.mp earlier with earlier | new
              · exact Or.inl earlier
              · obtain rfl := List.mem_singleton.mp new
                exact Or.inr ⟨by dsimp only; omega, rfl⟩
            · exact Or.inr here
      next hostFails =>
        refine ⟨0, backend.buffers, rfl, FilledSlots.nothing, Or.inl ⟨_, rfl, by decide, ?_⟩⟩
        rintro ⟨_, wraps⟩
        exact hostFails (wraps slotIndex (Nat.le_refl _) (by omega))

/-- A claimed entry becomes a pool: its slots are few enough, its surface
locks, and every slot wraps. -/
def PoolBuilds (host : HostCalls) (payload : CreateBufferPoolPayload)
    (pool : IOSurfacePool) : Prop :=
  pool.spec.slotCount.toNat ≤ maxPoolSlots ∧ host.lockSurface = true ∧
    SlotsWrap host payload 0 pool.spec.slotCount.toNat

def slotBytes (payload : CreateBufferPoolPayload) : Nat :=
  (vtfFillBufferLayout payload.width payload.height payload.pixelFormat).totalSize.toNat

/-- The buffers of a pool in the making: the pool takes the next host id and
its slots the ids after it. -/
def SlotsOf (payload : CreateBufferPoolPayload) (pool : IOSurfacePool)
    (made : Nat) (before : VtRealBackend)
    (after : FiniteMap Nat VtRealBuffer) : Prop :=
  FilledSlots payload before.nextHostId pool.surface (slotBytes payload) 0
    made { before with nextHostId := before.nextHostId + 1 } after

def builtReply (payload : CreateBufferPoolPayload) (pool : IOSurfacePool)
    (poolId : Nat) (leases : List PoolBufferLeaseReply) :
    CreateBufferPoolReply where
  poolId := poolId
  width := payload.width
  height := payload.height
  pixelFormat := payload.pixelFormat
  slotCount := pool.spec.slotCount
  bufferRegionSize := pool.spec.slotCount *
    (vtfFillBufferLayout payload.width payload.height payload.pixelFormat).totalSize
  layout :=
    vtfFillBufferLayout payload.width payload.height payload.pixelFormat
  regionSize := slotBytes payload
  sourceHandle := pool.spec.iosurfaceId
  bufferLeases := leases

/-- The outcomes of building a pool over a claimed entry. -/
inductive PoolBuild (host : HostCalls) (payload : CreateBufferPoolPayload)
    (entryId : Nat) (pool : IOSurfacePool) (backend : VtRealBackend) :
    VtRealBackend × UInt32 × ReplyBody → Prop
  | refused {status : UInt32} (failed : status ≠ Status.ok)
      (blocked : ¬ PoolBuilds host payload pool) :
      PoolBuild host payload entryId pool backend (backend, status, .empty)
  | abandoned {status : UInt32} {made : Nat}
      {buffers : FiniteMap Nat VtRealBuffer} (failed : status ≠ Status.ok)
      (blocked : ¬ PoolBuilds host payload pool)
      (filled : SlotsOf payload pool made backend buffers) :
      PoolBuild host payload entryId pool backend
        ({ backend with
           nextHostId := backend.nextHostId + 1 + made
           buffers := buffers }, status, .empty)
  | built {buffers : FiniteMap Nat VtRealBuffer}
      {leases : List PoolBufferLeaseReply}
      (builds : PoolBuilds host payload pool)
      (filled : SlotsOf payload pool pool.spec.slotCount.toNat backend buffers)
      (placed : ∀ lease ∈ leases, Placed (slotBytes payload) pool.spec.slotCount.toNat lease) :
      PoolBuild host payload entryId pool backend
        ({ backend with
           nextHostId :=
             backend.nextHostId + 1 + pool.spec.slotCount.toNat
           buffers := buffers
           pools := backend.pools.insert backend.nextHostId
             (builtPool payload backend.nextHostId entryId pool.spec.slotCount) },
          Status.ok,
          .pool (builtReply payload pool backend.nextHostId leases))

theorem buildPool_cases (host : HostCalls) (payload : CreateBufferPoolPayload) (entryId : Nat)
    (pool : IOSurfacePool) (backend : VtRealBackend) :
    PoolBuild host payload entryId pool backend (buildPool host payload entryId pool backend) := by
  unfold buildPool
  dsimp only
  split
  next tooMany =>
    refine .refused (by decide) ?_
    rintro ⟨few, _⟩
    omega
  next notTooMany =>
    split
    next locked =>
      refine .refused (by decide) ?_
      rintro ⟨_, locks, _⟩
      simp [locks] at locked
    next notLocked =>
      obtain ⟨made, buffers, result, filled, outcome⟩ :=
        fillSlots_spec host payload backend.nextHostId pool.surface
          (slotBytes payload) pool.spec.slotCount.toNat 0
          { backend with nextHostId := backend.nextHostId + 1 } []
      unfold slotBytes at result outcome
      revert result outcome
      generalize fillSlots host payload backend.nextHostId pool.surface
        (vtfFillBufferLayout payload.width payload.height payload.pixelFormat).totalSize.toNat
        pool.spec.slotCount.toNat 0
        { backend with nextHostId := backend.nextHostId + 1 } [] = loop
      obtain ⟨after, leases⟩ := loop
      rintro rfl outcome
      rcases outcome with ⟨status, rfl, notOk, blocked⟩ | ⟨leases, rfl, rfl, wraps, placed⟩
      · exact .abandoned notOk (fun builds => blocked builds.2.2) filled
      · refine .built ⟨by omega, by simpa using notLocked, wraps⟩ filled ?_
        intro lease listed
        rw [Nat.zero_add] at placed
        exact (placed lease listed).resolve_left List.not_mem_nil

section Built

variable {host : HostCalls} {payload : CreateBufferPoolPayload}
variable {entryId : Nat} {pool : IOSurfacePool} {backend : VtRealBackend}
variable {built : VtRealBackend × UInt32 × ReplyBody}

theorem PoolBuild.outputState (build : PoolBuild host payload entryId pool backend built) :
    built.1.outputState = backend.outputState := by
  cases build with
  | _ => rfl

theorem buildPool_outputState (host : HostCalls) (payload : CreateBufferPoolPayload) (entryId : Nat)
    (pool : IOSurfacePool) (backend : VtRealBackend) :
    (buildPool host payload entryId pool backend).1.outputState =
      backend.outputState :=
  (buildPool_cases ..).outputState

theorem PoolBuild.body (build : PoolBuild host payload entryId pool backend built) :
    ∀ reply, built.2.2 ≠ .lease reply := by
  cases build with
  | _ => exact nofun

theorem PoolBuild.next_le (build : PoolBuild host payload entryId pool backend built) :
    backend.nextHostId ≤ built.1.nextHostId := by
  cases build with
  | refused _ _ => exact Nat.le_refl _
  | abandoned _ _ _ =>
    dsimp only
    omega
  | built _ _ _ =>
    dsimp only
    omega

end Built

variable {entryId : Nat}

theorem buildPool_builds {pool : IOSurfacePool}
    (built : (buildPool host payload entryId pool backend).2.1 = Status.ok) :
    PoolBuilds host payload pool ∧ SlotsOf payload pool pool.spec.slotCount.toNat backend
        (buildPool host payload entryId pool backend).1.buffers ∧
      ∃ leases, (buildPool host payload entryId pool backend).2.2 =
          .pool (builtReply payload pool backend.nextHostId leases) ∧
        ∀ lease ∈ leases, Placed (slotBytes payload) pool.spec.slotCount.toNat lease := by
  have outcome := buildPool_cases host payload entryId pool backend
  generalize buildPool host payload entryId pool backend = result at outcome built ⊢
  cases outcome with
  | refused failed _ | abandoned failed _ _ => exact absurd built failed
  | @built _ leases builds filled placed => exact ⟨builds, filled, leases, rfl, placed⟩

/-- The buffer of a slot of the pool; buffers are numbered after their
pool. -/
def IsSlot (backend : VtRealBackend) (poolId slot : Nat) (buffer : VtRealBuffer) : Prop :=
  backend.buffers.lookup (poolId + 1 + slot) = some buffer ∧
    buffer.poolId = poolId ∧ buffer.slotIndex = slot

theorem buildPool_slot {pool : IOSurfacePool}
    (built : (buildPool host payload entryId pool backend).2.1 = Status.ok)
    (slot : Nat) (below : slot < pool.spec.slotCount.toNat) :
    ∃ pixelBuffer, wrapPoolSlot pool.surface (slot * slotBytes payload) payload.width
        payload.height payload.pixelFormat = some pixelBuffer ∧
      (buildPool host payload entryId pool backend).1.buffers.lookup
        (backend.nextHostId + 1 + slot) = some (slotBuffer payload backend.nextHostId pool.surface
            (slotBytes payload) slot (backend.nextHostId + 1 + slot)
            pixelBuffer) := by
  obtain ⟨⟨_, _, supported, _⟩, filled, _⟩ := buildPool_builds built
  have found := filled (backend.nextHostId + 1 + slot)
  have inside : backend.nextHostId + 1 ≤ backend.nextHostId + 1 + slot ∧
      backend.nextHostId + 1 + slot <
        backend.nextHostId + 1 + pool.spec.slotCount.toNat := by omega
  have index : 0 + (backend.nextHostId + 1 + slot - (backend.nextHostId + 1)) = slot := by omega
  dsimp only at found
  rw [if_pos inside, index] at found
  cases wrap : wrapPoolSlot pool.surface (slot * slotBytes payload)
      payload.width payload.height payload.pixelFormat with
  | none =>
    obtain ⟨notBgra, notNv12⟩ := wrapPoolSlot_eq_none_iff.mp wrap
    rcases supported with none | bgra | nv12
    · omega
    · exact absurd bgra notBgra
    · exact absurd nv12 notNv12
  | some pixelBuffer =>
    rw [wrap] at found
    exact ⟨pixelBuffer, rfl, found⟩

/-- `CREATE_BUFFER_POOL` reaches the directory: the payload is complete and
the session it names, if any, exists. -/
def ReachesDirectory (source : List UInt8) (backend : VtRealBackend) : Prop :=
  CreateBufferPoolPayload.size ≤ source.length ∧ backend.sessionKnown
      (CreateBufferPoolPayload.read source).sessionId.toNat = true

/-- The outcomes of `CREATE_BUFFER_POOL`: refused without touching anything,
or an entry is claimed and then the pool is built or not. -/
theorem createBufferPool_cases (host : HostCalls) (source : List UInt8)
    (backend : VtRealBackend) (surfaces : Surfaces) :
    (∃ status, status ≠ Status.ok ∧ (¬ ReachesDirectory source backend ∨
        surfaces.directory.firstMatch (poolShape (CreateBufferPoolPayload.read source)) = none) ∧
      createBufferPool host source backend surfaces = .plain backend surfaces status) ∨
    ∃ entryId entry, ReachesDirectory source backend ∧ surfaces.directory.firstMatch
        (poolShape (CreateBufferPoolPayload.read source)) = some entryId ∧
      surfaces.directory.entries[entryId]? = some entry ∧
      entry.claimed = false ∧
      createBufferPool host source backend surfaces =
        (let built := buildPool host (CreateBufferPoolPayload.read source)
          entryId entry.pool backend
        { backend := built.1
          surfaces :=
            { surfaces with
              directory := surfaces.directory.setClaimed entryId true }
          status := built.2.1
          body := built.2.2
          encoded := []
          decoded := [] }) := by
  unfold createBufferPool
  split
  next short =>
    refine Or.inl ⟨_, by decide, Or.inl ?_, rfl⟩
    rintro ⟨complete, _⟩
    omega
  next complete =>
    dsimp only
    split
    next unknown =>
      refine Or.inl ⟨_, by decide, Or.inl ?_, rfl⟩
      rintro ⟨_, known⟩
      simp [known] at unknown
    next known =>
      have reaches : ReachesDirectory source backend :=
        ⟨by omega, by simpa using known⟩
      rcases surfaces.directory.takeMatching_cases
          (poolShape (CreateBufferPoolPayload.read source)) with
        ⟨noMatch, taken⟩ |
        ⟨entryId, entry, found, present, unclaimed, _, taken⟩
      · rw [taken]
        exact Or.inl ⟨_, by decide, Or.inr noMatch, rfl⟩
      · rw [taken]
        exact Or.inr ⟨entryId, entry, reaches, found, present, unclaimed, rfl⟩

/-- A `CREATE_BUFFER_POOL` that succeeds built a pool of the shape over the
first match. -/
theorem createBufferPool_built {source : List UInt8} {surfaces : Surfaces}
    (created : (backend.createBufferPool host source surfaces).status = Status.ok) :
    ∃ entryId entry, surfaces.directory.firstMatch
        (poolShape (CreateBufferPoolPayload.read source)) = some entryId ∧
      surfaces.directory.entries[entryId]? = some entry ∧
      entry.shape = poolShape (CreateBufferPoolPayload.read source) ∧
      (buildPool host (CreateBufferPoolPayload.read source) entryId
        entry.pool backend).2.1 = Status.ok ∧
      (backend.createBufferPool host source surfaces).backend =
        (buildPool host (CreateBufferPoolPayload.read source) entryId entry.pool backend).1 ∧
      (backend.createBufferPool host source surfaces).body =
        (buildPool host (CreateBufferPoolPayload.read source) entryId
          entry.pool backend).2.2 := by
  rcases createBufferPool_cases host source backend surfaces with
    ⟨status, failed, _, refused⟩ |
    ⟨entryId, entry, _, found, present, _, result⟩
  · rw [refused] at created
    exact absurd created failed
  · rcases surfaces.directory.takeMatching_cases
        (poolShape (CreateBufferPoolPayload.read source)) with
      ⟨noMatch, _⟩ | ⟨other, otherEntry, otherFound, otherPresent, _, shape, _⟩
    · rw [found] at noMatch
      cases noMatch
    · obtain rfl : entryId = other :=
        Option.some.inj (found.symm.trans otherFound)
      obtain rfl : entry = otherEntry :=
        Option.some.inj (present.symm.trans otherPresent)
      rw [result] at created ⊢
      exact ⟨entryId, entry, found, present, shape, created, rfl, rfl⟩

/-! ## Removing pools -/

theorem mem_entriesOf {poolIds : List Nat} :
    entryId ∈ backend.entriesOf poolIds ↔
      ∃ poolId ∈ poolIds, ∃ pool, backend.pools.lookup poolId = some pool ∧
        pool.iosurfaceEntryId = some entryId := by
  simp only [entriesOf, List.mem_filterMap, Option.bind_eq_some_iff]

theorem mem_allEntries :
    entryId ∈ backend.allEntries ↔ ∃ poolId pool, backend.pools.lookup poolId = some pool ∧
        pool.iosurfaceEntryId = some entryId := by
  simp only [allEntries, List.mem_filterMap, FiniteMap.mem_values_iff]
  constructor
  · rintro ⟨pool, ⟨poolId, found⟩, entry⟩
    exact ⟨poolId, pool, found, entry⟩
  · rintro ⟨poolId, pool, found, entry⟩
    exact ⟨pool, ⟨poolId, found⟩, entry⟩

theorem mem_poolsOfSession {sessionId : Nat} :
    poolId ∈ backend.poolsOfSession sessionId ↔
      ∃ pool, backend.pools.lookup poolId = some pool ∧ pool.sessionId = sessionId := by
  simp only [poolsOfSession, List.mem_map, List.mem_filter, FiniteMap.lookup_eq_some_iff]
  constructor
  · rintro ⟨⟨id, pool⟩, ⟨member, belongs⟩, rfl⟩
    exact ⟨pool, member, by simpa using belongs⟩
  · rintro ⟨pool, member, belongs⟩
    exact ⟨⟨poolId, pool⟩, ⟨member, by simpa using belongs⟩, rfl⟩

theorem lookup_eraseAll (poolIds : List Nat) (pools : FiniteMap Nat VtRealPool) (poolId : Nat) :
    (poolIds.foldl (fun pools id => pools.erase id) pools).lookup poolId =
      if poolId ∈ poolIds then none else pools.lookup poolId := by
  induction poolIds generalizing pools with
  | nil => simp
  | cons id poolIds induction =>
    rw [List.foldl_cons, induction, FiniteMap.lookup_erase_eq]
    by_cases later : poolId ∈ poolIds
    · simp [later]
    · by_cases same : poolId = id
      · simp [same]
      · simp [later, same]

@[simp] theorem lookup_pools_removePools (backend : VtRealBackend)
    (poolIds : List Nat) (poolId : Nat) :
    (backend.removePools poolIds).pools.lookup poolId =
      if poolId ∈ poolIds then none else backend.pools.lookup poolId :=
  lookup_eraseAll poolIds backend.pools poolId

theorem lookup_buffers_removePools {poolIds : List Nat} {bufferId : Nat} {buffer : VtRealBuffer} :
    (backend.removePools poolIds).buffers.lookup bufferId = some buffer ↔
      backend.buffers.lookup bufferId = some buffer ∧
        buffer.poolId ∉ poolIds := by
  rw [removePools, FiniteMap.lookup_retain, Option.filter_eq_some_iff]
  simp

end VtRealBackend

end VtFerry
