import VtFerry.Worker.Mock.Table

/-!
# Leases of the mock backend

The four requests that move leases: creating a pool adds empty slots,
`ALLOC_BUFFER` gives out a lease, `RECYCLE_BUFFER` ends one, and
`DESTROY_SESSION` drops the buffers of the session's pools.  With the
requests that leave leases alone, every request is a step of the lease table.
A request that names an ended lease is refused.
-/

namespace VtFerry

open KeyedList LeaseTable List Mock

namespace MockBackend

variable {backend : MockBackend}

/-! ## Requests that move leases -/

/-- The request keeps the tables in order and makes a lease step, and a pool
under a used id is the earlier one. -/
structure Served.Advances (served : Served) (backend : MockBackend)
    (ends : Lease → Bool) : Prop where
  kept : served.backend.WellKept
  pools : ∀ id later, id < backend.nextHostId → served.backend.shapeOf id = some later → ∃ earlier,
      backend.shapeOf id = some { later with count := earlier }
  move : Table.Move backend.leaseTable served.backend.leaseTable served.leases ends

variable {served : Served}

theorem Served.Unmoved.advances {ends : Lease → Bool}
    (unmoved : served.Unmoved backend) (kept : backend.WellKept)
    (quiet : ∀ lease, ends lease = false) : served.Advances backend ends :=
  ⟨unmoved.wellKept kept, fun id later _ found => ⟨later.count, unmoved.shape id ▸ found⟩,
    unmoved.move kept quiet⟩

theorem shapeOf_addPool (backend : MockBackend) (pool : Pool) (next poolId : Nat) :
    shapeOf { backend with
        nextHostId := next, pools := backend.pools ++ [pool] } poolId =
      (backend.shapeOf poolId).or (if pool.id = poolId then some pool.shape else none) := by
  simp only [shapeOf, findPool, find_append_singleton]
  cases find Pool.id backend.pools poolId with
  | none => split <;> rfl
  | some other => rfl

theorem WellKept.addPool (kept : backend.WellKept) (pool : Pool)
    (id : pool.id = backend.nextHostId) (empty : pool.bufferCount = 0) :
    WellKept { backend with
      nextHostId := backend.nextHostId + 1
      pools := backend.pools ++ [pool] } := by
  have shape_eq := shapeOf_addPool backend pool (backend.nextHostId + 1)
  refine ⟨kept.distinct, ?_, ?_, ?_, ?_, ?_, kept.apart⟩
  · rw [map_append]
    refine kept.poolsDistinct.append (nodup_singleton _) ?_
    intro poolId old new
    obtain rfl := mem_singleton.mp new
    exact absurd (kept.poolsNumbered _ old) (by omega)
  · exact fun place mem => Nat.lt_succ_of_lt (kept.numbered place mem)
  · intro poolId mem
    rw [map_append] at mem
    rcases mem_append.mp mem with old | new
    · exact Nat.lt_succ_of_lt (kept.poolsNumbered poolId old)
    · obtain rfl := mem_singleton.mp new
      exact id ▸ Nat.lt_succ_self _
  · intro place mem
    obtain ⟨shape, found, slot_lt⟩ := kept.housed place mem
    exact ⟨shape, by rw [shape_eq, found, Option.some_or], slot_lt⟩
  · intro poolId shape found
    rw [shape_eq] at found
    cases old : backend.shapeOf poolId with
    | some other =>
      rw [old, Option.some_or] at found
      exact kept.counted poolId shape (old.trans found)
    | none =>
      rw [old, Option.none_or] at found
      split at found
      · obtain rfl := Option.some.inj found
        simp [Pool.shape, empty]
      · cases found

/-! ### Recycling -/

/-- A recycle request that succeeds ends the lease it names. -/
def endsByRecycle (source : List UInt8) (served : Served) (lease : Lease) :
    Bool :=
  let payload := RecycleBufferPayload.read source
  served.reply.isSome && payload.bufferId.toNat == lease.id &&
    payload.generation.toNat == lease.generation

variable {buffer : Buffer}

theorem recycled_advances {ends : Lease → Bool} (kept : backend.WellKept)
    (found : backend.findBuffer buffer.id = some buffer)
    (exactly : ∀ lease, ends lease = true ↔ lease = ⟨buffer.id, buffer.generation⟩) :
    Served.Advances ⟨backend.modifyBuffer buffer.id fun buffer =>
        { buffer with state := .recycled }, Status.ok, some .empty⟩
      backend ends := by
  have keeps : ∀ other : Buffer, Buffer.place { other with state := .recycled } = other.place :=
    fun _ => rfl
  have written : (backend.modifyBuffer buffer.id fun buffer =>
      { buffer with state := .recycled }).leaseTable.cell =
        Function.update backend.leaseTable.cell buffer.id
          (some { buffer.cell with held := false }) := by
    funext other
    simp only [leaseTable, findBuffer_modifyBuffer buffer.id other keeps]
    by_cases same : other = buffer.id
    · simp [same, found, Buffer.cell]
    · simp [same]
  refine ⟨kept.transport (places_modifyBuffer _ keeps) (fun _ => rfl) rfl (Nat.le_refl _),
    fun _ later _ found => ⟨later.count, found⟩, ?_⟩
  exact .letGo kept.numberedTable rfl (congrArg (Option.map Buffer.cell) found) written exactly

/-! ### Giving out leases -/

/-- A lease supersedes the older ones of its buffer. -/
def endsBySupersede (served : Served) (lease : Lease) : Bool :=
  match served.reply with
  | some (.lease reply) =>
    reply.bufferId == lease.id && lease.generation < reply.generation
  | _ => false

/-- The leases of a lease reply: one, unless the response buffer is too
small. -/
theorem leases_leaseReply (backend : MockBackend) (capacity : Nat) (buffer : Buffer) :
    ((backend.write capacity (leaseReply buffer)).leases = [] ∨
      (backend.write capacity (leaseReply buffer)).leases = [⟨buffer.id, buffer.generation⟩]) ∧
    ∀ lease, endsBySupersede (backend.write capacity (leaseReply buffer)) lease =
        true → lease.id = buffer.id ∧
          lease.generation < buffer.generation := by
  unfold write
  split
  · exact ⟨.inl rfl, fun lease ended => absurd ended (by simp [endsBySupersede])⟩
  · refine ⟨.inr rfl, fun lease ended => ?_⟩
    simp only [endsBySupersede, leaseReply, Bool.and_eq_true, beq_iff_eq,
      decide_eq_true_eq] at ended
    exact ⟨ended.1.symm, ended.2⟩

variable {poolId : Nat}

theorem findBuffer_reissue (kept : backend.WellKept)
    (free : backend.buffers.find? (recyclable poolId) = some buffer) :
    (backend.findBuffer buffer.id = some buffer ∧
      buffer.poolId = poolId ∧ buffer.state = .recycled) ∧
    ∀ other, findBuffer { backend with
        buffers := modifyFirst (recyclable poolId) reissue backend.buffers }
        other =
      if other = buffer.id then some (reissue buffer)
      else backend.findBuffer other := by
  have found : backend.findBuffer buffer.id = some buffer :=
    find_of_mem kept.distinct (mem_of_find?_eq_some free)
  have tested := find?_some free
  simp only [recyclable, Bool.and_eq_true, beq_iff_eq] at tested
  refine ⟨⟨found, tested⟩, ?_⟩
  intro other
  have same : modifyFirst (recyclable poolId) reissue backend.buffers = _ :=
    modifyFirst_eq_of_find? kept.distinct free
  have changed : find Buffer.id (modifyFirst (fun other =>
      other.id == buffer.id) reissue backend.buffers) other = _ :=
    find_modifyFirst backend.buffers buffer.id other fun _ => rfl
  simp only [findBuffer] at found ⊢
  rw [same, changed, found, Option.map_some]

theorem reissued_advances (kept : backend.WellKept)
    (free : backend.buffers.find? (recyclable poolId) = some buffer)
    (buffers : served.backend.buffers = modifyFirst (recyclable poolId) reissue backend.buffers)
    (shape : ∀ id, served.backend.shapeOf id = backend.shapeOf id)
    (poolIds : served.backend.pools.map Pool.id = backend.pools.map Pool.id)
    (next : served.backend.nextHostId = backend.nextHostId)
    (given : served.leases = [] ∨ served.leases = [⟨buffer.id, buffer.generation + 1⟩])
    (older : ∀ lease, endsBySupersede served lease = true →
      lease.id = buffer.id ∧ lease.generation < buffer.generation + 1) :
    served.Advances backend (endsBySupersede served) := by
  obtain ⟨⟨found, -, recycled⟩, at_other⟩ := findBuffer_reissue kept free
  have places : served.backend.places = backend.places := by
    simp only [MockBackend.places, buffers]
    exact map_modifyFirst backend.buffers fun _ => rfl
  have written : served.backend.leaseTable.cell =
      Function.update backend.leaseTable.cell buffer.id (some (reissue buffer).cell) := by
    funext other
    have at_this := at_other other
    simp only [findBuffer] at at_this
    simp only [leaseTable, findBuffer, buffers, at_this]
    split
    next same => rw [same, Function.update_self, Option.map_some]
    next differs => rw [Function.update_of_ne differs]
  refine ⟨kept.transport places shape poolIds next.ge,
    fun id later _ found => ⟨later.count, shape id ▸ found⟩, ?_⟩
  have before_cell : backend.leaseTable.cell buffer.id = some buffer.cell := by
    simp only [leaseTable, found, Option.map_some]
  refine Table.Move.grant kept.numberedTable next.ge ?_ written ?_ ?_ ?_ given older
  · exact Nat.lt_of_lt_of_le (kept.numberedTable _ _ before_cell) next.ge
  · simp [reissue, Buffer.cell]
  · intro earlier was
    obtain rfl := Option.some.inj (before_cell.symm.trans was)
    exact ⟨Nat.lt_succ_self _, by simp [Buffer.cell, recycled]⟩
  · intro unused
    exact absurd (before_cell.symm.trans unused) (by simp)

variable {pool : Pool}

theorem reuseBuffer_advances (capacity : Nat) (kept : backend.WellKept)
    (free : backend.buffers.find? (recyclable pool.id) = some buffer) :
    (reuseBuffer capacity pool buffer backend).Advances backend
      (endsBySupersede (reuseBuffer capacity pool buffer backend)) := by
  unfold reuseBuffer
  dsimp only
  split
  · exact reissued_advances kept free rfl (fun _ => rfl) rfl rfl (.inl rfl)
      fun _ ended => absurd ended (by simp [endsBySupersede, refuse])
  next start _ =>
    obtain ⟨given, older⟩ := leases_leaseReply
      (zeroSlot { backend with
        buffers := modifyFirst (recyclable pool.id) reissue backend.buffers }
        pool.id start) capacity (reissue buffer)
    refine reissued_advances kept free ?_ ?_ ?_ ?_ given older
    · rw [write_backend]
      rfl
    · intro id
      rw [write_backend]
      exact zeroSlot_shapeOf pool.id start id
    · rw [write_backend]
      exact poolIds_modifyPool pool.id fun _ => rfl
    · rw [write_backend]
      rfl

theorem shapeOf_openSlot (start : Nat) (found : backend.findPool pool.id = some pool)
    (below : pool.bufferCount < pool.maxBuffers) (id : Nat) :
    (backend.openSlot pool start).shapeOf id =
      if id = pool.id then
        some { pool.shape with count := pool.bufferCount.toNat + 1 }
      else backend.shapeOf id := by
  have counted : (pool.bufferCount + 1).toNat = pool.bufferCount.toNat + 1 := by
    have bound : pool.bufferCount.toNat < pool.maxBuffers.toNat := below
    have size := pool.maxBuffers.toNat_lt
    rw [UInt32.toNat_add]
    exact Nat.mod_eq_of_lt (by
      change pool.bufferCount.toNat + 1 < 2 ^ 32
      omega)
  have zeroed : (backend.zeroSlot pool.id start).findPool id =
      if id = pool.id then _ else backend.findPool id :=
    findPool_modifyPool pool.id id fun _ => rfl
  have zeroed_here : (backend.zeroSlot pool.id start).findPool pool.id = _ :=
    findPool_modifyPool pool.id pool.id fun _ => rfl
  have both : ((backend.zeroSlot pool.id start).modifyPool pool.id
      fun pool => { pool with bufferCount := pool.bufferCount + 1 }).findPool id = _ :=
    findPool_modifyPool pool.id id fun _ => rfl
  rw [if_pos rfl, found, Option.map_some] at zeroed_here
  rw [zeroed_here, zeroed, Option.map_some] at both
  change (((backend.zeroSlot pool.id start).modifyPool pool.id
    fun pool => { pool with bufferCount := pool.bufferCount + 1 }).findPool id).map Pool.shape = _
  rw [both]
  split
  · simp [Pool.shape, counted]
  · rfl

theorem WellKept.openSlot (start : Nat) (kept : backend.WellKept)
    (found : backend.findPool pool.id = some pool)
    (below : pool.bufferCount < pool.maxBuffers) :
    (backend.openSlot pool start).WellKept := by
  have shape_eq := shapeOf_openSlot start found below
  have places_eq : (backend.openSlot pool start).places =
      backend.places ++ [(newBuffer pool backend.nextHostId).place] :=
    map_append
  have poolIds_eq : (backend.openSlot pool start).pools.map Pool.id =
      backend.pools.map Pool.id := by
    have zeroed : (backend.zeroSlot pool.id start).pools.map Pool.id = _ :=
      poolIds_modifyPool pool.id fun _ => rfl
    rw [← zeroed]
    exact poolIds_modifyPool pool.id fun _ => rfl
  have pool_shape : backend.shapeOf pool.id = some pool.shape := by
    simp only [shapeOf, found, Option.map_some]
  have below_new : ∀ place ∈ backend.places, place.pool = pool.id →
      place.slot < pool.bufferCount.toNat := by
    intro place mem same
    obtain ⟨shape, shape_found, slot_lt, _⟩ := kept.housed place mem
    rw [same, pool_shape] at shape_found
    obtain rfl := Option.some.inj shape_found
    exact slot_lt
  refine ⟨?_, poolIds_eq ▸ kept.poolsDistinct, ?_, ?_, ?_, ?_, ?_⟩
  · rw [bufferIds_eq_places, places_eq, map_append, ← bufferIds_eq_places]
    refine kept.distinct.append (nodup_singleton _) ?_
    intro id old new
    rw [bufferIds_eq_places] at old
    obtain ⟨place, mem, rfl⟩ := mem_map.mp old
    have bound := kept.numbered place mem
    simp only [newBuffer, Buffer.place, map_cons, map_nil, mem_singleton] at new
    omega
  · intro place mem
    rw [places_eq] at mem
    rcases mem_append.mp mem with old | new
    · exact Nat.lt_succ_of_lt (kept.numbered place old)
    · obtain rfl := mem_singleton.mp new
      exact Nat.lt_succ_self _
  · intro poolId mem
    exact Nat.lt_succ_of_lt (kept.poolsNumbered poolId (poolIds_eq ▸ mem))
  · intro place mem
    rw [places_eq] at mem
    rw [shape_eq]
    rcases mem_append.mp mem with old | new
    · split
      next same =>
        obtain ⟨shape, shape_found, _, size⟩ := kept.housed place old
        rw [same, pool_shape] at shape_found
        obtain rfl := Option.some.inj shape_found
        exact ⟨_, rfl, Nat.lt_succ_of_lt (below_new place old same), size⟩
      · exact kept.housed place old
    · obtain rfl := mem_singleton.mp new
      rw [if_pos (show (newBuffer pool backend.nextHostId).place.pool = pool.id from rfl)]
      exact ⟨_, rfl, Nat.lt_succ_self _, rfl⟩
  · intro poolId shape shape_found
    rw [shape_eq] at shape_found
    split at shape_found
    · obtain rfl := Option.some.inj shape_found
      exact below
    · exact kept.counted poolId shape shape_found
  · intro place mem other other_mem same_pool same_slot
    rw [places_eq] at mem other_mem
    rcases mem_append.mp mem with old | new <;>
      rcases mem_append.mp other_mem with other_old | other_new
    · exact kept.apart place old other other_old same_pool same_slot
    · obtain rfl := mem_singleton.mp other_new
      exact absurd (below_new place old same_pool) (by rw [same_slot]; exact Nat.lt_irrefl _)
    · obtain rfl := mem_singleton.mp new
      exact absurd (below_new other other_old same_pool.symm)
        (by rw [← same_slot]; exact Nat.lt_irrefl _)
    · rw [mem_singleton.mp new, mem_singleton.mp other_new]

theorem cell_openSlot (pool : Pool) (start : Nat) (kept : backend.WellKept) :
    backend.leaseTable.cell backend.nextHostId = none ∧
      (backend.openSlot pool start).leaseTable.cell =
        Function.update backend.leaseTable.cell backend.nextHostId
          (some (newBuffer pool backend.nextHostId).cell) := by
  have unused : backend.leaseTable.cell backend.nextHostId = none := by
    cases at_next : backend.leaseTable.cell backend.nextHostId with
    | none => rfl
    | some cell => exact absurd (kept.numberedTable _ cell at_next) (Nat.lt_irrefl _)
  refine ⟨unused, ?_⟩
  funext other
  have looked : (backend.openSlot pool start).findBuffer other = _ :=
    find_append_singleton backend.buffers (newBuffer pool backend.nextHostId) other
  have not_there : other = backend.nextHostId → find Buffer.id backend.buffers other = none := by
    rintro rfl
    exact Option.map_eq_none_iff.mp unused
  simp only [leaseTable, looked]
  by_cases same : other = backend.nextHostId
  · rw [not_there same, Option.none_or, same, Function.update_self]
    exact congrArg (Option.map Buffer.cell) (if_pos rfl)
  · have differs : (newBuffer pool backend.nextHostId).id ≠ other :=
      Ne.symm same
    rw [if_neg differs, Option.or_none, Function.update_of_ne same]
    rfl

/-! ### Destroying a session -/

def endsByDestroy (backend : MockBackend) (source : List UInt8)
    (served : Served) (lease : Lease) : Bool :=
  served.reply.isSome && (backend.findBuffer lease.id).any fun buffer =>
    (backend.findPool buffer.poolId).any fun pool =>
      pool.sessionId == (HandlePayload.read source).handle.toNat

theorem foldl_filter_pools (poolIds : List Nat) (buffers : List Buffer) :
    poolIds.foldl (fun buffers poolId => buffers.filter fun buffer =>
        buffer.poolId != poolId) buffers =
      buffers.filter fun buffer => buffer.poolId ∉ poolIds := by
  induction poolIds generalizing buffers with
  | nil => simp
  | cons poolId poolIds induction =>
    rw [foldl_cons, induction, filter_filter]
    apply filter_congr
    intro buffer _
    by_cases same : buffer.poolId = poolId
    · simp [same]
    · simp [same]

def sessionPools (backend : MockBackend) (sessionId : Nat) : List Nat :=
  (backend.pools.filter fun pool => pool.sessionId == sessionId).map Pool.id

theorem mem_sessionPools_iff (kept : backend.WellKept) {sessionId : Nat} :
    poolId ∈ backend.sessionPools sessionId ↔
      (backend.findPool poolId).any (·.sessionId == sessionId) = true := by
  constructor
  · intro mem
    obtain ⟨pool, found, rfl⟩ := mem_map.mp mem
    obtain ⟨in_pools, owned⟩ := mem_filter.mp found
    rw [show backend.findPool pool.id = some pool from
      find_of_mem kept.poolsDistinct in_pools]
    exact owned
  · intro owned
    obtain ⟨pool, found, owned⟩ := (Option.any_eq_true _ _).mp owned
    refine mem_map.mpr ⟨pool, mem_filter.mpr ⟨mem_of_find found, owned⟩, key_of_find found⟩

/-- The buffers and pools that are left when a session is destroyed. -/
structure SweptOf (later backend : MockBackend) (sessionId : Nat) :
    Prop where
  buffers : later.buffers = backend.buffers.filter fun buffer =>
    buffer.poolId ∉ backend.sessionPools sessionId
  pools : later.pools = backend.pools.filter fun pool =>
    pool.sessionId != sessionId
  next : later.nextHostId = backend.nextHostId

variable {later : MockBackend} {sessionId : Nat}

theorem SweptOf.findBuffer (swept : later.SweptOf backend sessionId)
    (kept : backend.WellKept) (id : Nat) :
    later.findBuffer id = (backend.findBuffer id).filter fun buffer =>
      buffer.poolId ∉ backend.sessionPools sessionId := by
  unfold MockBackend.findBuffer
  rw [swept.buffers]
  exact find_filter _ kept.distinct id

theorem SweptOf.findPool (swept : later.SweptOf backend sessionId)
    (kept : backend.WellKept) (poolId : Nat) :
    later.findPool poolId = (backend.findPool poolId).filter
      fun pool => pool.sessionId != sessionId := by
  unfold MockBackend.findPool
  rw [swept.pools]
  exact find_filter _ kept.poolsDistinct poolId

theorem SweptOf.shapeOf (swept : later.SweptOf backend sessionId)
    (kept : backend.WellKept) (left : poolId ∉ backend.sessionPools sessionId) :
    later.shapeOf poolId = backend.shapeOf poolId := by
  unfold MockBackend.shapeOf
  rw [swept.findPool kept]
  cases found : backend.findPool poolId with
  | none => rfl
  | some pool =>
    have other : (pool.sessionId == sessionId) ≠ true := by
      intro owned
      apply left
      rw [mem_sessionPools_iff kept, found]
      exact owned
    rw [Option.filter_some, if_pos (by simpa using other)]

theorem SweptOf.shape_was (swept : later.SweptOf backend sessionId)
    (kept : backend.WellKept) {shape : Shape}
    (found : later.shapeOf poolId = some shape) :
    backend.shapeOf poolId = some shape := by
  obtain ⟨pool, in_later, rfl⟩ := Option.map_eq_some_iff.mp found
  rw [swept.findPool kept] at in_later
  obtain ⟨was, -⟩ := Option.filter_eq_some_iff.mp in_later
  exact congrArg (Option.map Pool.shape) was

theorem SweptOf.wellKept (swept : later.SweptOf backend sessionId)
    (kept : backend.WellKept) : later.WellKept := by
  have buffer_of : ∀ place ∈ later.places, place ∈ backend.places ∧
      place.pool ∉ backend.sessionPools sessionId := by
    intro place mem
    obtain ⟨buffer, in_later, rfl⟩ := mem_map.mp mem
    rw [swept.buffers] at in_later
    obtain ⟨mem, left⟩ := mem_filter.mp in_later
    exact ⟨mem_map_of_mem mem, of_decide_eq_true left⟩
  have pool_ids : (later.pools.map Pool.id).Sublist (backend.pools.map Pool.id) := by
    rw [swept.pools]
    exact filter_sublist.map _
  refine ⟨?_, pool_ids.nodup kept.poolsDistinct, ?_, ?_, ?_, ?_, ?_⟩
  · rw [swept.buffers]
    exact (filter_sublist.map _).nodup kept.distinct
  · intro place mem
    exact swept.next ▸ kept.numbered place (buffer_of place mem).1
  · intro poolId mem
    exact swept.next ▸ kept.poolsNumbered poolId (pool_ids.subset mem)
  · intro place mem
    obtain ⟨old, left⟩ := buffer_of place mem
    rw [swept.shapeOf kept left]
    exact kept.housed place old
  · intro poolId shape found
    exact kept.counted poolId shape (swept.shape_was kept found)
  · intro place mem other other_mem
    exact kept.apart place (buffer_of place mem).1 other (buffer_of other other_mem).1

theorem SweptOf.move {ends : Lease → Bool}
    (swept : later.SweptOf backend sessionId) (kept : backend.WellKept)
    (exactly : ∀ lease, ends lease = true ↔ ∃ buffer, backend.findBuffer lease.id = some buffer ∧
        buffer.poolId ∈ backend.sessionPools sessionId) :
    Table.Move backend.leaseTable later.leaseTable [] ends := by
  refine .dropGroups (backend.sessionPools sessionId) kept.numberedTable swept.next ?_ ?_
  · intro id
    simp only [leaseTable, swept.findBuffer kept, Option.filter_map]
    rfl
  · intro lease
    simp [exactly, leaseTable, Buffer.cell]

theorem removed_swept (backend : MockBackend) (sessionId : Nat) (sessions : List Mock.Session) :
    SweptOf
      { (backend.removeOutputsForSession sessionId).removePoolsForSession
          sessionId with sessions := sessions }
      backend sessionId :=
  ⟨foldl_filter_pools _ _, rfl, rfl⟩

/-! ## Whole runs -/

structure MockRequest where
  capacity : Nat
  version : UInt16
  request : Request
  deriving DecidableEq, Repr

def serve (backend : MockBackend) (request : MockRequest) : Served :=
  dispatch request.capacity request.version request.request backend

/-- The request ends the lease: it recycles it, gives out a newer one on the
same buffer, or destroys the session of its pool. -/
def endsLease (backend : MockBackend) (request : MockRequest) (lease : Lease) : Bool :=
  let served := backend.serve request
  match Opcode.ofCode? request.request.opcode with
  | some .recycleBuffer => endsByRecycle request.request.payload served lease
  | some .allocBuffer => endsBySupersede served lease
  | some .destroySession =>
    endsByDestroy backend request.request.payload served lease
  | _ => false

def endsBy (backend : MockBackend) (source : List UInt8)
    (opcode : Option Opcode) (served : Served) (lease : Lease) : Bool :=
  match opcode with
  | some .recycleBuffer => endsByRecycle source served lease
  | some .allocBuffer => endsBySupersede served lease
  | some .destroySession => endsByDestroy backend source served lease
  | _ => false

variable {source : List UInt8} {opcode : Option Opcode}

theorem endsBy_refused (refused : served.reply = none) (lease : Lease) :
    endsBy backend source opcode served lease = false := by
  unfold endsBy
  split
  · simp [endsByRecycle, refused]
  · simp [endsBySupersede, refused]
  · simp [endsByDestroy, refused]
  · rfl

theorem endsBy_leaseless (calm : leaseless opcode = true) (lease : Lease) :
    endsBy backend source opcode served lease = false := by
  unfold endsBy
  split
  · cases calm
  · cases calm
  · cases calm
  · rfl

theorem Step.advances {capacity : Nat} (kept : backend.WellKept)
    (step : Step capacity source backend opcode served) :
    served.Advances backend (endsBy backend source opcode served) := by
  cases step with
  | refused => exact (refuse_unmoved backend _).advances kept (endsBy_refused rfl)
  | answered calm other =>
    exact (write_unmoved backend capacity other).advances kept (endsBy_leaseless calm)
  | done calm =>
    exact (unmoved_of_same rfl rfl (Nat.le_refl _) rfl).advances kept (endsBy_leaseless calm)
  | sessionMade =>
    refine Served.Unmoved.advances ?_ kept fun _ => rfl
    exact unmoved_of_same (by rw [write_backend]) (by rw [write_backend])
      (by rw [write_backend]; exact Nat.le_succ _)
      (leases_write _ capacity (by simp))
  | prepared =>
    refine Served.Unmoved.advances ?_ kept fun _ => rfl
    exact unmoved_of_same rfl rfl (Nat.le_refl _) rfl
  | poolMade payload =>
    have added := kept.addPool (newPool payload backend.nextHostId) rfl rfl
    constructor
    · rw [write_backend]
      exact added
    · intro id later used found
      have other : (newPool payload backend.nextHostId).id ≠ id :=
        Nat.ne_of_gt used
      rw [write_backend, shapeOf_addPool, if_neg other, Option.or_none] at found
      exact ⟨later.count, found⟩
    · rw [leases_write _ _ (by simp [poolReply]), write_backend]
      exact Table.Move.extend kept.numberedTable added.numberedTable
        (Nat.le_succ _) (fun _ _ => rfl) (fun _ => rfl)
  | reused found free => exact reuseBuffer_advances capacity kept free
  | @slotOpened pool start found below range =>
    obtain ⟨given, older⟩ := leases_leaseReply (backend.openSlot pool start) capacity
      (newBuffer pool backend.nextHostId)
    obtain ⟨unused, written⟩ := cell_openSlot pool start kept
    constructor
    · rw [write_backend]
      exact kept.openSlot start found below
    · intro id later _ shape_found
      rw [write_backend, shapeOf_openSlot start found below] at shape_found
      split at shape_found
      next same =>
        obtain rfl := Option.some.inj shape_found
        refine ⟨pool.bufferCount.toNat, ?_⟩
        rw [same, shapeOf, found]
        rfl
      · exact ⟨later.count, shape_found⟩
    · rw [write_backend]
      refine Table.Move.grant kept.numberedTable (Nat.le_succ _)
        (Nat.lt_succ_self _) written (by simp [Buffer.cell, newBuffer]) ?_
        (fun _ => Nat.le_refl _) given older
      intro earlier was
      cases unused.symm.trans was
  | read => exact (write_unmoved backend capacity (by simp)).advances kept fun _ => rfl
  | written =>
    refine Served.Unmoved.advances ?_ kept fun _ => rfl
    exact
      { places := rfl
        cell := fun _ => rfl
        shape := fun id =>
          shapeOf_modifyPool _ id (fun _ => rfl) (fun _ => rfl)
        poolIds := poolIds_modifyPool _ (fun _ => rfl)
        next_le := Nat.le_refl _
        leases := rfl }
  | @recycled buffer found generation =>
    have same_id := (mem_places_of_find found).2
    refine recycled_advances kept (same_id ▸ found) ?_
    rintro ⟨id, other⟩
    rw [same_id, generation]
    simp only [endsBy, endsByRecycle, Option.isSome_some, Bool.true_and,
      Bool.and_eq_true, beq_iff_eq, Lease.mk.injEq]
    exact and_congr eq_comm eq_comm
  | queued found generation writable =>
    exact (encodePicture_unmoved _ _ _ found writable).advances kept fun _ => rfl
  | taken sessionId count calm other =>
    obtain ⟨buffers, pools, next⟩ :=
      takeOutputs_same sessionId count backend []
    refine Served.Unmoved.advances ?_ kept (endsBy_leaseless calm)
    exact unmoved_of_same (by rw [write_backend, buffers])
      (by rw [write_backend, pools]) (by rw [write_backend, next])
      (leases_write _ capacity other)
  | @released output =>
    refine Served.Unmoved.advances ?_ kept fun _ => rfl
    refine modifyBuffer_unmoved output.sourceBufferId rfl rfl rfl rfl ?_ ?_
    · intro buffer
      unfold unqueue
      split <;> rfl
    · intro buffer _
      unfold unqueue
      split
      next queued => simp [Buffer.cell, queued.2]
      · rfl
  | destroyed named =>
    subst named
    have swept := removed_swept backend (HandlePayload.read source).handle.toNat
    refine ⟨(swept _).wellKept kept, fun id later _ found =>
      ⟨later.count, (swept _).shape_was kept found⟩, (swept _).move kept ?_⟩
    intro lease
    simp only [endsBy, endsByDestroy, Option.isSome_some, Bool.true_and,
      Option.any_eq_true, mem_sessionPools_iff kept]

theorem serve_step (request : MockRequest) :
    Step request.capacity request.request.payload backend
      (Opcode.ofCode? request.request.opcode) (backend.serve request) :=
  dispatch_step request.version request.request

theorem serve_advances (kept : backend.WellKept) (request : MockRequest) :
    (backend.serve request).Advances backend (backend.endsLease request) :=
  (serve_step request).advances kept

/-! ## Requests that name an ended lease -/

/-- A buffer that is not held under a lease has another generation or is
recycled. -/
theorem recycled_of_not_current {lease : Lease} (ended : ¬ backend.leaseTable.Current lease)
    (found : backend.findBuffer lease.id = some buffer)
    (generation : buffer.generation = lease.generation) :
    buffer.state = .recycled := by
  by_contra held
  exact ended ⟨buffer.cell, congrArg (Option.map Buffer.cell) found,
    generation, decide_eq_true held⟩

/-- A request that names a lease which is not current is refused and changes
nothing. -/
theorem serve_refused {request : MockRequest} {lease : Lease}
    (ended : ¬ backend.leaseTable.Current lease)
    (names : request.request.namedLease = some lease) :
    ∃ status, status ≠ Status.ok ∧ backend.serve request = backend.refuse status := by
  have step : Step _ _ backend _ (backend.serve request) := serve_step request
  unfold Request.namedLease at names
  dsimp only at names
  generalize Opcode.ofCode? request.request.opcode = opcode at step names
  generalize backend.serve request = served at step ⊢
  cases step with
  | @refused _ status failed =>
    refine ⟨status, fun accepted => ?_, rfl⟩
    rw [failed accepted] at names
    cases names
  | read found generation held | recycled found generation held =>
    cases names
    exact absurd (recycled_of_not_current ended found generation) held
  | written found generation writable | queued found generation writable =>
    cases names
    cases (recycled_of_not_current ended found generation).symm.trans writable
  | answered calm | done calm | taken _ _ calm =>
    split at names
    all_goals first
      | cases calm
      | cases names
  | _ => cases names

end MockBackend

end VtFerry
