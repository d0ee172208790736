import VtFerry.Worker.Mock.Steps

/-!
# The mock backend's buffers as a lease table

The buffers of a mock backend form a lease table.  `WellKept` says that ids
and slots are used once.  Most requests leave the table and the slots alone;
they are `Unmoved`.
-/

namespace VtFerry

open KeyedList LeaseTable Mock

namespace Mock

/-- A buffer's id, pool, slot and size, which never change. -/
structure Place where
  id : Nat
  pool : Nat
  slot : Nat
  size : UInt32
  deriving DecidableEq, Repr

def Buffer.place (buffer : Buffer) : Place where
  id := buffer.id
  pool := buffer.poolId
  slot := buffer.slotIndex.toNat
  size := (MockBackend.fillBufferLayout buffer.width buffer.height buffer.pixelFormat).totalSize

/-- The slots of a pool in use and in all, and their size. -/
structure Shape where
  count : Nat
  capacity : Nat
  size : UInt32
  deriving DecidableEq, Repr

def Pool.shape (pool : Pool) : Shape where
  count := pool.bufferCount.toNat
  capacity := pool.maxBuffers.toNat
  size := (MockBackend.fillBufferLayout pool.width pool.height pool.pixelFormat).totalSize

def Buffer.cell (buffer : Buffer) : Cell where
  group := buffer.poolId
  slot := buffer.slotIndex.toNat
  generation := buffer.generation
  held := buffer.state ≠ .recycled

end Mock

namespace MockBackend

def places (backend : MockBackend) : List Place :=
  backend.buffers.map Buffer.place

def shapeOf (backend : MockBackend) (poolId : Nat) : Option Shape :=
  (backend.findPool poolId).map Pool.shape

def leaseTable (backend : MockBackend) : Table where
  next := backend.nextHostId
  cell id := (backend.findBuffer id).map Buffer.cell

def Served.leases (served : Served) : List Lease :=
  match served.reply with
  | some (.lease reply) => [⟨reply.bufferId, reply.generation⟩]
  | _ => []

/-- Ids are used once, every buffer has a slot of its own in an existing
pool, and a pool opens slots up to its capacity. -/
structure WellKept (backend : MockBackend) : Prop where
  distinct : (backend.buffers.map Buffer.id).Nodup
  poolsDistinct : (backend.pools.map Pool.id).Nodup
  numbered : ∀ place ∈ backend.places, place.id < backend.nextHostId
  poolsNumbered : ∀ poolId ∈ backend.pools.map Pool.id, poolId < backend.nextHostId
  housed : ∀ place ∈ backend.places, ∃ shape,
    backend.shapeOf place.pool = some shape ∧ place.slot < shape.count ∧ place.size = shape.size
  counted : ∀ poolId shape, backend.shapeOf poolId = some shape → shape.count ≤ shape.capacity
  apart : ∀ place ∈ backend.places, ∀ other ∈ backend.places,
    place.pool = other.pool → place.slot = other.slot → place = other

theorem resetFromEnv_wellKept (maxOutputCount maxOutputBytes : Nat) :
    (resetFromEnv maxOutputCount maxOutputBytes).WellKept := by
  refine ⟨List.nodup_nil, List.nodup_nil, ?_, ?_, ?_, ?_, ?_⟩
  all_goals simp [places, shapeOf, findPool, resetFromEnv]

variable {backend : MockBackend}

theorem mem_places_of_find {id : Nat} {buffer : Buffer}
    (found : backend.findBuffer id = some buffer) :
    buffer.place ∈ backend.places ∧ buffer.id = id :=
  ⟨List.mem_map_of_mem (mem_of_find found), key_of_find found⟩

theorem WellKept.numberedTable (kept : backend.WellKept) :
    backend.leaseTable.Numbered := by
  intro id cell found
  obtain ⟨buffer, found, -⟩ := Option.map_eq_some_iff.mp found
  obtain ⟨mem, rfl⟩ := mem_places_of_find found
  exact kept.numbered _ mem

def capacityOf (backend : MockBackend) (poolId : Nat) : Nat :=
  ((backend.shapeOf poolId).map Shape.capacity).getD 0

theorem WellKept.slotted (kept : backend.WellKept) :
    backend.leaseTable.Slotted backend.capacityOf where
  slot_lt id cell found _ := by
    obtain ⟨buffer, at_id, rfl⟩ := Option.map_eq_some_iff.mp found
    obtain ⟨mem, -⟩ := mem_places_of_find at_id
    obtain ⟨shape, shape_found, slot_lt, _⟩ := kept.housed _ mem
    have bound := kept.counted _ shape shape_found
    have capacity : backend.capacityOf buffer.poolId = shape.capacity := by
      unfold capacityOf
      rw [show backend.shapeOf buffer.poolId = some shape from shape_found]
      rfl
    exact capacity.symm ▸ Nat.lt_of_lt_of_le slot_lt bound
  distinct id other cell cellToo found found_too group slot := by
    obtain ⟨buffer, at_id, rfl⟩ := Option.map_eq_some_iff.mp found
    obtain ⟨bufferToo, at_other, rfl⟩ := Option.map_eq_some_iff.mp found_too
    obtain ⟨mem, rfl⟩ := mem_places_of_find at_id
    obtain ⟨mem_too, rfl⟩ := mem_places_of_find at_other
    exact congrArg Place.id (kept.apart _ mem _ mem_too group slot)

/-! ## Requests that leave leases alone -/

/-- The request moves no buffer, ends no lease and gives out none. -/
structure Served.Unmoved (served : Served) (backend : MockBackend) :
    Prop where
  places : served.backend.places = backend.places
  cell : ∀ id, served.backend.leaseTable.cell id = backend.leaseTable.cell id
  shape : ∀ id, served.backend.shapeOf id = backend.shapeOf id
  poolIds : served.backend.pools.map Pool.id = backend.pools.map Pool.id
  next_le : backend.nextHostId ≤ served.backend.nextHostId
  leases : served.leases = []

theorem bufferIds_eq_places (backend : MockBackend) :
    backend.buffers.map Buffer.id = backend.places.map Place.id := by
  simp [MockBackend.places, Buffer.place, Function.comp_def]

theorem WellKept.transport {later : MockBackend} (kept : backend.WellKept)
    (places : later.places = backend.places)
    (shape : ∀ id, later.shapeOf id = backend.shapeOf id)
    (poolIds : later.pools.map Pool.id = backend.pools.map Pool.id)
    (next_le : backend.nextHostId ≤ later.nextHostId) : later.WellKept where
  distinct := by
    rw [bufferIds_eq_places, places, ← bufferIds_eq_places]
    exact kept.distinct
  poolsDistinct := poolIds ▸ kept.poolsDistinct
  numbered place mem :=
    Nat.lt_of_lt_of_le (kept.numbered place (places ▸ mem)) next_le
  poolsNumbered poolId mem :=
    Nat.lt_of_lt_of_le (kept.poolsNumbered poolId (poolIds ▸ mem)) next_le
  housed place mem := by
    rw [shape]
    exact kept.housed place (places ▸ mem)
  counted poolId found_shape found :=
    kept.counted poolId found_shape (shape poolId ▸ found)
  apart := places ▸ kept.apart

variable {served : Served}

theorem Served.Unmoved.wellKept (unmoved : served.Unmoved backend) (kept : backend.WellKept) :
    served.backend.WellKept :=
  kept.transport unmoved.places unmoved.shape unmoved.poolIds unmoved.next_le

theorem Served.Unmoved.move {ends : Lease → Bool} (unmoved : served.Unmoved backend)
    (kept : backend.WellKept) (quiet : ∀ lease, ends lease = false) :
    Table.Move backend.leaseTable served.backend.leaseTable served.leases
      ends := by
  rw [unmoved.leases]
  exact Table.Move.extend kept.numberedTable (unmoved.wellKept kept).numberedTable unmoved.next_le
    (fun id _ => unmoved.cell id) quiet

theorem leases_write (backend : MockBackend) (capacity : Nat)
    {body : ReplyBody} (other : ∀ reply, body ≠ .lease reply) :
    (backend.write capacity body).leases = [] := by
  unfold write
  split
  · rfl
  · unfold Served.leases
    split
    next reply found => exact absurd (Option.some.inj found) (other reply)
    · rfl

@[simp] theorem write_backend (backend : MockBackend) (capacity : Nat)
    (body : ReplyBody) : (backend.write capacity body).backend = backend := by
  unfold write
  split <;> rfl

theorem unmoved_of_same (buffers : served.backend.buffers = backend.buffers)
    (pools : served.backend.pools = backend.pools)
    (next_le : backend.nextHostId ≤ served.backend.nextHostId) (leases : served.leases = []) :
    served.Unmoved backend where
  places := by simp only [MockBackend.places, buffers]
  cell id := by simp only [leaseTable, findBuffer, buffers]
  shape id := by simp only [shapeOf, findPool, pools]
  poolIds := by rw [pools]
  next_le := next_le
  leases := leases

theorem refuse_unmoved (backend : MockBackend) (status : UInt32) :
    (backend.refuse status).Unmoved backend :=
  unmoved_of_same rfl rfl (Nat.le_refl _) rfl

theorem write_unmoved (backend : MockBackend) (capacity : Nat)
    {body : ReplyBody} (other : ∀ reply, body ≠ .lease reply) :
    (backend.write capacity body).Unmoved backend := by
  refine unmoved_of_same ?_ ?_ ?_ (leases_write backend capacity other)
  · rw [write_backend]
  · rw [write_backend]
  · rw [write_backend]

theorem takeOutput_same {sessionId : Nat} {reply : DequeueOutputReply} {taken : MockBackend}
    (took : backend.takeOutput sessionId = some (reply, taken)) :
    taken.buffers = backend.buffers ∧ taken.pools = backend.pools ∧
      taken.nextHostId = backend.nextHostId := by
  obtain ⟨output, -, same⟩ := Option.map_eq_some_iff.mp took
  obtain ⟨-, rfl⟩ := Prod.mk.inj same
  exact ⟨rfl, rfl, rfl⟩

theorem takeOutputs_same (sessionId remaining : Nat) (backend : MockBackend)
    (replies : List DequeueOutputReply) :
    (takeOutputs sessionId remaining backend replies).1.buffers = backend.buffers ∧
      (takeOutputs sessionId remaining backend replies).1.pools = backend.pools ∧
      (takeOutputs sessionId remaining backend replies).1.nextHostId =
        backend.nextHostId := by
  induction remaining generalizing backend replies with
  | zero => exact ⟨rfl, rfl, rfl⟩
  | succ remaining induction =>
    rw [takeOutputs]
    split
    · exact ⟨rfl, rfl, rfl⟩
    next reply taken took =>
      obtain ⟨buffers, pools, next⟩ := takeOutput_same took
      obtain ⟨buffers', pools', next'⟩ := induction taken (replies ++ [reply])
      exact ⟨buffers'.trans buffers, pools'.trans pools, next'.trans next⟩

/-! ## Changes of one pool or one buffer -/

theorem findPool_modifyPool {change : Pool → Pool} (id other : Nat)
    (keepsId : ∀ pool, (change pool).id = pool.id) :
    (backend.modifyPool id change).findPool other =
      if other = id then (backend.findPool id).map change
      else backend.findPool other :=
  find_modifyFirst backend.pools id other keepsId

theorem shapeOf_modifyPool {change : Pool → Pool} (id other : Nat)
    (keepsId : ∀ pool, (change pool).id = pool.id)
    (keepsShape : ∀ pool, (change pool).shape = pool.shape) :
    (backend.modifyPool id change).shapeOf other = backend.shapeOf other := by
  unfold shapeOf
  rw [findPool_modifyPool id other keepsId]
  split
  next same =>
    subst same
    rw [Option.map_map]
    congr 1
    funext pool
    exact keepsShape pool
  · rfl

theorem poolIds_modifyPool {change : Pool → Pool} (id : Nat)
    (keepsId : ∀ pool, (change pool).id = pool.id) :
    (backend.modifyPool id change).pools.map Pool.id = backend.pools.map Pool.id :=
  map_modifyFirst backend.pools keepsId

theorem findBuffer_modifyBuffer {change : Buffer → Buffer} (id other : Nat)
    (keeps : ∀ buffer, (change buffer).place = buffer.place) :
    (backend.modifyBuffer id change).findBuffer other =
      if other = id then (backend.findBuffer id).map change
      else backend.findBuffer other :=
  find_modifyFirst backend.buffers id other fun buffer =>
    congrArg Place.id (keeps buffer)

theorem places_modifyBuffer {change : Buffer → Buffer} (id : Nat)
    (keeps : ∀ buffer, (change buffer).place = buffer.place) :
    (backend.modifyBuffer id change).places = backend.places :=
  map_modifyFirst backend.buffers keeps

theorem zeroSlot_shapeOf (poolId start other : Nat) :
    (backend.zeroSlot poolId start).shapeOf other = backend.shapeOf other :=
  shapeOf_modifyPool poolId other (fun _ => rfl) (fun _ => rfl)

theorem modifyBuffer_unmoved {change : Buffer → Buffer} (id : Nat)
    (buffers : served.backend.buffers = (backend.modifyBuffer id change).buffers)
    (pools : served.backend.pools = backend.pools)
    (next : served.backend.nextHostId = backend.nextHostId) (leases : served.leases = [])
    (places : ∀ buffer, (change buffer).place = buffer.place)
    (cells : ∀ buffer, backend.findBuffer id = some buffer → (change buffer).cell = buffer.cell) :
    served.Unmoved backend where
  places := by
    simp only [MockBackend.places, buffers]
    exact places_modifyBuffer id places
  cell other := by
    have found : (backend.modifyBuffer id change).findBuffer other = _ :=
      findBuffer_modifyBuffer id other places
    simp only [leaseTable, findBuffer, buffers] at found ⊢
    rw [found]
    split
    next same =>
      subst same
      cases at_id : backend.findBuffer other with
      | none =>
        simp only [findBuffer] at at_id
        simp [at_id]
      | some buffer =>
        have cell := cells buffer at_id
        simp only [findBuffer] at at_id
        simp [at_id, cell]
    · rfl
  shape _ := by simp only [shapeOf, findPool, pools]
  poolIds := by rw [pools]
  next_le := next.ge
  leases := leases

theorem encodePicture_unmoved {id : Nat} (session : Mock.Session)
    {buffer : Buffer} (payload : EncodeFramePayload) (picture : List UInt8)
    (found : backend.findBuffer id = some buffer)
    (writable : buffer.state = .guestWritable) :
    (encodePicture session buffer payload picture backend).Unmoved
      backend := by
  have same_id : buffer.id = id := (mem_places_of_find found).2
  unfold encodePicture
  dsimp only
  split
  · exact refuse_unmoved backend _
  split
  · exact refuse_unmoved backend _
  · refine modifyBuffer_unmoved buffer.id rfl rfl rfl rfl (fun _ => rfl) ?_
    intro other found_other
    obtain rfl : buffer = other := by
      rw [same_id, found] at found_other
      exact Option.some.inj found_other
    simp [Buffer.cell, writable]

end MockBackend

end VtFerry
