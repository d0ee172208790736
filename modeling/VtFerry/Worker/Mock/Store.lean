import VtFerry.Worker.Mock.Leases
import VtFerry.Worker.Server

/-!
# The mock backend's store

What holds of the mock backend's tables after every run.  The books: ids are
used once, the byte counter is the sum of the stored samples, and the limits
are kept.  The fit: every buffer lies over a slot of a pool made for the same
picture.  A request keeps the books or makes one entry in them, and it keeps
the fit or adds a pool or a buffer.  It follows that no slice taken by
`dispatch` is out of range, that no subtraction saturates, and that a refused
request has changed nothing.
-/

namespace VtFerry

open KeyedList List Mock

namespace Mock

structure Entry where
  id : Nat
  bytes : Nat
  deriving DecidableEq, Repr

def Output.entry (output : Output) : Entry :=
  ⟨output.reply.outputId, output.reply.sampleSize.toNat⟩

/-- The picture a pool is made for, its slot size and its memory. -/
structure Extent where
  width : UInt32
  height : UInt32
  pixelFormat : UInt32
  slotRegionSize : UInt32
  backing : Nat
  deriving DecidableEq, Repr

def Pool.extent (pool : Pool) : Extent :=
  ⟨pool.width, pool.height, pool.pixelFormat, pool.slotRegionSize, pool.backing.length⟩

/-- What a buffer takes of its pool. -/
structure Footprint where
  poolId : Nat
  slotIndex : UInt32
  width : UInt32
  height : UInt32
  pixelFormat : UInt32
  totalSize : Nat
  deriving DecidableEq, Repr

def Buffer.footprint (buffer : Buffer) : Footprint :=
  ⟨buffer.poolId, buffer.slotIndex, buffer.width, buffer.height,
    buffer.pixelFormat, buffer.totalSize⟩

/-- The pool is made for the buffer's picture, and the buffer's slot lies
inside its memory. -/
structure Footprint.Fits (footprint : Footprint) (extent : Extent) : Prop where
  width : footprint.width = extent.width
  height : footprint.height = extent.height
  pixelFormat : footprint.pixelFormat = extent.pixelFormat
  size : footprint.totalSize = extent.slotRegionSize.toNat
  slot : ∃ start, MockBackend.slotRange footprint.slotIndex
    extent.slotRegionSize extent.backing = some start

end Mock

namespace MockBackend

def sessionIds (backend : MockBackend) : List Nat :=
  backend.sessions.map Session.id

def entries (backend : MockBackend) : List Entry :=
  backend.outputs.map Output.entry

def footprints (backend : MockBackend) : List Footprint :=
  backend.buffers.map Buffer.footprint

def extentOf (backend : MockBackend) (poolId : Nat) : Option Extent :=
  (backend.findPool poolId).map Pool.extent

/-! ## The books -/

/-- Session and output ids are used once, the byte counter is the sum of the
stored samples, and the limits are kept. -/
structure Booked (backend : MockBackend) : Prop where
  sessionsDistinct : backend.sessionIds.Nodup
  sessionsNumbered : ∀ id ∈ backend.sessionIds, id < backend.nextHostId
  outputsDistinct : (backend.entries.map Entry.id).Nodup
  outputsNumbered : ∀ entry ∈ backend.entries, entry.id < backend.nextOutputId
  counted : backend.outputBytesTotal = (backend.entries.map Entry.bytes).sum
  bytes_le : backend.outputBytesTotal ≤ backend.maxOutputBytes
  count_le : backend.entries.length ≤ backend.maxOutputCount

/-- The books are as before; host ids may have been used. -/
structure SameBooks (backend later : MockBackend) : Prop where
  sessionIds : later.sessionIds = backend.sessionIds
  entries : later.entries = backend.entries
  total : later.outputBytesTotal = backend.outputBytesTotal
  nextOutput : later.nextOutputId = backend.nextOutputId
  maxCount : later.maxOutputCount = backend.maxOutputCount
  maxBytes : later.maxOutputBytes = backend.maxOutputBytes
  nextHost_le : backend.nextHostId ≤ later.nextHostId

variable {backend later : MockBackend}

theorem Booked.transport (booked : backend.Booked)
    (same : backend.SameBooks later) : later.Booked where
  sessionsDistinct := same.sessionIds ▸ booked.sessionsDistinct
  sessionsNumbered id mem :=
    Nat.lt_of_lt_of_le (booked.sessionsNumbered id (same.sessionIds ▸ mem)) same.nextHost_le
  outputsDistinct := same.entries ▸ booked.outputsDistinct
  outputsNumbered := by
    rw [same.entries, same.nextOutput]
    exact booked.outputsNumbered
  counted := by rw [same.total, same.entries, booked.counted]
  bytes_le := by
    rw [same.total, same.maxBytes]
    exact booked.bytes_le
  count_le := by
    rw [same.entries, same.maxCount]
    exact booked.count_le

theorem SameBooks.refl (backend : MockBackend) : backend.SameBooks backend :=
  ⟨rfl, rfl, rfl, rfl, rfl, rfl, Nat.le_refl _⟩

theorem SameBooks.trans {last : MockBackend}
    (first : backend.SameBooks later) (second : later.SameBooks last) :
    backend.SameBooks last where
  sessionIds := second.sessionIds.trans first.sessionIds
  entries := second.entries.trans first.entries
  total := second.total.trans first.total
  nextOutput := second.nextOutput.trans first.nextOutput
  maxCount := second.maxCount.trans first.maxCount
  maxBytes := second.maxBytes.trans first.maxBytes
  nextHost_le := Nat.le_trans first.nextHost_le second.nextHost_le

theorem sameBooks_of_tables (nextHostId : Nat) (pools : List Pool) (buffers : List Buffer)
    (next_le : backend.nextHostId ≤ nextHostId) :
    backend.SameBooks
      { backend with
        nextHostId := nextHostId
        pools := pools
        buffers := buffers } :=
  ⟨rfl, rfl, rfl, rfl, rfl, rfl, next_le⟩

theorem takeOutput_sameBooks {sessionId : Nat} {reply : DequeueOutputReply} {taken : MockBackend}
    (took : backend.takeOutput sessionId = some (reply, taken)) :
    backend.SameBooks taken := by
  obtain ⟨output, -, same⟩ := Option.map_eq_some_iff.mp took
  obtain ⟨-, rfl⟩ := Prod.mk.inj same
  exact ⟨rfl, map_modifyFirst _ fun _ => rfl, rfl, rfl, rfl, rfl, Nat.le_refl _⟩

theorem takeOutputs_sameBooks (sessionId remaining : Nat)
    (backend : MockBackend) (replies : List DequeueOutputReply) :
    backend.SameBooks (takeOutputs sessionId remaining backend replies).1 := by
  induction remaining generalizing backend replies with
  | zero => exact SameBooks.refl backend
  | succ remaining induction =>
    rw [takeOutputs]
    split
    · exact SameBooks.refl backend
    next reply taken took => exact (takeOutput_sameBooks took).trans (induction taken _)

/-! ### Requests that make an entry -/

/-- The limits stay as configured. -/
def SameLimits (backend later : MockBackend) : Prop :=
  later.maxOutputCount = backend.maxOutputCount ∧ later.maxOutputBytes = backend.maxOutputBytes

theorem SameBooks.sameLimits (same : backend.SameBooks later) :
    backend.SameLimits later :=
  ⟨same.maxCount, same.maxBytes⟩

theorem Booked.addSession (booked : backend.Booked) (session : Mock.Session)
    (id : session.id = backend.nextHostId) :
    Booked { backend with
      nextHostId := backend.nextHostId + 1
      sessions := backend.sessions ++ [session] } := by
  refine { booked with sessionsDistinct := ?_, sessionsNumbered := ?_ }
  · rw [sessionIds, map_append]
    refine booked.sessionsDistinct.append (nodup_singleton _) ?_
    intro other old new
    obtain rfl := mem_singleton.mp new
    have bound := booked.sessionsNumbered _ old
    omega
  · intro other mem
    rw [sessionIds, map_append] at mem
    rcases mem_append.mp mem with old | new
    · exact Nat.lt_succ_of_lt (booked.sessionsNumbered other old)
    · obtain rfl := mem_singleton.mp new
      exact id ▸ Nat.lt_succ_self _

theorem length_mockNalUnit (sync : Bool) (sessionId outputId : Nat) (picture : List UInt8) :
    (mockNalUnit sync sessionId outputId picture).length = 24 := by
  have short : (picture.take 8).length ≤ 8 := length_take_le 8 picture
  simp only [mockNalUnit, length_append, length_cons, length_map, length_range]
  omega

theorem Booked.addOutput (booked : backend.Booked) {output : Output}
    (id : output.entry.id = backend.nextOutputId)
    (room : backend.outputs.length < backend.maxOutputCount)
    (budget : backend.outputBytesTotal + output.entry.bytes ≤ backend.maxOutputBytes)
    (sessionIds : later.sessionIds = backend.sessionIds)
    (outputs : later.outputs = backend.outputs ++ [output])
    (total : later.outputBytesTotal = backend.outputBytesTotal + output.entry.bytes)
    (nextOutput : later.nextOutputId = backend.nextOutputId + 1)
    (nextHost : later.nextHostId = backend.nextHostId)
    (limits : backend.SameLimits later) : later.Booked := by
  have entries_eq : later.entries = backend.entries ++ [output.entry] := by
    rw [entries, outputs, map_append]
    rfl
  constructor
  · exact sessionIds ▸ booked.sessionsDistinct
  · rw [sessionIds, nextHost]
    exact booked.sessionsNumbered
  · rw [entries_eq, map_append]
    refine booked.outputsDistinct.append (nodup_singleton _) ?_
    intro other old new
    obtain rfl := mem_singleton.mp new
    obtain ⟨entry, mem, same⟩ := mem_map.mp old
    have bound := booked.outputsNumbered entry mem
    omega
  · intro entry mem
    rw [entries_eq] at mem
    rw [nextOutput]
    rcases mem_append.mp mem with old | new
    · exact Nat.lt_succ_of_lt (booked.outputsNumbered entry old)
    · obtain rfl := mem_singleton.mp new
      exact id ▸ Nat.lt_succ_self _
  · rw [entries_eq, total, booked.counted, map_append, sum_append, map_singleton, sum_singleton]
  · rw [total, limits.2]
    exact budget
  · rw [entries_eq, limits.1, length_append, length_singleton, entries, length_map]
    exact room

theorem encodePicture_booked (session : Mock.Session) (buffer : Buffer)
    (payload : EncodeFramePayload) (picture : List UInt8)
    (booked : backend.Booked) :
    (encodePicture session buffer payload picture backend).backend.Booked ∧ backend.SameLimits
        (encodePicture session buffer payload picture backend).backend := by
  unfold encodePicture
  dsimp only
  split
  · exact ⟨booked, rfl, rfl⟩
  next room =>
    split
    · exact ⟨booked, rfl, rfl⟩
    next budget =>
      rw [length_mockNalUnit] at budget ⊢
      refine ⟨?_, rfl, rfl⟩
      have size (output : Nat) (nalUnit : List UInt8) (length : nalUnit.length = 24) :
          (mockOutput session buffer payload output nalUnit).entry.bytes =
            28 := by
        simp only [Output.entry, mockOutput, length]
        rfl
      have sized := size backend.nextOutputId _ (length_mockNalUnit (session.framesEncoded == 0)
          payload.sessionId.toNat backend.nextOutputId
          (picture.take (min 8 buffer.totalSize)))
      refine booked.addOutput rfl (Nat.lt_of_not_le room) ?_
        (map_modifyFirst _ fun _ => rfl) rfl ?_ rfl rfl ⟨rfl, rfl⟩
      · rw [sized]
        omega
      · rw [sized]

theorem Booked.shrink (booked : backend.Booked)
    (sessions : later.sessionIds.Sublist backend.sessionIds)
    (entries : later.entries.Sublist backend.entries)
    (total : later.outputBytesTotal = (later.entries.map Entry.bytes).sum)
    (less : later.outputBytesTotal ≤ backend.outputBytesTotal)
    (nextOutput : later.nextOutputId = backend.nextOutputId)
    (nextHost : later.nextHostId = backend.nextHostId)
    (limits : backend.SameLimits later) : later.Booked where
  sessionsDistinct := sessions.nodup booked.sessionsDistinct
  sessionsNumbered id mem := by
    rw [nextHost]
    exact booked.sessionsNumbered id (sessions.subset mem)
  outputsDistinct := (entries.map _).nodup booked.outputsDistinct
  outputsNumbered entry mem := by
    rw [nextOutput]
    exact booked.outputsNumbered entry (entries.subset mem)
  counted := total
  bytes_le := by
    rw [limits.2]
    exact Nat.le_trans less booked.bytes_le
  count_le := by
    rw [limits.1]
    exact Nat.le_trans entries.length_le booked.count_le

theorem Booked.session_le (booked : backend.Booked) (sessionId : Nat) :
    ((backend.outputs.filter fun output =>
        output.reply.sessionId == sessionId).map fun output =>
          output.reply.sampleSize.toNat).sum +
      ((backend.removeOutputsForSession sessionId).entries.map
        Entry.bytes).sum = backend.outputBytesTotal := by
  rw [booked.counted, entries, entries, map_map, map_map]
  exact sum_filter_add (fun output => output.reply.sessionId == sessionId)
    (fun output => output.reply.sampleSize.toNat) backend.outputs

theorem Booked.output_le (booked : backend.Booked) {test : Output → Bool}
    {output : Output} (found : backend.outputs.find? test = some output) :
    output.reply.sampleSize.toNat + ((backend.outputs.eraseP test).map fun output =>
          output.reply.sampleSize.toNat).sum = backend.outputBytesTotal := by
  rw [booked.counted, entries, map_map]
  exact sum_eraseP (fun output => output.reply.sampleSize.toNat) found

/-! ## The fit -/

/-- Every buffer fits an existing pool. -/
def Fitting (backend : MockBackend) : Prop :=
  ∀ footprint ∈ backend.footprints, ∃ extent,
    backend.extentOf footprint.poolId = some extent ∧ footprint.Fits extent

/-- Buffers take what they took, and pools have the extent they had. -/
structure SameFit (backend later : MockBackend) : Prop where
  footprints : later.footprints = backend.footprints
  extent : ∀ poolId, later.extentOf poolId = backend.extentOf poolId

theorem Fitting.transport (fitting : backend.Fitting)
    (same : backend.SameFit later) : later.Fitting := by
  intro footprint mem
  rw [same.extent]
  exact fitting footprint (same.footprints ▸ mem)

theorem SameFit.refl (backend : MockBackend) : backend.SameFit backend :=
  ⟨rfl, fun _ => rfl⟩

theorem sameFit_of_same (buffers : later.buffers = backend.buffers)
    (pools : later.pools = backend.pools) : backend.SameFit later where
  footprints := by simp only [MockBackend.footprints, buffers]
  extent poolId := by simp only [extentOf, findPool, pools]

theorem sameFit_of_states {test : Buffer → Bool} {change : Buffer → Buffer}
    (buffers : later.buffers = modifyFirst test change backend.buffers)
    (pools : later.pools = backend.pools)
    (keeps : ∀ buffer, (change buffer).footprint = buffer.footprint) :
    backend.SameFit later where
  footprints := by
    rw [MockBackend.footprints, buffers]
    exact map_modifyFirst backend.buffers keeps
  extent poolId := by simp only [extentOf, findPool, pools]

variable {start : Nat}

theorem slotRange_eq_some_iff {slotIndex slotRegionSize : UInt32} {backing : Nat} :
    slotRange slotIndex slotRegionSize backing = some start ↔ slotRegionSize ≠ 0 ∧
        start = slotIndex.toNat * slotRegionSize.toNat ∧
        start + slotRegionSize.toNat ≤ backing := by
  unfold slotRange
  by_cases empty : slotRegionSize = 0
  · simp [empty]
  · rw [if_neg empty]
    by_cases outside : slotIndex.toNat * slotRegionSize.toNat + slotRegionSize.toNat > backing
    · rw [if_pos outside]
      constructor
      · intro none_is
        cases none_is
      · rintro ⟨-, rfl, inside⟩
        omega
    · rw [if_neg outside, Option.some.injEq]
      constructor
      · rintro rfl
        exact ⟨empty, rfl, Nat.le_of_not_lt outside⟩
      · rintro ⟨-, rfl, -⟩
        rfl

variable {bytes : List UInt8} {offset : Nat}

theorem length_overwrite {backing : List UInt8} (inside : offset + bytes.length ≤ backing.length) :
    (overwrite backing offset bytes).length = backing.length := by
  simp only [overwrite, length_append, length_take, length_drop]
  omega

variable {pool : Pool}

theorem extentOf_modifyPool (change : Pool → Pool) (found : backend.findPool pool.id = some pool)
    (keepsId : ∀ pool, (change pool).id = pool.id)
    (keeps : (change pool).extent = pool.extent) (poolId : Nat) :
    (backend.modifyPool pool.id change).extentOf poolId =
      backend.extentOf poolId := by
  unfold extentOf
  rw [findPool_modifyPool pool.id poolId keepsId]
  by_cases same : poolId = pool.id
  · rw [if_pos same, same, found, Option.map_some, Option.map_some, keeps]
    rfl
  · rw [if_neg same]

theorem extentOf_written (found : backend.findPool pool.id = some pool)
    (inside : offset + bytes.length ≤ pool.backing.length) (poolId : Nat) :
    (backend.modifyPool pool.id fun pool =>
      { pool with backing := overwrite pool.backing offset bytes }).extentOf
        poolId = backend.extentOf poolId := by
  refine extentOf_modifyPool _ found ?_ ?_ poolId
  · exact fun _ => rfl
  · simp only [Pool.extent, length_overwrite inside]

theorem extentOf_zeroSlot (found : backend.findPool pool.id = some pool)
    (inside : start + pool.slotRegionSize.toNat ≤ pool.backing.length)
    (poolId : Nat) :
    (backend.zeroSlot pool.id start).extentOf poolId =
      backend.extentOf poolId := by
  have zeros : start + (replicate pool.slotRegionSize.toNat
      (0 : UInt8)).length ≤ pool.backing.length := by
    rw [length_replicate]
    exact inside
  refine extentOf_modifyPool _ found ?_ ?_ poolId
  · exact fun _ => rfl
  · simp only [Pool.extent, length_overwrite zeros]

variable {buffer : Buffer}

theorem Fitting.written {id : Nat} (fitting : backend.Fitting)
    (found : backend.findBuffer id = some buffer)
    (poolFound : backend.findPool buffer.poolId = some pool)
    (range : slotRange buffer.slotIndex pool.slotRegionSize pool.backing.length = some start)
    (within : offset + bytes.length ≤ buffer.totalSize) (poolId : Nat) :
    (backend.modifyPool pool.id fun pool =>
      { pool with
        backing := overwrite pool.backing (start + offset) bytes }).extentOf
          poolId = backend.extentOf poolId := by
  obtain ⟨extent, extent_found, fits⟩ := fitting _ (mem_map_of_mem (mem_of_find found))
  have same_extent : extent = pool.extent := by
    rw [show backend.extentOf buffer.footprint.poolId = _ from
      congrArg (Option.map Pool.extent) poolFound] at extent_found
    exact (Option.some.inj extent_found).symm
  have size : buffer.totalSize = pool.slotRegionSize.toNat := by
    rw [same_extent] at fits
    exact fits.size
  obtain ⟨-, -, inside⟩ := slotRange_eq_some_iff.mp range
  refine extentOf_written (findPool_self poolFound) ?_ poolId
  omega

/-! ### Requests that add a pool or a buffer -/

theorem Fitting.addPool (fitting : backend.Fitting) (nextHostId : Nat) (pool : Pool) :
    Fitting { backend with
      nextHostId := nextHostId
      pools := backend.pools ++ [pool] } := by
  intro footprint mem
  obtain ⟨extent, extent_found, fits⟩ := fitting footprint mem
  obtain ⟨pool, found, rfl⟩ := Option.map_eq_some_iff.mp extent_found
  refine ⟨pool.extent, ?_, fits⟩
  unfold extentOf findPool at *
  rw [find_append_singleton, found, Option.some_or, Option.map_some]

theorem reuseBuffer_sameFit (capacity : Nat) (buffer : Buffer)
    (found : backend.findPool pool.id = some pool) :
    backend.SameFit (reuseBuffer capacity pool buffer backend).backend := by
  unfold reuseBuffer
  dsimp only
  split
  · exact sameFit_of_states rfl rfl fun _ => rfl
  next start range =>
    obtain ⟨-, -, inside⟩ := slotRange_eq_some_iff.mp range
    rw [write_backend]
    refine ⟨map_modifyFirst _ fun _ => rfl, ?_⟩
    exact extentOf_zeroSlot found inside

theorem Fitting.openSlot (fitting : backend.Fitting) (found : backend.findPool pool.id = some pool)
    (range : slotRange pool.bufferCount pool.slotRegionSize pool.backing.length = some start) :
    (backend.openSlot pool start).Fitting := by
  obtain ⟨-, -, inside⟩ := slotRange_eq_some_iff.mp range
  have extent_eq (poolId : Nat) :
      (backend.openSlot pool start).extentOf poolId =
        backend.extentOf poolId := by
    have zeroed : (backend.zeroSlot pool.id start).findPool pool.id = _ :=
      findPool_modifyPool pool.id pool.id fun _ => rfl
    rw [if_pos rfl, found, Option.map_some] at zeroed
    refine Eq.trans ?_ (extentOf_zeroSlot found inside poolId)
    exact extentOf_modifyPool (fun pool => { pool with bufferCount := pool.bufferCount + 1 })
      (findPool_self zeroed) (fun _ => rfl) rfl poolId
  intro footprint mem
  rw [extent_eq]
  rw [footprints, MockBackend.openSlot, map_append] at mem
  rcases mem_append.mp mem with old | new
  · exact fitting footprint old
  · obtain rfl := mem_singleton.mp new
    exact ⟨pool.extent, congrArg (Option.map Pool.extent) found, rfl, rfl, rfl, rfl, start, range⟩

theorem SweptOf.fitting {sessionId : Nat}
    (swept : later.SweptOf backend sessionId) (kept : backend.WellKept)
    (fitting : backend.Fitting) : later.Fitting := by
  intro footprint mem
  rw [footprints, swept.buffers] at mem
  obtain ⟨buffer, swept_mem, rfl⟩ := mem_map.mp mem
  obtain ⟨was, left⟩ := mem_filter.mp swept_mem
  obtain ⟨extent, extent_found, fits⟩ := fitting _ (mem_map_of_mem was)
  obtain ⟨pool, found, rfl⟩ := Option.map_eq_some_iff.mp extent_found
  refine ⟨pool.extent, ?_, fits⟩
  have other : (pool.sessionId != sessionId) = true := by
    have outside := of_decide_eq_true left
    rw [mem_sessionPools_iff kept,
      show backend.findPool buffer.poolId = some pool from found] at outside
    simpa using outside
  have still : later.findPool buffer.footprint.poolId = some pool := by
    rw [swept.findPool kept, found, Option.filter_some, if_pos other]
  exact congrArg (Option.map Pool.extent) still

/-! ## Every request keeps the store -/

structure Sound (backend : MockBackend) : Prop where
  kept : backend.WellKept
  booked : backend.Booked
  fitting : backend.Fitting

theorem resetFromEnv_sound (maxOutputCount maxOutputBytes : Nat) :
    (resetFromEnv maxOutputCount maxOutputBytes).Sound := by
  refine ⟨resetFromEnv_wellKept _ _, ?_, ?_⟩
  · constructor
    all_goals simp [sessionIds, entries, resetFromEnv]
  · intro footprint mem
    exact absurd mem (not_mem_nil)

/-- What a request leaves of the books, the limits and the fit. -/
structure Keeps (backend later : MockBackend) : Prop where
  booked : later.Booked
  limits : backend.SameLimits later
  fitting : later.Fitting

theorem Sound.keeps_same (sound : backend.Sound)
    (books : backend.SameBooks later) (fit : backend.SameFit later) :
    backend.Keeps later :=
  ⟨sound.booked.transport books, books.sameLimits, sound.fitting.transport fit⟩

theorem Sound.keeps_booked (sound : backend.Sound) (books : later.Booked ∧ backend.SameLimits later)
    (fit : backend.SameFit later) : backend.Keeps later :=
  ⟨books.1, books.2, sound.fitting.transport fit⟩

theorem Sound.keeps_fitting (sound : backend.Sound)
    (books : backend.SameBooks later) (fitting : later.Fitting) :
    backend.Keeps later :=
  ⟨sound.booked.transport books, books.sameLimits, fitting⟩

theorem Step.keeps {capacity : Nat} {source : List UInt8}
    {opcode : Option Opcode} {served : Served} (sound : backend.Sound)
    (step : Step capacity source backend opcode served) :
    backend.Keeps served.backend := by
  have unchanged : backend.Keeps backend :=
    sound.keeps_same (SameBooks.refl backend) (SameFit.refl backend)
  cases step with
  | refused => exact unchanged
  | answered | read =>
    rw [write_backend]
    exact unchanged
  | done => exact unchanged
  | sessionMade id =>
    rw [write_backend]
    exact sound.keeps_booked ⟨sound.booked.addSession _ id, rfl, rfl⟩ (sameFit_of_same rfl rfl)
  | prepared =>
    refine sound.keeps_same ?_ (sameFit_of_same rfl rfl)
    exact ⟨map_modifyFirst _ fun _ => rfl, rfl, rfl, rfl, rfl, rfl, Nat.le_refl _⟩
  | poolMade =>
    rw [write_backend]
    exact sound.keeps_fitting (sameBooks_of_tables _ _ _ (Nat.le_succ _))
      (sound.fitting.addPool _ _)
  | @reused pool buffer found =>
    refine sound.keeps_same ?_ (reuseBuffer_sameFit capacity buffer found)
    unfold reuseBuffer
    dsimp only
    split
    · exact sameBooks_of_tables _ _ _ (Nat.le_refl _)
    · rw [write_backend]
      exact sameBooks_of_tables _ _ _ (Nat.le_refl _)
  | slotOpened found below range =>
    rw [write_backend]
    exact sound.keeps_fitting (sameBooks_of_tables _ _ _ (Nat.le_succ _))
      (sound.fitting.openSlot found range)
  | written found generation writable poolFound range inside =>
    exact sound.keeps_same (sameBooks_of_tables _ _ _ (Nat.le_refl _))
      ⟨rfl, sound.fitting.written found poolFound range inside⟩
  | recycled =>
    exact sound.keeps_same (sameBooks_of_tables _ _ _ (Nat.le_refl _))
      (sameFit_of_states rfl rfl fun _ => rfl)
  | queued =>
    refine sound.keeps_booked (encodePicture_booked _ _ _ _ sound.booked) ?_
    unfold encodePicture
    dsimp only
    repeat' split
    all_goals first
      | exact SameFit.refl backend
      | exact sameFit_of_states rfl rfl fun _ => rfl
  | taken sessionId count =>
    obtain ⟨buffers, pools, -⟩ :=
      takeOutputs_same sessionId count backend []
    rw [write_backend]
    exact sound.keeps_same (takeOutputs_sameBooks _ _ _ _) (sameFit_of_same buffers pools)
  | released found =>
    have parted := sound.booked.output_le found
    refine sound.keeps_booked ⟨?_, rfl, rfl⟩ (sameFit_of_states rfl rfl ?_)
    · refine sound.booked.shrink (List.Sublist.refl _)
        (eraseP_sublist.map _) ?_ (Nat.sub_le _ _) rfl rfl ⟨rfl, rfl⟩
      rw [entries, map_map]
      exact Nat.sub_eq_of_eq_add' parted.symm
    · intro buffer
      unfold unqueue
      split
      · rfl
      · rfl
  | @destroyed sessionId =>
    have parted := sound.booked.session_le sessionId
    refine ⟨?_, ⟨rfl, rfl⟩, (removed_swept backend sessionId _).fitting sound.kept sound.fitting⟩
    refine sound.booked.shrink (filter_sublist.map _)
      (filter_sublist.map _) ?_ (Nat.sub_le _ _) rfl rfl ⟨rfl, rfl⟩
    exact Nat.sub_eq_of_eq_add' parted.symm

theorem serve_keeps (sound : backend.Sound) (request : MockRequest) :
    backend.Keeps (backend.serve request).backend :=
  (serve_step request).keeps sound

def next (backend : MockBackend) (request : MockRequest) : MockBackend :=
  (backend.serve request).backend

def after (maxOutputCount maxOutputBytes : Nat) (requests : List MockRequest) : MockBackend :=
  Execution.run next (resetFromEnv maxOutputCount maxOutputBytes) requests

theorem Sound.next (sound : backend.Sound) (request : MockRequest) : (backend.next request).Sound :=
  ⟨(serve_advances sound.kept request).kept, (serve_keeps sound request).booked,
    (serve_keeps sound request).fitting⟩

theorem after_sound (maxOutputCount maxOutputBytes : Nat) (requests : List MockRequest) :
    (after maxOutputCount maxOutputBytes requests).Sound ∧
      (resetFromEnv maxOutputCount maxOutputBytes).SameLimits
        (after maxOutputCount maxOutputBytes requests) := by
  have preserved (backend : MockBackend) (request : MockRequest) (invariant : backend.Sound ∧
        (resetFromEnv maxOutputCount maxOutputBytes).SameLimits backend) :
      (backend.next request).Sound ∧ (resetFromEnv maxOutputCount maxOutputBytes).SameLimits
          (backend.next request) := by
    obtain ⟨sound, limits⟩ := invariant
    obtain ⟨count, bytes⟩ := (serve_keeps sound request).limits
    exact ⟨sound.next request, count.trans limits.1, bytes.trans limits.2⟩
  exact Execution.invariant_of_step preserved ⟨resetFromEnv_sound _ _, rfl, rfl⟩ requests

/-! ## The store in plain words -/

/-- The tables of a backend whose output limits are the given ones. -/
structure Stored (backend : MockBackend) (maxCount maxBytes : Nat) :
    Prop where
  counted : backend.outputBytesTotal = (backend.outputs.map fun output =>
    output.reply.sampleSize.toNat).sum
  bytes_le : backend.outputBytesTotal ≤ maxBytes
  count_le : backend.outputs.length ≤ maxCount
  sessions : (backend.sessions.map Session.id).Nodup ∧
    ∀ session ∈ backend.sessions, session.id < backend.nextHostId
  pools : (backend.pools.map Pool.id).Nodup ∧ ∀ pool ∈ backend.pools, pool.id < backend.nextHostId
  buffers : (backend.buffers.map Buffer.id).Nodup ∧
    ∀ buffer ∈ backend.buffers, buffer.id < backend.nextHostId
  outputs : (backend.outputs.map fun output => output.reply.outputId).Nodup ∧
    ∀ output ∈ backend.outputs, output.reply.outputId < backend.nextOutputId
  housed : ∀ buffer ∈ backend.buffers, ∃ pool ∈ backend.pools,
    pool.id = buffer.poolId ∧ pool.width = buffer.width ∧
      pool.height = buffer.height ∧ pool.pixelFormat = buffer.pixelFormat ∧
      buffer.slotIndex < pool.bufferCount ∧
      pool.slotRegionSize.toNat = buffer.totalSize ∧
      slotRange buffer.slotIndex pool.slotRegionSize pool.backing.length =
        some (buffer.slotIndex.toNat * buffer.totalSize) ∧
      buffer.slotIndex.toNat * buffer.totalSize + buffer.totalSize ≤ pool.backing.length
  opened : ∀ pool ∈ backend.pools, pool.bufferCount ≤ pool.maxBuffers
  apart : ∀ buffer ∈ backend.buffers, ∀ other ∈ backend.buffers,
    buffer.poolId = other.poolId → buffer.slotIndex = other.slotIndex → buffer = other

/-- The slices `dispatch` takes: of a pool's memory, of a slot for a byte
range or a picture, and of the array of a batch reply. -/
structure InRange (backend : MockBackend) : Prop where
  slot : ∀ pool ∈ backend.pools, ∀ slotIndex start,
    slotRange slotIndex pool.slotRegionSize pool.backing.length = some start →
      start + pool.slotRegionSize.toNat ≤ pool.backing.length
  range : ∀ id buffer pool bytes payload, backend.findBuffer id = some buffer →
      backend.findPool buffer.poolId = some pool →
      slotBytes pool buffer.slotIndex = some bytes →
      outOfBounds buffer payload = false →
        payload.offset.toNat + payload.length.toNat ≤ bytes.length
  picture : ∀ id buffer pool bytes, backend.findBuffer id = some buffer →
      backend.findPool buffer.poolId = some pool →
      slotBytes pool buffer.slotIndex = some bytes → min 8 buffer.totalSize ≤ bytes.length
  batch : ∀ sessionId count,
    (takeOutputs sessionId (OutputQueue.batchLimit count) backend []).2.length ≤ maxOutputBatch

/-- The subtractions from the byte counter; `ENCODE_FRAME` compares before it
subtracts. -/
structure Subtracts (backend : MockBackend) : Prop where
  release : ∀ output ∈ backend.outputs, output.reply.sampleSize.toNat ≤ backend.outputBytesTotal
  destroy : ∀ sessionId, ((backend.outputs.filter fun output =>
      output.reply.sessionId == sessionId).map fun output =>
        output.reply.sampleSize.toNat).sum ≤ backend.outputBytesTotal

theorem Sound.pool_of (sound : backend.Sound) (mem : buffer ∈ backend.buffers) :
    ∃ pool, backend.findPool buffer.poolId = some pool ∧
        buffer.footprint.Fits pool.extent := by
  obtain ⟨extent, extent_found, fits⟩ :=
    sound.fitting _ (mem_map_of_mem mem)
  obtain ⟨pool, found, rfl⟩ := Option.map_eq_some_iff.mp extent_found
  exact ⟨pool, found, fits⟩

theorem Sound.housed (sound : backend.Sound) (mem : buffer ∈ backend.buffers) :
    ∃ pool, backend.findPool buffer.poolId = some pool ∧ buffer.footprint.Fits pool.extent ∧
        buffer.slotIndex < pool.bufferCount := by
  obtain ⟨pool, found, fits⟩ := sound.pool_of mem
  obtain ⟨shape, shape_found, slot_lt, _⟩ :=
    sound.kept.housed _ (mem_map_of_mem mem)
  rw [show backend.shapeOf buffer.place.pool = some pool.shape from
    congrArg (Option.map Pool.shape) found] at shape_found
  obtain rfl := Option.some.inj shape_found
  exact ⟨pool, found, fits, slot_lt⟩

theorem Sound.stored (sound : backend.Sound) :
    backend.Stored backend.maxOutputCount backend.maxOutputBytes where
  counted := by
    rw [sound.booked.counted, entries, map_map]
    rfl
  bytes_le := sound.booked.bytes_le
  count_le := by
    have bound := sound.booked.count_le
    rwa [entries, length_map] at bound
  sessions := ⟨sound.booked.sessionsDistinct, fun session mem =>
    sound.booked.sessionsNumbered _ (mem_map_of_mem mem)⟩
  pools := ⟨sound.kept.poolsDistinct, fun pool mem =>
    sound.kept.poolsNumbered _ (mem_map_of_mem mem)⟩
  buffers := ⟨sound.kept.distinct, fun buffer mem =>
    sound.kept.numbered _ (mem_map_of_mem mem)⟩
  outputs := by
    constructor
    · have distinct := sound.booked.outputsDistinct
      rwa [entries, map_map] at distinct
    · intro output mem
      exact sound.booked.outputsNumbered _ (mem_map_of_mem mem)
  housed buffer mem := by
    obtain ⟨pool, found, fits, slot_lt⟩ := sound.housed mem
    obtain ⟨start, range⟩ := fits.slot
    have size : buffer.totalSize = pool.slotRegionSize.toNat := fits.size
    obtain ⟨-, start_eq, inside⟩ := slotRange_eq_some_iff.mp range
    have start_is : start = buffer.slotIndex.toNat * buffer.totalSize := by
      rw [size]
      exact start_eq
    refine ⟨pool, mem_of_find found, key_of_find found, fits.width.symm,
      fits.height.symm, fits.pixelFormat.symm, slot_lt, size.symm, ?_, ?_⟩
    · rw [← start_is]
      exact range
    · rw [← start_is, size]
      exact inside
  opened pool mem := by
    have found : backend.findPool pool.id = some pool :=
      find_of_mem sound.kept.poolsDistinct mem
    exact sound.kept.counted pool.id pool.shape (congrArg (Option.map Pool.shape) found)
  apart buffer mem other other_mem same_pool same_slot := by
    have same_place := sound.kept.apart _ (mem_map_of_mem mem) _
      (mem_map_of_mem other_mem) same_pool
      (congrArg UInt32.toNat same_slot)
    exact inj_on_of_nodup_map sound.kept.distinct mem other_mem (congrArg Place.id same_place)

theorem length_slotBytes {slotIndex : UInt32} (found : slotBytes pool slotIndex = some bytes) :
    bytes.length = pool.slotRegionSize.toNat := by
  obtain ⟨start, range, rfl⟩ := Option.map_eq_some_iff.mp found
  obtain ⟨-, -, inside⟩ := slotRange_eq_some_iff.mp range
  rw [length_take, length_drop]
  omega

theorem Sound.length_slot (sound : backend.Sound) {id : Nat}
    (found : backend.findBuffer id = some buffer)
    (poolFound : backend.findPool buffer.poolId = some pool)
    (slot : slotBytes pool buffer.slotIndex = some bytes) :
    bytes.length = buffer.totalSize := by
  obtain ⟨housing, housing_found, fits⟩ := sound.pool_of (mem_of_find found)
  obtain rfl : pool = housing :=
    Option.some.inj (poolFound.symm.trans housing_found)
  have size : buffer.totalSize = pool.slotRegionSize.toNat := fits.size
  rw [size]
  exact length_slotBytes slot

theorem length_takeOutputs_le (sessionId remaining : Nat)
    (backend : MockBackend) (replies : List DequeueOutputReply) :
    (takeOutputs sessionId remaining backend replies).2.length ≤ replies.length + remaining := by
  induction remaining generalizing backend replies with
  | zero => exact Nat.le_refl _
  | succ remaining induction =>
    rw [takeOutputs]
    split
    · exact Nat.le_add_right _ _
    next reply taken took =>
      have bound := induction taken (replies ++ [reply])
      rw [length_append, length_singleton] at bound
      omega

theorem Sound.inRange (sound : backend.Sound) : backend.InRange where
  slot pool mem slotIndex start range :=
    (slotRange_eq_some_iff.mp range).2.2
  range id buffer pool bytes payload found poolFound slot bounds := by
    rw [sound.length_slot found poolFound slot]
    simp only [outOfBounds, Bool.or_eq_false_iff, decide_eq_false_iff_not] at bounds
    omega
  picture id buffer pool bytes found poolFound slot := by
    rw [sound.length_slot found poolFound slot]
    exact Nat.min_le_right _ _
  batch sessionId count := by
    have bound := length_takeOutputs_le sessionId (OutputQueue.batchLimit count) backend []
    have limit : OutputQueue.batchLimit count ≤ maxOutputBatch := by
      simp only [OutputQueue.batchLimit, maxOutputBatch]
      omega
    rw [length_nil] at bound
    omega

theorem Sound.subtracts (sound : backend.Sound) : backend.Subtracts where
  release output mem := by
    have found : backend.outputs.find? (fun other =>
        other.reply.outputId == output.reply.outputId) = some output := by
      have distinct := sound.booked.outputsDistinct
      rw [entries, map_map] at distinct
      exact find_of_mem distinct mem
    have parted := sound.booked.output_le found
    omega
  destroy sessionId := by
    have parted := sound.booked.session_le sessionId
    omega

theorem served_store_kept (maxOutputCount maxOutputBytes : Nat) (requests : List MockRequest) :
    let backend := after maxOutputCount maxOutputBytes requests
    backend.Stored (min maxOutputCount maxOutputs) maxOutputBytes ∧
      backend.InRange ∧ backend.Subtracts := by
  obtain ⟨sound, count, bytes⟩ :=
    after_sound maxOutputCount maxOutputBytes requests
  have stored := sound.stored
  rw [count, bytes] at stored
  exact ⟨stored, sound.inRange, sound.subtracts⟩

end MockBackend

end VtFerry
