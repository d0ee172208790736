import VtFerry.Broker.Pool
import VtFerry.Worker.PoolLayout

/-!
# Slots of the worker in surfaces of the broker

The broker sizes a packed surface from tightly packed rows, rounded up to a
page for each slot and to a row for the surface; the worker strides through it
with rows rounded up to 64 bytes.  The slots of a pool never overlap.  They
lie inside the surface exactly when the padding of the worker's rows is
covered by what the broker's rounding adds.
-/

namespace VtFerry

open VtRealBackend

namespace Broker

open Rounding

/-! ## The broker's arithmetic -/

section Sizes

variable {page : PageSize} {width height : UInt32} {total : UInt64}

theorem PageSize.bytes_le (page : PageSize) : page.bytes ≤ 2 ^ 31 :=
  Nat.pow_le_pow_right (by decide) (Nat.le_of_lt_succ page.most)

theorem PageSize.bytes_pos (page : PageSize) : 0 < page.bytes :=
  Nat.two_pow_pos page.bits

theorem PageSize.dvd_bytes (page : PageSize) : 64 ∣ page.bytes :=
  Nat.pow_dvd_pow 2 page.least

theorem PageSize.toNat_word (page : PageSize) : page.word.toNat = 2 ^ page.bits := by
  have small := page.bytes_le
  rw [PageSize.word, UInt64.toNat_ofNat', Nat.mod_eq_of_lt (by omega)]
  rfl

theorem PageSize.word_ne_zero (page : PageSize) : page.word ≠ 0 := by
  intro zero
  have power := page.toNat_word
  rw [zero] at power
  exact absurd power.symm (Nat.ne_of_gt (Nat.two_pow_pos page.bits))

theorem toNat_pageRoundUp {value : UInt64} (noWrap : value.toNat + page.bytes ≤ 2 ^ 64) :
    (pageRoundUp page value).toNat = roundUp page.bytes value.toNat := by
  rw [pageRoundUp, alignUp, if_neg page.word_ne_zero]
  exact toNat_mask_roundUp value page.word page.toNat_word noWrap

theorem toNat_pageRoundUp_wrapped {value : UInt64} (wraps : 2 ^ 64 < value.toNat + page.bytes) :
    (pageRoundUp page value).toNat = 0 := by
  rw [pageRoundUp, alignUp, if_neg page.word_ne_zero]
  exact toNat_mask_wrapped value page.word page.toNat_word wraps

theorem toNat_alignUp_width (width : UInt32) :
    (alignUp width.toUInt64 64).toNat = roundUp 64 width.toNat := by
  have bounded := width.toNat_lt
  rw [alignUp, if_neg (by decide)]
  have power : (64 : UInt64).toNat = 2 ^ 6 := rfl
  rw [toNat_mask_roundUp width.toUInt64 64 power]
  · rw [UInt32.toNat_toUInt64]
    rfl
  · rw [UInt32.toNat_toUInt64]
    omega

/-- Bytes of a slot before the broker rounds them to a page: tightly packed
rows for BGRA, rows of 64-byte multiples for the two planes of NV12. -/
def packedBytes (width height : Nat) (pixelFormat : UInt32) : Nat :=
  if pixelFormat = PixelFormat.nv12 then
    roundUp 64 width * (height + height / 2) % 2 ^ 64
  else 4 * width * height % 2 ^ 64

theorem poolSlotAllocSize_ok {pixelFormat : UInt32} {size : UInt64}
    (sized : poolSlotAllocSize page width height pixelFormat = .ok size) :
    (pixelFormat = PixelFormat.bgra ∨ pixelFormat = PixelFormat.nv12) ∧
    ∃ raw : UInt64, raw.toNat = packedBytes width.toNat height.toNat pixelFormat ∧
      size = pageRoundUp page raw := by
  unfold poolSlotAllocSize at sized
  split at sized
  next bgra =>
    cases sized
    refine ⟨Or.inl bgra, _, ?_, rfl⟩
    have notNv12 : PixelFormat.bgra ≠ PixelFormat.nv12 := by decide
    rw [packedBytes, bgra, if_neg notNv12, UInt64.toNat_mul,
      UInt64.toNat_mul, UInt32.toNat_toUInt64, UInt32.toNat_toUInt64,
      Nat.mod_mul_mod, Nat.mul_comm width.toNat]
    rfl
  split at sized
  next nv12 =>
    cases sized
    refine ⟨Or.inr nv12, _, ?_, rfl⟩
    rw [packedBytes, if_pos nv12, UInt64.toNat_add, UInt64.toNat_mul,
      UInt64.toNat_mul, UInt64.toNat_div, UInt32.toNat_toUInt64,
      toNat_alignUp_width, ← Nat.add_mod, ← Nat.mul_add]
    rfl
  · cases sized

theorem toNat_rawBpr (width : UInt32) : (width.toUInt64 * 4).toNat = 4 * width.toNat := by
  have bounded := width.toNat_lt
  have four : (4 : UInt64).toNat = 4 := rfl
  rw [UInt64.toNat_mul, UInt32.toNat_toUInt64, four, Nat.mod_eq_of_lt (by omega), Nat.mul_comm]

theorem toNat_rawHeight (positive : 0 < width.toNat) (total : UInt64) :
    (rawHeight width total).toNat =
      (total.toNat + 4 * width.toNat - 1) % 2 ^ 64 / (4 * width.toNat) %
        2 ^ 32 := by
  have one : (1 : UInt64).toNat = 1 := rfl
  have sum : (2 ^ 64 - 1 + (total.toNat + 4 * width.toNat) % 2 ^ 64) % 2 ^ 64 =
      (total.toNat + 4 * width.toNat - 1) % 2 ^ 64 := by
    omega
  rw [rawHeight, UInt64.toNat_toUInt32, UInt64.toNat_div, UInt64.toNat_sub,
    UInt64.toNat_add, toNat_rawBpr, one, sum]

theorem le_rawAlloc (width : UInt32) (total : UInt64) :
    total.toNat ≤ (rawAlloc width total).toNat := by
  unfold rawAlloc
  dsimp only
  split
  · exact Nat.le_refl _
  next more =>
    rw [UInt64.le_iff_toNat_le] at more
    exact Nat.le_of_not_le more

/-- However the rows are counted, the surface is no larger than its pools
rounded up to a row. -/
theorem rawAlloc_le (positive : 0 < width.toNat) (total : UInt64) :
    (rawAlloc width total).toNat ≤ roundUp (4 * width.toNat) total.toNat := by
  unfold rawAlloc
  dsimp only
  split
  · exact le_roundUp (by omega) total.toNat
  · rw [UInt64.toNat_mul, UInt32.toNat_toUInt64, toNat_rawBpr, toNat_rawHeight positive]
    calc 4 * width.toNat * ((total.toNat + 4 * width.toNat - 1) % 2 ^ 64 / (4 * width.toNat) %
            2 ^ 32) % 2 ^ 64
        ≤ 4 * width.toNat * ((total.toNat + 4 * width.toNat - 1) % 2 ^ 64 / (4 * width.toNat) %
            2 ^ 32) := Nat.mod_le _ _
      _ ≤ 4 * width.toNat * ((total.toNat + 4 * width.toNat - 1) / (4 * width.toNat)) := by
        apply Nat.mul_le_mul_left
        exact Nat.le_trans (Nat.mod_le _ _) (Nat.div_le_div_right (Nat.mod_le _ _))
      _ = roundUp (4 * width.toNat) total.toNat := Nat.mul_comm _ _

/-- The rows are counted right when neither the sum nor the count is cut. -/
theorem rawAlloc_eq (positive : 0 < width.toNat) (noWrap : total.toNat + 4 * width.toNat ≤ 2 ^ 64)
    (few : (total.toNat + 4 * width.toNat - 1) / (4 * width.toNat) < 2 ^ 32) :
    (rawAlloc width total).toNat = roundUp (4 * width.toNat) total.toNat := by
  apply Nat.le_antisymm (rawAlloc_le positive total)
  have row : 0 < 4 * width.toNat := by omega
  have bounded := roundUp_lt_add row total.toNat
  have sum : (total.toNat + 4 * width.toNat - 1) % 2 ^ 64 =
      total.toNat + 4 * width.toNat - 1 := Nat.mod_eq_of_lt (by omega)
  have rows : (width.toUInt64 * 4 * (rawHeight width total).toUInt64).toNat =
        roundUp (4 * width.toNat) total.toNat := by
    rw [UInt64.toNat_mul, UInt32.toNat_toUInt64, toNat_rawBpr,
      toNat_rawHeight positive, sum, Nat.mod_eq_of_lt few, Nat.mul_comm,
      ← roundUp]
    exact Nat.mod_eq_of_lt (by omega)
  unfold rawAlloc
  dsimp only
  split
  next fewer =>
    rw [UInt64.le_iff_toNat_le, rows] at fewer
    exact fewer
  · exact Nat.le_of_eq rows.symm

end Sizes

/-! ## What an accepted pool is -/

/-- The broker accepted the spec, with slots of `slotAligned` bytes. -/
structure Accepted (host : SurfaceHost) (spec : PoolSpec)
    (entry : OwnedIOSurfacePoolEntry) (workerSpec : WorkerIOSurfacePoolSpec)
    (slotAligned : UInt64) : Prop where
  slots : 0 < spec.slotCount.toNat
  sized : poolSlotAllocSize host.page spec.width spec.height spec.pixelFormat = .ok slotAligned
  fits : slotAligned.toNat * spec.slotCount.toNat < 2 ^ 64
  wide : 0 < spec.width.toNat
  surface : entry.surface.allocSize = rawAlloc spec.width (slotAligned * spec.slotCount.toUInt64)
  told : workerSpec =
    { width := spec.width
      height := spec.height
      pixelFormat := spec.pixelFormat
      slotCount := spec.slotCount
      iosurfaceId := entry.iosurfaceId }

theorem bind_eq_ok {Value Result : Type} {first : Except String Value}
    {next : Value → Except String Result} {result : Result}
    (succeeds : first >>= next = .ok result) :
    ∃ value, first = .ok value ∧ next value = .ok result := by
  cases first with
  | error message => cases succeeds
  | ok value => exact ⟨value, rfl, succeeds⟩

theorem checkedMul_eq_some {left right total : UInt64}
    (checked : checkedMul left right = some total) :
    left.toNat * right.toNat < 2 ^ 64 ∧ total = left * right := by
  unfold checkedMul at checked
  split at checked
  next fits =>
    cases checked
    exact ⟨fits, rfl⟩
  · cases checked

/-- The checks of a round before it creates the surface. -/
def checkedTotal (page : PageSize) (spec : PoolSpec) :
    Except String UInt64 :=
  if spec.slotCount = 0 then .error "pool requires slot_count >= 1"
  else do
    let slotAligned ← poolSlotAllocSize page spec.width spec.height spec.pixelFormat
    match checkedMul slotAligned spec.slotCount.toUInt64 with
    | none => .error "packed pool size overflow"
    | some total =>
      if spec.width.toUInt64 * 4 = 0 then .error "pool width must be > 0"
      else .ok total

variable {host : SurfaceHost} {index : Nat} {width : UInt32}

theorem allocatePool_eq (host : SurfaceHost) (index : Nat) (spec : PoolSpec) :
    allocatePool host index spec = (do
      let total ← checkedTotal host.page spec
      let surface ← createPackedBgraIOSurface host index spec.width
        (rawHeight spec.width total) (rawAlloc spec.width total)
      if host.createMachPort index = 0 then
        .error "IOSurfaceCreateMachPort returned 0"
      else do
        let name ← poolRegionName host.page spec.width spec.height spec.pixelFormat spec.slotCount
        .ok (⟨surface, host.createMachPort index, surface.surfaceId,
            spec.guestPhysAddr, total, spec.writable, name⟩,
          ⟨spec.width, spec.height, spec.pixelFormat, spec.slotCount, surface.surfaceId⟩)) := by
  unfold allocatePool checkedTotal
  split
  · rfl
  cases poolSlotAllocSize host.page spec.width spec.height spec.pixelFormat with
  | error message => rfl
  | ok slotAligned =>
    dsimp only [bind, Except.bind]
    cases checkedMul slotAligned spec.slotCount.toUInt64 with
    | none => rfl
    | some total =>
      dsimp only
      split
      · rfl
      · rfl

theorem checkedTotal_ok {page : PageSize} {spec : PoolSpec} {total : UInt64}
    (checked : checkedTotal page spec = .ok total) :
    0 < spec.slotCount.toNat ∧ 0 < spec.width.toNat ∧ ∃ slotAligned,
      poolSlotAllocSize page spec.width spec.height spec.pixelFormat = .ok slotAligned ∧
      slotAligned.toNat * spec.slotCount.toNat < 2 ^ 64 ∧
      total = slotAligned * spec.slotCount.toUInt64 := by
  unfold checkedTotal at checked
  split at checked
  · cases checked
  next slots =>
    obtain ⟨slotAligned, sized, checked⟩ := bind_eq_ok checked
    split at checked
    · cases checked
    next product found =>
      obtain ⟨fits, rfl⟩ := checkedMul_eq_some found
      rw [UInt32.toNat_toUInt64] at fits
      split at checked
      · cases checked
      next wide =>
        obtain rfl := Except.ok.inj checked
        refine ⟨?_, ?_, slotAligned, sized, fits, rfl⟩
        · apply Nat.pos_of_ne_zero
          intro none
          exact slots (UInt32.toNat_inj.mp none)
        · apply Nat.pos_of_ne_zero
          intro none
          apply wide
          apply UInt64.toNat_inj.mp
          rw [toNat_rawBpr, none]
          rfl

theorem createPackedBgraIOSurface_allocSize {height : UInt32}
    {allocSize : UInt64} {surface : PackedSurface}
    (created : createPackedBgraIOSurface host index width height allocSize =
      .ok surface) : surface.allocSize = allocSize := by
  unfold createPackedBgraIOSurface at created
  split at created
  · cases created
  · cases created
    rfl

variable {spec : PoolSpec} {entry : OwnedIOSurfacePoolEntry}
variable {workerSpec : WorkerIOSurfacePoolSpec}

theorem allocatePool_accepted (allocated : allocatePool host index spec = .ok (entry, workerSpec)) :
    ∃ slotAligned, Accepted host spec entry workerSpec slotAligned := by
  rw [allocatePool_eq] at allocated
  obtain ⟨total, checked, allocated⟩ := bind_eq_ok allocated
  obtain ⟨slots, wide, slotAligned, sized, fits, rfl⟩ :=
    checkedTotal_ok checked
  obtain ⟨surface, created, allocated⟩ := bind_eq_ok allocated
  split at allocated
  · cases allocated
  obtain ⟨name, _, allocated⟩ := bind_eq_ok allocated
  cases allocated
  exact ⟨slotAligned, slots, sized, fits, wide, createPackedBgraIOSurface_allocSize created, rfl⟩

theorem allocateFrom_accepted {specs : List PoolSpec} {start : Nat}
    {entries : List OwnedIOSurfacePoolEntry}
    {workerSpecs : List WorkerIOSurfacePoolSpec}
    (allocated : allocateFrom host start specs = .ok (entries, workerSpecs))
    (specAt : specs[index]? = some spec)
    (entryAt : entries[index]? = some entry)
    (workerAt : workerSpecs[index]? = some workerSpec) :
    ∃ slotAligned, Accepted host spec entry workerSpec slotAligned := by
  induction specs generalizing start index entries workerSpecs with
  | nil => cases specAt
  | cons first rest induction =>
    obtain ⟨⟨firstEntry, firstWorker⟩, accepted, allocated⟩ :=
      bind_eq_ok allocated
    obtain ⟨⟨restEntries, restWorkers⟩, later, allocated⟩ :=
      bind_eq_ok allocated
    cases allocated
    cases index with
    | zero =>
      cases specAt
      cases entryAt
      cases workerAt
      exact allocatePool_accepted accepted
    | succ index => exact induction later specAt entryAt workerAt

theorem allocatePools_accepted {specs : List PoolSpec} {entries : List OwnedIOSurfacePoolEntry}
    {workerSpecs : List WorkerIOSurfacePoolSpec}
    (allocated : allocatePools host specs = .ok (entries, workerSpecs))
    (specAt : specs[index]? = some spec)
    (entryAt : entries[index]? = some entry)
    (workerAt : workerSpecs[index]? = some workerSpec) :
    ∃ slotAligned, Accepted host spec entry workerSpec slotAligned := by
  unfold allocatePools at allocated
  split at allocated
  · cases allocated
  · exact allocateFrom_accepted allocated specAt entryAt workerAt

/-! ## When the slots fit -/

/-- Slots of a size that is a multiple of 64 see no difference between the
surface and its pools rounded up to a row: rows are miscounted only where they
are at most 64 bytes long, or where the pools are large enough anyway. -/
theorem fits_rawAlloc_iff {total : UInt64} {slots slot aligned : Nat}
    (positive : 0 < width.toNat) (few : slots ≤ 64) (small : slot < 2 ^ 32)
    (slot_dvd : 64 ∣ slot) (aligned_dvd : 64 ∣ aligned)
    (product : total.toNat = slots * aligned) :
    slots * slot ≤ (rawAlloc width total).toNat ↔
      slots * slot ≤ roundUp (4 * width.toNat) (slots * aligned) := by
  constructor
  · intro fits
    rw [← product]
    exact Nat.le_trans fits (rawAlloc_le positive total)
  · intro fits
    by_cases enough : slots * slot ≤ slots * aligned
    · rw [← product] at enough
      exact Nat.le_trans enough (le_rawAlloc width total)
    · have smaller : aligned < slot := by
        by_contra larger
        exact enough (Nat.mul_le_mul_left slots (Nat.le_of_not_lt larger))
      have bounded : slots * aligned < 2 ^ 38 :=
        calc slots * aligned ≤ 64 * aligned := Nat.mul_le_mul_right aligned few
          _ < 2 ^ 38 := by omega
      have row_bounded := width.toNat_lt
      have row : 0 < 4 * width.toNat := by omega
      have rounded := roundUp_lt_add row (slots * aligned)
      have counted : (slots * aligned + 4 * width.toNat - 1) / (4 * width.toNat) < 2 ^ 32 := by
        by_contra many
        have rows : 2 ^ 32 * (4 * width.toNat) ≤ roundUp (4 * width.toNat) (slots * aligned) :=
          Nat.mul_le_mul_right _ (Nat.le_of_not_lt many)
        have narrow : 4 * width.toNat ≤ 64 := by omega
        obtain ⟨slotUnits, rfl⟩ := slot_dvd
        obtain ⟨alignedUnits, rfl⟩ := aligned_dvd
        have slot_units : slots * (64 * slotUnits) =
            64 * (slots * slotUnits) := Nat.mul_left_comm _ _ _
        have aligned_units : slots * (64 * alignedUnits) =
            64 * (slots * alignedUnits) := Nat.mul_left_comm _ _ _
        omega
      rw [rawAlloc_eq positive, product]
      · exact fits
      · omega
      · rw [product]
        exact counted

/-- Bytes of a slot as the worker strides through it. -/
def paddedBytes (width height : Nat) (pixelFormat : UInt32) : Nat :=
  if pixelFormat = PixelFormat.nv12 then
    roundUp 64 width * (height + height / 2) % 2 ^ 32
  else roundUp 64 (4 * width) * height % 2 ^ 32

theorem paddedBytes_lt (width height : Nat) (pixelFormat : UInt32) :
    paddedBytes width height pixelFormat < 2 ^ 32 := by
  unfold paddedBytes
  split
  · exact Nat.mod_lt _ (by decide)
  · exact Nat.mod_lt _ (by decide)

theorem dvd_paddedBytes (width height : Nat) (pixelFormat : UInt32) :
    64 ∣ paddedBytes width height pixelFormat := by
  unfold paddedBytes
  split
  · exact (Nat.dvd_mod_iff (by decide)).mpr (Nat.dvd_mul_right_of_dvd (dvd_roundUp 64 _) _)
  · exact (Nat.dvd_mod_iff (by decide)).mpr (Nat.dvd_mul_right_of_dvd (dvd_roundUp 64 _) _)

theorem totalSize_eq {height pixelFormat : UInt32}
    (supported : pixelFormat = PixelFormat.bgra ∨ pixelFormat = PixelFormat.nv12) :
    (vtfFillBufferLayout width height pixelFormat).totalSize.toNat =
      paddedBytes width.toNat height.toNat pixelFormat := by
  rcases supported with rfl | rfl
  · have layout : (vtfFillBufferLayout width height PixelFormat.bgra).totalSize =
          UInt32.ofNat (vtfAlignSize (width.toNat * 4) 64) * height := rfl
    have notNv12 : PixelFormat.bgra ≠ PixelFormat.nv12 := by decide
    rw [layout, UInt32.toNat_mul, UInt32.toNat_ofNat',
      vtfAlignSize_eq_roundUp _ (by decide), Nat.mod_mul_mod, paddedBytes,
      if_neg notNv12, Nat.mul_comm width.toNat]
  · have layout : (vtfFillBufferLayout width height PixelFormat.nv12).totalSize =
          UInt32.ofNat (vtfAlignSize width.toNat 64) * height +
            UInt32.ofNat (vtfAlignSize width.toNat 64) * (height / 2) := rfl
    rw [layout, UInt32.toNat_add, UInt32.toNat_mul, UInt32.toNat_mul,
      UInt32.toNat_div, UInt32.toNat_ofNat',
      vtfAlignSize_eq_roundUp _ (by decide), Nat.mod_mul_mod, Nat.mod_mul_mod,
      ← Nat.add_mod, ← Nat.mul_add, paddedBytes, if_pos rfl]
    rfl

/-- All slots of an accepted pool lie inside its surface exactly when a slot
is empty, or the page rounding does not wrap and the surface's rows cover the
slots. -/
theorem Accepted.fits_iff {slotAligned : UInt64}
    (accepted : Accepted host spec entry workerSpec slotAligned)
    (few : spec.slotCount.toNat ≤ 64) :
    spec.slotCount.toNat * paddedBytes spec.width.toNat spec.height.toNat spec.pixelFormat ≤
        entry.surface.allocSize.toNat ↔
      paddedBytes spec.width.toNat spec.height.toNat spec.pixelFormat = 0 ∨
        packedBytes spec.width.toNat spec.height.toNat spec.pixelFormat + host.page.bytes ≤ 2 ^ 64 ∧
          spec.slotCount.toNat * paddedBytes spec.width.toNat spec.height.toNat spec.pixelFormat ≤
            roundUp (4 * spec.width.toNat) (spec.slotCount.toNat * roundUp host.page.bytes
                (packedBytes spec.width.toNat spec.height.toNat spec.pixelFormat)) := by
  obtain ⟨_, raw, packed, rfl⟩ := poolSlotAllocSize_ok accepted.sized
  have slots := accepted.slots
  have product : (pageRoundUp host.page raw * spec.slotCount.toUInt64).toNat =
      spec.slotCount.toNat * (pageRoundUp host.page raw).toNat := by
    rw [UInt64.toNat_mul, UInt32.toNat_toUInt64, Nat.mod_eq_of_lt accepted.fits, Nat.mul_comm]
  have small := paddedBytes_lt spec.width.toNat spec.height.toNat spec.pixelFormat
  have slot_dvd := dvd_paddedBytes spec.width.toNat spec.height.toNat spec.pixelFormat
  rw [accepted.surface, ← packed]
  by_cases noWrap : raw.toNat + host.page.bytes ≤ 2 ^ 64
  · have rounded := toNat_pageRoundUp noWrap
    have aligned_dvd : 64 ∣ roundUp host.page.bytes raw.toNat :=
      Nat.dvd_trans host.page.dvd_bytes (dvd_roundUp _ _)
    rw [rounded] at product
    rw [fits_rawAlloc_iff accepted.wide few small slot_dvd aligned_dvd product]
    constructor
    · intro fits
      exact Or.inr ⟨noWrap, fits⟩
    · rintro (empty | ⟨_, fits⟩)
      · rw [empty, Nat.mul_zero]
        exact Nat.zero_le _
      · exact fits
  · have none := toNat_pageRoundUp_wrapped (Nat.lt_of_not_le noWrap)
    rw [none] at product
    rw [fits_rawAlloc_iff accepted.wide few small slot_dvd (Nat.dvd_zero 64) product, Nat.mul_zero,
      roundUp_zero (Nat.mul_pos (by decide) accepted.wide)]
    constructor
    · intro fits
      have zero := Nat.eq_zero_of_le_zero fits
      rcases Nat.mul_eq_zero.mp zero with empty | empty
      · exact absurd empty (Nat.ne_of_gt slots)
      · exact Or.inl empty
    · rintro (empty | ⟨fits, _⟩)
      · rw [empty, Nat.mul_zero]
      · exact absurd fits noWrap

/-- The slots of the pool fit: the page rounding of a slot does not wrap and,
for BGRA, what the worker pads its rows with is no more than what rounding the
slots to a page and the surface to a row adds. -/
def SlotsFit (page : PageSize) (spec : PoolSpec) : Prop :=
  let width := spec.width.toNat
  let height := spec.height.toNat
  let slots := spec.slotCount.toNat
  if spec.pixelFormat = PixelFormat.nv12 then
    roundUp 64 width * (height + height / 2) % 2 ^ 64 + page.bytes ≤ 2 ^ 64
  else
    let packed := 4 * width * height % 2 ^ 64
    let padded := roundUp 64 (4 * width) * height % 2 ^ 32
    padded = 0 ∨ packed + page.bytes ≤ 2 ^ 64 ∧
      slots * padded ≤ slots * packed + slots * gap page.bytes packed +
        gap (4 * width) (slots * (packed + gap page.bytes packed))

theorem Accepted.slotsFit_iff {slotAligned : UInt64}
    (accepted : Accepted host spec entry workerSpec slotAligned)
    (few : spec.slotCount.toNat ≤ 64) :
    spec.slotCount.toNat * paddedBytes spec.width.toNat spec.height.toNat spec.pixelFormat ≤
        entry.surface.allocSize.toNat ↔ SlotsFit host.page spec := by
  rw [accepted.fits_iff few, SlotsFit, packedBytes, paddedBytes]
  dsimp only
  have page := host.page.bytes_pos
  have row : 0 < 4 * spec.width.toNat := by
    have wide := accepted.wide
    omega
  by_cases nv12 : spec.pixelFormat = PixelFormat.nv12
  · simp only [if_pos nv12]
    have size := host.page.bytes_le
    generalize roundUp 64 spec.width.toNat * (spec.height.toNat + spec.height.toNat / 2) = bytes
    have cut : bytes % 2 ^ 32 ≤ bytes % 2 ^ 64 := by omega
    constructor
    · rintro (empty | ⟨noWrap, _⟩)
      · omega
      · exact noWrap
    · intro noWrap
      refine Or.inr ⟨noWrap, ?_⟩
      calc spec.slotCount.toNat * (bytes % 2 ^ 32) ≤ spec.slotCount.toNat * (bytes % 2 ^ 64) :=
            Nat.mul_le_mul_left _ cut
        _ ≤ spec.slotCount.toNat *
              roundUp host.page.bytes (bytes % 2 ^ 64) :=
            Nat.mul_le_mul_left _ (le_roundUp page _)
        _ ≤ _ := le_roundUp row _
  · simp only [if_neg nv12]
    rw [roundUp_eq_add_gap row, roundUp_eq_add_gap page, Nat.mul_add]

/-! ## Slots of the worker -/

def SlotsInside (backend : VtRealBackend) (poolId count size : Nat) : Prop :=
  ∀ slot < count, ∀ buffer, backend.IsSlot poolId slot buffer →
    buffer.mappedOffset + buffer.mappedSize ≤ size

def SlotsApart (backend : VtRealBackend) (poolId count : Nat) : Prop :=
  ∀ slot < count, ∀ other < count, ∀ buffer bufferToo, backend.IsSlot poolId slot buffer →
    backend.IsSlot poolId other bufferToo → slot ≠ other →
    buffer.mappedOffset + buffer.mappedSize ≤ bufferToo.mappedOffset ∨
      bufferToo.mappedOffset + bufferToo.mappedSize ≤ buffer.mappedOffset

/-- Slot after slot, each of the same size. -/
def Strided (backend : VtRealBackend) (poolId count bytes : Nat) : Prop :=
  ∀ slot < count, ∃ buffer, backend.IsSlot poolId slot buffer ∧
    buffer.mappedOffset = slot * bytes ∧ buffer.mappedSize = bytes

section Strided

variable {backend : VtRealBackend} {poolId count size bytes : Nat}

theorem Strided.range (strided : Strided backend poolId count bytes)
    {slot : Nat} (below : slot < count) {buffer : VtRealBuffer}
    (isSlot : backend.IsSlot poolId slot buffer) :
    buffer.mappedOffset = slot * bytes ∧ buffer.mappedSize = bytes := by
  obtain ⟨only, ⟨found, _⟩, range⟩ := strided slot below
  obtain rfl : buffer = only := Option.some.inj (isSlot.1.symm.trans found)
  exact range

theorem Strided.inside_iff (strided : Strided backend poolId count bytes) (some_slot : 0 < count) :
    SlotsInside backend poolId count size ↔ count * bytes ≤ size := by
  constructor
  · intro inside
    have last : count - 1 < count := by omega
    obtain ⟨buffer, isSlot, offset, length⟩ := strided (count - 1) last
    have bound := inside (count - 1) last buffer isSlot
    rw [offset, length, ← Nat.succ_mul, Nat.succ_eq_add_one, Nat.sub_add_cancel some_slot] at bound
    exact bound
  · intro fits slot below buffer isSlot
    obtain ⟨offset, length⟩ := strided.range below isSlot
    rw [offset, length, ← Nat.succ_mul]
    exact Nat.le_trans (Nat.mul_le_mul_right bytes below) fits

theorem Strided.apart (strided : Strided backend poolId count bytes) :
    SlotsApart backend poolId count := by
  intro slot below other other_below buffer bufferToo isSlot isSlotToo different
  obtain ⟨offset, length⟩ := strided.range below isSlot
  obtain ⟨other_offset, other_length⟩ := strided.range other_below isSlotToo
  rw [offset, length, other_offset, other_length, ← Nat.succ_mul, ← Nat.succ_mul]
  rcases Nat.lt_or_gt_of_ne different with before | after
  · exact Or.inl (Nat.mul_le_mul_right bytes before)
  · exact Or.inr (Nat.mul_le_mul_right bytes after)

end Strided

/-- A pool that was built consists of its slots, one after the other. -/
theorem buildPool_strided {calls : HostCalls}
    {payload : CreateBufferPoolPayload} {entryId : Nat} {pool : IOSurfacePool}
    {backend : VtRealBackend}
    (built : (buildPool calls payload entryId pool backend).2.1 = Status.ok) :
    Strided (buildPool calls payload entryId pool backend).1
      backend.nextHostId pool.spec.slotCount.toNat
      (slotBytes payload) := by
  intro slot below
  obtain ⟨pixelBuffer, _, found⟩ :=
    buildPool_slot built slot below
  exact ⟨_, ⟨found, rfl, rfl⟩, rfl, rfl⟩

/-- For a pool the broker accepted and the worker built over the entry it was
told about, the slots are there and apart, and lie inside the bytes the broker
computed for the surface exactly when `SlotsFit` holds. -/
theorem pool_slots_fit_iff (host : SurfaceHost) (specs : List PoolSpec)
    (entries : List OwnedIOSurfacePoolEntry)
    (workerSpecs : List WorkerIOSurfacePoolSpec)
    (allocated : allocatePools host specs = .ok (entries, workerSpecs))
    (index : Nat) (spec : PoolSpec) (entry : OwnedIOSurfacePoolEntry)
    (workerSpec : WorkerIOSurfacePoolSpec)
    (specAt : specs[index]? = some spec)
    (entryAt : entries[index]? = some entry)
    (workerAt : workerSpecs[index]? = some workerSpec)
    (calls : HostCalls) (source : List UInt8) (backend : VtRealBackend)
    (surfaces : Surfaces) (entryId surface : Nat)
    (present : surfaces.directory.entries[entryId]? =
      some (IOSurfacePoolDirectory.loadEntry ⟨workerSpec.received, surface⟩))
    (claims : surfaces.directory.firstMatch (poolShape
      (CreateBufferPoolPayload.read source)) = some entryId)
    (created : (backend.createBufferPool calls source surfaces).status = Status.ok) :
    let after := (backend.createBufferPool calls source surfaces).backend
    let poolId := backend.nextHostId
    let slots := spec.slotCount.toNat
    (∀ slot < slots, ∃ buffer, after.IsSlot poolId slot buffer) ∧
    (SlotsInside after poolId slots entry.surface.allocSize.toNat ↔ SlotsFit host.page spec) ∧
    SlotsApart after poolId slots := by
  obtain ⟨slotAligned, accepted⟩ :=
    allocatePools_accepted allocated specAt entryAt workerAt
  obtain ⟨supported, _⟩ := poolSlotAllocSize_ok accepted.sized
  obtain rfl := accepted.told
  obtain ⟨claimed, directoryEntry, found, at_entry, shape, built, result, _⟩ :=
    createBufferPool_built created
  obtain rfl : entryId = claimed :=
    Option.some.inj (claims.symm.trans found)
  obtain rfl : _ = directoryEntry :=
    Option.some.inj (present.symm.trans at_entry)
  obtain ⟨width, height, pixelFormat⟩ := PoolShape.mk.inj shape
  have few := (buildPool_builds built).1.1
  have strided := buildPool_strided built
  have bytes : slotBytes (CreateBufferPoolPayload.read source) =
      paddedBytes spec.width.toNat spec.height.toNat spec.pixelFormat := by
    rw [← totalSize_eq supported, slotBytes, ← width, ← height, ← pixelFormat]
    rfl
  rw [bytes] at strided
  intro after poolId slots
  dsimp only [after]
  rw [result]
  refine ⟨?_, ?_, strided.apart⟩
  · intro slot below
    obtain ⟨buffer, isSlot, _⟩ := strided slot below
    exact ⟨buffer, isSlot⟩
  · exact (strided.inside_iff accepted.slots).trans (accepted.slotsFit_iff few)

def appleSilicon : SurfaceHost where
  page := ⟨14, by decide, by decide⟩
  createSurface index := some (UInt32.ofNat (index + 1))
  createMachPort _ := 4096

def bgraSpec (width height : UInt32) : PoolSpec where
  guestPhysAddr := 0
  slotCount := 1
  width := width
  height := height
  pixelFormat := PixelFormat.bgra

def bgraTold (width height : UInt32) : WorkerIOSurfacePoolSpec where
  width := width
  height := height
  pixelFormat := PixelFormat.bgra
  slotCount := 1
  iosurfaceId := 1

def bgraEntry (width height : UInt32) (total : UInt64) :
    OwnedIOSurfacePoolEntry :=
  let pixelFormat := PixelFormat.bgra
  let slotCount := (bgraSpec width height).slotCount
  { surface := ⟨width, rawHeight width total, rawAlloc width total, 1⟩
    machPort := 4096
    iosurfaceId := 1
    guestPhysAddr := 0
    len := total
    writable := true
    name :=
      s!"vt-ferry-pool-pf{pixelFormat}-w{width}-h{height}-n{slotCount}-b{total}" }

/-- The slot of a 16 by 16 pool ends inside its surface. -/
theorem aligned_slot_inside :
    SlotsInside (fresh.createBufferPool {} (oneSlotRequest 16 16)
      (oneSlotSurfaces 16 16)).backend 1 1 16384 :=
  (pool_slots_fit_iff appleSilicon [bgraSpec 16 16]
    [bgraEntry 16 16 16384] [bgraTold 16 16] rfl 0 (bgraSpec 16 16) _
    (bgraTold 16 16) rfl rfl rfl {} (oneSlotRequest 16 16) fresh
    (oneSlotSurfaces 16 16) 0 0 rfl (by decide) (by decide)).2.1.mpr
    (Or.inr ⟨by decide, by decide⟩)

/-- Rows of one pixel are 4 bytes for the broker and 64 for the worker, so a
pool of 4096 of them is built over a surface of a sixteenth of its size. -/
theorem one_pixel_rows_outside :
    allocatePools appleSilicon [bgraSpec 1 4096] =
      .ok ([bgraEntry 1 4096 16384], [bgraTold 1 4096]) ∧
    (bgraEntry 1 4096 16384).surface.allocSize.toNat = 16384 ∧
    (let served := fresh.createBufferPool {} (oneSlotRequest 1 4096) (oneSlotSurfaces 1 4096)
    served.status = Status.ok ∧ ∃ buffer, served.backend.IsSlot 1 0 buffer ∧
        buffer.mappedOffset = 0 ∧ buffer.mappedSize = 262144) := by
  refine ⟨rfl, by decide, by decide, _, ⟨rfl, rfl, rfl⟩, ?_, ?_⟩
  · rfl
  · rfl

end Broker

end VtFerry
