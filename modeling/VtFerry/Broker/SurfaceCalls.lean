import VtFerry.Broker.SlotFit

/-!
# The numbers a surface is created with

The broker hands the sizes of a packed surface to the host as number objects.
All of them are made with the type of a C `int`, also the allocation size,
which is a word of 64 bits: of that the number object has the lower half.  So
the host gets the sizes the broker means exactly when the rows and the whole
surface are smaller than 2 GiB.
-/

namespace VtFerry

namespace Broker

open Rounding

/-! ## The calls -/

/-- The C `int` that `CFNumberCreate` reads with `kCFNumberIntType`. -/
def cfNumberI32 (value : Int32) : Int := value.toInt

/-- The type is the same, so the first four bytes are read. -/
def cfNumberI64 (value : Int64) : Int := value.toInt32.toInt

/-- What `IOSurfaceCreate` finds in its dictionary. -/
structure SurfaceProperties where
  width : Int
  height : Int
  bytesPerElement : Int
  bytesPerRow : Int
  pixelFormat : Int
  allocSize : Int
  deriving DecidableEq, Repr

/-- The dictionary of `create_packed_bgra_iosurface`. -/
def packedBgraProperties (width height : UInt32) (allocSize : UInt64) :
    SurfaceProperties where
  width := cfNumberI32 width.toInt32
  height := cfNumberI32 height.toInt32
  bytesPerElement := cfNumberI32 4
  bytesPerRow := cfNumberI32 (width.toInt32 * 4)
  pixelFormat := cfNumberI32 PixelFormat.bgra.toInt32
  allocSize := cfNumberI64 allocSize.toInt64

/-- The calls of the loop, each with the spec it is made for.  A round that
fails ends the loop. -/
def callsFrom (host : SurfaceHost) :
    Nat → List PoolSpec → List (PoolSpec × SurfaceProperties)
  | _, [] => []
  | index, spec :: specs =>
    match checkedTotal host.page spec with
    | .error _ => []
    | .ok total =>
      (spec, packedBgraProperties spec.width (rawHeight spec.width total)
        (rawAlloc spec.width total)) ::
      match allocatePool host index spec with
      | .error _ => []
      | .ok _ => callsFrom host (index + 1) specs

def surfaceCalls (host : SurfaceHost) (specs : List PoolSpec) :
    List (PoolSpec × SurfaceProperties) :=
  if maxRegisteredIOSurfacePorts < specs.length then []
  else callsFrom host 0 specs

/-! ## The intended sizes -/

/-- Bytes of a slot before they are rounded to a page. -/
def slotBytes (spec : PoolSpec) : Nat :=
  let width := spec.width.toNat
  let height := spec.height.toNat
  if spec.pixelFormat = PixelFormat.nv12 then
    roundUp 64 width * (height + height / 2)
  else 4 * width * height

def poolBytes (page : PageSize) (spec : PoolSpec) : Nat :=
  spec.slotCount.toNat * roundUp page.bytes (slotBytes spec)

def poolRows (page : PageSize) (spec : PoolSpec) : Nat :=
  (poolBytes page spec + 4 * spec.width.toNat - 1) / (4 * spec.width.toNat)

def surfaceBytes (page : PageSize) (spec : PoolSpec) : Nat :=
  max (4 * spec.width.toNat * poolRows page spec) (poolBytes page spec)

/-- The host gets the exact values, and a surface for all slots. -/
structure AsIntended (page : PageSize) (spec : PoolSpec)
    (properties : SurfaceProperties) : Prop where
  width : properties.width = spec.width.toNat
  height : properties.height = poolRows page spec
  bytesPerRow : properties.bytesPerRow = (4 * spec.width.toNat : Nat)
  allocSize : properties.allocSize = surfaceBytes page spec
  room : (poolBytes page spec : Int) ≤ properties.allocSize

/-- The rows and the surface are smaller than 2 GiB. -/
def Small (page : PageSize) (spec : PoolSpec) : Prop :=
  4 * spec.width.toNat < 2 ^ 31 ∧ surfaceBytes page spec < 2 ^ 31

/-! ## Which numbers arrive -/

theorem bmod_eq_self_iff (value : Nat) : (value : Int).bmod (2 ^ 32) = value ↔ value < 2 ^ 31 := by
  constructor
  · intro same
    have upper := @Int.bmod_lt value (2 ^ 32) (by decide)
    omega
  · intro small
    apply Int.bmod_eq_of_le
    · omega
    · omega

theorem toInt_toInt32 (value : UInt32) : value.toInt32.toInt = (value.toNat : Int).bmod (2 ^ 32) :=
  BitVec.toInt_eq_toNat_bmod _

theorem cfNumberI64_toInt64 (value : UInt64) :
    cfNumberI64 value.toInt64 = (value.toNat : Int).bmod (2 ^ 32) := by
  have word : value.toInt64.toInt = (value.toNat : Int).bmod (2 ^ 64) :=
    BitVec.toInt_eq_toNat_bmod _
  rw [cfNumberI64, Int64.toInt_toInt32, word]
  exact Int.bmod_bmod_of_dvd (by decide)

theorem bytesPerRow_eq (width : UInt32) :
    cfNumberI32 (width.toInt32 * 4) = ((4 * width.toNat : Nat) : Int).bmod (2 ^ 32) := by
  have four : (4 : Int32).toInt = 4 := rfl
  rw [cfNumberI32, Int32.toInt_mul, toInt_toInt32, four, Int.bmod_mul_bmod,
    Int.mul_comm, Int.natCast_mul]
  rfl

variable {page : PageSize} {spec : PoolSpec} {total : UInt64}

theorem small_sizes (checked : checkedTotal page spec = .ok total)
    (small : Small page spec) : poolRows page spec < 2 ^ 31 ∧
      (rawHeight spec.width total).toNat = poolRows page spec ∧
      (rawAlloc spec.width total).toNat = surfaceBytes page spec := by
  obtain ⟨slots, wide, slotAligned, sized, fits, rfl⟩ :=
    checkedTotal_ok checked
  obtain ⟨-, raw, packed, rfl⟩ := poolSlotAllocSize_ok sized
  obtain ⟨row_small, bytes_small⟩ := small
  have page_small := page.bytes_le
  have pool_small : poolBytes page spec < 2 ^ 31 :=
    Nat.lt_of_le_of_lt (Nat.le_max_right _ _) bytes_small
  have slot_small : slotBytes spec < 2 ^ 31 := by
    refine Nat.lt_of_le_of_lt (le_roundUp page.bytes_pos _) (Nat.lt_of_le_of_lt ?_ pool_small)
    exact Nat.le_mul_of_pos_left _ slots
  have raw_eq : raw.toNat = slotBytes spec := by
    rw [packed, ← Nat.mod_eq_of_lt (Nat.lt_trans slot_small
      (by decide : 2 ^ 31 < 2 ^ 64)), packedBytes, slotBytes]
    split
    · rfl
    · rfl
  have total_eq : (pageRoundUp page raw * spec.slotCount.toUInt64).toNat =
      poolBytes page spec := by
    rw [UInt64.toNat_mul, UInt32.toNat_toUInt64, Nat.mod_eq_of_lt fits,
      Nat.mul_comm, toNat_pageRoundUp (by omega), raw_eq, poolBytes]
  have rounded : roundUp (4 * spec.width.toNat) (poolBytes page spec) =
      surfaceBytes page spec := by
    rw [surfaceBytes, Nat.mul_comm (4 * spec.width.toNat)]
    exact (Nat.max_eq_left (le_roundUp (by omega) _)).symm
  have few : poolRows page spec < 2 ^ 31 := by
    have rows : poolRows page spec ≤ surfaceBytes page spec := by
      rw [← rounded]
      exact Nat.le_mul_of_pos_right _ (by omega)
    omega
  have cut : (poolBytes page spec + 4 * spec.width.toNat - 1) % 2 ^ 64 =
      poolBytes page spec + 4 * spec.width.toNat - 1 :=
    Nat.mod_eq_of_lt (by omega)
  refine ⟨few, ?_, ?_⟩
  · rw [toNat_rawHeight wide, total_eq, cut]
    exact Nat.mod_eq_of_lt (Nat.lt_trans few (by decide))
  · rw [rawAlloc_eq wide, total_eq, rounded]
    · omega
    · rw [total_eq]
      exact Nat.lt_trans few (by decide)

theorem asIntended_iff (checked : checkedTotal page spec = .ok total) :
    AsIntended page spec (packedBgraProperties spec.width
        (rawHeight spec.width total) (rawAlloc spec.width total)) ↔
      Small page spec := by
  constructor
  · intro intended
    have row := intended.bytesPerRow
    have bytes := intended.allocSize
    dsimp only [packedBgraProperties] at row bytes
    rw [bytesPerRow_eq, bmod_eq_self_iff] at row
    rw [cfNumberI64_toInt64] at bytes
    have upper := @Int.bmod_lt (rawAlloc spec.width total).toNat (2 ^ 32) (by decide)
    refine ⟨row, ?_⟩
    omega
  · intro small
    obtain ⟨rows_small, rows, bytes⟩ := small_sizes checked small
    have received : cfNumberI64 (rawAlloc spec.width total).toInt64 =
        surfaceBytes page spec := by
      rw [cfNumberI64_toInt64, bytes]
      exact (bmod_eq_self_iff _).mpr small.2
    refine ⟨?_, ?_, ?_, received, ?_⟩
    · have width_small := small.1
      exact (toInt_toInt32 _).trans ((bmod_eq_self_iff _).mpr (by omega))
    · refine (toInt_toInt32 _).trans ?_
      rw [rows]
      exact (bmod_eq_self_iff _).mpr rows_small
    · exact (bytesPerRow_eq _).trans ((bmod_eq_self_iff _).mpr small.1)
    · refine Int.le_trans ?_ (Int.le_of_eq received.symm)
      exact Int.ofNat_le.mpr (Nat.le_max_right _ _)

/-! ## All calls -/

theorem exists_total_of_call {host : SurfaceHost} {index : Nat}
    {specs : List PoolSpec} {call : PoolSpec × SurfaceProperties}
    (made : call ∈ callsFrom host index specs) :
    ∃ total, checkedTotal host.page call.1 = .ok total ∧ call.2 = packedBgraProperties call.1.width
        (rawHeight call.1.width total) (rawAlloc call.1.width total) := by
  induction specs generalizing index with
  | nil => cases made
  | cons spec specs induction =>
    unfold callsFrom at made
    split at made
    · cases made
    next total checked =>
      rcases List.mem_cons.mp made with rfl | later
      · exact ⟨total, checked, rfl⟩
      · split at later
        · cases later
        · exact induction later

/-- The broker asks for the surfaces it means exactly when the surfaces it asks
for are small. -/
theorem surfaces_as_intended_iff (host : SurfaceHost) (specs : List PoolSpec) :
    (∀ call ∈ surfaceCalls host specs, AsIntended host.page call.1 call.2) ↔
      ∀ call ∈ surfaceCalls host specs, Small host.page call.1 := by
  refine forall₂_congr fun call made => ?_
  unfold surfaceCalls at made
  split at made
  · cases made
  · obtain ⟨total, checked, called⟩ := exists_total_of_call made
    rw [called]
    exact asIntended_iff checked

/-- One slot of 16 by 16 pixels takes a page. -/
theorem one_small_slot_as_intended :
    ∀ call ∈ surfaceCalls appleSilicon [bgraSpec 16 16],
      AsIntended appleSilicon.page call.1 call.2 := by
  apply (surfaces_as_intended_iff appleSilicon [bgraSpec 16 16]).mpr
  unfold Small
  decide +kernel

/-- Two slots of 16384 by 16384 pixels take 2 GiB, which arrive as a negative
size. -/
theorem two_large_slots_negative :
    ∃ call ∈ surfaceCalls appleSilicon [{ bgraSpec 16384 16384 with slotCount := 2 }],
      ¬ AsIntended appleSilicon.page call.1 call.2 ∧
        surfaceBytes appleSilicon.page call.1 = 2 ^ 31 ∧
        call.2.allocSize = -2 ^ 31 := by
  refine ⟨_, List.mem_cons_self, ?_, by decide +kernel, by decide +kernel⟩
  intro intended
  have received := intended.allocSize
  revert received
  decide +kernel

end Broker

end VtFerry
