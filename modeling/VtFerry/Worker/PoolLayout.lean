import VtFerry.Worker.PoolFailures

/-!
# The layout the guest is told and the layout the encoder reads

`CREATE_BUFFER_POOL` advertises one layout for all slots of a pool and wraps a
pixel buffer over each slot.  The two are computed apart: the advertised
strides and offsets are `u32`s rounded up to 64 bytes, the wrapped ones are
`usize`s, and BGRA rows are wrapped unpadded.
-/

namespace VtFerry

open Rounding

/-- Where a plane is and how it is walked: base, stride and rows. -/
structure PlaneGeometry where
  base : Nat
  bytesPerRow : Nat
  height : Nat
  deriving DecidableEq, Repr

def PlaneGeometry.byteAt (plane : PlaneGeometry) (row column : Nat) : Nat :=
  plane.base + row * plane.bytesPerRow + column

def PixelPlane.geometry (plane : PixelPlane) : PlaneGeometry where
  base := plane.base
  bytesPerRow := plane.bytesPerRow
  height := plane.height

/-- The plane in a slot that starts at `slotOffset`. -/
def LayoutPlane.geometry (slotOffset : Nat) (plane : LayoutPlane) :
    PlaneGeometry where
  base := slotOffset + plane.offset.toNat
  bytesPerRow := plane.bytesPerRow.toNat
  height := plane.height.toNat

/-- The pixel buffer over the slot has the planes of the layout, in the slot's
memory. -/
def VtRealBuffer.Mirrors (buffer : VtRealBuffer) (layout : BufferLayoutReply) : Prop :=
  ∃ pixelBuffer, buffer.pixelBuffer = some pixelBuffer ∧ pixelBuffer.region = buffer.mappedRegion ∧
    pixelBuffer.planes.map PixelPlane.geometry =
      layout.planes.map (LayoutPlane.geometry buffer.mappedOffset)

/-- A byte the guest writes for a row and a column of a plane is the byte the
encoder reads there. -/
def VtRealBuffer.SamePixels (buffer : VtRealBuffer) (layout : BufferLayoutReply) : Prop :=
  ∃ pixelBuffer, buffer.pixelBuffer = some pixelBuffer ∧ pixelBuffer.region = buffer.mappedRegion ∧
    pixelBuffer.planes.length = layout.planes.length ∧
    ∀ (index : Nat) (advertised : LayoutPlane) (wrapped : PixelPlane),
      layout.planes[index]? = some advertised →
      pixelBuffer.planes[index]? = some wrapped → ∀ row column,
      (advertised.geometry buffer.mappedOffset).byteAt row column =
        wrapped.geometry.byteAt row column

theorem VtRealBuffer.Mirrors.samePixels {buffer : VtRealBuffer}
    {layout : BufferLayoutReply} (mirrors : buffer.Mirrors layout) :
    buffer.SamePixels layout := by
  obtain ⟨pixelBuffer, wrapped, region, planes⟩ := mirrors
  refine ⟨pixelBuffer, wrapped, region, ?_, ?_⟩
  · have lengths := congrArg List.length planes
    rwa [List.length_map, List.length_map] at lengths
  · intro index advertised plane advertised_at plane_at row column
    have entries := congrArg (fun planes => planes[index]?) planes
    rw [List.getElem?_map, List.getElem?_map, advertised_at, plane_at] at entries
    rw [Option.some.inj entries]

/-! ## When the layouts agree -/

/-- The advertised and the wrapped layout of a slot agree: rows of BGRA pixels
need no padding, the planes of NV12 stay below 4 GiB. -/
def LayoutsAgree (width height pixelFormat : UInt32) : Prop :=
  pixelFormat = PixelFormat.bgra ∧ 16 ∣ width.toNat ∧ 4 * width.toNat < 2 ^ 32 ∨
    pixelFormat = PixelFormat.nv12 ∧ roundUp 64 width.toNat < 2 ^ 32 ∧
      roundUp 64 width.toNat * height.toNat < 2 ^ 32

theorem toNat_ofNat_eq_iff {value : Nat} : (UInt32.ofNat value).toNat = value ↔ value < 2 ^ 32 := by
  rw [UInt32.toNat_ofNat']
  constructor
  · intro same
    rw [← same]
    exact Nat.mod_lt _ (by decide)
  · exact Nat.mod_eq_of_lt

theorem bgra_stride_eq_iff {width : Nat} :
    (UInt32.ofNat (vtfAlignSize (width * 4) 64)).toNat = width * 4 ↔
      16 ∣ width ∧ 4 * width < 2 ^ 32 := by
  have positive : 0 < 64 := by decide
  have rounded : vtfAlignSize (width * 4) 64 = roundUp 64 (width * 4) :=
    vtfAlignSize_eq_roundUp _ positive
  have lower := le_roundUp positive (width * 4)
  have upper := roundUp_lt_add positive (width * 4)
  rw [UInt32.toNat_ofNat', rounded]
  constructor
  · intro same
    have small : width * 4 < 2 ^ 32 := by
      rw [← same]
      exact Nat.mod_lt _ (by decide)
    have aligned : 64 ∣ width * 4 := by
      rw [← roundUp_eq_self_iff positive]
      have multiple := dvd_roundUp 64 (width * 4)
      omega
    exact ⟨by omega, by omega⟩
  · rintro ⟨aligned, small⟩
    have multiple : 64 ∣ width * 4 := by omega
    rw [(roundUp_eq_self_iff positive).mpr multiple]
    exact Nat.mod_eq_of_lt (by omega)

variable {region slotOffset : Nat} {width height : UInt32}

theorem bgra_planes_eq_iff :
    (wrapSlotSinglePlane region slotOffset width.toNat height.toNat
        (width.toNat * 4) PixelFormat.bgra).planes.map PixelPlane.geometry =
      (vtfFillBufferLayout width height PixelFormat.bgra).planes.map
        (LayoutPlane.geometry slotOffset) ↔
      16 ∣ width.toNat ∧ 4 * width.toNat < 2 ^ 32 := by
  rw [← bgra_stride_eq_iff]
  have advertised :
      (vtfFillBufferLayout width height PixelFormat.bgra).planes.map
        (LayoutPlane.geometry slotOffset) =
      [⟨slotOffset + 0, (UInt32.ofNat
        (vtfAlignSize (width.toNat * 4) 64)).toNat, height.toNat⟩] := rfl
  have wrapped : (wrapSlotSinglePlane region slotOffset width.toNat
      height.toNat (width.toNat * 4) PixelFormat.bgra).planes.map PixelPlane.geometry =
      [⟨slotOffset, width.toNat * 4, height.toNat⟩] := rfl
  rw [advertised, wrapped, Nat.add_zero]
  constructor
  · intro same
    injection same with plane
    injection plane with _ stride
    exact stride.symm
  · intro stride
    rw [stride]

theorem nv12_planes_eq_iff :
    (wrapSlotPlanar region slotOffset width.toNat height.toNat
        (maskAlign64 width.toNat) PixelFormat.nv12).planes.map PixelPlane.geometry =
      (vtfFillBufferLayout width height PixelFormat.nv12).planes.map
        (LayoutPlane.geometry slotOffset) ↔
      roundUp 64 width.toNat < 2 ^ 32 ∧ roundUp 64 width.toNat * height.toNat < 2 ^ 32 := by
  have bounded := width.toNat_lt
  have masked : maskAlign64 width.toNat = roundUp 64 width.toNat :=
    maskAlign64_eq_roundUp (by omega)
  have aligned : vtfAlignSize width.toNat 64 = roundUp 64 width.toNat :=
    vtfAlignSize_eq_roundUp _ (by decide)
  have advertised :
      (vtfFillBufferLayout width height PixelFormat.nv12).planes.map
        (LayoutPlane.geometry slotOffset) =
      [⟨slotOffset + 0, (UInt32.ofNat (vtfAlignSize width.toNat 64)).toNat, height.toNat⟩,
        ⟨slotOffset + (UInt32.ofNat (vtfAlignSize width.toNat 64) * height).toNat,
          (UInt32.ofNat (vtfAlignSize width.toNat 64)).toNat,
          (height / 2).toNat⟩] := rfl
  have wrapped : (wrapSlotPlanar region slotOffset width.toNat height.toNat
      (maskAlign64 width.toNat) PixelFormat.nv12).planes.map PixelPlane.geometry =
      [⟨slotOffset + 0, maskAlign64 width.toNat, height.toNat⟩,
        ⟨slotOffset + maskAlign64 width.toNat * height.toNat,
          maskAlign64 width.toNat, height.toNat / 2⟩] := rfl
  have half : (height / 2).toNat = height.toNat / 2 := rfl
  rw [advertised, wrapped, masked, aligned, UInt32.toNat_mul, half]
  constructor
  · intro same
    injection same with luma rest
    injection rest with chroma
    injection luma with _ stride
    injection chroma with offset
    have narrow := toNat_ofNat_eq_iff.mp stride.symm
    rw [← stride] at offset
    refine ⟨narrow, ?_⟩
    have product : roundUp 64 width.toNat * height.toNat =
        roundUp 64 width.toNat * height.toNat % 2 ^ 32 := by omega
    rw [product]
    exact Nat.mod_lt _ (by decide)
  · rintro ⟨narrow, small⟩
    rw [toNat_ofNat_eq_iff.mpr narrow, Nat.mod_eq_of_lt small]

/-- A wrapped slot has the advertised layout exactly when the layouts
agree. -/
theorem wrapPoolSlot_mirrors_iff {pixelFormat : UInt32} {pixelBuffer : PixelBuffer}
    (wrapped : wrapPoolSlot region slotOffset width height pixelFormat = some pixelBuffer) :
    pixelBuffer.region = region ∧
    (pixelBuffer.planes.map PixelPlane.geometry =
        (vtfFillBufferLayout width height pixelFormat).planes.map
          (LayoutPlane.geometry slotOffset) ↔
      LayoutsAgree width height pixelFormat) := by
  have different : PixelFormat.bgra ≠ PixelFormat.nv12 := by decide
  unfold wrapPoolSlot at wrapped
  split at wrapped
  next bgra =>
    subst bgra
    cases wrapped
    refine ⟨rfl, bgra_planes_eq_iff.trans ?_⟩
    constructor
    · intro unpadded
      exact Or.inl ⟨rfl, unpadded⟩
    · rintro (⟨_, unpadded⟩ | ⟨nv12, _⟩)
      · exact unpadded
      · exact absurd nv12 different
  split at wrapped
  next nv12 =>
    subst nv12
    cases wrapped
    refine ⟨rfl, nv12_planes_eq_iff.trans ?_⟩
    constructor
    · intro small
      exact Or.inr ⟨rfl, small⟩
    · rintro (⟨bgra, _⟩ | ⟨_, small⟩)
      · exact absurd bgra.symm different
      · exact small
  · cases wrapped

namespace VtRealBackend

/-- After a `CREATE_BUFFER_POOL` that succeeds, the pixel buffers of all slots
have the layout of the reply exactly when there is no slot or the layouts
agree; guest and encoder then see the same pixels. -/
theorem pool_layouts_agree_iff (host : HostCalls) (source : List UInt8)
    (backend : VtRealBackend) (surfaces : Surfaces) (entryId : Nat)
    (entry : DirectoryEntry)
    (claims : surfaces.directory.firstMatch
      (poolShape (CreateBufferPoolPayload.read source)) = some entryId)
    (present : surfaces.directory.entries[entryId]? = some entry)
    (created : (backend.createBufferPool host source surfaces).status = Status.ok) :
    let payload := CreateBufferPoolPayload.read source
    let served := backend.createBufferPool host source surfaces
    let slots := entry.pool.spec.slotCount.toNat
    (∀ slot < slots, ∃ buffer, served.backend.IsSlot backend.nextHostId slot buffer) ∧
    ∃ reply, served.body = .pool reply ∧ ((∀ slot < slots, ∀ buffer,
          served.backend.IsSlot backend.nextHostId slot buffer →
          buffer.Mirrors reply.layout) ↔
        slots = 0 ∨ LayoutsAgree payload.width payload.height payload.pixelFormat) ∧
      (LayoutsAgree payload.width payload.height payload.pixelFormat →
        ∀ slot < slots, ∀ buffer, served.backend.IsSlot backend.nextHostId slot buffer →
          buffer.SamePixels reply.layout) := by
  obtain ⟨claimed, claimedEntry, found, at_entry, _, built, result, body⟩ :=
    createBufferPool_built created
  obtain rfl : entryId = claimed := Option.some.inj (claims.symm.trans found)
  obtain rfl : entry = claimedEntry :=
    Option.some.inj (present.symm.trans at_entry)
  obtain ⟨_, _, leases, reply, _⟩ := buildPool_builds built
  intro payload served slots
  have slot_mirrors_iff (slot : Nat) (below : slot < slots) :
      ∃ buffer, served.backend.IsSlot backend.nextHostId slot buffer ∧
        (buffer.Mirrors (vtfFillBufferLayout payload.width payload.height payload.pixelFormat) ↔
          LayoutsAgree payload.width payload.height payload.pixelFormat) := by
    obtain ⟨pixelBuffer, wrapped, at_slot⟩ := buildPool_slot built slot below
    obtain ⟨region, mirrors_iff⟩ := wrapPoolSlot_mirrors_iff wrapped
    rw [← result] at at_slot
    refine ⟨_, ⟨at_slot, rfl, rfl⟩, ?_⟩
    constructor
    · rintro ⟨own, is_own, _, planes⟩
      obtain rfl : pixelBuffer = own := Option.some.inj is_own
      exact mirrors_iff.mp planes
    · intro agree
      exact ⟨pixelBuffer, rfl, region, mirrors_iff.mpr agree⟩
  have mirrors_of_agree (agree : LayoutsAgree payload.width payload.height payload.pixelFormat)
      (slot : Nat) (below : slot < slots) (buffer : VtRealBuffer)
      (isSlot : served.backend.IsSlot backend.nextHostId slot buffer) :
      buffer.Mirrors (vtfFillBufferLayout payload.width payload.height payload.pixelFormat) := by
    obtain ⟨only, isOnly, mirrors_iff⟩ := slot_mirrors_iff slot below
    obtain rfl : buffer = only :=
      Option.some.inj (isSlot.1.symm.trans isOnly.1)
    exact mirrors_iff.mpr agree
  refine ⟨?_, _, body.trans reply, ?_, ?_⟩
  · intro slot below
    obtain ⟨buffer, isSlot, _⟩ := slot_mirrors_iff slot below
    exact ⟨buffer, isSlot⟩
  · constructor
    · intro mirrors
      rcases Nat.eq_zero_or_pos slots with none | some_slot
      · exact Or.inl none
      · obtain ⟨buffer, isSlot, mirrors_iff⟩ := slot_mirrors_iff 0 some_slot
        exact Or.inr (mirrors_iff.mp (mirrors 0 some_slot buffer isSlot))
    · rintro (none | agree)
      · intro slot below
        omega
      · exact mirrors_of_agree agree
  · intro agree slot below buffer isSlot
    exact (mirrors_of_agree agree slot below buffer isSlot).samePixels

def oneSlotSurfaces (width height : UInt32) : Surfaces :=
  WorkerProcess.loadedSurfaces [⟨⟨width, height, PixelFormat.bgra, 1, 1⟩, 0⟩] fun _ _ => 0

def oneSlotRequest (width height : UInt32) : List UInt8 :=
  LittleEndian.u64Bytes 0 ++ LittleEndian.u32Bytes 1 ++
    LittleEndian.u32Bytes PixelFormat.bgra ++ LittleEndian.u32Bytes width ++
    LittleEndian.u32Bytes height ++ LittleEndian.u64Bytes 0

/-- With 16 pixels a row, the slot of a pool has the advertised layout. -/
theorem sixteen_pixel_rows_mirrored :
    ∃ buffer reply, (fresh.createBufferPool {} (oneSlotRequest 16 2)
        (oneSlotSurfaces 16 2)).backend.IsSlot 1 0 buffer ∧
      (fresh.createBufferPool {} (oneSlotRequest 16 2) (oneSlotSurfaces 16 2)).body = .pool reply ∧
      buffer.Mirrors reply.layout := by
  obtain ⟨slots, reply, body, mirrors_iff, _⟩ :=
    pool_layouts_agree_iff {} (oneSlotRequest 16 2) .fresh
      (oneSlotSurfaces 16 2) 0 _ (by decide) rfl (by decide)
  obtain ⟨buffer, isSlot⟩ := slots 0 (by decide)
  refine ⟨buffer, reply, isSlot, body, ?_⟩
  exact mirrors_iff.mpr (Or.inr (Or.inl ⟨rfl, by decide, by decide⟩)) 0 (by decide) buffer isSlot

/-- With one pixel a row, the guest is told to start the second row at byte 64
and the encoder reads it at byte 4. -/
theorem one_pixel_rows_not_mirrored :
    let served := fresh.createBufferPool {} (oneSlotRequest 1 2) (oneSlotSurfaces 1 2)
    served.status = Status.ok ∧
    ∃ buffer pixelBuffer reply advertised wrapped, served.backend.IsSlot 1 0 buffer ∧
      buffer.pixelBuffer = some pixelBuffer ∧
      served.body = .pool reply ∧
      reply.layout.planes = [advertised] ∧ pixelBuffer.planes = [wrapped] ∧
      (advertised.geometry buffer.mappedOffset).byteAt 1 0 = 64 ∧
      wrapped.geometry.byteAt 1 0 = 4 := by
  refine ⟨by decide, _, _, _, _, _, ⟨rfl, rfl, rfl⟩, rfl, rfl, rfl, rfl, ?_, ?_⟩
  · decide
  · decide

end VtRealBackend

end VtFerry
