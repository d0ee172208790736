import VtFerry.Shim.LayoutAgreement
import VtFerry.Worker.PoolLayout
import VtFerry.Worker.RangeCopy
import VtFerry.Worker.VtReal.LeaseTable

/-!
# The bytes of the VideoToolbox backend's buffers

A buffer is written flat, at an offset of its mapped slot, and read back
through its pixel buffer, plane by plane and row by row.  Where the planes lie
in the slot, the two ways meet the same bytes: the planes of the wrapped pixel
buffer are then the planes of the advertised layout, which tile the slot.
-/

namespace VtFerry

open List Patches Rounding

/-! ## Ranges of host memory -/

namespace HostMemory

variable {memory : HostMemory} {region start size : Nat}
variable {offset : Nat} {data : List UInt8}

theorem readRange_writeRange_inside (fits : offset + data.length ≤ size) :
    (memory.writeRange region (start + offset) data).readRange region start size =
      Patch.apply ⟨offset, data⟩ (memory.readRange region start size) := by
  have length : (Patch.apply ⟨offset, data⟩
      (memory.readRange region start size)).length = size := by
    rw [Patch.length_apply_of_within, length_readRange]
    intro position covers
    have below := covers.2
    dsimp only at below
    rw [length_readRange]
    omega
  apply eq_of_getElem?_lt (length_readRange ..) length
  intro index below
  have inside : index < (memory.readRange region start size).length := by
    rwa [length_readRange]
  rw [getElem?_readRange below, Patch.getElem?_apply _ inside, getElem?_readRange below]
  by_cases covered : (⟨offset, data⟩ : Patch UInt8).Covers index
  · rw [if_pos covered, writeRange]
    obtain ⟨first, last⟩ := covered
    dsimp only at first last
    have written : region = region ∧ start + offset ≤ start + index ∧
        start + index < start + offset + data.length := ⟨rfl, by omega⟩
    have place : start + index - (start + offset) = index - offset := by omega
    have bound : index - offset < data.length := by omega
    rw [if_pos written, place, getD_eq_getElem?_getD, getElem?_eq_getElem bound, Option.getD_some]
  · rw [if_neg covered, writeRange, if_neg]
    rintro ⟨-, first, last⟩
    apply covered
    constructor
    · dsimp only
      omega
    · dsimp only
      omega

theorem readRange_writeRange_apart {other place : Nat}
    (apart : region ≠ other ∨ start + size ≤ place ∨ place + data.length ≤ start) :
    (memory.writeRange other place data).readRange region start size =
      memory.readRange region start size := by
  apply map_congr_left
  intro index listed
  have below := mem_range.mp listed
  unfold writeRange
  rw [if_neg]
  rintro ⟨same, first, last⟩
  rcases apart with different | apart
  · exact different same
  · omega

end HostMemory

/-! ## Slots and pixel buffers -/

namespace VtRealBuffer

variable {buffer : VtRealBuffer} {memory : HostMemory}

def content (memory : HostMemory) (buffer : VtRealBuffer) : List UInt8 :=
  memory.readRange buffer.mappedRegion buffer.mappedOffset buffer.mappedSize

def Apart (first second : VtRealBuffer) : Prop :=
  first.mappedRegion ≠ second.mappedRegion ∨
    first.mappedOffset + first.mappedSize ≤ second.mappedOffset ∨
    second.mappedOffset + second.mappedSize ≤ first.mappedOffset

/-- The pixel buffer shows memory of the slot: each of its planes lies in
it. -/
def Exposes (buffer : VtRealBuffer) (pixels : PixelBuffer) : Prop :=
  ∀ plane ∈ pixels.planes, buffer.mappedOffset ≤ plane.base ∧
    plane.base + plane.bytesPerRow * plane.height ≤ buffer.mappedOffset + buffer.mappedSize

@[simp] theorem length_content : (buffer.content memory).length = buffer.mappedSize :=
  length_readRange ..

theorem content_writeRange (fits : offset + data.length ≤ buffer.mappedSize) :
    buffer.content (memory.writeRange buffer.mappedRegion (buffer.mappedOffset + offset) data) =
      Patch.apply ⟨offset, data⟩ (buffer.content memory) :=
  HostMemory.readRange_writeRange_inside fits

theorem Apart.content_writeRange {other : VtRealBuffer} (apart : buffer.Apart other)
    (fits : offset + data.length ≤ buffer.mappedSize) :
    other.content (memory.writeRange buffer.mappedRegion
        (buffer.mappedOffset + offset) data) = other.content memory := by
  apply HostMemory.readRange_writeRange_apart
  rcases apart with different | before | after
  · exact .inl different.symm
  · exact .inr (.inr (by omega))
  · exact .inr (.inl (by omega))

end VtRealBuffer

/-! ## Reading back through the planes -/

/-- CoreVideo gives every base address it is asked for. -/
def NullAddresses.AllPresent (nulls : NullAddresses) : Prop :=
  nulls.base = false ∧ ∀ index, nulls.plane index = false

section Planes

variable {memory : HostMemory} {nulls : NullAddresses}
variable {pixels : PixelBuffer} {layout : BufferLayoutReply}
variable {total slotOffset : Nat}

/-- A plane of the pixel buffer is the plane of the layout it is paired
with. -/
theorem geometry_of_mem_zip (mirrors : pixels.planes.map PixelPlane.geometry =
      layout.planes.map (LayoutPlane.geometry slotOffset))
    {source : PixelPlane} {target : LayoutPlane}
    (paired : (source, target) ∈ pixels.planes.zip layout.planes) :
    source.base = slotOffset + target.offset.toNat ∧
      source.bytesPerRow = target.bytesPerRow.toNat := by
  obtain ⟨index, bound, at_index⟩ := mem_iff_getElem.mp paired
  have entries := congrArg (fun planes => planes[index]?) mirrors
  rw [length_zip] at bound
  rw [getElem_zip] at at_index
  injection at_index with source_is target_is
  have source_at : pixels.planes[index]? = some source := by
    rw [← source_is]
    exact getElem?_eq_getElem _
  have target_at : layout.planes[index]? = some target := by
    rw [← target_is]
    exact getElem?_eq_getElem _
  rw [getElem?_map, getElem?_map, source_at, target_at] at entries
  have same := Option.some.inj entries
  exact ⟨congrArg PlaneGeometry.base same, congrArg PlaneGeometry.bytesPerRow same⟩

/-- Where the planes are those of a layout that tiles the slot, a frame copy
gives the bytes of the slot. -/
theorem copied_of_mirrors (memory : HostMemory) (tiles : layout.Tiles total)
    (copies : ¬ CopyFails nulls pixels layout)
    (planes : ¬ CopiesWhole pixels layout)
    (mirrors : pixels.planes.map PixelPlane.geometry =
      layout.planes.map (LayoutPlane.geometry slotOffset)) :
    applyAll (copyPatches memory pixels layout) (replicate total 0) =
      memory.readRange pixels.region slotOffset total := by
  have length : (applyAll (copyPatches memory pixels layout)
      (replicate total 0)).length = total := by
    rw [length_applyAll, length_replicate]
    intro position patched
    rw [length_replicate]
    exact ((patched_copyPatches ..).mp patched).inside tiles
  apply eq_of_getElem?_lt length (length_readRange ..)
  intro position below
  obtain ⟨target, listed, holds⟩ := (tiles.covers position).mp below
  have enough := enough_of_copies copies planes
  obtain ⟨source, paired⟩ : ∃ source, (source, target) ∈ pixels.planes.zip layout.planes := by
    rw [← map_snd_zip enough] at listed
    obtain ⟨⟨source, _⟩, member, rfl⟩ := mem_map.mp listed
    exact ⟨source, member⟩
  obtain ⟨base, stride⟩ := geometry_of_mem_zip mirrors paired
  obtain ⟨first, last⟩ := holds
  obtain ⟨inPlane, rfl⟩ := Nat.exists_eq_add_of_le first
  have inExtent : inPlane < target.bytesPerRow.toNat * target.height.toNat := by omega
  have row : inPlane / target.bytesPerRow.toNat < target.height.toNat :=
    Nat.div_lt_of_lt_mul inExtent
  have positive : 0 < target.bytesPerRow.toNat := by
    apply Nat.pos_of_ne_zero
    intro zero
    rw [zero, Nat.zero_mul] at inExtent
    omega
  have column := Nat.mod_lt inPlane positive
  have split := Nat.div_add_mod' inPlane target.bytesPerRow.toNat
  have overwrites : Overwrites pixels layout (target.offset.toNat + inPlane) := by
    refine .inr ⟨planes, (source, target), paired, _, row, ?_, ?_⟩
    · dsimp only
      omega
    · dsimp only
      rw [stride, Nat.min_self]
      omega
  rw [(getElem?_copied memory tiles copies below).1 overwrites, getElem?_readRange below,
    frameByte_of_holds tiles planes enough paired ⟨first, last⟩]
  unfold planeByte
  dsimp only
  rw [Nat.add_sub_cancel_left, base, stride]
  congr 2
  omega

end Planes

namespace VtRealBuffer

variable {buffer : VtRealBuffer} {memory : HostMemory}
variable {width height : UInt32} {pixels : PixelBuffer}
variable {nulls : NullAddresses}

theorem exactStride_nv12 : exactStride width PixelFormat.nv12 = roundUp 64 width.toNat := by
  rw [exactStride, show sampleBytes PixelFormat.nv12 = 1 from rfl, Nat.mul_one]

theorem Made.nv12_fits (made : buffer.Made width height pixels)
    (nv12 : buffer.pixelFormat = PixelFormat.nv12)
    (exposes : buffer.Exposes pixels) :
    exactTotalSize width height PixelFormat.nv12 < 2 ^ 32 := by
  have bounded := width.toNat_lt
  have masked : maskAlign64 width.toNat = roundUp 64 width.toNat :=
    maskAlign64_eq_roundUp (by omega)
  have wrapped := made.wraps
  rw [nv12] at wrapped
  obtain rfl := Option.some.inj wrapped
  have chroma := (exposes
    { base := buffer.mappedOffset + maskAlign64 width.toNat * height.toNat
      width := width.toNat / 2
      height := height.toNat / 2
      bytesPerRow := maskAlign64 width.toNat }
    (mem_cons_of_mem _ (mem_singleton.mpr rfl))).2
  dsimp only at chroma
  have size := made.size
  have small := (vtfFillBufferLayout width height buffer.pixelFormat).totalSize.toNat_lt
  have biplanar : Biplanar PixelFormat.nv12 := by decide
  rw [exactTotalSize, if_pos biplanar, exactStride_nv12, ← masked]
  omega

/-- The planes of NV12 pixels are those of the layout, which tiles the
slot. -/
theorem Made.nv12_mirrors (made : buffer.Made width height pixels)
    (nv12 : buffer.pixelFormat = PixelFormat.nv12)
    (exposes : buffer.Exposes pixels) (nonempty : 0 < buffer.mappedSize) :
    (vtfFillBufferLayout width height buffer.pixelFormat).Tiles buffer.mappedSize ∧
      pixels.planes.map PixelPlane.geometry =
        (vtfFillBufferLayout width height buffer.pixelFormat).planes.map
          (LayoutPlane.geometry buffer.mappedOffset) := by
  have fits := made.nv12_fits nv12 exposes
  have size := made.size
  have tall : 0 < height := by
    apply UInt32.pos_iff_ne_zero.mpr
    rintro rfl
    rw [size, nv12] at nonempty
    simp [vtfFillBufferLayout, biplanarLayout] at nonempty
  constructor
  · have tiles := layoutWith_tiles tall fits
    rw [← vtfFillBufferLayout_eq, ← nv12] at tiles
    rwa [size, tiles.size]
  · have narrow := exactStride_lt tall fits
    have luma : exactStride width PixelFormat.nv12 * height.toNat < 2 ^ 32 := by
      unfold exactTotalSize at fits
      omega
    rw [exactStride_nv12] at narrow luma
    exact (wrapPoolSlot_mirrors_iff made.wraps).2.mpr (.inr ⟨nv12, narrow, luma⟩)

theorem Made.copied (made : buffer.Made width height pixels)
    (exposes : buffer.Exposes pixels) (present : nulls.AllPresent)
    (memory : HostMemory) (nonempty : 0 < buffer.mappedSize) :
    vtfCopyPixelBufferToBytes memory nulls pixels
        (replicate buffer.mappedSize 0) buffer.width.toUInt32
        buffer.height.toUInt32 buffer.pixelFormat =
      some (buffer.content memory) := by
  have width_is : buffer.width.toUInt32 = width := by
    rw [made.columns, UInt32.toUInt32_toInt32]
  have height_is : buffer.height.toUInt32 = height := by
    rw [made.rows, UInt32.toUInt32_toInt32]
  have wrapped := made.wraps
  rw [width_is, height_is]
  unfold wrapPoolSlot at wrapped
  split at wrapped
  next bgra =>
    obtain rfl := Option.some.inj wrapped
    have one : (vtfFillBufferLayout width height buffer.pixelFormat).planes.length = 1 := by
      rw [bgra]
      rfl
    unfold vtfCopyPixelBufferToBytes
    dsimp only
    rw [if_neg (by omega), if_pos (.inl one), if_neg (by simp [present.1]), ← made.size]
    refine congrArg some (Patch.apply_whole ?_)
    exact (length_readRange ..).trans length_replicate.symm
  split at wrapped
  next nv12 =>
    obtain ⟨tiles, mirrors⟩ := made.nv12_mirrors nv12 exposes nonempty
    obtain rfl := Option.some.inj wrapped
    have two : (vtfFillBufferLayout width height buffer.pixelFormat).planes.length = 2 := by
      rw [nv12]
      rfl
    have planes : ¬ CopiesWhole (wrapSlotPlanar buffer.mappedRegion
        buffer.mappedOffset width.toNat height.toNat
        (maskAlign64 width.toNat) buffer.pixelFormat)
        (vtfFillBufferLayout width height buffer.pixelFormat) := by
      rintro (one | none)
      · omega
      · cases none
    have copies : ¬ CopyFails nulls (wrapSlotPlanar buffer.mappedRegion
        buffer.mappedOffset width.toNat height.toNat
        (maskAlign64 width.toNat) buffer.pixelFormat)
        (vtfFillBufferLayout width height buffer.pixelFormat) := by
      rintro (empty | ⟨whole, _⟩ | ⟨_, index, bound, missing | null⟩)
      · omega
      · exact planes whole
      · rw [two] at bound
        exact Nat.not_le_of_lt bound missing
      · rw [present.2 index] at null
        cases null
    rw [vtfCopyPixelBufferToBytes_eq_some memory _ copies]
    exact congrArg some (copied_of_mirrors memory tiles copies planes mirrors)
  · cases wrapped

end VtRealBuffer

/-! ## The two requests -/

namespace VtRealBackend

variable {host : HostCalls} {source response : List UInt8}
variable {payload : BufferRangePayload} {backend : VtRealBackend}
variable {surfaces : Surfaces} {buffer : VtRealBuffer}
variable {width height : UInt32} {pixels : PixelBuffer}

theorem vtfEnsureSourcePixelBuffer_of_some (host : HostCalls)
    (wrapped : buffer.pixelBuffer = some pixels) :
    vtfEnsureSourcePixelBuffer host buffer = .ok (buffer, pixels) := by
  unfold vtfEnsureSourcePixelBuffer
  rw [wrapped]

theorem rangeFits_iff : rangeFits buffer payload = true ↔
    payload.offset.toNat + payload.length.toNat ≤ buffer.mappedSize := by
  simp only [rangeFits, Bool.and_eq_true, decide_eq_true_eq]
  omega

theorem readBuffer_of_held (long : BufferRangePayload.size ≤ source.length)
    (reads : BufferRangePayload.read source = payload)
    (found : backend.buffers.lookup payload.bufferId.toNat = some buffer)
    (generation : buffer.generation = payload.generation.toNat)
    (held : buffer.state ≠ .recycled)
    (made : buffer.Made width height pixels)
    (exposes : buffer.Exposes pixels) (present : host.nulls.AllPresent)
    (inBounds : payload.offset.toNat + payload.length.toNat ≤ buffer.mappedSize)
    (room : BufferRangePayload.size + payload.length.toNat ≤ response.length) :
    readBuffer host source response backend surfaces =
      .ok (backend.setBuffer payload.bufferId.toNat buffer) surfaces
        (.bufferBytes buffer.id buffer.generation payload.offset
          payload.length (((buffer.content surfaces.memory).drop
            payload.offset.toNat).take payload.length.toNat)) := by
  unfold readBuffer
  rw [if_neg (Nat.not_lt_of_le long)]
  dsimp only
  rw [reads, found]
  dsimp only
  rw [if_neg (not_not.mpr generation), if_neg held, rangeFits_iff.mpr inBounds, if_neg (by decide),
    if_neg (Nat.not_lt_of_le room),
    vtfEnsureSourcePixelBuffer_of_some host made.pixels]
  dsimp only
  by_cases nonempty : 0 < buffer.mappedSize
  · rw [made.copied exposes present surfaces.memory nonempty]
  · have nothing : payload.length.toNat = 0 := by omega
    rw [nothing, take_zero, take_zero]
    split
    · rw [take_zero]
    · rfl

theorem writeBuffer_of_writable (reads : BufferRangePayload.read source = payload)
    (length : source.length = BufferRangePayload.size + payload.length.toNat)
    (found : backend.buffers.lookup payload.bufferId.toNat = some buffer)
    (generation : buffer.generation = payload.generation.toNat)
    (writable : buffer.state = .guestWritable)
    (made : buffer.Made width height pixels)
    (inBounds : payload.offset.toNat + payload.length.toNat ≤ buffer.mappedSize) :
    writeBuffer host source backend surfaces =
      .plain (backend.setBuffer payload.bufferId.toNat buffer)
        { surfaces with
          memory := surfaces.memory.writeRange buffer.mappedRegion
            (buffer.mappedOffset + payload.offset.toNat)
            (source.drop BufferRangePayload.size) }
        Status.ok := by
  unfold writeBuffer
  rw [if_neg (by omega)]
  dsimp only
  rw [reads, if_neg (not_not.mpr length), found]
  dsimp only
  rw [if_neg (not_not.mpr generation), if_neg (not_not.mpr writable),
    rangeFits_iff.mpr inBounds, if_neg (by decide),
    vtfEnsureSourcePixelBuffer_of_some host made.pixels]

theorem dispatch_readBuffer (host : HostCalls) (source response : List UInt8)
    (backend : VtRealBackend) (surfaces : Surfaces) :
    dispatch host ⟨Opcode.readBuffer.code, source⟩ response backend surfaces =
      readBuffer host source response backend surfaces :=
  rfl

theorem dispatch_writeBuffer (host : HostCalls)
    (source response : List UInt8) (backend : VtRealBackend)
    (surfaces : Surfaces) :
    dispatch host ⟨Opcode.writeBuffer.code, source⟩ response backend
      surfaces = writeBuffer host source backend surfaces :=
  rfl

end VtRealBackend

end VtFerry
