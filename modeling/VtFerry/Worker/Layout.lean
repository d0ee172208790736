import VtFerry.Foundation.Rounding
import Mathlib.Data.UInt

/-!
# Buffer layouts and wrapped pixel buffers

`vtfFillBufferLayout` is the layout the worker advertises to the guest for a
slot of a buffer pool; its fields are `u32` and its arithmetic wraps.  The
pixel buffers the worker wraps over the same slots are described by the base,
strides and heights handed to CoreVideo, computed in `usize`.  A pixel buffer
reads the region of host memory it was given and nothing else.
-/

namespace VtFerry

namespace PixelFormat

/-- `'BGRA'` -/
def bgra : UInt32 := 0x42475241
/-- `'420v'` -/
def nv12 : UInt32 := 0x34323076
/-- `'420f'` -/
def nv12Full : UInt32 := 0x34323066
/-- `'x420'` -/
def p010 : UInt32 := 0x78343230
/-- `'xf20'` -/
def p010Full : UInt32 := 0x78663230

end PixelFormat

def vtfAlignSize (value alignment : Nat) : Nat :=
  if alignment = 0 then value
  else
    let remainder := value % alignment
    if remainder = 0 then value else value + (alignment - remainder)

theorem vtfAlignSize_eq_roundUp (value : Nat) {alignment : Nat} (positive : 0 < alignment) :
    vtfAlignSize value alignment = Rounding.roundUp alignment value := by
  rw [vtfAlignSize, if_neg (Nat.ne_of_gt positive)]
  exact Rounding.add_missing_eq_roundUp positive value

structure LayoutPlane where
  offset : UInt32
  width : UInt32
  height : UInt32
  bytesPerRow : UInt32
  deriving DecidableEq, Repr

/-- `BufferLayoutReply`; `plane_count` is the length of `planes`. -/
structure BufferLayoutReply where
  totalSize : UInt32
  planes : List LayoutPlane
  deriving DecidableEq, Repr

/-- The plane holds the byte at a position of the frame. -/
def LayoutPlane.Holds (plane : LayoutPlane) (position : Nat) : Prop :=
  plane.offset.toNat ≤ position ∧ position <
    plane.offset.toNat + plane.bytesPerRow.toNat * plane.height.toNat

/-- A layout of `total` bytes: every byte is in one plane, and no other is. -/
structure BufferLayoutReply.Tiles (layout : BufferLayoutReply) (total : Nat) : Prop where
  size : layout.totalSize.toNat = total
  disjoint : layout.planes.Pairwise fun first second =>
    ∀ position, ¬ (first.Holds position ∧ second.Holds position)
  covers : ∀ position, position < total ↔ ∃ plane ∈ layout.planes, plane.Holds position

/-- Luma plane, then interleaved chroma at half the height. -/
def biplanarLayout (stride width height : UInt32) : BufferLayoutReply :=
  let chromaOffset := stride * height
  { totalSize := chromaOffset + stride * (height / 2)
    planes :=
      [{ offset := 0, width := width, height := height,
         bytesPerRow := stride },
        { offset := chromaOffset, width := width / 2, height := height / 2,
          bytesPerRow := stride }] }

def vtfFillBufferLayout (width height pixelFormat : UInt32) :
    BufferLayoutReply :=
  if pixelFormat = PixelFormat.nv12 ∨ pixelFormat = PixelFormat.nv12Full then
    biplanarLayout (UInt32.ofNat (vtfAlignSize width.toNat 64)) width height
  else if pixelFormat = PixelFormat.p010 ∨ pixelFormat = PixelFormat.p010Full then
    biplanarLayout (UInt32.ofNat (vtfAlignSize (width.toNat * 2) 64)) width height
  else
    let stride := UInt32.ofNat (vtfAlignSize (width.toNat * 4) 64)
    { totalSize := stride * height
      planes :=
        [{ offset := 0, width := width, height := height,
           bytesPerRow := stride }] }

/-- `vtf_buffer_total_size`, in 64-bit `usize`. -/
def vtfBufferTotalSize (width height pixelFormat : UInt32) : Nat :=
  let height := height.toNat
  if pixelFormat = PixelFormat.nv12 ∨ pixelFormat = PixelFormat.nv12Full then
    let stride := vtfAlignSize width.toNat 64
    (stride * height + stride * (height / 2)) % 2 ^ 64
  else if pixelFormat = PixelFormat.p010 ∨ pixelFormat = PixelFormat.p010Full then
    let stride := vtfAlignSize (width.toNat * 2) 64
    (stride * height + stride * (height / 2)) % 2 ^ 64
  else
    vtfAlignSize (width.toNat * 4) 64 * height % 2 ^ 64

/-- One plane of a pixel buffer: where its rows are in host memory. -/
structure PixelPlane where
  base : Nat
  width : Nat
  height : Nat
  bytesPerRow : Nat
  deriving DecidableEq, Repr

/-- A `CVPixelBuffer` over the host memory region `region`.  A buffer made by
`CVPixelBufferCreateWithBytes` reports no planes to
`CVPixelBufferGetPlaneCount`; its single plane is still listed here. -/
structure PixelBuffer where
  region : Nat
  width : Nat
  height : Nat
  pixelFormat : UInt32
  base : Nat
  planar : Bool
  planes : List PixelPlane
  deriving DecidableEq, Repr

/-- `CVPixelBufferGetPlaneCount`. -/
def PixelBuffer.planeCount (buffer : PixelBuffer) : Nat :=
  if buffer.planar then buffer.planes.length else 0

/-- The arguments `wrap_slot_single_plane` hands to CoreVideo. -/
def wrapSlotSinglePlane (region slotOffset width height bytesPerRow : Nat)
    (pixelFormat : UInt32) : PixelBuffer where
  region := region
  width := width
  height := height
  pixelFormat := pixelFormat
  base := slotOffset
  planar := false
  planes :=
    [{ base := slotOffset, width := width, height := height,
       bytesPerRow := bytesPerRow }]

/-- The arguments `wrap_slot_planar` hands to CoreVideo for two planes that
share a stride. -/
def wrapSlotPlanar (region slotOffset width height stride : Nat)
    (pixelFormat : UInt32) : PixelBuffer where
  region := region
  width := width
  height := height
  pixelFormat := pixelFormat
  base := slotOffset
  planar := true
  planes :=
    [{ base := slotOffset + 0, width := width, height := height,
       bytesPerRow := stride },
      { base := slotOffset + stride * height, width := width / 2,
        height := height / 2, bytesPerRow := stride }]

/-- `(value + 63) & !63` on a 64-bit `usize`. -/
def maskAlign64 (value : Nat) : Nat :=
  (value + 63) &&& (2 ^ 64 - 1 - 63)

theorem maskAlign64_eq_roundUp {value : Nat} (small : value < 2 ^ 63) :
    maskAlign64 value = Rounding.roundUp 64 value := by
  have masked := Rounding.and_complement_eq 6 64 (value + 63) (by decide) (by omega)
  simpa [maskAlign64, Rounding.roundUp] using masked

/-- `vtf_wrap_source_slot_bytes`: the wrap made when a buffer has none yet. -/
def vtfWrapSourceSlotBytes (region base width height : Nat)
    (pixelFormat : UInt32) : Option PixelBuffer :=
  if pixelFormat = PixelFormat.bgra then
    some (wrapSlotSinglePlane region base width height (width * 4) pixelFormat)
  else if pixelFormat = PixelFormat.nv12 then
    some (wrapSlotPlanar region base width height (maskAlign64 width) pixelFormat)
  else if pixelFormat = PixelFormat.p010 ∨ pixelFormat = PixelFormat.p010Full then
    some (wrapSlotPlanar region base width height (maskAlign64 (width * 2)) pixelFormat)
  else
    none

/-- How `CREATE_BUFFER_POOL` wraps a slot, for the formats it supports. -/
def wrapPoolSlot (region slotOffset : Nat)
    (width height pixelFormat : UInt32) : Option PixelBuffer :=
  if pixelFormat = PixelFormat.bgra then
    some (wrapSlotSinglePlane region slotOffset width.toNat height.toNat
      (width.toNat * 4) pixelFormat)
  else if pixelFormat = PixelFormat.nv12 then
    some (wrapSlotPlanar region slotOffset width.toNat height.toNat
      (maskAlign64 width.toNat) pixelFormat)
  else
    none

end VtFerry
