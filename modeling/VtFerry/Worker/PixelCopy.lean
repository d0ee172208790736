import VtFerry.Worker.Layout

/-!
# Copying pixels out of a pixel buffer

The two routines that flatten a pixel buffer into the canonical layout of
`vtfFillBufferLayout`: the whole frame, row by row into a destination whose
other bytes are left alone, and a byte range of it, into a zeroed destination.
A null base address is an outcome of CoreVideo.
-/

namespace VtFerry

/-- Host memory: the byte at an offset of a region. -/
abbrev HostMemory := Nat → Nat → UInt8

namespace HostMemory

def readRange (memory : HostMemory) (region start count : Nat) :
    List UInt8 :=
  (List.range count).map fun index => memory region (start + index)

def writeRange (memory : HostMemory) (region start : Nat) (data : List UInt8) : HostMemory :=
  fun other offset =>
    if other = region ∧ start ≤ offset ∧ offset < start + data.length then
      data.getD (offset - start) 0
    else memory other offset

end HostMemory

/-- Which base addresses CoreVideo answers with null. -/
structure NullAddresses where
  base : Bool := false
  plane : Nat → Bool := fun _ => false

def splice (destination : List UInt8) (offset : Nat) (data : List UInt8) :
    List UInt8 :=
  destination.take offset ++ data ++ destination.drop (offset + data.length)

/-- The rows of one plane, each cut to the shorter of the two strides. -/
def copyPlaneRows (memory : HostMemory) (region : Nat) (source : PixelPlane)
    (target : LayoutPlane) (destination : List UInt8) : List UInt8 :=
  let rowBytes := min target.bytesPerRow.toNat source.bytesPerRow
  (List.range target.height.toNat).foldl (fun destination row =>
      splice destination (target.offset.toNat + row * target.bytesPerRow.toNat)
        (memory.readRange region (source.base + row * source.bytesPerRow) rowBytes))
    destination

/-- The plane loop of `vtf_copy_pixel_buffer_to_bytes` from plane `index` on;
`none` once a plane has no base address. -/
def copyPlanes (memory : HostMemory) (nulls : NullAddresses) (buffer : PixelBuffer) :
    Nat → List LayoutPlane → List UInt8 → Option (List UInt8)
  | _, [], destination => some destination
  | index, target :: targets, destination =>
    match buffer.planes[index]? with
    | none => none
    | some source =>
      if nulls.plane index then none
      else copyPlanes memory nulls buffer (index + 1) targets
        (copyPlaneRows memory buffer.region source target destination)

/-- `vtf_copy_pixel_buffer_to_bytes`: the new destination, or `none` where
the source returns false. -/
def vtfCopyPixelBufferToBytes (memory : HostMemory) (nulls : NullAddresses)
    (buffer : PixelBuffer) (destination : List UInt8)
    (width height pixelFormat : UInt32) : Option (List UInt8) :=
  let layout := vtfFillBufferLayout width height pixelFormat
  if layout.planes.length = 0 then none
  else if layout.planes.length = 1 ∨ buffer.planeCount = 0 then
    if nulls.base then none
    else some (splice destination 0
      (memory.readRange buffer.region buffer.base layout.totalSize.toNat))
  else copyPlanes memory nulls buffer 0 layout.planes destination

/-- One row of the range copy: the part of the row inside the range. -/
def copyRangeRow (memory : HostMemory) (region : Nat) (source : PixelPlane)
    (target : LayoutPlane) (offset localStart localEnd : Nat)
    (destination : List UInt8) (row : Nat) : List UInt8 :=
  let stride := target.bytesPerRow.toNat
  let rowOffset := row * stride
  let columnStart := max localStart rowOffset - rowOffset
  let columnEnd := min localEnd (rowOffset + stride) - rowOffset
  let copyEnd := min columnEnd (min source.bytesPerRow stride)
  if copyEnd ≤ columnStart then destination
  else splice destination (rowOffset + columnStart + target.offset.toNat - offset)
    (memory.readRange region (source.base + row * source.bytesPerRow + columnStart)
      (copyEnd - columnStart))

/-- The plane loop of `vtf_copy_pixel_buffer_byte_range`. -/
def copyRangePlanes (memory : HostMemory) (nulls : NullAddresses)
    (buffer : PixelBuffer) (offset length : Nat) :
    Nat → List LayoutPlane → List UInt8 → Option (List UInt8)
  | _, [], destination => some destination
  | index, target :: targets, destination =>
    let planeOffset := target.offset.toNat
    let stride := target.bytesPerRow.toNat
    let planeEnd := planeOffset + stride * target.height.toNat
    let rangeStart := max offset planeOffset
    let rangeEnd := min (offset + length) planeEnd
    if rangeEnd ≤ rangeStart then
      copyRangePlanes memory nulls buffer offset length (index + 1) targets destination
    else
      match buffer.planes[index]? with
      | none => none
      | some source =>
        if nulls.plane index then none
        else
          let localStart := rangeStart - planeOffset
          let localEnd := rangeEnd - planeOffset
          let firstRow := localStart / stride
          let lastRow := (localEnd - 1) / stride
          copyRangePlanes memory nulls buffer offset length (index + 1) targets
            ((List.range' firstRow (lastRow + 1 - firstRow)).foldl
              (copyRangeRow memory buffer.region source target offset localStart localEnd)
              destination)

/-- `vtf_copy_pixel_buffer_byte_range`: the bytes of the range, or `none`
where the source returns false. -/
def vtfCopyPixelBufferByteRange (memory : HostMemory) (nulls : NullAddresses)
    (buffer : PixelBuffer) (layout : BufferLayoutReply)
    (offset length : Nat) : Option (List UInt8) :=
  let total := layout.totalSize.toNat
  if layout.planes.length = 0 then none
  else if total < offset ∨ total - offset < length then none
  else if length = 0 then some []
  else if layout.planes.length = 1 ∨ buffer.planeCount = 0 then
    if nulls.base then none
    else some (memory.readRange buffer.region (buffer.base + offset) length)
  else copyRangePlanes memory nulls buffer offset length 0 layout.planes (List.replicate length 0)

end VtFerry
