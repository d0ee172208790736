import Mathlib.Data.List.Pairwise
import VtFerry.Worker.FrameCopy

/-!
# Copying a range of a frame

`vtf_copy_pixel_buffer_byte_range` produces bytes of the canonical layout
without producing the frame: it walks the planes the range meets, and in each
plane the rows between the first and the last byte, cutting the first row, the
last row and the end of every row that the source does not have.  Both copies
write parts of one content, the frame's bytes in their canonical places, and
they write the same places of the range; the rest of it is zero.  So a range
copy is a slice of a frame copy into zeroes.
-/

namespace VtFerry

open List Patches

/-! ## The copy and its destination -/

/-- The plane loop of `vtf_copy_pixel_buffer_byte_range` with what it leaves
in the destination when it returns false. -/
def copyRangePlanesInto (memory : HostMemory) (nulls : NullAddresses)
    (buffer : PixelBuffer) (offset length : Nat) :
    Nat → List LayoutPlane → List UInt8 → Bool × List UInt8
  | _, [], destination => (true, destination)
  | index, target :: targets, destination =>
    let planeOffset := target.offset.toNat
    let stride := target.bytesPerRow.toNat
    let planeEnd := planeOffset + stride * target.height.toNat
    let rangeStart := max offset planeOffset
    let rangeEnd := min (offset + length) planeEnd
    if rangeEnd ≤ rangeStart then
      copyRangePlanesInto memory nulls buffer offset length (index + 1) targets destination
    else
      match buffer.planes[index]? with
      | none => (false, destination)
      | some source =>
        if nulls.plane index then (false, destination)
        else
          let localStart := rangeStart - planeOffset
          let localEnd := rangeEnd - planeOffset
          let firstRow := localStart / stride
          let lastRow := (localEnd - 1) / stride
          copyRangePlanesInto memory nulls buffer offset length (index + 1) targets
            ((range' firstRow (lastRow + 1 - firstRow)).foldl
              (copyRangeRow memory buffer.region source target offset localStart localEnd)
              destination)

/-- `vtf_copy_pixel_buffer_byte_range` with its destination: what it returns,
and the destination afterwards. -/
def vtfCopyPixelBufferByteRangeInto (memory : HostMemory)
    (nulls : NullAddresses) (buffer : PixelBuffer)
    (layout : BufferLayoutReply) (offset length : Nat)
    (destination : List UInt8) : Bool × List UInt8 :=
  let total := layout.totalSize.toNat
  if layout.planes.length = 0 then (false, destination)
  else if total < offset ∨ total - offset < length then (false, destination)
  else if length = 0 then (true, destination)
  else
    let zeroed := splice destination 0 (replicate length 0)
    if layout.planes.length = 1 ∨ buffer.planeCount = 0 then
      if nulls.base then (false, zeroed)
      else (true, splice zeroed 0 (memory.readRange buffer.region (buffer.base + offset) length))
    else copyRangePlanesInto memory nulls buffer offset length 0 layout.planes zeroed

/-! ## The content of a frame -/

instance (plane : LayoutPlane) (position : Nat) :
    Decidable (plane.Holds position) :=
  inferInstanceAs (Decidable (_ ∧ _))

/-- The source byte whose canonical place in a plane is the given one. -/
def planeByte (memory : HostMemory) (region : Nat) (source : PixelPlane)
    (target : LayoutPlane) (position : Nat) : UInt8 :=
  let inPlane := position - target.offset.toNat
  memory region (source.base + inPlane / target.bytesPerRow.toNat * source.bytesPerRow +
      inPlane % target.bytesPerRow.toNat)

/-- The source byte whose canonical place in the frame is the given one. -/
def frameByte (memory : HostMemory) (buffer : PixelBuffer)
    (layout : BufferLayoutReply) (position : Nat) : UInt8 :=
  if CopiesWhole buffer layout then
    memory buffer.region (buffer.base + position)
  else
    match (buffer.planes.zip layout.planes).find? fun pair =>
        pair.2.Holds position with
    | none => 0
    | some pair => planeByte memory buffer.region pair.1 pair.2 position

section Content

variable {memory : HostMemory} {buffer : PixelBuffer}
variable {layout : BufferLayoutReply} {source : PixelPlane}
variable {target : LayoutPlane}
variable {column : Nat}

theorem div_mod_row (row : Nat) {stride : Nat} (inside : column < stride) :
    (row * stride + column) / stride = row ∧ (row * stride + column) % stride = column := by
  have positive : 0 < stride := Nat.zero_lt_of_lt inside
  constructor
  · rw [Nat.add_comm, Nat.add_mul_div_right _ _ positive, Nat.div_eq_of_lt inside, Nat.zero_add]
  · rw [Nat.add_comm, Nat.add_mul_mod_self_right, Nat.mod_eq_of_lt inside]

variable {row : Nat}

theorem holds_of_row (bound : row < target.height.toNat)
    (inside : column < target.bytesPerRow.toNat) :
    target.Holds (target.offset.toNat + row * target.bytesPerRow.toNat + column) := by
  have rows := Nat.mul_le_mul_right target.bytesPerRow.toNat (Nat.succ_le_of_lt bound)
  rw [Nat.succ_mul, Nat.mul_comm target.height.toNat] at rows
  unfold LayoutPlane.Holds
  omega

theorem planeByte_row (region : Nat) (inside : column < target.bytesPerRow.toNat) :
    planeByte memory region source target
        (target.offset.toNat + row * target.bytesPerRow.toNat + column) =
      memory region (source.base + row * source.bytesPerRow + column) := by
  obtain ⟨quotient, remainder⟩ := div_mod_row row inside
  have inPlane : target.offset.toNat + row * target.bytesPerRow.toNat +
      column - target.offset.toNat =
        row * target.bytesPerRow.toNat + column := by
    omega
  unfold planeByte
  dsimp only
  rw [inPlane, quotient, remainder]

variable {position : Nat}

theorem frameByte_of_holds {total : Nat} (tiles : layout.Tiles total)
    (planes : ¬ CopiesWhole buffer layout) (enough : layout.planes.length ≤ buffer.planes.length)
    (paired : (source, target) ∈ buffer.planes.zip layout.planes) (holds : target.Holds position) :
    frameByte memory buffer layout position =
      planeByte memory buffer.region source target position := by
  let apart : PixelPlane × LayoutPlane → PixelPlane × LayoutPlane → Prop :=
    fun first second => ∀ position, ¬ (first.2.Holds position ∧ second.2.Holds position)
  have disjoint : (buffer.planes.zip layout.planes).Pairwise apart := by
    have seconds := tiles.disjoint
    rw [← map_snd_zip enough, pairwise_map] at seconds
    exact seconds
  have symmetric : Std.Symm apart :=
    ⟨fun _ _ apart position both => apart position both.symm⟩
  rw [frameByte, if_neg planes]
  cases found : (buffer.planes.zip layout.planes).find? fun pair =>
      pair.2.Holds position with
  | none =>
    have none := find?_eq_none.mp found (source, target) paired
    exact absurd holds (by simpa using none)
  | some pair =>
    have member := mem_of_find?_eq_some found
    have first : pair.2.Holds position := by
      simpa using find?_some found
    have same : pair = (source, target) := by
      by_contra different
      exact disjoint.forall member paired different position ⟨first, holds⟩
    rw [same]

end Content

/-! ## What the frame copy writes -/

section Frame

variable {memory : HostMemory} {nulls : NullAddresses}
variable {buffer : PixelBuffer} {layout : BufferLayoutReply} {total : Nat}

theorem getElem?_readRange {region start count index : Nat} (inside : index < count) :
    (memory.readRange region start count)[index]? =
      some (memory region (start + index)) := by
  simp [HostMemory.readRange, inside]

theorem enough_of_copies (copies : ¬ CopyFails nulls buffer layout)
    (planes : ¬ CopiesWhole buffer layout) :
    layout.planes.length ≤ buffer.planes.length := by
  by_contra fewer
  apply copies
  refine .inr (.inr ⟨planes, buffer.planes.length, by omega, .inl ?_⟩)
  exact Nat.le_refl _

theorem writes_copyPatches (tiles : layout.Tiles total) (copies : ¬ CopyFails nulls buffer layout) :
    Writes (frameByte memory buffer layout) (copyPatches memory buffer layout) := by
  intro patch member position covers
  unfold copyPatches at member
  split at member
  next whole =>
    rw [mem_singleton.mp member] at covers ⊢
    have bound : position < layout.totalSize.toNat := by
      simpa [Patch.Covers] using covers
    rw [frameByte, if_pos whole, Nat.sub_zero]
    exact getElem?_readRange bound
  next planes =>
    obtain ⟨⟨source, target⟩, paired, inRows⟩ := mem_flatMap.mp member
    obtain ⟨row, listed, rfl⟩ := mem_map.mp inRows
    have bound := mem_range.mp listed
    simp only [Patch.Covers, length_readRange] at covers
    obtain ⟨column, rfl⟩ := Nat.exists_eq_add_of_le covers.1
    have inside : column < min target.bytesPerRow.toNat
        source.bytesPerRow := by
      omega
    have inRow : column < target.bytesPerRow.toNat :=
      Nat.lt_of_lt_of_le inside (Nat.min_le_left _ _)
    dsimp only
    rw [Nat.add_sub_cancel_left, getElem?_readRange inside,
      frameByte_of_holds tiles planes (enough_of_copies copies planes) paired
        (holds_of_row bound inRow), planeByte_row _ inRow]

theorem Overwrites.inside (tiles : layout.Tiles total)
    (overwrites : Overwrites buffer layout position) : position < total := by
  rcases overwrites with ⟨_, bound⟩ | ⟨_, ⟨source, target⟩, paired, copied⟩
  · rwa [tiles.size] at bound
  · obtain ⟨row, bound, first, last⟩ := copied
    obtain ⟨column, rfl⟩ := Nat.exists_eq_add_of_le first
    dsimp only at bound first last ⊢
    apply (tiles.covers _).mpr
    refine ⟨target, (of_mem_zip paired).2, holds_of_row bound ?_⟩
    omega

theorem getElem?_copied (memory : HostMemory) (tiles : layout.Tiles total)
    (copies : ¬ CopyFails nulls buffer layout) {size : Nat} (inside : position < size) :
    (Overwrites buffer layout position → (applyAll (copyPatches memory buffer layout)
        (replicate size 0))[position]? = some (frameByte memory buffer layout position)) ∧
    (¬ Overwrites buffer layout position → (applyAll (copyPatches memory buffer layout)
        (replicate size 0))[position]? = some 0) := by
  have inside : position < (replicate size (0 : UInt8)).length := by
    rwa [length_replicate]
  constructor
  · intro overwrites
    apply getElem?_applyAll_of_writes (writes_copyPatches tiles copies) inside
    exact .inl ((patched_copyPatches ..).mpr overwrites)
  · intro blank
    have unpatched : ¬ Patched (copyPatches memory buffer layout) position :=
      fun patched => blank ((patched_copyPatches ..).mp patched)
    rw [getElem?_applyAll_of_unpatched inside unpatched]
    rw [length_replicate] at inside
    rw [getElem?_replicate, if_pos inside]

end Frame

/-! ## What the range copy writes -/

/-- One row of the range copy; it writes nothing where the range and the
source's row have no byte in common. -/
def rangeRowPatch (memory : HostMemory) (region : Nat) (source : PixelPlane)
    (target : LayoutPlane) (offset localStart localEnd row : Nat) :
    Patch UInt8 :=
  let stride := target.bytesPerRow.toNat
  let rowOffset := row * stride
  let columnStart := max localStart rowOffset - rowOffset
  let columnEnd := min localEnd (rowOffset + stride) - rowOffset
  let copyEnd := min columnEnd (min source.bytesPerRow stride)
  { offset := rowOffset + columnStart + target.offset.toNat - offset
    data := memory.readRange region (source.base + row * source.bytesPerRow + columnStart)
      (copyEnd - columnStart) }

def rangeStart (target : LayoutPlane) (offset : Nat) : Nat :=
  max offset target.offset.toNat

def rangeEnd (target : LayoutPlane) (offset length : Nat) : Nat :=
  min (offset + length) (target.offset.toNat + target.bytesPerRow.toNat * target.height.toNat)

def rangePlanePatches (memory : HostMemory) (region offset length : Nat)
    (planes : PixelPlane × LayoutPlane) : List (Patch UInt8) :=
  let target := planes.2
  let stride := target.bytesPerRow.toNat
  if rangeEnd target offset length ≤ rangeStart target offset then []
  else
    let localStart := rangeStart target offset - target.offset.toNat
    let localEnd := rangeEnd target offset length - target.offset.toNat
    let firstRow := localStart / stride
    let lastRow := (localEnd - 1) / stride
    (range' firstRow (lastRow + 1 - firstRow)).map
      (rangeRowPatch memory region planes.1 target offset localStart localEnd)

def rangePatches (memory : HostMemory) (buffer : PixelBuffer)
    (layout : BufferLayoutReply) (offset length : Nat) :
    List (Patch UInt8) :=
  if CopiesWhole buffer layout then
    [{ offset := 0
       data := memory.readRange buffer.region (buffer.base + offset) length }]
  else
    (buffer.planes.zip layout.planes).flatMap (rangePlanePatches memory buffer.region offset length)

theorem copyRangeRow_eq (memory : HostMemory) (region : Nat)
    (source : PixelPlane) (target : LayoutPlane)
    (offset localStart localEnd : Nat) (destination : List UInt8)
    (row : Nat) :
    copyRangeRow memory region source target offset localStart localEnd destination row =
      (rangeRowPatch memory region source target offset localStart localEnd
        row).apply destination := by
  unfold copyRangeRow rangeRowPatch
  dsimp only
  split
  next nothing =>
    rw [Nat.sub_eq_zero_of_le nothing]
    simp [Patch.apply, HostMemory.readRange]
  · rfl

theorem foldl_copyRangeRow (memory : HostMemory) (region : Nat)
    (source : PixelPlane) (target : LayoutPlane)
    (offset localStart localEnd : Nat) (rows : List Nat)
    (destination : List UInt8) :
    rows.foldl (copyRangeRow memory region source target offset localStart localEnd) destination =
      applyAll (rows.map (rangeRowPatch memory region source target offset
        localStart localEnd)) destination := by
  induction rows generalizing destination with
  | nil => rfl
  | cons row rows induction =>
    rw [foldl_cons, map_cons, copyRangeRow_eq, induction]
    rfl

/-- The plane loop applies the patches of the planes, if they have
addresses. -/
theorem copyRangePlanesInto_eq (memory : HostMemory) (nulls : NullAddresses)
    (buffer : PixelBuffer) (offset length index : Nat)
    (targets : List LayoutPlane) (destination : List UInt8)
    (present : ∀ later < targets.length, index + later < buffer.planes.length ∧
        nulls.plane (index + later) = false) :
    copyRangePlanesInto memory nulls buffer offset length index targets destination =
      (true, applyAll (((buffer.planes.drop index).zip targets).flatMap
        (rangePlanePatches memory buffer.region offset length)) destination) := by
  induction targets generalizing index destination with
  | nil => simp [copyRangePlanesInto, applyAll]
  | cons target targets induction =>
    obtain ⟨inside, address⟩ := present 0 (Nat.zero_lt_succ _)
    rw [Nat.add_zero] at inside address
    have later : ∀ later < targets.length, index + 1 + later < buffer.planes.length ∧
          nulls.plane (index + 1 + later) = false := by
      intro later bound
      rw [Nat.add_assoc, Nat.add_comm 1]
      exact present (later + 1) (Nat.succ_lt_succ bound)
    have found : buffer.planes[index]? = some buffer.planes[index] :=
      getElem?_eq_getElem inside
    rw [drop_eq_getElem_cons inside, zip_cons_cons,
      flatMap_cons, applyAll_append, copyRangePlanesInto]
    simp only [found, address, Bool.false_eq_true, if_false]
    unfold rangePlanePatches rangeStart rangeEnd
    dsimp only
    split
    · exact induction _ _ later
    · rw [induction _ _ later, foldl_copyRangeRow]
      rfl

section Range

variable {memory : HostMemory} {nulls : NullAddresses} {region : Nat}
variable {buffer : PixelBuffer} {layout : BufferLayoutReply}
variable {source : PixelPlane} {target : LayoutPlane}
variable {offset length total : Nat}

/-- The patch of one row of a plane that the range meets. -/
def rangeRow (memory : HostMemory) (region : Nat) (source : PixelPlane)
    (target : LayoutPlane) (offset length row : Nat) : Patch UInt8 :=
  rangeRowPatch memory region source target offset (rangeStart target offset - target.offset.toNat)
    (rangeEnd target offset length - target.offset.toNat) row

/-- Of the bytes in the range, the patch of a row writes those that the row of
the source has. -/
theorem covers_rangeRow :
    (rangeRow memory region source target offset length row).Covers position ↔
      max (rangeStart target offset) (target.offset.toNat + row * target.bytesPerRow.toNat) ≤
        position + offset ∧
      position + offset < min (rangeEnd target offset length)
        (target.offset.toNat + row * target.bytesPerRow.toNat +
          min target.bytesPerRow.toNat source.bytesPerRow) := by
  have starts : offset ≤ rangeStart target offset := Nat.le_max_left _ _
  have planeStarts : target.offset.toNat ≤ rangeStart target offset :=
    Nat.le_max_right _ _
  simp only [Patch.Covers, rangeRow, rangeRowPatch, length_readRange]
  omega

theorem rangeRow_data
    (covers : (rangeRow memory region source target offset length row).Covers position) :
    (rangeRow memory region source target offset length row).data[
        position - (rangeRow memory region source target offset length row).offset]? =
      some (planeByte memory region source target (position + offset)) := by
  have place := covers_rangeRow.mp covers
  have starts : offset ≤ rangeStart target offset := Nat.le_max_left _ _
  have planeStarts : target.offset.toNat ≤ rangeStart target offset :=
    Nat.le_max_right _ _
  have first : target.offset.toNat + row * target.bytesPerRow.toNat ≤ position + offset := by
    omega
  obtain ⟨column, equal⟩ := Nat.exists_eq_add_of_le first
  have inRow : column < target.bytesPerRow.toNat := by omega
  have inside := covers.2
  rw [equal, planeByte_row region inRow]
  simp only [rangeRow, rangeRowPatch, length_readRange] at inside ⊢
  rw [getElem?_readRange (by omega)]
  congr 2
  omega

theorem mem_rangePlanePatches {patch : Patch UInt8} :
    patch ∈ rangePlanePatches memory region offset length (source, target) ↔
      rangeStart target offset < rangeEnd target offset length ∧
      ∃ row, (rangeStart target offset - target.offset.toNat) / target.bytesPerRow.toNat ≤ row ∧
          row ≤ (rangeEnd target offset length - target.offset.toNat - 1) /
            target.bytesPerRow.toNat ∧
          rangeRow memory region source target offset length row = patch := by
  simp only [rangePlanePatches]
  split
  next apart =>
    simp only [not_mem_nil, false_iff, not_and]
    omega
  next meets =>
    rw [mem_map]
    constructor
    · rintro ⟨row, listed, rfl⟩
      have bounds := mem_range'_1.mp listed
      exact ⟨Nat.lt_of_not_le meets, row, bounds.1, by omega, rfl⟩
    · rintro ⟨_, row, first, last, rfl⟩
      exact ⟨row, mem_range'_1.mpr ⟨first, by omega⟩, rfl⟩

/-- Of the bytes in the range, the patches of a plane write those that the
rows of the source have. -/
theorem patched_rangePlanePatches (inside : position < length) :
    Patched (rangePlanePatches memory region offset length (source, target)) position ↔
      InCopiedRow source target (position + offset) := by
  constructor
  · rintro ⟨patch, member, covers⟩
    obtain ⟨meets, row, first, last, rfl⟩ := mem_rangePlanePatches.mp member
    have place := covers_rangeRow.mp covers
    refine ⟨row, ?_, by omega, by omega⟩
    apply Nat.lt_of_le_of_lt last
    apply Nat.div_lt_of_lt_mul
    unfold rangeStart rangeEnd at *
    omega
  · rintro ⟨row, bound, first, last⟩
    have positive : 0 < target.bytesPerRow.toNat := by omega
    have rows := Nat.mul_le_mul_right target.bytesPerRow.toNat (Nat.succ_le_of_lt bound)
    rw [Nat.succ_mul, Nat.mul_comm target.height.toNat] at rows
    have place : rangeStart target offset ≤ position + offset ∧
        position + offset < rangeEnd target offset length := by
      unfold rangeStart rangeEnd
      omega
    refine ⟨_, mem_rangePlanePatches.mpr ⟨by omega, row, ?_, ?_, rfl⟩,
      covers_rangeRow.mpr ⟨by omega, by omega⟩⟩
    · apply Nat.le_of_lt_succ
      rw [Nat.div_lt_iff_lt_mul positive, Nat.succ_mul]
      omega
    · rw [Nat.le_div_iff_mul_le positive]
      omega

theorem patched_rangePatches (size : layout.Tiles total) (fits : offset + length ≤ total)
    (inside : position < length) :
    Patched (rangePatches memory buffer layout offset length) position ↔
      Overwrites buffer layout (position + offset) := by
  by_cases whole : CopiesWhole buffer layout
  · have bound : position + offset < layout.totalSize.toNat := by
      rw [size.size]
      omega
    simp [rangePatches, Overwrites, whole, Patch.Covers, inside, bound]
  · simp only [rangePatches, Overwrites, whole, if_false, false_and, false_or,
      not_false_eq_true, true_and]
    constructor
    · rintro ⟨patch, member, covers⟩
      obtain ⟨planes, paired, inRows⟩ := mem_flatMap.mp member
      exact ⟨planes, paired, (patched_rangePlanePatches inside).mp ⟨patch, inRows, covers⟩⟩
    · rintro ⟨planes, paired, copied⟩
      obtain ⟨patch, inRows, covers⟩ :=
        (patched_rangePlanePatches inside).mpr copied
      exact ⟨patch, mem_flatMap.mpr ⟨planes, paired, inRows⟩, covers⟩

theorem writes_rangePatches (tiles : layout.Tiles total)
    (copies : ¬ CopyFails nulls buffer layout) :
    Writes (fun position => frameByte memory buffer layout (position + offset))
      (rangePatches memory buffer layout offset length) := by
  intro patch member position covers
  unfold rangePatches at member
  split at member
  next whole =>
    rw [mem_singleton.mp member] at covers ⊢
    have bound : position < length := by
      simpa [Patch.Covers] using covers
    dsimp only
    rw [frameByte, if_pos whole, Nat.sub_zero, getElem?_readRange bound,
      Nat.add_comm position, Nat.add_assoc]
  next planes =>
    obtain ⟨⟨source, target⟩, paired, inRows⟩ := mem_flatMap.mp member
    obtain ⟨meets, row, first, last, rfl⟩ := mem_rangePlanePatches.mp inRows
    have place := covers_rangeRow.mp covers
    have holds : target.Holds (position + offset) := by
      unfold LayoutPlane.Holds
      unfold rangeStart rangeEnd at place
      omega
    dsimp only
    rw [rangeRow_data covers, frameByte_of_holds tiles planes
      (enough_of_copies copies planes) paired holds]

theorem inside_of_patched_range
    (patched : Patched (rangePatches memory buffer layout offset length) position) :
    position < length := by
  obtain ⟨patch, member, covers⟩ := patched
  unfold rangePatches at member
  split at member
  · rw [mem_singleton.mp member] at covers
    simpa [Patch.Covers] using covers
  · obtain ⟨⟨source, target⟩, _, inRows⟩ := mem_flatMap.mp member
    obtain ⟨_, row, _, _, rfl⟩ := mem_rangePlanePatches.mp inRows
    have place := covers_rangeRow.mp covers
    unfold rangeEnd at place
    omega

/-- Applied to zeroes and what is behind them, the patches of a range give the
slice of the frame. -/
theorem applyAll_rangePatches (tiles : layout.Tiles total)
    (copies : ¬ CopyFails nulls buffer layout)
    (fits : offset + length ≤ total) {size : Nat} (room : total ≤ size)
    (tail : List UInt8) :
    applyAll (rangePatches memory buffer layout offset length) (replicate length 0 ++ tail) =
      ((applyAll (copyPatches memory buffer layout)
        (replicate size 0)).drop offset).take length ++ tail := by
  have frameLength : (applyAll (copyPatches memory buffer layout)
      (replicate size 0)).length = size := by
    rw [length_applyAll, length_replicate]
    intro position patched
    rw [length_replicate]
    have overwrites := (patched_copyPatches ..).mp patched
    exact Nat.lt_of_lt_of_le (overwrites.inside tiles) room
  have sliceLength : (((applyAll (copyPatches memory buffer layout)
      (replicate size 0)).drop offset).take length).length = length := by
    rw [length_take, length_drop, frameLength]
    omega
  have zeroed : (replicate length (0 : UInt8) ++ tail).length = length + tail.length := by
    rw [length_append, length_replicate]
  apply ext_getElem?
  intro position
  by_cases inRange : position < length
  · rw [getElem?_append_left (by omega), getElem?_take_of_lt inRange,
      getElem?_drop, Nat.add_comm offset]
    have inFrame : position + offset < size := by omega
    have copied := getElem?_copied memory tiles copies inFrame
    have inside : position < (replicate length (0 : UInt8) ++ tail).length := by
      omega
    by_cases overwrites : Overwrites buffer layout (position + offset)
    · rw [copied.1 overwrites]
      apply getElem?_applyAll_of_writes (writes_rangePatches tiles copies) inside
      exact .inl ((patched_rangePatches tiles fits inRange).mpr overwrites)
    · have unpatched : ¬ Patched (rangePatches memory buffer layout offset length) position :=
        fun patched => overwrites ((patched_rangePatches tiles fits inRange).mp patched)
      rw [copied.2 overwrites, getElem?_applyAll_of_unpatched inside
        unpatched, getElem?_append_left (by simpa using inRange),
        getElem?_replicate, if_pos inRange]
  · rw [getElem?_append_right (by omega), sliceLength]
    by_cases inTail : position < length + tail.length
    · have unpatched : ¬ Patched (rangePatches memory buffer layout offset length) position :=
        fun patched => inRange (inside_of_patched_range patched)
      rw [getElem?_applyAll_of_unpatched (by omega) unpatched,
        getElem?_append_right (by simpa using inRange),
        length_replicate]
    · have kept : (applyAll (rangePatches memory buffer layout offset length)
          (replicate length 0 ++ tail)).length = length + tail.length := by
        rw [length_applyAll, zeroed]
        intro position patched
        have := inside_of_patched_range patched
        omega
      rw [getElem?_eq_none (by omega), getElem?_eq_none (by omega)]

theorem present_of_copies (copies : ¬ CopyFails nulls buffer layout)
    (planes : ¬ CopiesWhole buffer layout) :
    ∀ later < layout.planes.length, 0 + later < buffer.planes.length ∧
      nulls.plane (0 + later) = false := by
  intro later bound
  by_contra missing
  apply copies
  refine .inr (.inr ⟨planes, later, bound, ?_⟩)
  by_contra present
  simp only [not_or, not_le, Bool.not_eq_true] at present
  exact missing (by simpa using present)

/-- A range inside the frame is copied by its patches, over zeroes. -/
theorem byteRangeInto_eq (copies : ¬ CopyFails nulls buffer layout)
    (fits : offset + length ≤ layout.totalSize.toNat) (some : length ≠ 0)
    (destination : List UInt8) :
    vtfCopyPixelBufferByteRangeInto memory nulls buffer layout offset length destination =
      (true, applyAll (rangePatches memory buffer layout offset length)
        (replicate length 0 ++ destination.drop length)) := by
  have nonempty : layout.planes.length ≠ 0 := fun empty =>
    copies (.inl empty)
  have inside : ¬ (layout.totalSize.toNat < offset ∨ layout.totalSize.toNat - offset < length) := by
    omega
  have zeroed : splice destination 0 (replicate length 0) =
      replicate length 0 ++ destination.drop length := by
    simp [splice]
  unfold vtfCopyPixelBufferByteRangeInto
  dsimp only
  rw [if_neg nonempty, if_neg inside, if_neg some, zeroed]
  by_cases whole : CopiesWhole buffer layout
  · have address : nulls.base = false := by
      by_contra null
      exact copies (.inr (.inl ⟨whole, by simpa using null⟩))
    have one : layout.planes.length = 1 ∨ buffer.planeCount = 0 := whole
    rw [if_pos one, address, if_neg Bool.false_ne_true, rangePatches, if_pos whole]
    rfl
  · have many : ¬ (layout.planes.length = 1 ∨ buffer.planeCount = 0) := whole
    rw [if_neg many, rangePatches, if_neg whole, copyRangePlanesInto_eq]
    · rfl
    · exact present_of_copies copies whole

/-- The copy that returns the bytes of the range is the one into a
destination. -/
theorem copyRangePlanes_eq_into (index : Nat) (targets : List LayoutPlane)
    (destination : List UInt8) :
    copyRangePlanes memory nulls buffer offset length index targets destination =
      let into := copyRangePlanesInto memory nulls buffer offset length index targets destination
      if into.1 then some into.2 else none := by
  induction targets generalizing index destination with
  | nil => rfl
  | cons target targets induction =>
    rw [copyRangePlanes, copyRangePlanesInto]
    dsimp only
    split
    · exact induction _ _
    · cases buffer.planes[index]? with
      | none => rfl
      | some source =>
        dsimp only
        split
        · rfl
        · exact induction _ _

theorem byteRange_eq_into (memory : HostMemory) (nulls : NullAddresses)
    (buffer : PixelBuffer) (layout : BufferLayoutReply)
    (offset length : Nat) :
    vtfCopyPixelBufferByteRange memory nulls buffer layout offset length =
      let into := vtfCopyPixelBufferByteRangeInto memory nulls buffer layout
        offset length (replicate length 0)
      if into.1 then some into.2 else none := by
  have zeroed : splice (replicate length 0) 0 (replicate length 0) =
      replicate length (0 : UInt8) := by
    simp [splice]
  have copied : splice (replicate length 0) 0
      (memory.readRange buffer.region (buffer.base + offset) length) =
        memory.readRange buffer.region (buffer.base + offset) length := by
    simp [splice]
  unfold vtfCopyPixelBufferByteRange vtfCopyPixelBufferByteRangeInto
  dsimp only
  split
  · rfl
  split
  · rfl
  split
  next empty =>
    rw [empty]
    rfl
  · rw [zeroed, copied]
    split
    · split
      · rfl
      · rfl
    · exact copyRangePlanes_eq_into _ _ _

end Range

end VtFerry
