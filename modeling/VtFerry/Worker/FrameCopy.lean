import VtFerry.Foundation.Patches
import VtFerry.Worker.PixelCopy

/-!
# When a frame copy succeeds and what it writes

The two copies out of a pixel buffer fail where CoreVideo has no address for a
plane they need.  The whole-frame copy, when it succeeds, is a list of patches
to its destination: the frame in one piece, or one patch for each row of each
plane, cut to the shorter of the two rows.
-/

namespace VtFerry

open List Patches

/-! ## What the frame copy writes -/

def CopiesWhole (buffer : PixelBuffer) (layout : BufferLayoutReply) : Prop :=
  layout.planes.length = 1 ∨ buffer.planeCount = 0

instance (buffer : PixelBuffer) (layout : BufferLayoutReply) :
    Decidable (CopiesWhole buffer layout) :=
  inferInstanceAs (Decidable (_ ∨ _))

/-- There is no plane to copy, or CoreVideo gives no address for one. -/
def CopyFails (nulls : NullAddresses) (buffer : PixelBuffer) (layout : BufferLayoutReply) : Prop :=
  layout.planes.length = 0 ∨ (CopiesWhole buffer layout ∧ nulls.base = true) ∨
    (¬ CopiesWhole buffer layout ∧ ∃ index < layout.planes.length,
        buffer.planes.length ≤ index ∨ nulls.plane index = true)

/-- The byte lies in a row of the plane, left of the shorter row's end. -/
def InCopiedRow (source : PixelPlane) (target : LayoutPlane) (position : Nat) : Prop :=
  ∃ row < target.height.toNat, target.offset.toNat + row * target.bytesPerRow.toNat ≤ position ∧
      position < target.offset.toNat + row * target.bytesPerRow.toNat +
        min target.bytesPerRow.toNat source.bytesPerRow

instance (source : PixelPlane) (target : LayoutPlane) (position : Nat) :
    Decidable (InCopiedRow source target position) :=
  inferInstanceAs (Decidable (∃ row, row < _ ∧ _))

/-- The byte of the destination is one that a copy that succeeds writes. -/
def Overwrites (buffer : PixelBuffer) (layout : BufferLayoutReply) (position : Nat) : Prop :=
  (CopiesWhole buffer layout ∧ position < layout.totalSize.toNat) ∨
    (¬ CopiesWhole buffer layout ∧ ∃ planes ∈ buffer.planes.zip layout.planes,
        InCopiedRow planes.1 planes.2 position)

def rowPatches (memory : HostMemory) (region : Nat) (source : PixelPlane)
    (target : LayoutPlane) : List (Patch UInt8) :=
  (range target.height.toNat).map fun row =>
    { offset := target.offset.toNat + row * target.bytesPerRow.toNat
      data := memory.readRange region (source.base + row * source.bytesPerRow)
        (min target.bytesPerRow.toNat source.bytesPerRow) }

def planePatches (memory : HostMemory) (region : Nat)
    (planes : List (PixelPlane × LayoutPlane)) : List (Patch UInt8) :=
  planes.flatMap fun pair => rowPatches memory region pair.1 pair.2

def copyPatches (memory : HostMemory) (buffer : PixelBuffer)
    (layout : BufferLayoutReply) : List (Patch UInt8) :=
  if CopiesWhole buffer layout then
    [{ offset := 0
       data := memory.readRange buffer.region buffer.base layout.totalSize.toNat }]
  else planePatches memory buffer.region (buffer.planes.zip layout.planes)

@[simp] theorem length_readRange (memory : HostMemory) (region start count : Nat) :
    (memory.readRange region start count).length = count := by
  simp [HostMemory.readRange]

theorem patched_rowPatches (memory : HostMemory) (region : Nat)
    (source : PixelPlane) (target : LayoutPlane) (position : Nat) :
    Patched (rowPatches memory region source target) position ↔
      InCopiedRow source target position := by
  simp [Patched, rowPatches, Patch.Covers, InCopiedRow]

theorem patched_copyPatches (memory : HostMemory) (buffer : PixelBuffer)
    (layout : BufferLayoutReply) (position : Nat) :
    Patched (copyPatches memory buffer layout) position ↔
      Overwrites buffer layout position := by
  by_cases whole : CopiesWhole buffer layout
  · simp [copyPatches, Overwrites, whole, Patch.Covers]
  · simp only [copyPatches, Overwrites, whole, if_false, false_and, false_or,
      not_false_eq_true, true_and, planePatches]
    constructor
    · rintro ⟨patch, member, covers⟩
      obtain ⟨planes, paired, inRows⟩ := mem_flatMap.mp member
      exact ⟨planes, paired, (patched_rowPatches _ _ _ _ _).mp ⟨patch, inRows, covers⟩⟩
    · rintro ⟨planes, paired, copied⟩
      obtain ⟨patch, inRows, covers⟩ :=
        (patched_rowPatches memory buffer.region _ _ _).mpr copied
      exact ⟨patch, mem_flatMap.mpr ⟨planes, paired, inRows⟩, covers⟩

theorem copyPlaneRows_eq (memory : HostMemory) (region : Nat)
    (source : PixelPlane) (target : LayoutPlane) (destination : List UInt8) :
    copyPlaneRows memory region source target destination =
      applyAll (rowPatches memory region source target) destination := by
  simp only [copyPlaneRows, rowPatches, applyAll, foldl_map]
  rfl

theorem copyPlanes_eq_none (memory : HostMemory) (nulls : NullAddresses)
    (buffer : PixelBuffer) (index : Nat) (targets : List LayoutPlane)
    (destination : List UInt8)
    (missing : ∃ later < targets.length, buffer.planes.length ≤ index + later ∨
        nulls.plane (index + later) = true) :
    copyPlanes memory nulls buffer index targets destination = none := by
  induction targets generalizing index destination with
  | nil =>
    obtain ⟨_, impossible, _⟩ := missing
    exact absurd impossible (Nat.not_lt_zero _)
  | cons target targets induction =>
    obtain ⟨later, bound, missing⟩ := missing
    rw [copyPlanes]
    split
    · rfl
    next source found =>
      split
      · rfl
      next present =>
        apply induction
        cases later with
        | zero =>
          have inside := (List.getElem?_eq_some_iff.mp found).1
          rcases missing with beyond | null
          · omega
          · exact absurd null present
        | succ later =>
          refine ⟨later, Nat.lt_of_succ_lt_succ bound, ?_⟩
          rw [Nat.add_right_comm, Nat.add_assoc]
          exact missing

theorem copyPlanes_eq_some (memory : HostMemory) (nulls : NullAddresses)
    (buffer : PixelBuffer) (index : Nat) (targets : List LayoutPlane)
    (destination : List UInt8)
    (present : ∀ later < targets.length, index + later < buffer.planes.length ∧
        nulls.plane (index + later) = false) :
    copyPlanes memory nulls buffer index targets destination =
      some (applyAll (planePatches memory buffer.region
        ((buffer.planes.drop index).zip targets)) destination) := by
  induction targets generalizing index destination with
  | nil => simp [copyPlanes, planePatches, applyAll]
  | cons target targets induction =>
    obtain ⟨inside, address⟩ := present 0 (Nat.zero_lt_succ _)
    rw [Nat.add_zero] at inside address
    have rest := induction (index + 1)
      (copyPlaneRows memory buffer.region buffer.planes[index] target destination)
      (by
        intro later bound
        rw [Nat.add_assoc, Nat.add_comm 1]
        exact present (later + 1) (Nat.succ_lt_succ bound))
    have found : buffer.planes[index]? = some buffer.planes[index] :=
      getElem?_eq_getElem inside
    simp only [copyPlanes, found, address, Bool.false_eq_true, if_false, rest]
    rw [copyPlaneRows_eq, drop_eq_getElem_cons inside,
      zip_cons_cons, planePatches, planePatches, flatMap_cons,
      applyAll_append]

theorem vtfCopyPixelBufferToBytes_eq_none (memory : HostMemory)
    (destination : List UInt8) {nulls : NullAddresses} {buffer : PixelBuffer}
    {width height pixelFormat : UInt32}
    (fails : CopyFails nulls buffer (vtfFillBufferLayout width height pixelFormat)) :
    vtfCopyPixelBufferToBytes memory nulls buffer destination width height pixelFormat = none := by
  unfold vtfCopyPixelBufferToBytes
  rcases fails with empty | ⟨whole, null⟩ | ⟨planes, missing⟩
  · exact if_pos empty
  · unfold CopiesWhole at whole
    simp [whole, null]
  · unfold CopiesWhole at planes
    simp only [planes, if_false]
    rw [copyPlanes_eq_none memory nulls buffer 0 _ _ (by simpa using missing)]
    exact ite_self _

theorem vtfCopyPixelBufferToBytes_eq_some (memory : HostMemory)
    (destination : List UInt8) {nulls : NullAddresses} {buffer : PixelBuffer}
    {width height pixelFormat : UInt32}
    (copies : ¬ CopyFails nulls buffer (vtfFillBufferLayout width height pixelFormat)) :
    vtfCopyPixelBufferToBytes memory nulls buffer destination width height pixelFormat =
        some (applyAll (copyPatches memory buffer
          (vtfFillBufferLayout width height pixelFormat)) destination) := by
  unfold vtfCopyPixelBufferToBytes
  generalize vtfFillBufferLayout width height pixelFormat = layout at copies
  obtain ⟨nonempty, address, planes⟩ := by
    simpa only [CopyFails, not_or] using copies
  by_cases whole : CopiesWhole buffer layout
  · have given : nulls.base = false := by
      simpa [whole] using address
    have split : layout.planes.length = 1 ∨ buffer.planeCount = 0 := whole
    simp only [nonempty, split, given, if_false, if_true, Bool.false_eq_true, copyPatches, whole]
    rfl
  · have split : ¬ (layout.planes.length = 1 ∨ buffer.planeCount = 0) := whole
    have present : ∀ later < layout.planes.length, 0 + later < buffer.planes.length ∧
          nulls.plane (0 + later) = false := by
      intro later bound
      simpa [whole] using fun missing => planes ⟨whole, later, bound, missing⟩
    simp only [nonempty, split, if_false, copyPatches, whole]
    exact copyPlanes_eq_some memory nulls buffer 0 _ _ present

/-! ## Copying a range -/

/-- The range and the plane have a byte in common. -/
def MeetsPlane (target : LayoutPlane) (offset length : Nat) : Prop :=
  max offset target.offset.toNat < min (offset + length)
      (target.offset.toNat + target.bytesPerRow.toNat * target.height.toNat)

/-- There is no plane, or CoreVideo gives no address for one that the range
meets; an empty range needs no address. -/
def RangeCopyFails (nulls : NullAddresses) (buffer : PixelBuffer)
    (layout : BufferLayoutReply) (offset length : Nat) : Prop :=
  layout.planes.length = 0 ∨ (length ≠ 0 ∧
      ((CopiesWhole buffer layout ∧ nulls.base = true) ∨ (¬ CopiesWhole buffer layout ∧
          ∃ index target, layout.planes[index]? = some target ∧ MeetsPlane target offset length ∧
            (buffer.planes.length ≤ index ∨ nulls.plane index = true))))

theorem copyRangePlanes_eq_none_iff (memory : HostMemory)
    (nulls : NullAddresses) (buffer : PixelBuffer) (offset length : Nat)
    (index : Nat) (targets : List LayoutPlane) (destination : List UInt8) :
    copyRangePlanes memory nulls buffer offset length index targets destination = none ↔
      ∃ later target, targets[later]? = some target ∧ MeetsPlane target offset length ∧
        (buffer.planes.length ≤ index + later ∨ nulls.plane (index + later) = true) := by
  induction targets generalizing index destination with
  | nil => simp [copyRangePlanes]
  | cons target targets induction =>
    have split : (∃ later other, (target :: targets)[later]? = some other ∧
        MeetsPlane other offset length ∧
        (buffer.planes.length ≤ index + later ∨ nulls.plane (index + later) = true)) ↔
        (MeetsPlane target offset length ∧
          (buffer.planes.length ≤ index ∨ nulls.plane index = true)) ∨
        ∃ later other, targets[later]? = some other ∧ MeetsPlane other offset length ∧
          (buffer.planes.length ≤ index + 1 + later ∨ nulls.plane (index + 1 + later) = true) := by
      constructor
      · rintro ⟨later, other, found, meets, missing⟩
        cases later with
        | zero =>
          cases found
          exact .inl ⟨meets, missing⟩
        | succ later =>
          refine .inr ⟨later, other, found, meets, ?_⟩
          rwa [Nat.add_right_comm, Nat.add_assoc]
      · rintro (⟨meets, missing⟩ | ⟨later, other, found, meets, missing⟩)
        · exact ⟨0, target, rfl, meets, missing⟩
        · refine ⟨later + 1, other, found, meets, ?_⟩
          rwa [Nat.add_right_comm, Nat.add_assoc] at missing
    rw [split, copyRangePlanes]
    dsimp only
    split
    next apart =>
      have misses : ¬ MeetsPlane target offset length :=
        Nat.not_lt_of_le apart
      rw [induction]
      simp [misses]
    next meets =>
      have meets : MeetsPlane target offset length :=
        Nat.lt_of_not_le meets
      cases found : buffer.planes[index]? with
      | none =>
        have beyond := getElem?_eq_none_iff.mp found
        simp [meets, beyond]
      | some source =>
        have inside := (List.getElem?_eq_some_iff.mp found).1
        dsimp only
        split
        next null => simp [meets, null]
        next address =>
          rw [induction]
          have present : ¬ (buffer.planes.length ≤ index ∨ nulls.plane index = true) := by
            rintro (beyond | null)
            · exact absurd inside (Nat.not_lt_of_le beyond)
            · exact address null
          simp [present]

theorem vtfCopyPixelBufferByteRange_eq_none_iff (memory : HostMemory)
    (nulls : NullAddresses) (buffer : PixelBuffer)
    (layout : BufferLayoutReply) {offset length : Nat}
    (inside : ¬ (layout.totalSize.toNat < offset ∨ layout.totalSize.toNat - offset < length)) :
    vtfCopyPixelBufferByteRange memory nulls buffer layout offset length = none ↔
      RangeCopyFails nulls buffer layout offset length := by
  unfold vtfCopyPixelBufferByteRange RangeCopyFails
  dsimp only
  by_cases empty : layout.planes.length = 0
  · simp [empty]
  · rw [if_neg empty, if_neg inside]
    by_cases nothing : length = 0
    · simp [nothing, empty]
    · rw [if_neg nothing]
      by_cases whole : CopiesWhole buffer layout
      · have one : layout.planes.length = 1 ∨ buffer.planeCount = 0 := whole
        rw [if_pos one]
        simp [empty, nothing, whole]
      · have many : ¬ (layout.planes.length = 1 ∨ buffer.planeCount = 0) :=
          whole
        rw [if_neg many, copyRangePlanes_eq_none_iff]
        simp [empty, nothing, whole]

end VtFerry
