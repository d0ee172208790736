import VtFerry.Worker.Mock

/-!
# The layout computations agree

The two workers align a row in `usize` and truncate the stride; the guest
multiplies and aligns in `u32`.  Since the alignment divides the word, both
give the same stride whatever wraps, and the layouts are equal.  The layout is
exact as soon as the total size it stands for fits into 32 bits: its planes
then tile the bytes of a frame, and rows fit into the stride.
-/

namespace VtFerry

open List Rounding

namespace Shim

/-- The `align64` of the guest: `(v + 63) & !63` in `u32`. -/
def align64 (value : UInt32) : UInt32 :=
  (value + 63) &&& ~~~63

def vtfDecodeLayoutForFormat (width height pixelFormat : UInt32) :
    BufferLayoutReply :=
  if pixelFormat = PixelFormat.nv12 ∨ pixelFormat = PixelFormat.nv12Full then
    biplanarLayout (align64 width) width height
  else if pixelFormat = PixelFormat.p010 ∨ pixelFormat = PixelFormat.p010Full then
    biplanarLayout (align64 (width * 2)) width height
  else
    let stride := align64 (width * 4)
    { totalSize := stride * height
      planes :=
        [{ offset := 0, width := width, height := height,
           bytesPerRow := stride }] }

end Shim

/-! ## Exact layouts -/

/-- Formats with a second plane, of interleaved chroma at half resolution. -/
def Biplanar (pixelFormat : UInt32) : Prop :=
  (pixelFormat = PixelFormat.nv12 ∨ pixelFormat = PixelFormat.nv12Full) ∨
    (pixelFormat = PixelFormat.p010 ∨ pixelFormat = PixelFormat.p010Full)

instance (pixelFormat : UInt32) : Decidable (Biplanar pixelFormat) :=
  inferInstanceAs (Decidable (_ ∨ _))

/-- The bytes of one sample of the first plane. -/
def sampleBytes (pixelFormat : UInt32) : Nat :=
  if pixelFormat = PixelFormat.nv12 ∨ pixelFormat = PixelFormat.nv12Full then 1
  else if pixelFormat = PixelFormat.p010 ∨ pixelFormat = PixelFormat.p010Full then 2
  else 4

/-- The bytes that stand at one horizontal position of each plane. -/
def planeSampleBytes (pixelFormat : UInt32) : List Nat :=
  if Biplanar pixelFormat then
    [sampleBytes pixelFormat, 2 * sampleBytes pixelFormat]
  else [sampleBytes pixelFormat]

def exactStride (width pixelFormat : UInt32) : Nat :=
  roundUp 64 (width.toNat * sampleBytes pixelFormat)

def exactTotalSize (width height pixelFormat : UInt32) : Nat :=
  exactStride width pixelFormat * height.toNat +
    if Biplanar pixelFormat then
      exactStride width pixelFormat * (height.toNat / 2)
    else 0

def BufferLayoutReply.RowsFit (layout : BufferLayoutReply) (samples : List Nat) : Prop :=
  layout.planes.length = samples.length ∧ ∀ pair ∈ layout.planes.zip samples,
      pair.1.width.toNat * pair.2 ≤ pair.1.bytesPerRow.toNat

/-! ## One stride for all -/

def layoutWith (pixelFormat stride width height : UInt32) :
    BufferLayoutReply :=
  if Biplanar pixelFormat then biplanarLayout stride width height
  else
    { totalSize := stride * height
      planes :=
        [{ offset := 0, width := width, height := height,
           bytesPerRow := stride }] }

theorem align64_ofNat (value : Nat) :
    Shim.align64 (UInt32.ofNat value) = UInt32.ofNat (roundUp 64 value) := by
  have masked := and_complement_eq 6 32
    ((UInt32.ofNat value + 63).toNat) (by decide) (UInt32.toNat_lt _)
  apply UInt32.toNat_inj.mp
  rw [Shim.align64, UInt32.toNat_and]
  rw [show (~~~63 : UInt32).toNat = 2 ^ 32 - 1 - (2 ^ 6 - 1) from rfl, masked,
    UInt32.toNat_add, UInt32.toNat_ofNat', UInt32.toNat_ofNat',
    show (63 : UInt32).toNat = 63 from rfl, roundUp]
  omega

section Strides

variable {width height pixelFormat : UInt32}

/-- A layout that takes the exact stride, truncated, for each format. -/
theorem layoutWith_of_strides {eight ten packed : UInt32}
    (eightBit : eight = UInt32.ofNat (roundUp 64 width.toNat))
    (tenBit : ten = UInt32.ofNat (roundUp 64 (width.toNat * 2)))
    (otherwise : packed = UInt32.ofNat (roundUp 64 (width.toNat * 4))) :
    (if pixelFormat = PixelFormat.nv12 ∨ pixelFormat = PixelFormat.nv12Full then
      biplanarLayout eight width height
    else if pixelFormat = PixelFormat.p010 ∨ pixelFormat = PixelFormat.p010Full then
      biplanarLayout ten width height
    else
      { totalSize := packed * height
        planes :=
          [{ offset := 0, width := width, height := height,
             bytesPerRow := packed }] }) =
      layoutWith pixelFormat (UInt32.ofNat (exactStride width pixelFormat))
        width height := by
  subst eightBit tenBit otherwise
  unfold layoutWith exactStride sampleBytes Biplanar
  split
  next isEight => rw [if_pos (Or.inl isEight), Nat.mul_one]
  next notEight =>
    split
    next isTen => rw [if_pos (Or.inr isTen)]
    next notTen => rw [if_neg (not_or.mpr ⟨notEight, notTen⟩)]

theorem vtfFillBufferLayout_eq :
    vtfFillBufferLayout width height pixelFormat =
      layoutWith pixelFormat (UInt32.ofNat (exactStride width pixelFormat))
        width height := by
  have aligned : ∀ value, vtfAlignSize value 64 = roundUp 64 value :=
    fun value => vtfAlignSize_eq_roundUp value (by decide)
  apply layoutWith_of_strides
  · rw [aligned]
  · rw [aligned]
  · rw [aligned]

theorem fillBufferLayout_eq :
    MockBackend.fillBufferLayout width height pixelFormat =
      layoutWith pixelFormat (UInt32.ofNat (exactStride width pixelFormat))
        width height := by
  have aligned : ∀ value, MockBackend.alignSize value 64 = roundUp 64 value :=
    fun value => add_missing_eq_roundUp (by decide) value
  apply layoutWith_of_strides
  · rw [aligned]
  · rw [aligned]
  · rw [aligned]

theorem vtfDecodeLayoutForFormat_eq :
    Shim.vtfDecodeLayoutForFormat width height pixelFormat =
      layoutWith pixelFormat (UInt32.ofNat (exactStride width pixelFormat))
        width height := by
  have multiplied : ∀ factor : Nat,
      width * UInt32.ofNat factor = UInt32.ofNat (width.toNat * factor) := by
    intro factor
    rw [UInt32.ofNat_mul, UInt32.ofNat_toNat]
  apply layoutWith_of_strides
  · rw [← align64_ofNat, UInt32.ofNat_toNat]
  · rw [← align64_ofNat, ← multiplied]
    rfl
  · rw [← align64_ofNat, ← multiplied]
    rfl

/-! ## Exact sizes -/

theorem vtfBufferTotalSize_eq (fits : exactTotalSize width height pixelFormat < 2 ^ 32) :
    vtfBufferTotalSize width height pixelFormat =
      exactTotalSize width height pixelFormat := by
  have aligned : ∀ value, vtfAlignSize value 64 = roundUp 64 value :=
    fun value => vtfAlignSize_eq_roundUp value (by decide)
  have wide : exactTotalSize width height pixelFormat < 2 ^ 64 :=
    Nat.lt_trans fits (by decide)
  rw [← Nat.mod_eq_of_lt wide]
  unfold vtfBufferTotalSize exactTotalSize exactStride sampleBytes Biplanar
  dsimp only
  split
  next isEight => rw [if_pos (Or.inl isEight), aligned, Nat.mul_one]
  next notEight =>
    split
    next isTen => rw [if_pos (Or.inr isTen), aligned]
    next notTen => rw [if_neg (not_or.mpr ⟨notEight, notTen⟩), aligned, Nat.add_zero]

theorem exactStride_lt (tall : 0 < height)
    (fits : exactTotalSize width height pixelFormat < 2 ^ 32) :
    exactStride width pixelFormat < 2 ^ 32 := by
  have positive : 0 < height.toNat := tall
  have row := Nat.le_mul_of_pos_right (exactStride width pixelFormat) positive
  unfold exactTotalSize at fits
  omega

theorem toNat_stride_mul (rows : UInt32) (narrow : exactStride width pixelFormat < 2 ^ 32)
    (small : exactStride width pixelFormat * rows.toNat < 2 ^ 32) :
    (UInt32.ofNat (exactStride width pixelFormat) * rows).toNat =
      exactStride width pixelFormat * rows.toNat := by
  rw [UInt32.toNat_mul, UInt32.toNat_ofNat', Nat.mod_eq_of_lt narrow, Nat.mod_eq_of_lt small]

theorem holds_iff {plane : LayoutPlane} {start size position : Nat}
    (offset : plane.offset.toNat = start)
    (extent : plane.bytesPerRow.toNat * plane.height.toNat = size) :
    plane.Holds position ↔ start ≤ position ∧ position < start + size := by
  rw [LayoutPlane.Holds, offset, extent]

theorem holds_first_iff {plane : LayoutPlane} {size position : Nat} (offset : plane.offset = 0)
    (extent : plane.bytesPerRow.toNat * plane.height.toNat = size) :
    plane.Holds position ↔ position < size := by
  have zero : plane.offset.toNat = 0 := by rw [offset]; rfl
  rw [holds_iff zero extent]
  omega

theorem tiles_pair {layout : BufferLayoutReply} {first second : LayoutPlane}
    {luma chroma : Nat} (planes : layout.planes = [first, second])
    (size : layout.totalSize.toNat = luma + chroma)
    (holdsFirst : ∀ position, first.Holds position ↔ position < luma)
    (holdsSecond : ∀ position, second.Holds position ↔ luma ≤ position ∧ position < luma + chroma) :
    layout.Tiles (luma + chroma) := by
  refine ⟨size, ?_, ?_⟩
  · rw [planes, pairwise_pair]
    intro position both
    rw [holdsFirst, holdsSecond] at both
    omega
  · intro position
    rw [planes]
    simp only [mem_cons, not_mem_nil, or_false, exists_eq_or_imp,
      exists_eq_left, holdsFirst, holdsSecond]
    omega

theorem layoutWith_tiles (tall : 0 < height)
    (fits : exactTotalSize width height pixelFormat < 2 ^ 32) :
    (layoutWith pixelFormat (UInt32.ofNat (exactStride width pixelFormat))
      width height).Tiles (exactTotalSize width height pixelFormat) := by
  have narrow := exactStride_lt tall fits
  have stride : (UInt32.ofNat (exactStride width pixelFormat)).toNat =
      exactStride width pixelFormat := by
    rw [UInt32.toNat_ofNat', Nat.mod_eq_of_lt narrow]
  have extent : (UInt32.ofNat (exactStride width pixelFormat)).toNat *
      height.toNat = exactStride width pixelFormat * height.toNat := by
    rw [stride]
  unfold exactTotalSize at fits ⊢
  unfold layoutWith
  split
  next biplanar =>
    rw [if_pos biplanar] at fits
    have luma := toNat_stride_mul height narrow (by omega)
    have halved : (height / 2).toNat = height.toNat / 2 := rfl
    have chroma := toNat_stride_mul (height / 2) narrow (by
      rw [halved]
      omega)
    rw [halved] at chroma
    apply tiles_pair rfl
    · simp only [biplanarLayout]
      rw [UInt32.toNat_add, luma, chroma, Nat.mod_eq_of_lt fits]
    · intro position
      exact holds_first_iff rfl extent
    · intro position
      exact holds_iff luma (by rw [stride, halved])
  next single =>
    rw [if_neg single, Nat.add_zero] at fits
    have whole := toNat_stride_mul height narrow fits
    rw [Nat.add_zero]
    refine ⟨whole, pairwise_singleton .., ?_⟩
    intro position
    simp only [mem_singleton, exists_eq_left]
    exact (holds_first_iff rfl extent).symm

theorem layoutWith_rowsFit (tall : 0 < height)
    (fits : exactTotalSize width height pixelFormat < 2 ^ 32) :
    (layoutWith pixelFormat (UInt32.ofNat (exactStride width pixelFormat))
      width height).RowsFit (planeSampleBytes pixelFormat) := by
  have narrow := exactStride_lt tall fits
  have stride : (UInt32.ofNat (exactStride width pixelFormat)).toNat =
      exactStride width pixelFormat := by
    rw [UInt32.toNat_ofNat', Nat.mod_eq_of_lt narrow]
  have row : width.toNat * sampleBytes pixelFormat ≤
      exactStride width pixelFormat := le_roundUp (by decide) _
  have halves : (width / 2).toNat * (2 * sampleBytes pixelFormat) ≤
      width.toNat * sampleBytes pixelFormat := by
    have halved : (width / 2).toNat = width.toNat / 2 := rfl
    rw [halved, ← Nat.mul_assoc]
    exact Nat.mul_le_mul_right _ (Nat.div_mul_le_self ..)
  unfold layoutWith planeSampleBytes
  split
  · refine ⟨rfl, ?_⟩
    intro pair member
    simp only [biplanarLayout, zip_cons_cons, zip_nil_right,
      mem_cons, not_mem_nil, or_false] at member
    rcases member with rfl | rfl
    · rw [stride]
      exact row
    · rw [stride]
      exact halves.trans row
  · refine ⟨rfl, ?_⟩
    intro pair member
    simp only [zip_cons_cons, zip_nil_right, mem_singleton] at member
    subst member
    rw [stride]
    exact row

/-- The four computations give one layout, which is exact whenever the size of
a frame with some rows is a 32-bit number. -/
theorem layouts_agree (width height pixelFormat : UInt32) :
    MockBackend.fillBufferLayout width height pixelFormat =
        vtfFillBufferLayout width height pixelFormat ∧
      Shim.vtfDecodeLayoutForFormat width height pixelFormat =
        vtfFillBufferLayout width height pixelFormat ∧
      (0 < height → exactTotalSize width height pixelFormat < 2 ^ 32 →
        vtfBufferTotalSize width height pixelFormat = exactTotalSize width height pixelFormat ∧
          (vtfFillBufferLayout width height pixelFormat).Tiles
            (exactTotalSize width height pixelFormat) ∧
          (vtfFillBufferLayout width height pixelFormat).RowsFit
            (planeSampleBytes pixelFormat)) := by
  rw [fillBufferLayout_eq, vtfDecodeLayoutForFormat_eq, vtfFillBufferLayout_eq]
  refine ⟨rfl, rfl, ?_⟩
  intro tall fits
  exact ⟨vtfBufferTotalSize_eq fits, layoutWith_tiles tall fits, layoutWith_rowsFit tall fits⟩

/-- A 1919 by 3 frame of the 10-bit format, whose stride is rounded up. -/
theorem layouts_agree_odd :
    exactTotalSize 1919 3 PixelFormat.p010 = 15360 ∧
      (vtfFillBufferLayout 1919 3 PixelFormat.p010).Tiles 15360 := by
  have agree := layouts_agree 1919 3 PixelFormat.p010
  have size : exactTotalSize 1919 3 PixelFormat.p010 = 15360 := by decide
  refine ⟨size, ?_⟩
  have tiled := (agree.2.2 (by decide) (by rw [size]; decide)).2.1
  rwa [size] at tiled

end Strides

end VtFerry
