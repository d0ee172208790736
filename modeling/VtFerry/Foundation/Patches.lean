import Mathlib.Data.List.Basic

/-!
# Overwriting parts of a buffer

A patch replaces the run of a buffer that starts at its offset.  After a list
of patches a position inside the buffer holds either what the last patch over
it wrote or what it held before; so two buffers of one length agree there
exactly if some patch covers the position or they agreed before.  A patch that
runs past the end makes the buffer longer and changes no position it had.
Patches that all write parts of one content leave that content wherever they
write.  A window of a buffer sees a patch inside it as a patch of its own, and
does not see a patch beside it.
-/

universe u

namespace Patches

open List

variable {Byte : Type u}

structure Patch (Byte : Type u) where
  offset : Nat
  data : List Byte

namespace Patch

def Covers (patch : Patch Byte) (position : Nat) : Prop :=
  patch.offset ≤ position ∧ position < patch.offset + patch.data.length

instance (patch : Patch Byte) (position : Nat) :
    Decidable (patch.Covers position) :=
  inferInstanceAs (Decidable (_ ∧ _))

def apply (patch : Patch Byte) (buffer : List Byte) : List Byte :=
  buffer.take patch.offset ++ patch.data ++ buffer.drop (patch.offset + patch.data.length)

theorem length_apply (patch : Patch Byte) (buffer : List Byte) :
    (patch.apply buffer).length = max buffer.length
        (min patch.offset buffer.length + patch.data.length) := by
  simp only [apply, length_append, length_take, length_drop]
  omega

theorem length_le_apply (patch : Patch Byte) (buffer : List Byte) :
    buffer.length ≤ (patch.apply buffer).length := by
  rw [length_apply]
  exact Nat.le_max_left _ _

variable {buffer : List Byte}

theorem getElem?_apply (patch : Patch Byte) {position : Nat} (inside : position < buffer.length) :
    (patch.apply buffer)[position]? =
      if patch.Covers position then patch.data[position - patch.offset]?
      else buffer[position]? := by
  rw [apply, append_assoc]
  by_cases before : position < patch.offset
  · have uncovered : ¬ patch.Covers position := fun covers =>
      Nat.not_lt_of_le covers.1 before
    rw [if_neg uncovered, getElem?_append_left (by simp; omega), getElem?_take_of_lt before]
  · have taken : (buffer.take patch.offset).length = patch.offset := by
      rw [length_take]
      omega
    rw [getElem?_append_right (by omega), taken]
    split
    next covers => exact getElem?_append_left (by have := covers.2; omega)
    next uncovered =>
      have behind : patch.offset + patch.data.length ≤ position := by
        unfold Covers at uncovered
        omega
      rw [getElem?_append_right (by omega), getElem?_drop]
      congr 1
      omega

end Patch

def applyAll (patches : List (Patch Byte)) (buffer : List Byte) : List Byte :=
  patches.foldl (fun buffer patch => patch.apply buffer) buffer

def Patched (patches : List (Patch Byte)) (position : Nat) : Prop :=
  ∃ patch ∈ patches, patch.Covers position

theorem applyAll_append (first second : List (Patch Byte)) (buffer : List Byte) :
    applyAll (first ++ second) buffer =
      applyAll second (applyAll first buffer) :=
  foldl_append

@[simp] theorem patched_nil (position : Nat) : ¬ Patched ([] : List (Patch Byte)) position := by
  simp [Patched]

@[simp] theorem patched_cons (patch : Patch Byte) (patches : List (Patch Byte)) (position : Nat) :
    Patched (patch :: patches) position ↔
      patch.Covers position ∨ Patched patches position := by
  simp [Patched]

theorem length_le_applyAll (patches : List (Patch Byte)) (buffer : List Byte) :
    buffer.length ≤ (applyAll patches buffer).length := by
  induction patches generalizing buffer with
  | nil => exact Nat.le_refl _
  | cons patch patches induction =>
    exact Nat.le_trans (patch.length_le_apply buffer) (induction _)

variable {position : Nat}

/-- Two buffers agree at a position once it is patched, and otherwise only if
they agreed before. -/
theorem applyAll_agree_iff (patches : List (Patch Byte))
    {first second : List Byte} (sameLength : first.length = second.length)
    (inside : position < first.length) :
    (applyAll patches first)[position]? = (applyAll patches second)[position]? ↔
      Patched patches position ∨ first[position]? = second[position]? := by
  induction patches generalizing first second with
  | nil => simp [applyAll]
  | cons patch patches induction =>
    have lengths : (patch.apply first).length = (patch.apply second).length := by
      rw [patch.length_apply, patch.length_apply, sameLength]
    have kept := Nat.lt_of_lt_of_le inside (patch.length_le_apply first)
    have step := induction lengths kept
    have atFirst := patch.getElem?_apply inside
    have atSecond := patch.getElem?_apply (sameLength ▸ inside)
    change (applyAll patches (patch.apply first))[position]? =
      (applyAll patches (patch.apply second))[position]? ↔ _
    rw [step, atFirst, atSecond, patched_cons]
    by_cases covers : patch.Covers position
    · simp [covers]
    · simp [covers]

/-- Every patch writes part of `content`. -/
def Writes (content : Nat → Byte) (patches : List (Patch Byte)) : Prop :=
  ∀ patch ∈ patches, ∀ position, patch.Covers position →
    patch.data[position - patch.offset]? = some (content position)

theorem Patch.length_apply_of_within {patch : Patch Byte}
    (inside : ∀ position, patch.Covers position → position < buffer.length) :
    (patch.apply buffer).length = buffer.length := by
  rw [patch.length_apply]
  cases data : patch.data with
  | nil =>
    rw [length_nil]
    omega
  | cons byte rest =>
    have last := inside (patch.offset + rest.length)
      ⟨Nat.le_add_right _ _, by rw [data, length_cons]; omega⟩
    rw [length_cons]
    omega

variable {patches : List (Patch Byte)}

theorem length_applyAll (inside : ∀ position, Patched patches position → position < buffer.length) :
    (applyAll patches buffer).length = buffer.length := by
  induction patches generalizing buffer with
  | nil => rfl
  | cons patch patches induction =>
    have kept : (patch.apply buffer).length = buffer.length := by
      apply Patch.length_apply_of_within
      intro position covers
      exact inside position ((patched_cons ..).mpr (.inl covers))
    refine (induction ?_).trans kept
    intro position patched
    rw [kept]
    exact inside position ((patched_cons ..).mpr (.inr patched))

theorem getElem?_applyAll_of_writes {content : Nat → Byte} (writes : Writes content patches)
    (inside : position < buffer.length)
    (holds : Patched patches position ∨ buffer[position]? = some (content position)) :
    (applyAll patches buffer)[position]? = some (content position) := by
  induction patches generalizing buffer with
  | nil => exact holds.resolve_left (patched_nil position)
  | cons patch patches induction =>
    have kept := Nat.lt_of_lt_of_le inside (patch.length_le_apply buffer)
    have here := patch.getElem?_apply inside
    apply induction _ kept
    · rw [here]
      split
      next covers => exact .inr (writes patch mem_cons_self position covers)
      next uncovered =>
        rw [patched_cons, or_assoc] at holds
        exact holds.resolve_left uncovered
    · intro other member
      exact writes other (mem_cons_of_mem patch member)

theorem getElem?_applyAll_of_unpatched (inside : position < buffer.length)
    (unpatched : ¬ Patched patches position) :
    (applyAll patches buffer)[position]? = buffer[position]? := by
  induction patches generalizing buffer with
  | nil => rfl
  | cons patch patches induction =>
    rw [patched_cons, not_or] at unpatched
    have kept := Nat.lt_of_lt_of_le inside (patch.length_le_apply buffer)
    refine (induction kept unpatched.2).trans ?_
    rw [patch.getElem?_apply inside, if_neg unpatched.1]

/-! ## Windows -/

/-- The `size` elements from `start` on. -/
def window (start size : Nat) (buffer : List Byte) : List Byte :=
  (buffer.drop start).take size

variable {start size : Nat} {buffer : List Byte}

theorem length_window (inside : start + size ≤ buffer.length) :
    (window start size buffer).length = size := by
  rw [window, length_take, length_drop]
  omega

theorem getElem?_window {index : Nat} (below : index < size) :
    (window start size buffer)[index]? = buffer[start + index]? := by
  rw [window, getElem?_take_of_lt below, getElem?_drop]

theorem eq_of_getElem?_lt {first second : List Byte} (first_length : first.length = size)
    (second_length : second.length = size)
    (same : ∀ index < size, first[index]? = second[index]?) :
    first = second := by
  apply ext_getElem?
  intro index
  by_cases below : index < size
  · exact same index below
  · rw [getElem?_eq_none (by omega), getElem?_eq_none (by omega)]

theorem window_apply_inside {offset : Nat} {data : List Byte} (fits : offset + data.length ≤ size)
    (inside : start + size ≤ buffer.length) :
    window start size (Patch.apply ⟨start + offset, data⟩ buffer) =
      Patch.apply ⟨offset, data⟩ (window start size buffer) := by
  have outer : (Patch.apply ⟨start + offset, data⟩ buffer).length =
      buffer.length := by
    apply Patch.length_apply_of_within
    intro position covers
    have below := covers.2
    dsimp only at below
    omega
  have inner : (Patch.apply ⟨offset, data⟩ (window start size buffer)).length = size := by
    rw [Patch.length_apply_of_within, length_window inside]
    intro position covers
    have below := covers.2
    dsimp only at below
    rw [length_window inside]
    omega
  refine eq_of_getElem?_lt (length_window (by omega)) inner ?_
  intro index below
  rw [getElem?_window below, Patch.getElem?_apply _ (by omega),
    Patch.getElem?_apply _ (by rw [length_window inside]; exact below),
    getElem?_window below]
  have covers_iff : (Patch.mk (start + offset) data).Covers (start + index) ↔
      (Patch.mk offset data).Covers index := by
    unfold Patch.Covers
    dsimp only
    omega
  by_cases covers : (Patch.mk offset data).Covers index
  · rw [if_pos covers, if_pos (covers_iff.mpr covers)]
    congr 1
    dsimp only
    omega
  · rw [if_neg covers, if_neg (mt covers_iff.mp covers)]

theorem window_apply_apart {patch : Patch Byte}
    (apart : patch.offset + patch.data.length ≤ start ∨ start + size ≤ patch.offset)
    (inside : start + size ≤ buffer.length) :
    window start size (patch.apply buffer) = window start size buffer := by
  have longer := patch.length_le_apply buffer
  refine eq_of_getElem?_lt (length_window (by omega)) (length_window inside) ?_
  intro index below
  have uncovered : ¬ patch.Covers (start + index) := by
    unfold Patch.Covers
    omega
  rw [getElem?_window below, getElem?_window below,
    Patch.getElem?_apply _ (by omega), if_neg uncovered]

theorem Patch.apply_whole {data : List Byte} (length : data.length = buffer.length) :
    Patch.apply ⟨0, data⟩ buffer = data := by
  rw [apply]
  dsimp only
  rw [take_zero, nil_append, Nat.zero_add, length, drop_length, append_nil]

end Patches
