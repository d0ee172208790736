import Mathlib.Data.Nat.Bitwise

/-!
# Rounding up to a multiple

The mathematical ceiling to a multiple of an alignment, its order laws, and
the two machine idioms that compute it: adding the missing remainder, and
clearing the low bits of a 64-bit word with a power-of-two mask.
-/

namespace Rounding

/-- The least multiple of `alignment` that is at least `value`. -/
def roundUp (alignment value : Nat) : Nat :=
  (value + alignment - 1) / alignment * alignment

variable {alignment : Nat}

theorem le_roundUp (positive : 0 < alignment) (value : Nat) : value ≤ roundUp alignment value := by
  have division := Nat.div_add_mod (value + alignment - 1) alignment
  have remainder := Nat.mod_lt (value + alignment - 1) positive
  have commuted := Nat.mul_comm alignment ((value + alignment - 1) / alignment)
  unfold roundUp
  omega

theorem roundUp_lt_add (positive : 0 < alignment) (value : Nat) :
    roundUp alignment value < value + alignment := by
  have bounded := Nat.div_mul_le_self (value + alignment - 1) alignment
  unfold roundUp
  omega

theorem dvd_roundUp (alignment value : Nat) : alignment ∣ roundUp alignment value :=
  Nat.dvd_mul_left _ _

theorem roundUp_eq_self_iff (positive : 0 < alignment) {value : Nat} :
    roundUp alignment value = value ↔ alignment ∣ value := by
  constructor
  · intro equal
    rw [← equal]
    exact dvd_roundUp alignment value
  · rintro ⟨factor, rfl⟩
    have quotient : (alignment * factor + alignment - 1) / alignment = factor := by
      rw [Nat.div_eq_iff positive, Nat.mul_comm]
      omega
    rw [roundUp, quotient, Nat.mul_comm]

@[simp] theorem roundUp_zero (positive : 0 < alignment) : roundUp alignment 0 = 0 :=
  (roundUp_eq_self_iff positive).2 (Nat.dvd_zero alignment)

def gap (alignment value : Nat) : Nat :=
  (alignment - value % alignment) % alignment

theorem add_missing_eq_roundUp (positive : 0 < alignment) (value : Nat) :
    (if value % alignment = 0 then value
      else value + (alignment - value % alignment)) =
      roundUp alignment value := by
  have division := Nat.div_add_mod value alignment
  have remainder := Nat.mod_lt value positive
  split
  next exact =>
    exact ((roundUp_eq_self_iff positive).2 (Nat.dvd_of_mod_eq_zero exact)).symm
  · have quotient :
        (value + alignment - 1) / alignment = value / alignment + 1 := by
      rw [Nat.div_eq_iff positive, Nat.add_mul, Nat.one_mul]
      have commuted := Nat.mul_comm alignment (value / alignment)
      omega
    rw [roundUp, quotient, Nat.add_mul, Nat.one_mul]
    have commuted := Nat.mul_comm alignment (value / alignment)
    omega

theorem roundUp_eq_add_gap (positive : 0 < alignment) (value : Nat) :
    roundUp alignment value = value + gap alignment value := by
  have remainder := Nat.mod_lt value positive
  rw [← add_missing_eq_roundUp positive value, gap]
  split
  next exact => rw [exact, Nat.sub_zero, Nat.mod_self, Nat.add_zero]
  · have small : alignment - value % alignment < alignment := by omega
    rw [Nat.mod_eq_of_lt small]

/-- Masking with the complement of `2 ^ bits - 1` clears the low bits. -/
theorem and_complement_eq (bits word value : Nat) (fits : bits ≤ word)
    (bounded : value < 2 ^ word) :
    value &&& (2 ^ word - 1 - (2 ^ bits - 1)) = value / 2 ^ bits * 2 ^ bits := by
  have smaller : 2 ^ bits - 1 < 2 ^ word := by
    have powers := Nat.pow_le_pow_right (n := 2) (by decide) fits
    have positive := Nat.two_pow_pos bits
    omega
  have mask : 2 ^ word - 1 - (2 ^ bits - 1) = 2 ^ word - (2 ^ bits - 1 + 1) := by
    omega
  rw [mask, ← Nat.shiftRight_eq_div_pow, ← Nat.shiftLeft_eq]
  apply Nat.eq_of_testBit_eq
  intro index
  rw [Nat.testBit_and, Nat.testBit_two_pow_sub_succ smaller,
    Nat.testBit_two_pow_sub_one, Nat.testBit_shiftLeft,
    Nat.testBit_shiftRight]
  by_cases low : index < bits
  · simp [low]
  · have high : bits ≤ index := by omega
    by_cases inside : index < word
    · simp [low, high, inside]
    · have cleared : value.testBit index = false :=
        Nat.testBit_lt_two_pow (lt_of_lt_of_le bounded
          (Nat.pow_le_pow_right (by decide) (by omega)))
      simp [low, high, inside, cleared]

/-- The masking idiom on a 64-bit word, whose sum may wrap. -/
theorem toNat_mask (value alignment : UInt64) {bits : Nat} (power : alignment.toNat = 2 ^ bits) :
    ((value + alignment - 1) &&& ~~~(alignment - 1)).toNat =
      (value.toNat + 2 ^ bits - 1) % 2 ^ 64 / 2 ^ bits * 2 ^ bits := by
  have bounded := alignment.toNat_lt
  have value_bounded := value.toNat_lt
  rw [power] at bounded
  have positive := Nat.two_pow_pos bits
  have fits : bits ≤ 64 :=
    Nat.le_of_lt ((Nat.pow_lt_pow_iff_right Nat.one_lt_two).mp bounded)
  have one : (1 : UInt64).toNat = 1 := rfl
  have mask : (alignment - 1).toNat = 2 ^ bits - 1 := by
    rw [UInt64.toNat_sub, one, power]
    omega
  have sum : (value + alignment - 1).toNat = (value.toNat + 2 ^ bits - 1) % 2 ^ 64 := by
    rw [UInt64.toNat_sub, UInt64.toNat_add, one, power]
    omega
  rw [UInt64.toNat_and, UInt64.toNat_not, mask, sum]
  exact and_complement_eq bits 64 _ fits (Nat.mod_lt _ (by decide))

theorem toNat_mask_roundUp (value alignment : UInt64) {bits : Nat}
    (power : alignment.toNat = 2 ^ bits)
    (noWrap : value.toNat + 2 ^ bits ≤ 2 ^ 64) :
    ((value + alignment - 1) &&& ~~~(alignment - 1)).toNat = roundUp (2 ^ bits) value.toNat := by
  have positive := Nat.two_pow_pos bits
  rw [toNat_mask value alignment power, roundUp, Nat.mod_eq_of_lt (by omega)]

/-- A sum that wraps leaves less than the alignment, which is cleared. -/
theorem toNat_mask_wrapped (value alignment : UInt64) {bits : Nat}
    (power : alignment.toNat = 2 ^ bits)
    (wraps : 2 ^ 64 < value.toNat + 2 ^ bits) :
    ((value + alignment - 1) &&& ~~~(alignment - 1)).toNat = 0 := by
  have bounded := alignment.toNat_lt
  have value_bounded := value.toNat_lt
  rw [power] at bounded
  have small : (value.toNat + 2 ^ bits - 1) % 2 ^ 64 < 2 ^ bits := by
    omega
  rw [toNat_mask value alignment power, Nat.div_eq_of_lt small, Nat.zero_mul]

end Rounding
