import Mathlib.Data.List.SplitLengths
import Mathlib.Algebra.Order.BigOperators.Group.List
import Mathlib.Algebra.Order.Ring.Nat

/-!
# Pieces behind a table of their sizes

Pieces of varying size travel as one string, with their sizes in a table
beside it.  Cutting the string by the table gives the pieces back, and a cut
that goes by offsets stays inside the string as long as the sizes in the table
add up to no more than there is.

Where the string has a limited length, a sender packs the pieces that fit:
the longest initial part of the list within the budget.
-/

namespace SizeTable

open List

variable {α : Type*}

/-- The pieces between successive offsets, or `none` if one of them reaches
beyond the end of the string. -/
def slices (data : List α) : List Nat → Nat → Option (List (List α))
  | [], _ => some []
  | size :: sizes, offset =>
    if offset + size ≤ data.length then
      (slices data sizes (offset + size)).map ((data.drop offset).take size :: ·)
    else none

/-- The longest initial part of the pieces that fits a budget. -/
def within : Nat → List (List α) → List (List α)
  | _, [] => []
  | budget, piece :: pieces =>
    if piece.length ≤ budget then
      piece :: within (budget - piece.length) pieces
    else []

def sizes (pieces : List (List α)) : List Nat :=
  pieces.map length

@[simp] theorem sizes_nil : sizes ([] : List (List α)) = [] :=
  rfl

@[simp] theorem sizes_cons (piece : List α) (pieces : List (List α)) :
    sizes (piece :: pieces) = piece.length :: sizes pieces :=
  rfl

theorem sum_sizes (pieces : List (List α)) : (sizes pieces).sum = pieces.flatten.length :=
  length_flatten.symm

theorem length_le_sum {piece : List α} {pieces : List (List α)}
    (member : piece ∈ pieces) : piece.length ≤ (sizes pieces).sum :=
  le_sum_of_mem (mem_map_of_mem member)

theorem splitLengths_flatten (pieces : List (List α)) (rest : List α) :
    (sizes pieces).splitLengths (pieces.flatten ++ rest) = pieces := by
  induction pieces with
  | nil => rfl
  | cons piece pieces induction =>
    rw [sizes_cons, splitLengths_cons, flatten_cons, append_assoc, take_left, drop_left, induction]

/-- Sizes that add up to no more than there is keep every slice inside. -/
theorem slices_eq_some {data : List α} {sizes : List Nat} {offset : Nat}
    (inside : offset + sizes.sum ≤ data.length) :
    slices data sizes offset = some (sizes.splitLengths (data.drop offset)) := by
  induction sizes generalizing offset with
  | nil => rfl
  | cons size sizes induction =>
    rw [sum_cons] at inside
    have fits : offset + size ≤ data.length := by omega
    rw [slices, if_pos fits, induction (by omega), Option.map_some, splitLengths_cons, drop_drop]

/-! ## Packing within a budget -/

theorem within_isPrefix (budget : Nat) (pieces : List (List α)) :
    within budget pieces <+: pieces := by
  induction pieces generalizing budget with
  | nil => exact prefix_rfl
  | cons piece pieces induction =>
    rw [within]
    split
    · exact cons_prefix_cons.mpr ⟨rfl, induction _⟩
    · exact nil_prefix

theorem sum_within_le (budget : Nat) (pieces : List (List α)) :
    (sizes (within budget pieces)).sum ≤ budget := by
  induction pieces generalizing budget with
  | nil => exact Nat.zero_le _
  | cons piece pieces induction =>
    rw [within]
    split
    · have rest := induction (budget - piece.length)
      rw [sizes_cons, sum_cons]
      omega
    · exact Nat.zero_le _

theorem within_eq_self {budget : Nat} {pieces : List (List α)} :
    within budget pieces = pieces ↔ (sizes pieces).sum ≤ budget := by
  induction pieces generalizing budget with
  | nil => simp [within]
  | cons piece pieces induction =>
    rw [within, sizes_cons, sum_cons]
    split
    next fits =>
      rw [cons_inj_right, induction]
      omega
    next large =>
      constructor
      · exact nofun
      · omega

theorem within_eq_nil {budget : Nat} {pieces : List (List α)} :
    within budget pieces = [] ↔ ∀ piece, pieces.head? = some piece → budget < piece.length := by
  cases pieces with
  | nil => simp [within]
  | cons piece pieces =>
    rw [within, head?_cons]
    split
    next fits =>
      refine ⟨nofun, fun large => ?_⟩
      exact absurd (large piece rfl) (by omega)
    next large =>
      refine ⟨fun _ other found => ?_, fun _ => rfl⟩
      cases found
      omega

end SizeTable
