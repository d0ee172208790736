import Mathlib.Data.UInt

/-!
# Little-endian words in byte strings

Unsigned words of any byte width, written least significant byte first, and
the word found at an offset of a byte string.  The two `word` rules let the
fields of a concatenation be read off one after the other.
-/

namespace LittleEndian

open List

/-- The `width` low bytes of `value`, least significant first. -/
def encode : Nat → Nat → List UInt8
  | 0, _ => []
  | width + 1, value => UInt8.ofNat value :: encode width (value / 256)

/-- The number a byte string denotes, least significant byte first. -/
def decode : List UInt8 → Nat
  | [] => 0
  | byte :: rest => byte.toNat + 256 * decode rest

/-- The word of `width` bytes at `offset`. -/
def word (bytes : List UInt8) (offset width : Nat) : Nat :=
  decode ((bytes.drop offset).take width)

@[simp] theorem length_encode (width value : Nat) : (encode width value).length = width := by
  induction width generalizing value with
  | zero => rfl
  | succ width induction => simp [encode, induction]

theorem decode_encode (width value : Nat) : decode (encode width value) = value % 256 ^ width := by
  induction width generalizing value with
  | zero => simp [encode, decode, Nat.mod_one]
  | succ width induction =>
    have split := Nat.mod_mul (a := 256) (b := 256 ^ width) (x := value)
    rw [encode, decode, induction, UInt8.toNat_ofNat', pow_succ' 256 width, split]

@[simp] theorem word_encode_append (width value : Nat) (rest : List UInt8) :
    word (encode width value ++ rest) 0 width = value % 256 ^ width := by
  simp [word, decode_encode]

theorem word_skip {width offset : Nat} (value wanted : Nat)
    (rest : List UInt8) (beyond : width ≤ offset) :
    word (encode width value ++ rest) offset wanted = word rest (offset - width) wanted := by
  have dropped : (encode width value).drop offset = [] := by
    rw [drop_eq_nil_iff]
    simpa using beyond
  simp [word, drop_append, dropped]

/-! Words of the machine's widths. -/

def u16At (bytes : List UInt8) (offset : Nat) : UInt16 :=
  UInt16.ofNat (word bytes offset 2)

def u32At (bytes : List UInt8) (offset : Nat) : UInt32 :=
  UInt32.ofNat (word bytes offset 4)

def u64At (bytes : List UInt8) (offset : Nat) : UInt64 :=
  UInt64.ofNat (word bytes offset 8)

def i32At (bytes : List UInt8) (offset : Nat) : Int32 :=
  (u32At bytes offset).toInt32

def i64At (bytes : List UInt8) (offset : Nat) : Int64 :=
  (u64At bytes offset).toInt64

def u16Bytes (value : UInt16) : List UInt8 :=
  encode 2 value.toNat

def u32Bytes (value : UInt32) : List UInt8 :=
  encode 4 value.toNat

def u64Bytes (value : UInt64) : List UInt8 :=
  encode 8 value.toNat

def i32Bytes (value : Int32) : List UInt8 :=
  u32Bytes value.toUInt32

def i64Bytes (value : Int64) : List UInt8 :=
  u64Bytes value.toUInt64

@[simp] theorem u32At_append (value : UInt32) (rest : List UInt8) :
    u32At (u32Bytes value ++ rest) 0 = value := by
  rw [u32At, u32Bytes, word_encode_append, Nat.mod_eq_of_lt (by exact value.toNat_lt)]
  exact UInt32.ofNat_toNat

@[simp] theorem u64At_append (value : UInt64) (rest : List UInt8) :
    u64At (u64Bytes value ++ rest) 0 = value := by
  rw [u64At, u64Bytes, word_encode_append, Nat.mod_eq_of_lt (by exact value.toNat_lt)]
  exact UInt64.ofNat_toNat

theorem word_drop (bytes : List UInt8) (skipped offset width : Nat) :
    word (bytes.drop skipped) offset width =
      word bytes (skipped + offset) width := by
  rw [word, word, drop_drop]

theorem drop_records {Record : Type*} {size : Nat} {bytes : Record → List UInt8}
    (sized : ∀ record, (bytes record).length = size)
    (records : List Record) (rest : List UInt8) (index : Nat)
    (inside : index < records.length) :
    ∃ later, (records.flatMap bytes ++ rest).drop (index * size) =
      bytes records[index] ++ later := by
  induction records generalizing index with
  | nil => exact absurd inside (Nat.not_lt_zero index)
  | cons record records induction =>
    rw [flatMap_cons, append_assoc]
    cases index with
    | zero =>
      refine ⟨records.flatMap bytes ++ rest, ?_⟩
      rw [Nat.zero_mul]
      rfl
    | succ index =>
      obtain ⟨later, found⟩ := induction index (Nat.lt_of_succ_lt_succ inside)
      refine ⟨later, ?_⟩
      rw [Nat.succ_mul, Nat.add_comm, ← drop_drop, ← sized record, drop_left, sized record]
      exact found

theorem word_append_right (front bytes : List UInt8) (offset width : Nat) :
    word (front ++ bytes) (front.length + offset) width =
      word bytes offset width := by
  rw [word, word, ← drop_drop, drop_left]

theorem u32At_table (front : List UInt8) (words : List UInt32) (rest : List UInt8) :
    (range words.length).map (fun index =>
      u32At (front ++ (words.flatMap u32Bytes ++ rest)) (front.length + index * 4)) = words := by
  apply ext_getElem
  · simp
  · intro index _ inside
    obtain ⟨later, found⟩ := drop_records
      (fun value => length_encode 4 (UInt32.toNat value)) words rest index
      inside
    have read := word_drop (words.flatMap u32Bytes ++ rest) (index * 4) 0 4
    rw [getElem_map, getElem_range, u32At, word_append_right, ← Nat.add_zero (index * 4), ← read]
    have dropped : (words.flatMap u32Bytes ++ rest).drop (index * 4) =
        u32Bytes words[index] ++ later := found
    rw [dropped]
    exact u32At_append words[index] later

end LittleEndian
