import Mathlib.Data.List.Basic
import Mathlib.Data.UInt

/-!
# Length-prefixed units in a byte string

A unit is written as its length, two bytes with the more significant one
first, and its bytes.  A reader goes through the units of a byte string by
offset.  It refuses a string that ends too early; an index or a range outside
the string stops it in another way, so that a reader which never does that can
be told from one that is only refused.

Reading is related to writing in both directions: what is read was written at
that place, and what was written there is read.
-/

namespace LengthPrefixed

open List

/-- Why a reader stops. -/
inductive Stop
  | refused
  | outOfRange
  deriving DecidableEq, Repr

def byteAt (bytes : List UInt8) (index : Nat) : Except Stop UInt8 :=
  match bytes[index]? with
  | none => .error .outOfRange
  | some byte => .ok byte

def slice (bytes : List UInt8) (start stop : Nat) :
    Except Stop (List UInt8) :=
  if start ≤ stop ∧ stop ≤ bytes.length then
    .ok ((bytes.drop start).take (stop - start))
  else .error .outOfRange

def bigEndian (high low : UInt8) : Nat :=
  high.toNat * 256 + low.toNat

/-- Where the unit at an offset starts, and its length. -/
def enterUnit (bytes : List UInt8) (offset : Nat) :
    Except Stop (Nat × Nat) := do
  if offset + 2 > bytes.length then
    throw .refused
  let high ← byteAt bytes offset
  let low ← byteAt bytes (offset + 1)
  let length := bigEndian high low
  if offset + 2 + length > bytes.length then
    throw .refused
  return (offset + 2, length)

/-- The first of `count` units, unless there is one already, and the offset
behind them all. -/
def firstUnit (bytes : List UInt8) :
    Nat → Nat → Option (List UInt8) → Except Stop (Option (List UInt8) × Nat)
  | 0, offset, first => .ok (first, offset)
  | count + 1, offset, first => do
      let (start, length) ← enterUnit bytes offset
      let first ←
        match first with
        | some unit => pure (some unit)
        | none => (slice bytes start (start + length)).map some
      firstUnit bytes count (start + length) first

section Readers

variable {State Item : Type}

def takeUnit (bytes : List UInt8) (step : State → List UInt8 → State)
    (state : State) (offset : Nat) : Except Stop (State × Nat) := do
  let (start, length) ← enterUnit bytes offset
  let unit ← slice bytes start (start + length)
  return (step state unit, start + length)

/-- `count` items, one after the other. -/
def repeated (read : State → Nat → Except Stop (State × Nat)) :
    Nat → State → Nat → Except Stop (State × Nat)
  | 0, state, offset => .ok (state, offset)
  | count + 1, state, offset => do
      let (state, offset) ← read state offset
      repeated read count state offset

/-- A reader is exact if it takes the item that is written at an offset, takes
nothing else, and stays inside the bytes. -/
structure Exact (bytes : List UInt8) (encode : Item → List UInt8)
    (Valid : Item → Prop) (step : State → Item → State)
    (read : State → Nat → Except Stop (State × Nat)) : Prop where
  written : ∀ {item state offset rest}, Valid item →
    bytes.drop offset = encode item ++ rest → read state offset =
        .ok (step state item, offset + (encode item).length)
  sound : ∀ {state offset result}, read state offset = .ok result →
    ∃ item rest, Valid item ∧ bytes.drop offset = encode item ++ rest
  inside : ∀ {state offset}, read state offset ≠ .error .outOfRange

end Readers

/-! ## Writing -/

def encodeUnit (unit : List UInt8) : List UInt8 :=
  UInt8.ofNat (unit.length / 256) :: UInt8.ofNat unit.length :: unit

def encodeUnits (units : List (List UInt8)) : List UInt8 :=
  units.flatMap encodeUnit

/-- The lengths of the units fit into two bytes. -/
def Short (units : List (List UInt8)) : Prop :=
  ∀ unit ∈ units, unit.length < 2 ^ 16

instance (units : List (List UInt8)) : Decidable (Short units) :=
  inferInstanceAs (Decidable (∀ unit ∈ units, unit.length < 2 ^ 16))

theorem length_encodeUnit (unit : List UInt8) : (encodeUnit unit).length = unit.length + 2 :=
  rfl

theorem bigEndian_lt (high low : UInt8) : bigEndian high low < 2 ^ 16 := by
  have high_small := high.toNat_lt
  have low_small := low.toNat_lt
  unfold bigEndian
  omega

theorem bigEndian_ofNat {length : Nat} (small : length < 2 ^ 16) :
    bigEndian (UInt8.ofNat (length / 256)) (UInt8.ofNat length) = length := by
  unfold bigEndian
  rw [UInt8.toNat_ofNat', UInt8.toNat_ofNat']
  omega

theorem ofNat_bigEndian (high low : UInt8) :
    UInt8.ofNat (bigEndian high low / 256) = high ∧ UInt8.ofNat (bigEndian high low) = low := by
  have high_small := high.toNat_lt
  have low_small := low.toNat_lt
  constructor
  · apply UInt8.toNat_inj.mp
    rw [UInt8.toNat_ofNat', bigEndian]
    omega
  · apply UInt8.toNat_inj.mp
    rw [UInt8.toNat_ofNat', bigEndian]
    omega

theorem encodeUnit_of_length {high low : UInt8} {unit : List UInt8}
    (length : unit.length = bigEndian high low) :
    encodeUnit unit = high :: low :: unit := by
  obtain ⟨high_same, low_same⟩ := ofNat_bigEndian high low
  rw [encodeUnit, length, high_same, low_same]

/-! ## Reading a unit -/

section Unit

variable {bytes unit rest : List UInt8} {offset : Nat}

theorem byteAt_eq_ok {index : Nat} {byte : UInt8} :
    byteAt bytes index = .ok byte ↔ bytes[index]? = some byte := by
  unfold byteAt
  split
  next missing =>
    rw [missing]
    exact ⟨nofun, nofun⟩
  next found =>
    rw [found]
    exact ⟨fun same => by cases same; rfl, fun same => by cases same; rfl⟩

theorem byteAt_inside {index : Nat} (inside : index < bytes.length) :
    byteAt bytes index = .ok bytes[index] :=
  byteAt_eq_ok.mpr (getElem?_eq_getElem inside)

theorem getElem?_of_drop {front : List UInt8}
    (written : bytes.drop offset = front ++ rest) (index : Nat)
    (inside : index < front.length) :
    bytes[offset + index]? = front[index]? := by
  rw [← getElem?_drop, written, getElem?_append_left inside]

theorem length_of_drop {front : List UInt8} (written : bytes.drop offset = front ++ rest)
    (some_front : 0 < front.length) :
    bytes.length = offset + front.length + rest.length := by
  have length := congrArg length written
  rw [length_drop, length_append] at length
  omega

theorem drop_of_drop {front : List UInt8} (written : bytes.drop offset = front ++ rest) :
    bytes.drop (offset + front.length) = rest := by
  rw [← drop_drop, written, drop_left]

theorem enterUnit_of_inside (inside : offset + 2 ≤ bytes.length) :
    enterUnit bytes offset =
      if offset + 2 + bigEndian bytes[offset] bytes[offset + 1] > bytes.length then .error .refused
      else .ok (offset + 2, bigEndian bytes[offset] bytes[offset + 1]) := by
  have enough : ¬ offset + 2 > bytes.length := by omega
  have high : byteAt bytes offset = .ok bytes[offset] :=
    byteAt_inside (by omega)
  have low : byteAt bytes (offset + 1) = .ok bytes[offset + 1] :=
    byteAt_inside (by omega)
  simp only [enterUnit, enough, if_false, high, low, bind, Except.bind, pure,
    Except.pure, throw, throwThe, MonadExceptOf.throw]

theorem enterUnit_of_outside (outside : ¬ offset + 2 ≤ bytes.length) :
    enterUnit bytes offset = .error .refused := by
  have short : offset + 2 > bytes.length := by omega
  simp only [enterUnit, short, if_true, bind, Except.bind, throw, throwThe, MonadExceptOf.throw]

theorem enterUnit_written (short : unit.length < 2 ^ 16)
    (written : bytes.drop offset = encodeUnit unit ++ rest) :
    enterUnit bytes offset = .ok (offset + 2, unit.length) := by
  have some_bytes : 2 ≤ (encodeUnit unit).length := by
    rw [length_encodeUnit]
    omega
  have length := length_of_drop written (by omega)
  rw [length_encodeUnit] at length
  have high := getElem?_of_drop written 0 (by omega)
  have low := getElem?_of_drop written 1 (by omega)
  rw [Nat.add_zero, getElem?_eq_getElem (by omega)] at high
  rw [getElem?_eq_getElem (by omega)] at low
  rw [enterUnit_of_inside (by omega), Option.some.inj high,
    Option.some.inj low, bigEndian_ofNat short, if_neg (by omega)]

theorem enterUnit_sound {start length : Nat}
    (entered : enterUnit bytes offset = .ok (start, length)) :
    start = offset + 2 ∧ ∃ unit rest, unit.length = length ∧
      length < 2 ^ 16 ∧ bytes.drop offset = encodeUnit unit ++ rest := by
  by_cases inside : offset + 2 ≤ bytes.length
  · rw [enterUnit_of_inside inside] at entered
    split at entered
    · cases entered
    next whole =>
      obtain ⟨rfl, rfl⟩ := Prod.mk.inj (Except.ok.inj entered)
      have unit_length : ((bytes.drop (offset + 2)).take
          (bigEndian bytes[offset] bytes[offset + 1])).length =
            bigEndian bytes[offset] bytes[offset + 1] := by
        rw [length_take, length_drop]
        omega
      refine ⟨rfl, _, (bytes.drop (offset + 2)).drop
        (bigEndian bytes[offset] bytes[offset + 1]), unit_length,
        bigEndian_lt _ _, ?_⟩
      rw [encodeUnit_of_length unit_length, cons_append,
        cons_append, take_append_drop,
        drop_eq_getElem_cons (by omega),
        drop_eq_getElem_cons (by omega)]
  · rw [enterUnit_of_outside inside] at entered
    cases entered

theorem enterUnit_inside : enterUnit bytes offset ≠ .error .outOfRange := by
  by_cases inside : offset + 2 ≤ bytes.length
  · rw [enterUnit_of_inside inside]
    split
    · exact nofun
    · exact nofun
  · rw [enterUnit_of_outside inside]
    exact nofun

theorem slice_written (written : bytes.drop offset = encodeUnit unit ++ rest) :
    slice bytes (offset + 2) (offset + 2 + unit.length) = .ok unit := by
  have length := length_of_drop written (by rw [length_encodeUnit]; omega)
  rw [length_encodeUnit] at length
  have tail : bytes.drop (offset + 2) = unit ++ rest := by
    rw [← drop_drop, written]
    rfl
  rw [slice, if_pos (by omega), tail, Nat.add_sub_cancel_left, take_left]

end Unit

/-! ## Reading many items -/

section Items

variable {State Item : Type} {bytes : List UInt8}

theorem takeUnit_exact (bytes : List UInt8) (step : State → List UInt8 → State) :
    Exact bytes encodeUnit (fun unit => unit.length < 2 ^ 16) step (takeUnit bytes step) where
  written {unit state offset rest} short written := by
    simp only [takeUnit, enterUnit_written short written,
      slice_written written, bind, Except.bind, pure, Except.pure,
      length_encodeUnit]
    rw [Nat.add_assoc, Nat.add_comm 2]
  sound {state offset result} taken := by
    cases entered : enterUnit bytes offset with
    | error stop => simp [takeUnit, entered, bind, Except.bind] at taken
    | ok unit_at =>
      obtain ⟨-, unit, rest, unit_length, small, written⟩ :=
        enterUnit_sound entered
      exact ⟨unit, rest, unit_length ▸ small, written⟩
  inside {state offset} failed := by
    cases entered : enterUnit bytes offset with
    | error stop =>
      simp only [takeUnit, entered, bind, Except.bind] at failed
      rw [Except.error.inj failed] at entered
      exact enterUnit_inside entered
    | ok unit_at =>
      obtain ⟨start, length⟩ := unit_at
      obtain ⟨rfl, unit, rest, rfl, -, written⟩ := enterUnit_sound entered
      simp [takeUnit, entered, slice_written written, bind, Except.bind,
        pure, Except.pure] at failed

/-- Reading an item again and again is exact for the items in a row. -/
theorem Exact.repeated {encode : Item → List UInt8} {Valid : Item → Prop}
    {step : State → Item → State}
    {read : State → Nat → Except Stop (State × Nat)}
    (exact : Exact bytes encode Valid step read) (count : Nat) :
    Exact bytes (fun items : List Item => items.flatMap encode)
      (fun items => items.length = count ∧ ∀ item ∈ items, Valid item)
      (foldl step) (LengthPrefixed.repeated read count) where
  written {items state offset rest} valid written := by
    obtain ⟨rfl, valid⟩ := valid
    induction items generalizing state offset with
    | nil => rfl
    | cons item items induction =>
      rw [flatMap_cons, append_assoc] at written
      simp only [length_cons, LengthPrefixed.repeated,
        exact.written (valid item mem_cons_self) written, bind,
        Except.bind]
      rw [induction (drop_of_drop written) fun other listed =>
        valid other (mem_cons_of_mem _ listed), flatMap_cons,
        length_append, Nat.add_assoc]
      rfl
  sound {state offset result} passed := by
    induction count generalizing state offset with
    | zero => exact ⟨[], bytes.drop offset, ⟨rfl, nofun⟩, rfl⟩
    | succ count induction =>
      cases taken : read state offset with
      | error stop => simp [LengthPrefixed.repeated, taken, bind, Except.bind] at passed
      | ok next =>
        obtain ⟨item, rest, valid, written⟩ := exact.sound taken
        rw [exact.written valid written] at taken
        obtain rfl := Except.ok.inj taken
        simp only [LengthPrefixed.repeated, exact.written valid written, bind,
          Except.bind] at passed
        obtain ⟨items, last, ⟨rfl, all_valid⟩, rest_written⟩ :=
          induction passed
        refine ⟨item :: items, last, ⟨rfl, ?_⟩, ?_⟩
        · exact forall_mem_cons.mpr ⟨valid, all_valid⟩
        · rw [written, flatMap_cons, append_assoc, ← rest_written, drop_of_drop written]
  inside {state offset} failed := by
    induction count generalizing state offset with
    | zero => cases failed
    | succ count induction =>
      cases taken : read state offset with
      | error stop =>
        simp only [LengthPrefixed.repeated, taken, bind, Except.bind] at failed
        rw [Except.error.inj failed] at taken
        exact exact.inside taken
      | ok next =>
        simp only [LengthPrefixed.repeated, taken, bind, Except.bind] at failed
        exact induction failed

end Items

/-! ## The first of many units -/

section Units

variable {bytes rest : List UInt8} {units : List (List UInt8)}
variable {count offset : Nat} {first : Option (List UInt8)}

def keepFirst (first : Option (List UInt8)) (unit : List UInt8) :
    Option (List UInt8) :=
  first.or (some unit)

theorem foldl_keepFirst (units : List (List UInt8)) (first : Option (List UInt8)) :
    units.foldl keepFirst first = first.or units.head? := by
  induction units generalizing first with
  | nil => simp
  | cons unit units induction =>
    rw [foldl_cons, induction, keepFirst, Option.or_assoc]
    rfl

theorem firstUnit_eq :
    firstUnit bytes count offset first =
      repeated (takeUnit bytes keepFirst) count first offset := by
  induction count generalizing offset first with
  | zero => rfl
  | succ count induction =>
    cases entered : enterUnit bytes offset with
    | error stop => simp only [firstUnit, repeated, takeUnit, entered, bind, Except.bind]
    | ok unit_at =>
      obtain ⟨start, length⟩ := unit_at
      obtain ⟨rfl, unit, rest, rfl, -, written⟩ := enterUnit_sound entered
      cases first with
      | _ =>
        simp only [firstUnit, repeated, takeUnit, entered, bind, Except.bind,
          pure, Except.pure, Except.map, slice_written written, induction]
        rfl

theorem firstUnit_exact (bytes : List UInt8) (count : Nat) :
    Exact bytes encodeUnits (fun units => units.length = count ∧ Short units) (foldl keepFirst)
      (fun first offset => firstUnit bytes count offset first) := by
  simp only [firstUnit_eq]
  exact (takeUnit_exact bytes keepFirst).repeated count

theorem firstUnit_written (short : Short units)
    (written : bytes.drop offset = encodeUnits units ++ rest) :
    firstUnit bytes units.length offset first =
      .ok (first.or units.head?, offset + (encodeUnits units).length) := by
  rw [← foldl_keepFirst]
  exact (firstUnit_exact bytes units.length).written ⟨rfl, short⟩ written

theorem firstUnit_sound {found : Option (List UInt8)} {after : Nat}
    (passed : firstUnit bytes count offset first = .ok (found, after)) :
    ∃ units rest, units.length = count ∧ Short units ∧
      bytes.drop offset = encodeUnits units ++ rest ∧
      found = first.or units.head? ∧
      after = offset + (encodeUnits units).length := by
  obtain ⟨units, rest, ⟨rfl, short⟩, written⟩ :=
    (firstUnit_exact bytes count).sound passed
  rw [firstUnit_written short written] at passed
  obtain ⟨rfl, rfl⟩ := Prod.mk.inj (Except.ok.inj passed)
  exact ⟨units, rest, rfl, short, written, rfl, rfl⟩

theorem firstUnit_inside : firstUnit bytes count offset first ≠ .error .outOfRange :=
  (firstUnit_exact bytes count).inside

end Units

end LengthPrefixed
