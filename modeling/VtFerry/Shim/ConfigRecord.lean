import VtFerry.Foundation.LengthPrefixed

/-!
# Configuration records

`CMVideoFormatDescriptionCreate` finds the parameter sets of an H.264 stream
in an AVCC record: a head of six bytes, then the sequence parameter sets, a
count, and the picture parameter sets, each with its length before it.
`vtf_parse_avcc_config_record` walks such a record by offset and keeps the
first set of each kind.  It is exact: it answers with the first sets of the
record at the start of the bytes, if there is one, and refuses otherwise.

The HVCC record of an HEVC stream has a head of 23 bytes and then arrays, each
with a type, a count and as many units.  `vtf_parse_hvcc_config_record` walks
all of them and keeps the first video, sequence and picture parameter set; it
is exact in the same sense.
-/

namespace VtFerry

open LengthPrefixed List

namespace Shim

/-- The two loops of `vtf_parse_avcc_config_record`, behind the head. -/
def avccParameterSets (bytes : List UInt8) (numSps : Nat) :
    Except Stop (List (List UInt8)) := do
  let (sps, offset) ← firstUnit bytes numSps 6 none
  if offset ≥ bytes.length then
    throw .refused
  let numPps ← byteAt bytes offset
  if numPps.toNat = 0 then
    throw .refused
  let (pps, _) ← firstUnit bytes numPps.toNat (offset + 1) none
  match sps, pps with
  | some sps, some pps => return [sps, pps]
  | _, _ => throw .refused

def vtfParseAvccConfigRecord (bytes : List UInt8) :
    Except Stop (List (List UInt8) × Int32) := do
  if bytes.length < 7 then
    throw .refused
  let version ← byteAt bytes 0
  if version ≠ 1 then
    throw .refused
  let lengthByte ← byteAt bytes 4
  let lengthSize := (lengthByte &&& 0x03) + 1
  let countByte ← byteAt bytes 5
  let numSps := (countByte &&& 0x1F).toNat
  if numSps = 0 then
    throw .refused
  let sets ← avccParameterSets bytes numSps
  return (sets, Int32.ofNat lengthSize.toNat)

/-- A well-formed record.  The reserved bits of the two bytes with bit fields
are free. -/
structure AvccRecord where
  profile : UInt8
  compatibility : UInt8
  level : UInt8
  lengthByte : UInt8
  countByte : UInt8
  sps : List (List UInt8)
  pps : List (List UInt8)
  sps_count : (countByte &&& 0x1F).toNat = sps.length
  pps_count : pps.length < 256
  some_sps : sps ≠ []
  some_pps : pps ≠ []
  sps_short : Short sps
  pps_short : Short pps

namespace AvccRecord

def head (record : AvccRecord) : List UInt8 :=
  [1, record.profile, record.compatibility, record.level, record.lengthByte, record.countByte]

def bytes (record : AvccRecord) : List UInt8 :=
  record.head ++ (encodeUnits record.sps ++
    (UInt8.ofNat record.pps.length :: encodeUnits record.pps))

/-- The first set of each kind, and the size of a length prefix. -/
def firstSets (record : AvccRecord) : List (List UInt8) × Int32 :=
  ([record.sps.head record.some_sps, record.pps.head record.some_pps],
    Int32.ofNat ((record.lengthByte &&& 0x03) + 1).toNat)

end AvccRecord

/-- A record as an encoder writes it, with the reserved bits set. -/
def serializeAvcc (profile compatibility level : UInt8)
    (lengthSizeMinusOne : Fin 4) (sps pps : List (List UInt8)) : List UInt8 :=
  [1, profile, compatibility, level, 0xFC ||| UInt8.ofNat lengthSizeMinusOne,
    0xE0 ||| UInt8.ofNat sps.length] ++
  (encodeUnits sps ++ (UInt8.ofNat pps.length :: encodeUnits pps))

/-! ## The sets behind the head -/

section Sets

variable {bytes rest : List UInt8} {sps pps : List (List UInt8)}
variable {numSps offset : Nat}

theorem avccParameterSets_of_passed {found : Option (List UInt8)}
    (passed : firstUnit bytes numSps 6 none = .ok (found, offset))
    (inside : offset < bytes.length) (some_pps : bytes[offset].toNat ≠ 0) :
    avccParameterSets bytes numSps =
      match firstUnit bytes bytes[offset].toNat (offset + 1) none with
      | .error stop => .error stop
      | .ok (pps, _) =>
        match found, pps with
        | some sps, some pps => .ok [sps, pps]
        | _, _ => .error .refused := by
  have enough : ¬ offset ≥ bytes.length := by omega
  simp only [avccParameterSets, passed, bind, Except.bind, enough, if_false,
    byteAt_inside inside, some_pps, pure, Except.pure]
  cases firstUnit bytes bytes[offset].toNat (offset + 1) none with
  | error stop => rfl
  | ok result => rfl

theorem avccParameterSets_refused {found : Option (List UInt8)}
    (passed : firstUnit bytes numSps 6 none = .ok (found, offset))
    (short : ∀ inside : offset < bytes.length, bytes[offset].toNat = 0) :
    avccParameterSets bytes numSps = .error .refused := by
  by_cases inside : offset < bytes.length
  · have enough : ¬ offset ≥ bytes.length := by omega
    simp only [avccParameterSets, passed, bind, Except.bind, enough, if_false,
      byteAt_inside inside, short inside, if_true, throw, throwThe,
      MonadExceptOf.throw]
  · have short : offset ≥ bytes.length := by omega
    simp only [avccParameterSets, passed, bind, Except.bind, short, if_true,
      throw, throwThe, MonadExceptOf.throw]

theorem avccParameterSets_written (written : bytes.drop 6 = encodeUnits sps ++
      (UInt8.ofNat pps.length :: (encodeUnits pps ++ rest)))
    (some_sps : sps ≠ []) (some_pps : pps ≠ []) (pps_count : pps.length < 256)
    (sps_short : Short sps) (pps_short : Short pps) :
    avccParameterSets bytes sps.length = .ok [sps.head some_sps, pps.head some_pps] := by
  have passed : firstUnit bytes sps.length 6 none = .ok (some
      (sps.head some_sps), 6 + (encodeUnits sps).length) := by
    rw [firstUnit_written sps_short written, Option.none_or, head?_eq_some_head some_sps]
  have behind : bytes.drop (6 + (encodeUnits sps).length) =
      [UInt8.ofNat pps.length] ++ (encodeUnits pps ++ rest) :=
    drop_of_drop written
  have length := length_of_drop behind Nat.one_pos
  rw [length_singleton] at length
  have inside : 6 + (encodeUnits sps).length < bytes.length := by omega
  have count : bytes[6 + (encodeUnits sps).length].toNat = pps.length := by
    have at_count := getElem?_of_drop behind 0 Nat.one_pos
    rw [Nat.add_zero, getElem?_eq_getElem inside] at at_count
    rw [Option.some.inj at_count]
    exact UInt8.toNat_ofNat_of_lt' pps_count
  have some_count : bytes[6 + (encodeUnits sps).length].toNat ≠ 0 := by
    rw [count]
    exact Nat.ne_of_gt (length_pos_of_ne_nil some_pps)
  have pps_written : bytes.drop (6 + (encodeUnits sps).length + 1) =
      encodeUnits pps ++ rest := drop_of_drop behind
  rw [avccParameterSets_of_passed passed inside some_count, count,
    firstUnit_written pps_short pps_written, Option.none_or,
    head?_eq_some_head some_pps]

theorem avccParameterSets_sound {sets : List (List UInt8)}
    (parsed : avccParameterSets bytes numSps = .ok sets) :
    ∃ sps pps rest, sps.length = numSps ∧ 0 < pps.length ∧
      pps.length < 256 ∧ Short sps ∧ Short pps ∧
      bytes.drop 6 = encodeUnits sps ++ (UInt8.ofNat pps.length :: (encodeUnits pps ++ rest)) := by
  cases passed : firstUnit bytes numSps 6 none with
  | error stop => simp [avccParameterSets, passed, bind, Except.bind] at parsed
  | ok result =>
    obtain ⟨found, offset⟩ := result
    by_cases counted : ∃ inside : offset < bytes.length, bytes[offset].toNat ≠ 0
    · obtain ⟨inside, some_pps⟩ := counted
      rw [avccParameterSets_of_passed passed inside some_pps] at parsed
      obtain ⟨sps, behind, sps_count, sps_short, sps_written, -, rfl⟩ :=
        firstUnit_sound passed
      cases pps_passed : firstUnit bytes bytes[6 + (encodeUnits sps).length].toNat
            (6 + (encodeUnits sps).length + 1) none with
      | error stop =>
        rw [pps_passed] at parsed
        cases parsed
      | ok pps_result =>
        obtain ⟨pps, rest, pps_count, pps_short, pps_written, -, -⟩ :=
          firstUnit_sound pps_passed
        have small := bytes[6 + (encodeUnits sps).length].toNat_lt
        refine ⟨sps, pps, rest, sps_count, by omega, by omega, sps_short, pps_short, ?_⟩
        rw [sps_written, ← pps_written, pps_count, UInt8.ofNat_toNat,
          ← drop_eq_getElem_cons inside, drop_of_drop sps_written]
    · rw [avccParameterSets_refused passed fun inside => by
        by_contra some_pps
        exact counted ⟨inside, some_pps⟩] at parsed
      cases parsed

theorem avccParameterSets_inside :
    avccParameterSets bytes numSps ≠ .error .outOfRange := by
  cases passed : firstUnit bytes numSps 6 none with
  | error stop =>
    intro failed
    simp only [avccParameterSets, passed, bind, Except.bind] at failed
    rw [Except.error.inj failed] at passed
    exact firstUnit_inside passed
  | ok result =>
    obtain ⟨found, offset⟩ := result
    by_cases counted : ∃ inside : offset < bytes.length, bytes[offset].toNat ≠ 0
    · obtain ⟨inside, some_pps⟩ := counted
      rw [avccParameterSets_of_passed passed inside some_pps]
      cases pps_passed : firstUnit bytes bytes[offset].toNat (offset + 1) none with
      | error stop =>
        intro failed
        rw [Except.error.inj failed] at pps_passed
        exact firstUnit_inside pps_passed
      | ok pps_result =>
        dsimp only
        split
        · exact nofun
        · exact nofun
    · rw [avccParameterSets_refused passed fun inside => by
        by_contra some_pps
        exact counted ⟨inside, some_pps⟩]
      exact nofun

end Sets

/-! ## Whole records -/

section Records

variable {bytes : List UInt8}

theorem vtfParseAvccConfigRecord_eq {version profile compatibility level
      lengthByte countByte : UInt8} {rest : List UInt8} (some_rest : rest ≠ []) :
    vtfParseAvccConfigRecord (version :: profile :: compatibility :: level ::
        lengthByte :: countByte :: rest) =
      if version ≠ 1 ∨ (countByte &&& 0x1F).toNat = 0 then .error .refused
      else (avccParameterSets (version :: profile :: compatibility :: level ::
        lengthByte :: countByte :: rest) (countByte &&& 0x1F).toNat).map fun sets => (sets,
            Int32.ofNat ((lengthByte &&& 0x03) + 1).toNat) := by
  have long : ¬ (version :: profile :: compatibility :: level ::
      lengthByte :: countByte :: rest).length < 7 := by
    have positive := length_pos_of_ne_nil some_rest
    simp only [length_cons]
    omega
  rw [vtfParseAvccConfigRecord, if_neg long]
  simp only [byteAt, getElem?_cons_zero, getElem?_cons_succ, bind,
    Except.bind, pure, Except.pure, Except.map, throw, throwThe,
    MonadExceptOf.throw]
  by_cases first : version = 1
  · by_cases none : (countByte &&& 0x1F).toNat = 0
    · rw [if_neg (not_not.mpr first), if_pos none, if_pos (.inr none)]
    · rw [if_neg (not_not.mpr first), if_neg none, if_neg (not_or.mpr ⟨not_not.mpr first, none⟩)]
  · rw [if_pos first, if_pos (.inl first)]

theorem vtfParseAvccConfigRecord_short (short : bytes.length < 7) :
    vtfParseAvccConfigRecord bytes = .error .refused := by
  simp only [vtfParseAvccConfigRecord, short, if_true, bind, Except.bind,
    throw, throwThe, MonadExceptOf.throw]

theorem exists_head (long : 7 ≤ bytes.length) :
    ∃ version profile compatibility level lengthByte countByte rest,
      rest ≠ [] ∧ bytes = version :: profile :: compatibility :: level ::
        lengthByte :: countByte :: rest := by
  match bytes, long with
  | version :: profile :: compatibility :: level :: lengthByte ::
      countByte :: next :: rest, _ =>
      exact ⟨version, profile, compatibility, level, lengthByte, countByte,
        next :: rest, cons_ne_nil _ _, rfl⟩

theorem AvccRecord.parsed (record : AvccRecord) (trailing : List UInt8) :
    vtfParseAvccConfigRecord (record.bytes ++ trailing) =
      .ok record.firstSets := by
  have bytes_eq : record.bytes ++ trailing = 1 :: record.profile ::
      record.compatibility :: record.level :: record.lengthByte ::
        record.countByte :: (encodeUnits record.sps ++ (UInt8.ofNat record.pps.length ::
            (encodeUnits record.pps ++ trailing))) := by
    simp [AvccRecord.bytes, AvccRecord.head]
  have some_count : (record.countByte &&& 0x1F).toNat ≠ 0 := by
    rw [record.sps_count]
    exact Nat.ne_of_gt (length_pos_of_ne_nil record.some_sps)
  rw [bytes_eq, vtfParseAvccConfigRecord_eq (by simp),
    if_neg (not_or.mpr ⟨not_not.mpr rfl, some_count⟩), record.sps_count,
    avccParameterSets_written rfl record.some_sps record.some_pps
      record.pps_count record.sps_short record.pps_short]
  rfl

theorem exists_avccRecord {result : List (List UInt8) × Int32}
    (parsed : vtfParseAvccConfigRecord bytes = .ok result) :
    ∃ (record : AvccRecord) (trailing : List UInt8), bytes = record.bytes ++ trailing := by
  by_cases long : 7 ≤ bytes.length
  · obtain ⟨version, profile, compatibility, level, lengthByte, countByte,
      rest, some_rest, rfl⟩ := exists_head long
    rw [vtfParseAvccConfigRecord_eq some_rest] at parsed
    split at parsed
    · cases parsed
    next accepted =>
      obtain ⟨first, some_count⟩ := not_or.mp accepted
      cases sets_eq : avccParameterSets (version :: profile ::
          compatibility :: level :: lengthByte :: countByte :: rest) (countByte &&& 0x1F).toNat with
      | error stop =>
        rw [sets_eq] at parsed
        cases parsed
      | ok sets =>
        obtain ⟨sps, pps, trailing, sps_count, some_pps, pps_count,
          sps_short, pps_short, written⟩ := avccParameterSets_sound sets_eq
        refine ⟨⟨profile, compatibility, level, lengthByte, countByte, sps,
          pps, sps_count.symm, pps_count, ?_, ?_, sps_short, pps_short⟩,
          trailing, ?_⟩
        · apply ne_nil_of_length_pos
          omega
        · exact ne_nil_of_length_pos some_pps
        · obtain rfl := not_not.mp first
          have rest_eq : rest = encodeUnits sps ++
            (UInt8.ofNat pps.length :: (encodeUnits pps ++ trailing)) :=
              written
          simp [AvccRecord.bytes, AvccRecord.head, rest_eq]
  · rw [vtfParseAvccConfigRecord_short (by omega)] at parsed
    cases parsed

theorem vtfParseAvccConfigRecord_inside : vtfParseAvccConfigRecord bytes ≠ .error .outOfRange := by
  by_cases long : 7 ≤ bytes.length
  · obtain ⟨version, profile, compatibility, level, lengthByte, countByte,
      rest, some_rest, rfl⟩ := exists_head long
    rw [vtfParseAvccConfigRecord_eq some_rest]
    split
    · exact nofun
    · intro failed
      cases sets_eq : avccParameterSets (version :: profile ::
          compatibility :: level :: lengthByte :: countByte :: rest) (countByte &&& 0x1F).toNat with
      | error stop =>
        rw [sets_eq] at failed
        rw [Except.error.inj failed] at sets_eq
        exact avccParameterSets_inside sets_eq
      | ok sets =>
        rw [sets_eq] at failed
        cases failed
  · rw [vtfParseAvccConfigRecord_short (by omega)]
    exact nofun

theorem reserved_count {count : Nat} (small : count ≤ 31) :
    ((0xE0 ||| UInt8.ofNat count) &&& 0x1F).toNat = count := by
  have all : ∀ count : Fin 32, ((0xE0 ||| UInt8.ofNat count) &&& 0x1F).toNat = count := by decide
  exact all ⟨count, by omega⟩

theorem reserved_lengthSize (lengthSizeMinusOne : Fin 4) :
    Int32.ofNat (((0xFC ||| UInt8.ofNat lengthSizeMinusOne) &&& 0x03) +
      1).toNat = Int32.ofNat (lengthSizeMinusOne + 1) := by
  revert lengthSizeMinusOne
  decide

/-- Parsing is exact: a result is given for a record at the start of the
bytes and for nothing else, no index is out of range, and what an encoder
writes is read back. -/
theorem vtfParseAvccConfigRecord_exact :
    (∀ (bytes : List UInt8) (result : List (List UInt8) × Int32),
      vtfParseAvccConfigRecord bytes = .ok result ↔ ∃ (record : AvccRecord) (trailing : List UInt8),
          bytes = record.bytes ++ trailing ∧ result = record.firstSets) ∧
    (∀ bytes : List UInt8, vtfParseAvccConfigRecord bytes ≠ .error .outOfRange) ∧
    ∀ (profile compatibility level : UInt8) (lengthSizeMinusOne : Fin 4)
        (sps pps : List (List UInt8)) (trailing : List UInt8)
        (some_sps : sps ≠ []) (some_pps : pps ≠ []),
      sps.length ≤ 31 → pps.length ≤ 255 → Short sps → Short pps →
        vtfParseAvccConfigRecord (serializeAvcc profile compatibility level
            lengthSizeMinusOne sps pps ++ trailing) =
          .ok ([sps.head some_sps, pps.head some_pps], Int32.ofNat (lengthSizeMinusOne + 1)) := by
  refine ⟨fun bytes result => ⟨fun parsed => ?_, ?_⟩, fun _ => vtfParseAvccConfigRecord_inside, ?_⟩
  · obtain ⟨record, trailing, rfl⟩ := exists_avccRecord parsed
    rw [record.parsed trailing] at parsed
    exact ⟨record, trailing, rfl, (Except.ok.inj parsed).symm⟩
  · rintro ⟨record, trailing, rfl, rfl⟩
    exact record.parsed trailing
  · intro profile compatibility level lengthSizeMinusOne sps pps trailing
      some_sps some_pps sps_count pps_count sps_short pps_short
    have parsed := AvccRecord.parsed ⟨profile, compatibility, level,
      0xFC ||| UInt8.ofNat lengthSizeMinusOne, _, sps, pps,
      reserved_count sps_count, by omega, some_sps, some_pps, sps_short,
      pps_short⟩ trailing
    rw [AvccRecord.firstSets, reserved_lengthSize lengthSizeMinusOne] at parsed
    exact parsed

/-- Two sequence parameter sets, one picture parameter set and what follows
them. -/
theorem vtfParseAvccConfigRecord_two_sps :
    vtfParseAvccConfigRecord (serializeAvcc 100 0 31 3
        [[0x67, 1, 2], [0x67, 3]] [[0x68, 4]] ++ [0xFD, 0xF8]) =
      .ok ([[0x67, 1, 2], [0x68, 4]], 4) :=
  vtfParseAvccConfigRecord_exact.2.2 100 0 31 3 [[0x67, 1, 2], [0x67, 3]]
    [[0x68, 4]] [0xFD, 0xF8] (by decide) (by decide) (by decide) (by decide)
    (by decide) (by decide)

end Records

/-! ## HVCC records -/

/-- The variables `vps`, `sps` and `pps`. -/
structure HevcSets where
  vps : Option (List UInt8)
  sps : Option (List UInt8)
  pps : Option (List UInt8)
  deriving DecidableEq, Repr

def HevcSets.offer (nalUnitType : UInt8) (sets : HevcSets) (blob : List UInt8) : HevcSets :=
  if nalUnitType = 32 ∧ sets.vps.isNone then { sets with vps := some blob }
  else if nalUnitType = 33 ∧ sets.sps.isNone then
    { sets with sps := some blob }
  else if nalUnitType = 34 ∧ sets.pps.isNone then
    { sets with pps := some blob }
  else sets

/-- The array at an offset: its head, and the inner loop over its units. -/
def hvccArray (bytes : List UInt8) (sets : HevcSets) (offset : Nat) :
    Except Stop (HevcSets × Nat) := do
  if offset + 3 > bytes.length then
    throw .refused
  let typeByte ← byteAt bytes offset
  let high ← byteAt bytes (offset + 1)
  let low ← byteAt bytes (offset + 2)
  repeated (takeUnit bytes (HevcSets.offer (typeByte &&& 0x3F)))
    (bigEndian high low) sets (offset + 3)

def vtfParseHvccConfigRecord (bytes : List UInt8) :
    Except Stop (List (List UInt8) × Int32) := do
  if bytes.length < 23 then
    throw .refused
  let version ← byteAt bytes 0
  if version ≠ 1 then
    throw .refused
  let lengthByte ← byteAt bytes 21
  let lengthSize := (lengthByte &&& 0x03) + 1
  let numArrays ← byteAt bytes 22
  let (sets, _) ← repeated (hvccArray bytes) numArrays.toNat ⟨none, none, none⟩ 23
  match sets with
  | ⟨some vps, some sps, some pps⟩ =>
    return ([vps, sps, pps], Int32.ofNat lengthSize.toNat)
  | _ => throw .refused

/-- An array of units.  The two bits above the type are free. -/
structure HvccArray where
  typeByte : UInt8
  units : List (List UInt8)
  count : units.length < 2 ^ 16
  short : Short units

namespace HvccArray

def nalUnitType (array : HvccArray) : UInt8 :=
  array.typeByte &&& 0x3F

def bytes (array : HvccArray) : List UInt8 :=
  [array.typeByte, UInt8.ofNat (array.units.length / 256),
    UInt8.ofNat array.units.length] ++ encodeUnits array.units

/-- The units of an array, if it is of the type. -/
def unitsOf (nalUnitType : UInt8) (array : HvccArray) : List (List UInt8) :=
  if array.nalUnitType = nalUnitType then array.units else []

def offer (sets : HevcSets) (array : HvccArray) : HevcSets :=
  array.units.foldl (HevcSets.offer array.nalUnitType) sets

end HvccArray

/-- A well-formed record.  What the head says of the profile is free. -/
structure HvccRecord where
  profile : List UInt8
  lengthByte : UInt8
  arrays : List HvccArray
  profile_length : profile.length = 20
  count : arrays.length < 256

namespace HvccRecord

def bytes (record : HvccRecord) : List UInt8 :=
  (1 :: (record.profile ++ [record.lengthByte, UInt8.ofNat record.arrays.length])) ++
    record.arrays.flatMap HvccArray.bytes

def first (record : HvccRecord) (nalUnitType : UInt8) :
    Option (List UInt8) :=
  (record.arrays.flatMap (HvccArray.unitsOf nalUnitType)).head?

end HvccRecord

section Hvcc

variable {bytes : List UInt8}

/-- Units of one type after the other fill the variable for their type. -/
theorem foldl_offer {pick : HevcSets → Option (List UInt8)} {kind : UInt8}
    (picks : ∀ type sets blob, pick (HevcSets.offer type sets blob) =
      (pick sets).or (if type = kind then some blob else none))
    (arrays : List HvccArray) (sets : HevcSets) :
    pick (arrays.foldl HvccArray.offer sets) =
      (pick sets).or (arrays.flatMap (HvccArray.unitsOf kind)).head? := by
  have units_picked : ∀ (type : UInt8) (units : List (List UInt8))
      (sets : HevcSets), pick (units.foldl (HevcSets.offer type) sets) =
        (pick sets).or (if type = kind then units else []).head? := by
    intro type units sets
    induction units generalizing sets with
    | nil => simp
    | cons unit units induction =>
      rw [foldl_cons, induction, picks, Option.or_assoc]
      split
      · rfl
      · rfl
  induction arrays generalizing sets with
  | nil => simp
  | cons array arrays induction =>
    rw [foldl_cons, induction, HvccArray.offer, units_picked,
      Option.or_assoc, flatMap_cons, head?_append]
    rfl

theorem offer_vps (type : UInt8) (sets : HevcSets) (blob : List UInt8) :
    (HevcSets.offer type sets blob).vps = sets.vps.or (if type = 32 then some blob else none) := by
  obtain ⟨vps, sps, pps⟩ := sets
  cases vps with
  | _ => grind [HevcSets.offer]

theorem offer_sps (type : UInt8) (sets : HevcSets) (blob : List UInt8) :
    (HevcSets.offer type sets blob).sps = sets.sps.or (if type = 33 then some blob else none) := by
  obtain ⟨vps, sps, pps⟩ := sets
  cases sps with
  | _ => grind [HevcSets.offer]

theorem offer_pps (type : UInt8) (sets : HevcSets) (blob : List UInt8) :
    (HevcSets.offer type sets blob).pps = sets.pps.or (if type = 34 then some blob else none) := by
  obtain ⟨vps, sps, pps⟩ := sets
  cases pps with
  | _ => grind [HevcSets.offer]

theorem offered_sets (record : HvccRecord) :
    record.arrays.foldl HvccArray.offer ⟨none, none, none⟩ =
      ⟨record.first 32, record.first 33, record.first 34⟩ := by
  have vps := foldl_offer offer_vps record.arrays ⟨none, none, none⟩
  have sps := foldl_offer offer_sps record.arrays ⟨none, none, none⟩
  have pps := foldl_offer offer_pps record.arrays ⟨none, none, none⟩
  rw [Option.none_or] at vps sps pps
  rw [HvccRecord.first, HvccRecord.first, HvccRecord.first, ← vps, ← sps, ← pps]

theorem hvccArray_of_inside {sets : HevcSets} (inside : offset + 3 ≤ bytes.length) :
    hvccArray bytes sets offset =
      repeated (takeUnit bytes (HevcSets.offer (bytes[offset] &&& 0x3F)))
        (bigEndian bytes[offset + 1] bytes[offset + 2]) sets
        (offset + 3) := by
  have enough : ¬ offset + 3 > bytes.length := by omega
  have type : byteAt bytes offset = .ok bytes[offset] :=
    byteAt_inside (by omega)
  have high : byteAt bytes (offset + 1) = .ok bytes[offset + 1] :=
    byteAt_inside (by omega)
  have low : byteAt bytes (offset + 2) = .ok bytes[offset + 2] :=
    byteAt_inside (by omega)
  simp only [hvccArray, enough, if_false, type, high, low, bind, Except.bind]

theorem hvccArray_of_outside {sets : HevcSets} (outside : ¬ offset + 3 ≤ bytes.length) :
    hvccArray bytes sets offset = .error .refused := by
  have short : offset + 3 > bytes.length := by omega
  simp only [hvccArray, short, if_true, bind, Except.bind, throw, throwThe, MonadExceptOf.throw]

theorem hvccArray_exact (bytes : List UInt8) :
    Exact bytes HvccArray.bytes (fun _ => True) HvccArray.offer (hvccArray bytes) where
  written {array sets offset rest} _ written := by
    rw [HvccArray.bytes, append_assoc] at written
    have length := length_of_drop written (by simp)
    rw [length_cons, length_cons, length_singleton] at length
    have type := getElem?_of_drop written 0 (by simp)
    have high := getElem?_of_drop written 1 (by simp)
    have low := getElem?_of_drop written 2 (by simp)
    rw [Nat.add_zero, getElem?_eq_getElem (by omega)] at type
    rw [getElem?_eq_getElem (by omega)] at high low
    rw [hvccArray_of_inside (by omega), Option.some.inj type,
      Option.some.inj high, Option.some.inj low, bigEndian_ofNat array.count,
      HvccArray.bytes, length_append, ← Nat.add_assoc]
    exact ((takeUnit_exact bytes _).repeated array.units.length).written
      ⟨rfl, array.short⟩ (drop_of_drop written)
  sound {sets offset result} taken := by
    by_cases inside : offset + 3 ≤ bytes.length
    · rw [hvccArray_of_inside inside] at taken
      obtain ⟨units, rest, ⟨count, short⟩, written⟩ :=
        ((takeUnit_exact bytes _).repeated _).sound taken
      have small := bigEndian_lt bytes[offset + 1] bytes[offset + 2]
      refine ⟨⟨bytes[offset], units, count ▸ small, short⟩, rest, trivial, ?_⟩
      obtain ⟨high, low⟩ := ofNat_bigEndian bytes[offset + 1] bytes[offset + 2]
      rw [← count] at high low
      dsimp only [HvccArray.bytes]
      rw [high, low, append_assoc, encodeUnits, ← written,
        drop_eq_getElem_cons (by omega),
        drop_eq_getElem_cons (by omega),
        drop_eq_getElem_cons (by omega)]
      rfl
    · rw [hvccArray_of_outside inside] at taken
      cases taken
  inside {sets offset} failed := by
    by_cases inside : offset + 3 ≤ bytes.length
    · rw [hvccArray_of_inside inside] at failed
      exact ((takeUnit_exact bytes _).repeated _).inside failed
    · rw [hvccArray_of_outside inside] at failed
      cases failed

theorem exists_hvccHead (long : 23 ≤ bytes.length) :
    ∃ version profile lengthByte count rest, profile.length = 20 ∧
      bytes = (version :: (profile ++ [lengthByte, count])) ++ rest := by
  obtain ⟨version, tail, rfl⟩ :=
    exists_cons_of_length_pos (show 0 < bytes.length by omega)
  rw [length_cons] at long
  have behind : 2 ≤ (tail.drop 20).length := by
    rw [length_drop]
    omega
  match split : tail.drop 20, behind with
  | lengthByte :: count :: rest, _ =>
    refine ⟨version, tail.take 20, lengthByte, count, rest, ?_, ?_⟩
    · rw [length_take]
      omega
    · rw [cons_append, append_assoc, cons_append,
        cons_append, nil_append, ← split, take_append_drop]

def hvccResult (lengthByte : UInt8) :
    HevcSets → Except Stop (List (List UInt8) × Int32)
  | ⟨some vps, some sps, some pps⟩ =>
    .ok ([vps, sps, pps], Int32.ofNat ((lengthByte &&& 0x03) + 1).toNat)
  | _ => .error .refused

theorem vtfParseHvccConfigRecord_eq {version lengthByte count : UInt8}
    {profile rest : List UInt8} (profile_length : profile.length = 20)
    (whole : bytes = (version :: (profile ++ [lengthByte, count])) ++ rest) :
    vtfParseHvccConfigRecord bytes =
      if version = 1 then
        match repeated (hvccArray bytes) count.toNat ⟨none, none, none⟩ 23 with
        | .error stop => .error stop
        | .ok (sets, _) => hvccResult lengthByte sets
      else .error .refused := by
  have written : bytes.drop 0 = (version :: (profile ++ [lengthByte, count])) ++ rest := whole
  have length := length_of_drop written Nat.succ_pos'
  have head_length : (version :: (profile ++ [lengthByte, count])).length = 23 := by
    simp [profile_length]
  have byte : ∀ index value, (version :: (profile ++ [lengthByte, count]))[index]? = some value →
        byteAt bytes index = .ok value := by
    intro index value found
    obtain ⟨inside, -⟩ := List.getElem?_eq_some_iff.mp found
    rw [← getElem?_of_drop written index inside, Nat.zero_add] at found
    exact byteAt_eq_ok.mpr found
  have first := byte 0 version rfl
  have size := byte 21 lengthByte (by simp [profile_length])
  have arrays := byte 22 count (by simp [profile_length])
  have long : ¬ bytes.length < 23 := by omega
  simp only [vtfParseHvccConfigRecord, long, if_false, first, size, arrays,
    bind, Except.bind, pure, Except.pure, ite_not, throw, throwThe,
    MonadExceptOf.throw]
  split
  · cases repeated (hvccArray bytes) count.toNat ⟨none, none, none⟩ 23 with
    | error stop => rfl
    | ok passed =>
      obtain ⟨⟨vps, sps, pps⟩, offset⟩ := passed
      cases vps with
      | none => rfl
      | some vps =>
        cases sps with
        | none => rfl
        | some sps =>
          cases pps with
          | _ => rfl
  · rfl

theorem vtfParseHvccConfigRecord_short (short : ¬ 23 ≤ bytes.length) :
    vtfParseHvccConfigRecord bytes = .error .refused := by
  have short : bytes.length < 23 := by omega
  simp only [vtfParseHvccConfigRecord, short, if_true, bind, Except.bind,
    throw, throwThe, MonadExceptOf.throw]

theorem HvccRecord.parsed (record : HvccRecord) (trailing : List UInt8) :
    vtfParseHvccConfigRecord (record.bytes ++ trailing) = hvccResult record.lengthByte
        ⟨record.first 32, record.first 33, record.first 34⟩ := by
  have whole : record.bytes ++ trailing = _ := append_assoc ..
  have behind : (record.bytes ++ trailing).drop 23 =
      record.arrays.flatMap HvccArray.bytes ++ trailing := by
    have length : (1 :: (record.profile ++
        [record.lengthByte, UInt8.ofNat record.arrays.length])).length =
          23 := by
      simp [record.profile_length]
    rw [whole, ← length, drop_left]
  rw [vtfParseHvccConfigRecord_eq record.profile_length whole, if_pos rfl,
    UInt8.toNat_ofNat_of_lt' record.count,
    ((hvccArray_exact _).repeated record.arrays.length).written
      ⟨rfl, fun _ _ => trivial⟩ behind, offered_sets]

theorem exists_hvccRecord {result : List (List UInt8) × Int32}
    (parsed : vtfParseHvccConfigRecord bytes = .ok result) :
    ∃ (record : HvccRecord) (trailing : List UInt8), bytes = record.bytes ++ trailing := by
  by_cases long : 23 ≤ bytes.length
  · obtain ⟨version, profile, lengthByte, count, rest, profile_length, whole⟩ :=
      exists_hvccHead long
    rw [vtfParseHvccConfigRecord_eq profile_length whole] at parsed
    split at parsed
    next first =>
      cases passed : repeated (hvccArray bytes) count.toNat ⟨none, none, none⟩ 23 with
      | error stop =>
        rw [passed] at parsed
        cases parsed
      | ok sets =>
        obtain ⟨arrays, trailing, ⟨array_count, -⟩, written⟩ :=
          ((hvccArray_exact bytes).repeated _).sound passed
        have head_length : (version :: (profile ++ [lengthByte, count])).length = 23 := by
          simp [profile_length]
        have rest_eq : rest = arrays.flatMap HvccArray.bytes ++ trailing := by
          rw [← written, whole, ← head_length, drop_left]
        refine ⟨⟨profile, lengthByte, arrays, profile_length,
          array_count ▸ count.toNat_lt⟩, trailing, ?_⟩
        dsimp only [HvccRecord.bytes]
        rw [array_count, UInt8.ofNat_toNat, append_assoc, ← rest_eq, ← first, whole]
    · cases parsed
  · rw [vtfParseHvccConfigRecord_short long] at parsed
    cases parsed

theorem vtfParseHvccConfigRecord_inside : vtfParseHvccConfigRecord bytes ≠ .error .outOfRange := by
  intro failed
  by_cases long : 23 ≤ bytes.length
  · obtain ⟨version, profile, lengthByte, count, rest, profile_length, whole⟩ :=
      exists_hvccHead long
    rw [vtfParseHvccConfigRecord_eq profile_length whole] at failed
    split at failed
    · cases passed : repeated (hvccArray bytes) count.toNat ⟨none, none, none⟩ 23 with
      | error stop =>
        rw [passed] at failed
        rw [Except.error.inj failed] at passed
        exact ((hvccArray_exact bytes).repeated _).inside passed
      | ok sets =>
        rw [passed] at failed
        dsimp only at failed
        unfold hvccResult at failed
        split at failed
        · cases failed
        · cases failed
    · cases failed
  · rw [vtfParseHvccConfigRecord_short long] at failed
    cases failed

/-- Parsing is exact: a result is given for a record with a set of each kind at
the start of the bytes and for nothing else, it has the first sets in the order
of the stream, and no index is out of range. -/
theorem vtfParseHvccConfigRecord_exact :
    (∀ (bytes : List UInt8) (sets : List (List UInt8)) (lengthSize : Int32),
      vtfParseHvccConfigRecord bytes = .ok (sets, lengthSize) ↔
        ∃ (record : HvccRecord) (trailing vps sps pps : List UInt8),
          bytes = record.bytes ++ trailing ∧
          record.first 32 = some vps ∧ record.first 33 = some sps ∧
          record.first 34 = some pps ∧ sets = [vps, sps, pps] ∧
          lengthSize = Int32.ofNat ((record.lengthByte &&& 0x03).toNat + 1)) ∧
    ∀ bytes : List UInt8, vtfParseHvccConfigRecord bytes ≠ .error .outOfRange := by
  have plus_one : ∀ byte : UInt8, ((byte &&& 0x03) + 1).toNat = (byte &&& 0x03).toNat + 1 := by
    intro byte
    have small : (byte &&& 0x03).toNat ≤ 3 := by
      rw [UInt8.toNat_and]
      exact Nat.and_le_right
    rw [UInt8.toNat_add]
    exact Nat.mod_eq_of_lt (show (byte &&& 0x03).toNat + 1 < 256 by omega)
  refine ⟨fun bytes sets lengthSize => ⟨fun parsed => ?_, ?_⟩,
    fun _ => vtfParseHvccConfigRecord_inside⟩
  · obtain ⟨record, trailing, rfl⟩ := exists_hvccRecord parsed
    rw [record.parsed trailing] at parsed
    unfold hvccResult at parsed
    split at parsed
    next vps sps pps found =>
      injection found with vps_found sps_found pps_found
      obtain ⟨rfl, rfl⟩ := Prod.mk.inj (Except.ok.inj parsed)
      exact ⟨record, trailing, vps, sps, pps, rfl, vps_found, sps_found,
        pps_found, rfl, by rw [plus_one]⟩
    · cases parsed
  · rintro ⟨record, trailing, vps, sps, pps, rfl, vps_found, sps_found, pps_found, rfl, rfl⟩
    rw [record.parsed trailing, vps_found, sps_found, pps_found, hvccResult, plus_one]

/-- The picture parameter set comes first here, a second sequence parameter set
is passed over, and so is an array of another type. -/
theorem vtfParseHvccConfigRecord_any_order :
    vtfParseHvccConfigRecord (HvccRecord.bytes
        ⟨replicate 20 0, 0xFF, [⟨0xA2, [[0x44, 1]], by decide, by decide⟩,
          ⟨0x27, [], by decide, by decide⟩,
          ⟨0x21, [[0x42, 1], [0x42, 2]], by decide, by decide⟩,
          ⟨0x20, [[0x40, 1]], by decide, by decide⟩], rfl, by decide⟩ ++
        [7]) = .ok ([[0x40, 1], [0x42, 1], [0x44, 1]], 4) :=
  (vtfParseHvccConfigRecord_exact.1 _ _ _).mpr
    ⟨_, [7], [0x40, 1], [0x42, 1], [0x44, 1], rfl, rfl, rfl, rfl, rfl, rfl⟩

end Hvcc

end Shim

end VtFerry
