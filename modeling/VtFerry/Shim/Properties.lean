import VtFerry.Worker.VtReal.Sessions

/-!
# Session properties on the wire

`VTSessionSetProperty` packs a key and a value of one of five kinds into a
record with text fields of fixed size, cut off where the text is too long; the
worker reads the texts up to the first NUL and looks them up in its tables.
All texts in the tables are shorter than the fields, so a text that was cut
off is never taken for another one.
-/

namespace VtFerry

open List LittleEndian

/-! ## The record -/

/-- `SetPropertyPayload`, with the raw bytes of its text fields. -/
structure PropertyFields where
  sessionId : UInt64
  keyProxyId : UInt64
  valueProxyId : UInt64
  valueKind : UInt32
  numberType : UInt32
  sint64 : Int64
  bool : UInt32
  key : List UInt8
  text : List UInt8
  arrayCount : UInt32
  dictPairCount : UInt32
  firstItem : Int64
  secondItem : Int64
  firstKey : List UInt8
  secondKey : List UInt8
  firstSpacing : Int64
  secondSpacing : Int64
  deriving DecidableEq, Repr

namespace PropertyFields

def read (source : List UInt8) : PropertyFields where
  sessionId := u64At source 0
  keyProxyId := u64At source 8
  valueProxyId := u64At source 16
  valueKind := u32At source 24
  numberType := u32At source 28
  sint64 := i64At source 32
  bool := u32At source 48
  key := (source.drop 56).take 64
  text := (source.drop 120).take 64
  arrayCount := u32At source 184
  dictPairCount := u32At source 188
  firstItem := i64At source 192
  secondItem := i64At source 200
  firstKey := (source.drop 208).take 32
  secondKey := (source.drop 240).take 32
  firstSpacing := i64At source 272
  secondSpacing := i64At source 280

/-- The record in memory; no number is sent as an `f64`. -/
def bytes (fields : PropertyFields) : List UInt8 :=
  u64Bytes fields.sessionId ++ (u64Bytes fields.keyProxyId ++
    (u64Bytes fields.valueProxyId ++ (u32Bytes fields.valueKind ++
      (u32Bytes fields.numberType ++ (i64Bytes fields.sint64 ++
        (u64Bytes 0 ++ (u32Bytes fields.bool ++ (u32Bytes 0 ++
          (fields.key ++ (fields.text ++ (u32Bytes fields.arrayCount ++
            (u32Bytes fields.dictPairCount ++ (i64Bytes fields.firstItem ++
              (i64Bytes fields.secondItem ++ (fields.firstKey ++
                (fields.secondKey ++ (i64Bytes fields.firstSpacing ++
                  i64Bytes fields.secondSpacing)))))))))))))))))

structure Sized (fields : PropertyFields) : Prop where
  key : fields.key.length = 64
  text : fields.text.length = 64
  firstKey : fields.firstKey.length = 32
  secondKey : fields.secondKey.length = 32

variable {size : Nat}

theorem drop_field {field : List UInt8} (length : field.length = size) (rest : List UInt8)
    (offset : Nat) :
    (field ++ rest).drop (offset + size) = rest.drop offset := by
  rw [Nat.add_comm, ← drop_drop, drop_left' length]

theorem u32At_drop (source : List UInt8) (offset : Nat) :
    u32At source offset = u32At (source.drop offset) 0 := by
  rw [u32At, u32At, word_drop, Nat.add_zero]

theorem u64At_drop (source : List UInt8) (offset : Nat) :
    u64At source offset = u64At (source.drop offset) 0 := by
  rw [u64At, u64At, word_drop, Nat.add_zero]

theorem i64At_append (value : Int64) (rest : List UInt8) :
    i64At (i64Bytes value ++ rest) 0 = value := by
  rw [i64At, i64Bytes, u64At_append]
  rfl

theorem read_bytes {fields : PropertyFields} (sized : fields.Sized) :
    read fields.bytes = fields := by
  have dword (value : UInt64) : (u64Bytes value).length = 8 := length_encode 8 _
  have signed (value : Int64) : (i64Bytes value).length = 8 := length_encode 8 _
  have word (value : UInt32) : (u32Bytes value).length = 4 := length_encode 4 _
  have signedAt (value : Int64) (rest : List UInt8) :
      (u64At (i64Bytes value ++ rest) 0).toInt64 = value :=
    i64At_append value rest
  have last := signedAt fields.secondSpacing []
  rw [append_nil] at last
  unfold read i64At
  rw [u64At_drop _ 8, u64At_drop _ 16, u32At_drop _ 24, u32At_drop _ 28,
    u64At_drop _ 32, u32At_drop _ 48, u32At_drop _ 184, u32At_drop _ 188,
    u64At_drop _ 192, u64At_drop _ 200, u64At_drop _ 272, u64At_drop _ 280]
  simp only [bytes, drop_field (dword _), drop_field (word _),
    drop_field (signed _), drop_field sized.key, drop_field sized.text,
    drop_field sized.firstKey, drop_field sized.secondKey, drop_zero,
    u64At_append, u32At_append, signedAt, last, take_left' sized.key,
    take_left' sized.text, take_left' sized.firstKey,
    take_left' sized.secondKey]

theorem length_bytes {fields : PropertyFields} (sized : fields.Sized) :
    fields.bytes.length = SetPropertyPayload.size := by
  simp only [bytes, length_append, u64Bytes, u32Bytes, i64Bytes, length_encode,
    sized.key, sized.text, sized.firstKey, sized.secondKey]
  rfl

def checked (fields : PropertyFields) : SetPropertyPayload where
  sessionId := fields.sessionId
  valueKind := fields.valueKind
  key := SetPropertyPayload.payloadCstr fields.key
  text := SetPropertyPayload.payloadCstr fields.text
  arrayCount := fields.arrayCount
  dictPairCount := fields.dictPairCount
  dictKeys := [SetPropertyPayload.payloadCstr fields.firstKey,
    SetPropertyPayload.payloadCstr fields.secondKey]

end PropertyFields

namespace Shim

/-- A text in a field of the given size, cut off so that a NUL remains. -/
def fillKeyBytes (size : Nat) (key : List UInt8) : List UInt8 :=
  key.take (size - 1) ++ replicate (size - min key.length (size - 1)) 0

/-- A number, as `CFNumberCreate` makes it of a value of its type. -/
inductive CfNumber where
  | sint32 (value : Int32)
  | int (value : Int32)
  | sint64 (value : Int64)
  /-- A double, by its value as an integer. -/
  | double (truncated : Int64)
  deriving DecidableEq, Repr

namespace CfNumber

/-- `CFNumberGetValue` for a 64-bit integer. -/
def getSint64 : CfNumber → Int64
  | sint32 value => value.toInt64
  | int value => value.toInt64
  | sint64 value => value
  | double truncated => truncated

/-- The number type on the wire, unless the number is refused. -/
def wireType : CfNumber → Option UInt32
  | sint32 _ => some 3
  | int _ => some 4
  | sint64 _ => some 4
  | double _ => none

end CfNumber

/-- A property value; `none` stands for what is absent or no number, and for
text that is not UTF-8. -/
inductive PropertyValue where
  | boolean (value : Bool)
  | number (number : CfNumber)
  | array (items : List (Option CfNumber))
  | dictionary (horizontal vertical : Option CfNumber)
  | string (text : Option (List UInt8))
  deriving DecidableEq, Repr

def asciiBytes (text : String) : List UInt8 :=
  text.toList.map fun letter => UInt8.ofNat letter.toNat

def keyedFields (sessionId keyProxyId valueProxyId : UInt64)
    (key : List UInt8) : PropertyFields where
  sessionId := sessionId
  keyProxyId := keyProxyId
  valueProxyId := valueProxyId
  valueKind := 0
  numberType := 0
  sint64 := 0
  bool := 0
  key := fillKeyBytes 64 key
  text := replicate 64 0
  arrayCount := 0
  dictPairCount := 0
  firstItem := 0
  secondItem := 0
  firstKey := replicate 32 0
  secondKey := replicate 32 0
  firstSpacing := 0
  secondSpacing := 0

def vtfFillSetPropertyPayload (sessionId keyProxyId valueProxyId : UInt64)
    (key : List UInt8) (value : PropertyValue) :
    Except Int32 PropertyFields :=
  let fields := keyedFields sessionId keyProxyId valueProxyId key
  match value with
  | .boolean value =>
    .ok { fields with valueKind := 1, bool := if value then 1 else 0 }
  | .number number =>
    match number.wireType with
    | none => .error (-12902)
    | some numberType =>
      .ok { fields with
        valueKind := 2
        numberType := numberType
        sint64 := number.getSint64 }
  | .array [some first, some second] =>
    .ok { fields with
      valueKind := 4
      arrayCount := 2
      firstItem := first.getSint64
      secondItem := second.getSint64 }
  | .array _ => .error (-12902)
  | .dictionary (some horizontal) (some vertical) =>
    .ok { fields with
      valueKind := 5
      dictPairCount := 2
      firstKey := fillKeyBytes 32 (asciiBytes "HorizontalSpacing")
      secondKey := fillKeyBytes 32 (asciiBytes "VerticalSpacing")
      firstSpacing := horizontal.getSint64
      secondSpacing := vertical.getSint64 }
  | .dictionary _ _ => .error (-12902)
  | .string none => .error (-12902)
  | .string (some text) =>
    .ok { fields with valueKind := 3, text := fillKeyBytes 64 text }

end Shim

/-! ## What the host is given -/

namespace VtRealBackend

open SetPropertyPayload (payloadCstr)

end VtRealBackend

namespace Shim

open SetPropertyPayload (payloadCstr)
open VtRealBackend

/-! ## Texts in fields -/

variable {key : List UInt8}

theorem payloadCstr_fillKeyBytes (plain : 0 ∉ key) (size : Nat) :
    payloadCstr (fillKeyBytes size key) = key.take (size - 1) := by
  rw [payloadCstr, fillKeyBytes, takeWhile_append_of_pos,
    takeWhile_replicate, if_neg (by decide), append_nil]
  intro letter member
  apply decide_eq_true
  rintro rfl
  exact plain (mem_of_mem_take member)

section Sent

variable {sessionId keyProxyId valueProxyId : UInt64} {key : List UInt8}
  {value : PropertyValue} {fields : PropertyFields}

end Sent

end Shim

end VtFerry
