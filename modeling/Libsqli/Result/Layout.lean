import Libsqli.Data.Bytes
import Libsqli.Decimal.Codec
import Libsqli.Temporal.Codec

namespace Libsqli.Layout

open Libsqli.Data.Bytes

/-! `sqli_column_type`; a descriptor may carry any other code as well. -/

def typeChar : UInt8 := 0
def typeSmallint : UInt8 := 1
def typeInt : UInt8 := 2
def typeFloat : UInt8 := 3
def typeSmfloat : UInt8 := 4
def typeDecimal : UInt8 := 5
def typeSerial : UInt8 := 6
def typeDate : UInt8 := 7
def typeMoney : UInt8 := 8
def typeDatetime : UInt8 := 10
def typeByte : UInt8 := 11
def typeText : UInt8 := 12
def typeVarchar : UInt8 := 13
def typeInterval : UInt8 := 14
def typeNchar : UInt8 := 15
def typeNvchar : UInt8 := 16
def typeInt8 : UInt8 := 17
def typeSerial8 : UInt8 := 18
def typeLvarchar : UInt8 := 40
def typeBool : UInt8 := 41
def typeDboolean : UInt8 := 45
def typeBigint : UInt8 := 52
def typeBigserial : UInt8 := 53
def typeClob : UInt8 := 101
def typeBlob : UInt8 := 102

/-- `sqli_column_info`, as far as a row is decoded with it. -/
structure Column where
  type : UInt8
  encodedLength : UInt32
  deriving DecidableEq, Repr

def fixedWidthForType (type : UInt8) : Nat :=
  if type ∈ [typeBool, typeDboolean] then 1
  else if type = typeSmallint then 2
  else if type ∈ [typeInt, typeDate, typeSerial, typeSmfloat] then 4
  else if type ∈ [typeFloat, typeBigint, typeBigserial] then 8
  else if type ∈ [typeInt8, typeSerial8] then 10
  else 0

def decimalPackedWidth (encodedLength : UInt32) : Nat :=
  if 0xFFFF < encodedLength.toNat then 0
  else match Decimal.decodeType encodedLength.toUInt16 with
    | .ok type => type.width
    | .error _ => 0

def temporalPackedWidth (type : UInt8) (encodedLength : UInt32) : Nat :=
  if 0xFFFF < encodedLength.toNat then 0
  else match Temporal.decodeRange encodedLength.toUInt16
      (type == typeInterval) with
    | .ok range => range.width
    | .error _ => 0

def isTwoBytePrefixed (type : UInt8) : Bool :=
  type ∈ [typeText, typeLvarchar, typeBlob, typeClob, typeDecimal, typeMoney]

def allZeroIsNullSentinel (type : UInt8) : Bool :=
  type ∈ [typeDecimal, typeMoney, typeDatetime, typeInterval]

def isStringyType (type : UInt8) : Bool :=
  type ∈ [typeChar, typeNchar, typeVarchar, typeNvchar, typeLvarchar]

/-- Where a column's data lies and how far the next column is. -/
structure Span where
  start : Nat
  length : Nat
  width : Nat
  deriving DecidableEq, Repr

def numberAt (tuple : List UInt8) (start width : Nat) : Nat :=
  natOfBytes ((tuple.drop start).take width)

/-- Data that fills its whole span, as far as the tuple holds it. -/
def plainSpan (tuple : List UInt8) (base width : Nat) : Except Status Span :=
  if 0 < width ∧ width ≤ tuple.length - base then .ok ⟨base, width, width⟩
  else .error .protoError

/-- Data behind a length of `header` octets. -/
def prefixedSpan (tuple : List UInt8) (base header : Nat) :
    Except Status Span :=
  if header ≤ tuple.length - base ∧
      numberAt tuple base header ≤ tuple.length - (base + header) then
    .ok ⟨base + header, numberAt tuple base header,
      header + numberAt tuple base header⟩
  else .error .protoError

def lobDescriptorLength (column : Column) : Nat :=
  if 0 < column.encodedLength then column.encodedLength.toNat else 56

def charWidth (column : Column) : Nat := column.encodedLength.toNat

/-- The length behind a null marker. -/
def opaqueLength (tuple : List UInt8) (base : Nat) : Nat :=
  numberAt tuple (base + 1) 4

/-- The null marker, four octets of length and the payload; where these do not
fit the same octets are read behind a two-octet length. -/
def opaqueSpan (tuple : List UInt8) (base : Nat) : Except Status Span :=
  if 5 ≤ tuple.length - base ∧ tuple.getD base 0 ≠ 0 ∧
      opaqueLength tuple base = 0 then
    .ok ⟨base + 5, 0, 5⟩
  else if 5 ≤ tuple.length - base ∧ tuple.getD base 0 = 0 ∧
      opaqueLength tuple base ≤ tuple.length - (base + 5) then
    .ok ⟨base + 5, opaqueLength tuple base, 5 + opaqueLength tuple base⟩
  else prefixedSpan tuple base 2

def isCharType (type : UInt8) : Bool := type ∈ [typeChar, typeNchar]

/-- The layout of CHAR with a length octet is taken only where it spans exactly
the declared width. -/
def shortChar (tuple : List UInt8) (base width : Nat) : Bool :=
  0 < width && 0 < numberAt tuple base 1 && numberAt tuple base 1 < 32 &&
    1 + numberAt tuple base 1 == width &&
    numberAt tuple base 1 ≤ tuple.length - (base + 1)

def declaredWidth (column : Column) : Nat :=
  if isCharType column.type then charWidth column
  else fixedWidthForType column.type

/-- The width of a DECIMAL, MONEY, DATETIME or INTERVAL by its descriptor. -/
def packedWidth (column : Column) : Nat :=
  if column.type ∈ [typeDecimal, typeMoney] then
    decimalPackedWidth column.encodedLength
  else temporalPackedWidth column.type column.encodedLength

/-- `sqli_tuple_locate_column`; `base` is the column's `col_start_pos`. -/
def locateColumn (column : Column) (base : Nat) (tuple : List UInt8) :
    Except Status Span :=
  if tuple.length ≤ base then .error .protoError
  else if isCharType column.type ∧
      shortChar tuple base (declaredWidth column) then
    .ok ⟨base + 1, numberAt tuple base 1, declaredWidth column⟩
  else if column.type ∈ [typeDecimal, typeMoney, typeDatetime, typeInterval] then
    plainSpan tuple base (packedWidth column)
  else if column.type ∈ [typeByte, typeText] then
    plainSpan tuple base (lobDescriptorLength column)
  else if column.type ∈
      [typeBool, typeDboolean, typeLvarchar, typeBlob, typeClob] then
    opaqueSpan tuple base
  else if 0 < declaredWidth column then
    plainSpan tuple base (declaredWidth column)
  else if column.type ∈ [typeVarchar, typeNvchar, typeChar, typeNchar] ∨
      ¬ isTwoBytePrefixed column.type then
    prefixedSpan tuple base 1
  else prefixedSpan tuple base 2

/-- The branch of `sqli_result_prepare_row_cache` that the column's type takes. -/
def columnSpan (column : Column) (offset : Nat) (tuple : List UInt8) :
    Except Status Span :=
  if tuple.length ≤ offset then .error .protoError
  else if isCharType column.type then
    if 0 < charWidth column ∧ charWidth column ≤ tuple.length - offset then
      .ok ⟨offset, charWidth column, charWidth column⟩
    else if offset + 1 < tuple.length then prefixedSpan tuple offset 1
    else .error .protoError
  else if column.type ∈ [typeByte, typeText] then
    plainSpan tuple offset (lobDescriptorLength column)
  else if column.type ∈ [typeBool, typeLvarchar, typeBlob, typeClob] then
    locateColumn column offset tuple
  else if 0 < fixedWidthForType column.type then
    plainSpan tuple offset (fixedWidthForType column.type)
  else if column.type ∈ [typeDecimal, typeMoney, typeDatetime, typeInterval] then
    if 0 < packedWidth column ∧ packedWidth column ≤ tuple.length - offset then
      .ok ⟨offset, packedWidth column, packedWidth column⟩
    else locateColumn column offset tuple
  else if column.type ∈ [typeVarchar, typeNvchar] ∨
      ¬ isTwoBytePrefixed column.type then
    prefixedSpan tuple offset 1
  else prefixedSpan tuple offset 2

/-- The NULL forms of a column that carries data. -/
def nullData (type : UInt8) (data : List UInt8) : Bool :=
  if isCharType type ∧ data.head? = some 0 then
    data.tail.all (· == 0x20)
  else if type = typeDate then data.take 4 == [0x80, 0, 0, 0]
  else if type = typeSmallint then data == [0x80, 0]
  else if type ∈ [typeInt, typeSerial] then data == [0x80, 0, 0, 0]
  else if type ∈ [typeBigint, typeBigserial] then
    data == [0x80, 0, 0, 0, 0, 0, 0, 0]
  else if type ∈ [typeInt8, typeSerial8] then data.take 2 == [0, 0]
  else if type = typeSmfloat then data == List.replicate 4 0xFF
  else if type = typeFloat then data == List.replicate 8 0xFF
  else if type ∈ [typeVarchar, typeNvchar] then data == [0]
  else if type ∈ [typeByte, typeText] then
    40 ≤ data.length && data.getD 39 0 &&& 1 != 0
  else allZeroIsNullSentinel type && data.all (· == 0)

def spanIsNull (type : UInt8) (offset : Nat) (span : Span)
    (tuple : List UInt8) : Bool :=
  if span.length = 0 then
    (type ∈ [typeLvarchar, typeBool, typeDboolean] && 5 ≤ span.width &&
      tuple.getD offset 0 != 0) ||
    type ∈ [typeBool, typeDboolean] ||
    (!isStringyType type &&
      (isTwoBytePrefixed type || allZeroIsNullSentinel type))
  else nullData type ((tuple.drop span.start).take span.length)

/-- One entry of `cur_col_data_start`, `cur_col_data_len` and
`cur_col_is_null`. -/
structure Located where
  start : Nat
  length : Nat
  isNull : Bool
  deriving DecidableEq, Repr

/-- The loop of `sqli_result_prepare_row_cache`. -/
def locateRow (tuple : List UInt8) : Nat → List Column →
    Except Status (List Located)
  | _, [] => .ok []
  | offset, column :: columns =>
      if 0xFFFFFFFF < offset then .error .limitExceeded
      else match columnSpan column offset tuple with
        | .error status => .error status
        | .ok span =>
            if span.width = 0 ∨ tuple.length < span.start ∨
                tuple.length - span.start < span.length then
              .error .protoError
            else match locateRow tuple (offset + span.width) columns with
              | .error status => .error status
              | .ok located => .ok (⟨span.start, span.length,
                  spanIsNull column.type offset span tuple⟩ :: located)

theorem plainSpan_ne_ok : plainSpan tuple base width ≠ .error .ok := by
  unfold plainSpan
  split <;> nofun

theorem prefixedSpan_ne_ok : prefixedSpan tuple base header ≠ .error .ok := by
  unfold prefixedSpan
  split <;> nofun

theorem opaqueSpan_ne_ok : opaqueSpan tuple base ≠ .error .ok := by
  unfold opaqueSpan
  split
  · nofun
  · split
    · nofun
    · exact prefixedSpan_ne_ok

theorem locateColumn_ne_ok : locateColumn column base tuple ≠ .error .ok := by
  unfold locateColumn
  repeat' split
  all_goals first
    | exact plainSpan_ne_ok
    | exact prefixedSpan_ne_ok
    | exact opaqueSpan_ne_ok
    | nofun

theorem columnSpan_ne_ok : columnSpan column offset tuple ≠ .error .ok := by
  unfold columnSpan
  repeat' split
  all_goals first
    | exact plainSpan_ne_ok
    | exact prefixedSpan_ne_ok
    | exact locateColumn_ne_ok
    | nofun

theorem locateRow_ne_ok : locateRow tuple offset columns ≠ .error .ok := by
  induction columns generalizing offset with
  | nil => nofun
  | cons column columns ih =>
      unfold locateRow
      split
      · nofun
      · split
        · next hspan =>
          intro herror
          cases herror
          exact columnSpan_ne_ok hspan
        · split
          · nofun
          · split
            · next hrest =>
              intro herror
              cases herror
              exact ih hrest
            · nofun

theorem locateRow_length {located : List Located}
    (hlocate : locateRow tuple offset columns = .ok located) :
    located.length = columns.length := by
  induction columns generalizing offset located with
  | nil =>
      cases hlocate
      rfl
  | cons column columns ih =>
      unfold locateRow at hlocate
      split at hlocate
      · cases hlocate
      · split at hlocate
        · cases hlocate
        · split at hlocate
          · cases hlocate
          · split at hlocate
            · cases hlocate
            · next hrest =>
              cases hlocate
              simp [ih hrest]

theorem locateRow_inside {located : List Located}
    (hlocate : locateRow tuple offset columns = .ok located) :
    ∀ entry ∈ located, entry.start ≤ tuple.length ∧
      entry.length ≤ tuple.length - entry.start := by
  induction columns generalizing offset located with
  | nil =>
      cases hlocate
      simp
  | cons column columns ih =>
      unfold locateRow at hlocate
      split at hlocate
      · cases hlocate
      · split at hlocate
        · cases hlocate
        · split at hlocate
          · cases hlocate
          · next hinside =>
            simp only [not_or, Nat.not_lt] at hinside
            split at hlocate
            · cases hlocate
            · next hrest =>
              cases hlocate
              intro entry member
              rcases List.mem_cons.mp member with rfl | member
              · exact hinside.2
              · exact ih hrest entry member

end Libsqli.Layout
