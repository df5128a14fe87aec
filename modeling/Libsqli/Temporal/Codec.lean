import Libsqli.Base100
import Libsqli.Temporal.Value
import Mathlib.Data.FinEnum

namespace Libsqli.Temporal

open Libsqli.Base100
open Libsqli.Data.Radix

def wireSecond : Nat := 10
def wireFractionStart : Nat := 12
def wireCapacity : Nat := 12
def maxLeadingDigits : Nat := 9
def zeroMarker : UInt8 := 128
def lastYear : Nat := 9999

/-- `struct wire_range` -/
structure WireRange where
  range : TemporalRange
  leadingDigits : Nat
  integralPairs : Nat
  fractionPairs : Nat
  width : Nat
  exponent : Int
  deriving DecidableEq, Repr

/-- `struct wire_fields` -/
structure WireFields where
  fields : Nat → Nat
  nanosecond : Nat
  negative : Bool
  isNull : Bool

/-- The common tail of `decode_range`. -/
def closeRange (range : TemporalRange) (leadingDigits integralPairs : Nat)
    (exponent : Int) : Except Status WireRange :=
  let fractionPairs := (range.fractionalDigits + 1) / 2
  let width := 1 + integralPairs + fractionPairs
  if wireCapacity < width then .error .protoError
  else .ok ⟨range, leadingDigits, integralPairs, fractionPairs, width, exponent⟩

def qualifierRange (start stop : Nat) : TemporalRange where
  first := start / 2 + fieldYear
  last := if wireSecond < stop then fieldFraction else stop / 2 + fieldYear
  fractionalDigits := if wireSecond < stop then stop - wireSecond else 0

/-- `integral_end` -/
def integralStop (stop : Nat) : Nat :=
  if wireSecond < stop then wireSecond else stop

def integralPairs (leadingDigits start stop : Nat) : Nat :=
  (leadingDigits + 1) / 2 + (integralStop stop - start) / 2

/-- Leading precision that the qualifier may not carry. -/
def leadingInvalid (leadingDigits start : Nat) (interval : Bool) : Bool :=
  if interval then maxLeadingDigits < leadingDigits
  else leadingDigits ≠ if start = 0 then 4 else 2

/-- `decode_range` on the three codes of the qualifier. -/
def decodeCodes (digits start stop : Nat) (interval : Bool) :
    Except Status WireRange :=
  if wireFractionStart < start ∨ start % 2 ≠ 0 ∨
      (stop ≤ wireSecond ∧ (stop % 2 ≠ 0 ∨ stop < start)) ∨
      (start = wireFractionStart ∧ stop ≤ wireSecond) then
    .error .protoError
  else if interval ∧ (qualifierRange start stop).first ≤ fieldMonth ∧
      fieldMonth < (qualifierRange start stop).last then
    .error .protoError
  else if start = wireFractionStart then
    if digits ≠ (qualifierRange start stop).fractionalDigits then
      .error .protoError
    else closeRange (qualifierRange start stop) 0 0 0
  else if digits ≤ stop - start then .error .protoError
  else if leadingInvalid (digits - (stop - start)) start interval then
    .error .protoError
  else
    closeRange (qualifierRange start stop) (digits - (stop - start))
      (integralPairs (digits - (stop - start)) start stop)
      (integralPairs (digits - (stop - start)) start stop +
        (wireSecond - integralStop stop) / 2 : Nat)

/-- `decode_range` -/
def decodeRange (qualifier : UInt16) (interval : Bool) :
    Except Status WireRange :=
  decodeCodes (qualifier.toNat >>> 8) ((qualifier.toNat >>> 4) &&& 0xf)
    (qualifier.toNat &&& 0xf) interval

/-- The integral fields of a range, in the order the codec loops visit them. -/
def rangeFields (range : TemporalRange) : List Nat :=
  List.range' range.first (min range.last fieldSecond + 1 - range.first)

/-- Base-100 groups that a field takes. -/
def fieldWidth (range : WireRange) (field : Nat) : Nat :=
  if field = range.range.first then (range.leadingDigits + 1) / 2 else 1

/-! Decoding. -/

/-- The loop that moves the coefficient to its slots; `slot` may be negative. -/
def alignFrom (count : Nat) : Int → List Nat → List Nat → Option (List Nat)
  | _, [], aligned => some aligned
  | slot, group :: rest, aligned =>
      if slot < 0 ∨ count ≤ slot then
        if group ≠ 0 then none else alignFrom count (slot + 1) rest aligned
      else alignFrom count (slot + 1) rest (aligned.set slot.toNat group)

/-- The loop that reads each field off the aligned groups. -/
def readFields (range : WireRange) :
    List Nat → List Nat → (Nat → Nat) → (Nat → Nat) × List Nat
  | [], groups, fields => (fields, groups)
  | field :: rest, groups, fields =>
      let magnitude := (groups.take (fieldWidth range field)).foldl
        (fun magnitude group => magnitude * radix + group) 0
      readFields range rest (groups.drop (fieldWidth range field))
        (Function.update fields field magnitude)

/-- The end of `unpack`, once the groups are aligned. -/
def readAligned (range : WireRange) (negative : Bool) (aligned : List Nat) :
    Except Status WireFields :=
  let (fields, rest) := readFields range (rangeFields range.range) aligned
    fun _ => 0
  let fraction := (rest.take range.fractionPairs).foldl
    (fun fraction group => fraction * radix + group) 0
  if range.range.fractionalDigits % 2 ≠ 0 ∧ fraction % 10 ≠ 0 then
    .error .protoError
  else
    let fraction :=
      if range.range.fractionalDigits % 2 ≠ 0 then fraction / 10 else fraction
    let nanosecond := fraction * 10 ^ (9 - range.range.fractionalDigits)
    if range.leadingDigits ≠ 0 ∧
        10 ^ range.leadingDigits ≤ fields range.range.first then
      .error .protoError
    else .ok ⟨fields, nanosecond, negative, false⟩

/-- `unpack` on a payload that is not all zero. -/
def unpackGroups (header : UInt8) (received : List Nat) (range : WireRange) :
    Except Status WireFields :=
  if ∃ group ∈ received, radix ≤ group then .error .protoError
  else if ∀ group ∈ plainGroups header received, group = 0 then
    if header = zeroMarker then
      .ok ⟨fun _ => 0, 0, headerNegative header, false⟩
    else .error .protoError
  -- Nonzero coefficients are normalized.
  else if (plainGroups header received).headD 0 = 0 then .error .protoError
  else
    match alignFrom (plainGroups header received).length
        (range.exponent - headerExponent header) (plainGroups header received)
        (List.replicate (plainGroups header received).length 0) with
    | none => .error .protoError
    | some aligned => readAligned range (headerNegative header) aligned

/-- `unpack` -/
def unpack (bytes : List UInt8) (range : WireRange) :
    Except Status WireFields :=
  if bytes.length ≠ range.width then .error .protoError
  else if ∀ byte ∈ bytes, byte = 0 then .ok ⟨fun _ => 0, 0, false, true⟩
  else unpackGroups (bytes.headD 0) (byteGroups bytes.tail) range

def datetimeParts (range : TemporalRange) (fields : WireFields) :
    DatetimeParts where
  range := range
  year := Int32.ofNat (fields.fields fieldYear)
  month := UInt8.ofNat (fields.fields fieldMonth)
  day := UInt8.ofNat (fields.fields fieldDay)
  hour := UInt8.ofNat (fields.fields fieldHour)
  minute := UInt8.ofNat (fields.fields fieldMinute)
  second := UInt8.ofNat (fields.fields fieldSecond)
  nanosecond := UInt32.ofNat fields.nanosecond
  isNull := fields.isNull

/-- Every import failure is reported as malformed wire data. -/
def importResult (result : Status × α) : Status × α :=
  (if result.1 = .ok then .ok else .protoError, result.2)

/-- `sqli_datetime_decode_wire` -/
def decodeDatetime (bytes : List UInt8) (qualifier : UInt16) (out : Datetime) :
    Status × Datetime :=
  match decodeRange qualifier false with
  | .error status => (status, out)
  | .ok range =>
      match unpack bytes range with
      | .error _ => (.protoError, out)
      | .ok fields =>
          if fields.negative then (.protoError, out)
          else if lastYear < fields.fields fieldYear then (.protoError, out)
          else if ∃ field ∈ integralFields.tail, 255 < fields.fields field then
            (.protoError, out)
          else
            importResult (out.setParts (datetimeParts range.range fields))

def intervalParts (range : TemporalRange) (fields : WireFields) :
    IntervalParts where
  range := range
  years := UInt64.ofNat (fields.fields fieldYear)
  months := UInt64.ofNat (fields.fields fieldMonth)
  days := UInt64.ofNat (fields.fields fieldDay)
  hours := UInt64.ofNat (fields.fields fieldHour)
  minutes := UInt64.ofNat (fields.fields fieldMinute)
  seconds := UInt64.ofNat (fields.fields fieldSecond)
  nanosecond := UInt32.ofNat fields.nanosecond
  negative := fields.negative
  isNull := fields.isNull

/-- `sqli_interval_decode_wire` -/
def decodeInterval (bytes : List UInt8) (qualifier : UInt16) (out : Interval) :
    Status × Interval :=
  match decodeRange qualifier true with
  | .error status => (status, out)
  | .ok range =>
      match unpack bytes range with
      | .error status => (status, out)
      | .ok fields =>
          importResult (out.setParts (intervalParts range.range fields))

/-! Encoding. -/

/-- `matching_range` -/
def matchingRange (value : TemporalRange) (target : WireRange)
    (isNull : Bool) : Bool :=
  (isNull && value.first == fieldUnknown && value.last == fieldUnknown) ||
    (value.first == target.range.first && value.last == target.range.last)

/-- Fraction of a second in base-100 groups, an odd digit padded on the right. -/
def fractionGroups (range : WireRange) (nanosecond : Nat) : List Nat :=
  let fraction := nanosecond / 10 ^ (9 - range.range.fractionalDigits)
  toBigEndian radix range.fractionPairs
    (if range.range.fractionalDigits % 2 ≠ 0 then fraction * 10 else fraction)

/-- The `groups` array that `pack` fills. -/
def packedGroups (fields : WireFields) (range : WireRange) : List Nat :=
  (rangeFields range.range).flatMap (fun field =>
    toBigEndian radix (fieldWidth range field) (fields.fields field)) ++
  fractionGroups range fields.nanosecond

/-- Leading zero groups move into the exponent and come back as padding. -/
def packedBytes (negative : Bool) (range : WireRange) (groups : List Nat) :
    List UInt8 :=
  let body := groups.dropWhile (· = 0)
  if body = [] then zeroMarker :: List.replicate (range.width - 1) 0
  else
    let first := groups.length - body.length
    encodeHeader negative (range.exponent - first) ::
      groupBytes (codeGroups negative
        (body ++ List.replicate (range.width - 1 - body.length) 0))

/-- `pack` -/
def pack (fields : WireFields) (range : WireRange) (capacity : Nat) :
    Except Status (List UInt8) :=
  if !fields.isNull ∧ range.leadingDigits ≠ 0 ∧
      10 ^ range.leadingDigits ≤ fields.fields range.range.first then
    .error .outOfRange
  else if !fields.isNull ∧
      fields.nanosecond % 10 ^ (9 - range.range.fractionalDigits) ≠ 0 then
    .error .inexact
  else if capacity < range.width then .error .bufferTooSmall
  else if fields.isNull then .ok (List.replicate range.width 0)
  else .ok (packedBytes fields.negative range (packedGroups fields range))

def TemporalFields.toWire (fields : TemporalFields) : WireFields :=
  ⟨fields.integral, fields.nanosecond, fields.negative, fields.isNull⟩

/-- `sqli_datetime_encode_wire` -/
def encodeDatetime (value : Datetime) (qualifier : UInt16) (capacity : Nat) :
    Except Status (List UInt8) :=
  match decodeRange qualifier false with
  | .error status => .error status
  | .ok range =>
      if matchingRange value.parts.range range value.parts.isNull then
        pack value.parts.fields.toWire range capacity
      else .error .invalidArgument

/-- `sqli_interval_encode_wire` -/
def encodeInterval (value : Interval) (qualifier : UInt16) (capacity : Nat) :
    Except Status (List UInt8) :=
  match decodeRange qualifier true with
  | .error status => .error status
  | .ok range =>
      if matchingRange value.parts.range range value.parts.isNull then
        pack value.parts.fields.toWire range capacity
      else .error .invalidArgument

end Libsqli.Temporal
