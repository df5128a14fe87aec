import Libsqli.Decimal.Decode
import Libsqli.Temporal.Date
import Libsqli.Temporal.RoundTrip

namespace Libsqli.Bind

open Libsqli.Data.Radix
open Libsqli.Temporal

/-! Bound parameters and the functions that set them. -/

/-- `sqli_bind_type`; `unset` is the zero of a parameter never bound. -/
inductive BindType where
  | unset
  | int
  | float
  | decimal
  | date
  | datetime
  | bytes
  | string
  | interval
  | sblob
  | bigint
  deriving DecidableEq, Repr

def BindType.code : BindType → UInt8
  | .unset => 0
  | .int => 2
  | .float => 3
  | .decimal => 5
  | .date => 7
  | .datetime => 10
  | .bytes => 11
  | .string => 13
  | .interval => 14
  | .sblob => 44
  | .bigint => 52

def sblobBlob : Int32 := 0
def sblobClob : Int32 := 1

/-- `sqli_bound_param`. Of the union `value` each type reads the member it
wrote; `dval` holds the bits of the double. -/
structure BoundParam where
  type : BindType
  ival : Int32
  ival64 : Int64
  dval : UInt64
  sval : Option (List UInt8)
  bval : Option (List UInt8)
  isNull : Bool
  nativeQualifier : UInt16
  nativeBytes : List UInt8
  deriving DecidableEq, Repr

def BoundParam.zeroed : BoundParam where
  type := .unset
  ival := 0
  ival64 := 0
  dval := 0
  sval := none
  bval := none
  isNull := false
  nativeQualifier := 0
  nativeBytes := []

/-- `sqli_free_bound_param` -/
def BoundParam.release (param : BoundParam) : BoundParam :=
  { param with sval := none, bval := none, isNull := false }

def maxBytesLength : Nat := 0xFFFF

def decimalWireCapacity : Nat := 18

def sblobLocatorMax : Nat := 72

def setParamString (malloc : Nat → Bool) (value : List UInt8)
    (param : BoundParam) : Status × BoundParam :=
  if malloc (value.length + 1) then
    (.ok, { param.release with sval := some value, type := .string })
  else (.allocFail, param)

def setParamBytes (malloc : Nat → Bool) (value : List UInt8)
    (param : BoundParam) : Status × BoundParam :=
  if value = [] ∨ maxBytesLength < value.length then (.invalidState, param)
  else if malloc value.length then
    (.ok, { param.release with bval := some value, type := .bytes })
  else (.allocFail, param)

def bindInt (value : Int32) (param : BoundParam) : Status × BoundParam :=
  (.ok, { param.release with type := .int, ival := value })

def bindInt64 (value : Int64) (param : BoundParam) : Status × BoundParam :=
  (.ok, { param.release with type := .bigint, ival64 := value })

def bindDouble (value : UInt64) (param : BoundParam) : Status × BoundParam :=
  (.ok, { param.release with type := .float, dval := value })

/-- `sqli_bind_null` and its typed variants. -/
def bindNull (type : BindType) (param : BoundParam) : Status × BoundParam :=
  (.ok, { param.release with type := type, isNull := true })

/-- The common end of the native binders: a failed encoding leaves the
parameter alone, and a new one replaces it whole. -/
def bindNative (type : BindType) (qualifier : UInt16)
    (encoded : Except Status (List UInt8)) (isNull : Bool)
    (param : BoundParam) : Status × BoundParam :=
  match encoded with
  | .error status => (status, param)
  | .ok bytes =>
      (.ok, { BoundParam.zeroed with
        type := type, isNull := isNull, nativeQualifier := qualifier
        nativeBytes := bytes })

def bindDate (value : Date) (param : BoundParam) : Status × BoundParam :=
  bindNative .date 0 (encodeDate value decimalWireCapacity) value.isNull param

/-- `sqli_decimal_target_t` -/
structure DecimalTarget where
  precision : UInt8
  scale : UInt8
  floatingScale : Bool
  deriving DecidableEq, Repr

def DecimalTarget.check (target : DecimalTarget) : Status :=
  if target.precision < 1 ∨ 32 < target.precision ∨
      (!target.floatingScale ∧ target.precision < target.scale) then
    .outOfRange
  else .ok

def DecimalTarget.wireScale (target : DecimalTarget) : UInt8 :=
  if target.floatingScale then 255 else target.scale

def DecimalTarget.descriptor (target : DecimalTarget) : UInt16 :=
  UInt16.ofNat (target.precision.toNat * 256 + target.wireScale.toNat)

def bindDecimal (value : Decimal) (target : DecimalTarget)
    (param : BoundParam) : Status × BoundParam :=
  bindNative .decimal target.wireScale.toUInt16
    (Decimal.encodeWire value target.descriptor decimalWireCapacity)
    value.parts.isNull param

def maxFractionDigits : Nat := 5

/-- The digit count and the two codes that make up a qualifier. -/
def qualifierStart (target : TemporalRange) : Nat :=
  (target.first - fieldYear) * 2

def qualifierStop (target : TemporalRange) : Nat :=
  if target.last = fieldFraction then wireSecond + target.fractionalDigits
  else (target.last - fieldYear) * 2

def qualifierLeading (target : TemporalRange) (interval : Bool)
    (leadingPrecision : UInt8) : Nat :=
  if interval then leadingPrecision.toNat
  else if target.first = fieldYear then 4 else 2

def qualifierDigits (target : TemporalRange) (interval : Bool)
    (leadingPrecision : UInt8) : Nat :=
  if target.first = fieldFraction then target.fractionalDigits
  else qualifierLeading target interval leadingPrecision +
    qualifierStop target - qualifierStart target

def composeQualifier (target : TemporalRange) (interval : Bool)
    (leadingPrecision : UInt8) : UInt16 :=
  UInt16.ofNat (qualifierDigits target interval leadingPrecision * 256 +
    qualifierStart target * 16 + qualifierStop target)

/-- `temporal_qualifier` -/
def temporalQualifier (target : TemporalRange) (interval : Bool)
    (leadingPrecision : UInt8) : Except Status UInt16 :=
  if target.first < fieldYear ∨ fieldFraction < target.last ∨
      target.last < target.first then .error .invalidArgument
  else if target.last = fieldFraction ∧ (target.fractionalDigits < 1 ∨
      maxFractionDigits < target.fractionalDigits) then .error .outOfRange
  else if target.last ≠ fieldFraction ∧ target.fractionalDigits ≠ 0 then
    .error .invalidArgument
  else if interval ∧ ((target.first = fieldFraction ∧ leadingPrecision ≠ 0) ∨
      (target.first ≠ fieldFraction ∧ (leadingPrecision < 1 ∨
        maxLeadingDigits < leadingPrecision.toNat))) then .error .outOfRange
  else
    match decodeRange (composeQualifier target interval leadingPrecision)
        interval with
    | .error _ => .error .invalidArgument
    | .ok _ => .ok (composeQualifier target interval leadingPrecision)

def bindDatetime (value : Datetime) (target : TemporalRange)
    (param : BoundParam) : Status × BoundParam :=
  match temporalQualifier target false 0 with
  | .error status => (status, param)
  | .ok qualifier =>
      bindNative .datetime qualifier
        (encodeDatetime value qualifier decimalWireCapacity)
        value.parts.isNull param

def bindInterval (value : Interval) (target : TemporalRange)
    (leadingPrecision : UInt8) (param : BoundParam) : Status × BoundParam :=
  match temporalQualifier target true leadingPrecision with
  | .error status => (status, param)
  | .ok qualifier =>
      bindNative .interval qualifier
        (encodeInterval value qualifier decimalWireCapacity)
        value.parts.isNull param

/-- `sqli_timestamp_t` -/
structure Timestamp where
  isNull : Bool
  year : Int32
  month : Int32
  day : Int32
  hour : Int32
  minute : Int32
  second : Int32
  microsecond : Int32
  deriving DecidableEq, Repr

/-- A member outside its range is replaced by a default. -/
def clampMember (value lower upper fallback : Int32) : Nat :=
  (if lower ≤ value ∧ value ≤ upper then value else fallback).toNatClampNeg

/-- `printf` of a nonnegative number with leading zeros. -/
def zeroPadded (width value : Nat) : List UInt8 :=
  (toBigEndian 10 width value).map fun digit => UInt8.ofNat (48 + digit)

/-- `%04d-%02d-%02d %02d:%02d:%02d.%06d` -/
def Timestamp.text (value : Timestamp) : List UInt8 :=
  zeroPadded 4 (clampMember value.year 1 9999 1970) ++ [45] ++
  zeroPadded 2 (clampMember value.month 1 12 1) ++ [45] ++
  zeroPadded 2 (clampMember value.day 1 31 1) ++ [32] ++
  zeroPadded 2 (clampMember value.hour 0 23 0) ++ [58] ++
  zeroPadded 2 (clampMember value.minute 0 59 0) ++ [58] ++
  zeroPadded 2 (clampMember value.second 0 59 0) ++ [46] ++
  zeroPadded 6 (clampMember value.microsecond 0 999999 0)

def bindTimestamp (malloc : Nat → Bool) (value : Option Timestamp)
    (param : BoundParam) : Status × BoundParam :=
  match value with
  | none => bindNull .string param
  | some value =>
      if value.isNull then bindNull .string param
      else setParamString malloc value.text param

/-- `sqli_sblob_t`, as far as a bind call looks at it. -/
structure SblobHandle where
  type : Int32
  locator : List UInt8
  deriving DecidableEq, Repr

def typeClob : UInt8 := 101

/-- A NULL locator takes its kind from the described parameter. The old value
is released before the locator is checked. -/
def bindSblob (malloc : Nat → Bool) (serverType : Option UInt8)
    (lob : Option SblobHandle) (param : BoundParam) : Status × BoundParam :=
  match lob with
  | none =>
      (.ok, { param.release with
        type := .sblob
        ival := if serverType = some typeClob then sblobClob else sblobBlob
        isNull := true })
  | some lob =>
      if lob.locator = [] ∨ sblobLocatorMax < lob.locator.length then
        (.invalidState, param.release)
      else if malloc lob.locator.length then
        (.ok, { param.release with
          bval := some lob.locator, ival := lob.type, type := .sblob })
      else (.allocFail, param.release)

/-! Bind calls on a statement. -/

structure Statement where
  stmtId : Int32
  statementType : Nat
  columnCount : Nat
  params : List BoundParam
  serverTypes : List UInt8

/-- The text binders and `sqli_bind_bool` store a string. -/
inductive BindCall where
  | int (value : Int32)
  | int64 (value : Int64)
  | double (value : UInt64)
  | string (value : List UInt8)
  | bool (value : Bool)
  | bytes (value : List UInt8)
  | date (value : Date)
  | decimal (value : Decimal) (target : DecimalTarget)
  | datetime (value : Datetime) (target : TemporalRange)
  | interval (value : Interval) (target : TemporalRange)
      (leadingPrecision : UInt8)
  | timestamp (value : Option Timestamp)
  | null
  | nullInt
  | nullInt64
  | nullDouble
  | sblob (lob : Option SblobHandle)

/-- What a call checks before it looks at the parameter index. -/
def BindCall.precheck : BindCall → Status
  | .decimal _ target => target.check
  | _ => .ok

def BindCall.apply (malloc : Nat → Bool) (serverType : Option UInt8)
    (param : BoundParam) : BindCall → Status × BoundParam
  | .int value => bindInt value param
  | .int64 value => bindInt64 value param
  | .double value => bindDouble value param
  | .string value => setParamString malloc value param
  | .bool value => setParamString malloc (if value then [116] else [102]) param
  | .bytes value => setParamBytes malloc value param
  | .date value => bindDate value param
  | .decimal value target => bindDecimal value target param
  | .datetime value target => bindDatetime value target param
  | .interval value target leading => bindInterval value target leading param
  | .timestamp value => bindTimestamp malloc value param
  | .null => bindNull .string param
  | .nullInt => bindNull .int param
  | .nullInt64 => bindNull .bigint param
  | .nullDouble => bindNull .float param
  | .sblob lob => bindSblob malloc serverType lob param

def Statement.setParam (stmt : Statement) (index : Nat)
    (param : BoundParam) : Statement :=
  { stmt with params := stmt.params.set index param }

/-- A call on parameter `index`, behind `validate_param_index`. -/
def Statement.bind (malloc : Nat → Bool) (stmt : Statement) (index : Nat)
    (call : BindCall) : Status × Statement :=
  match call.precheck with
  | .ok =>
      match stmt.params[index]? with
      | none => (.outOfRange, stmt)
      | some param =>
          let outcome := call.apply malloc stmt.serverTypes[index]? param
          (outcome.1, stmt.setParam index outcome.2)
  | failure => (failure, stmt)

end Libsqli.Bind
