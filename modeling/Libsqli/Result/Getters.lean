import Libsqli.Decimal.Codec
import Libsqli.Result.Navigation
import Libsqli.Temporal.Date

namespace Libsqli.Result

open Layout
open Libsqli.Data.Bytes

/-! The checked getters.  A getter is given what its output arguments hold and
returns what they hold afterwards. -/

/-- A value and the NULL flag beside it. -/
structure Cell (α : Type) where
  value : α
  isNull : Bool

def Cell.setNull (cell : Cell α) : Cell α := { cell with isNull := true }

/-- A caller's buffer, `none` for NULL, with the two sizes reported beside it. -/
structure Buffer where
  out : Option (List UInt8)
  required : Nat
  isNull : Bool

/-- The conversions of floating-point numbers, on their bit patterns. -/
structure Floats where
  ofInt64 : Int → UInt64
  ofDecimal : Decimal → Except Status UInt64
  widen : UInt32 → UInt64

/-- The formatting, LOB and character set services a string is made with; a
format yields `none` for NULL. -/
structure Services where
  malloc : Nat → Bool
  createDecimal : Bool
  formatDecimal : Decimal → Except Status (Option (List UInt8))
  formatDatetime : Datetime → Except Status (Option (List UInt8))
  formatInterval : Interval → Except Status (Option (List UInt8))
  formatDate : Temporal.Date → Except Status (Option (List UInt8))
  materialize : Nat → Except Status (List UInt8)
  convert : List UInt8 → Except Status (List UInt8)
  trimTrailingSpaces : Bool

def nullAt (result : Result) (index : Nat) : Bool :=
  match result.located.bind (·[index]?) with
  | some entry => entry.isNull
  | none => false

/-- The common start: nothing is written unless the current row has the column. -/
def readColumn (setting : Setting) (result : Result) (index : Nat) (out : α)
    (read : Column → List UInt8 → Status × α) : Status × α :=
  match currentSpan setting result index with
  | .error status => (status, out)
  | .ok (column, bytes) => read column bytes

def integerType (type : UInt8) : Bool :=
  type ∈ [typeSmallint, typeInt, typeSerial, typeBigint, typeBigserial,
    typeInt8, typeSerial8, typeBool, typeDboolean]

def decimalType (type : UInt8) : Bool := type ∈ [typeDecimal, typeMoney]

/-- `decode_boolean` -/
def decodeBoolean (bytes : List UInt8) : Except Status Bool :=
  if bytes.length ≠ 1 then .error .protoError
  else if bytes.headD 0 ∈ [0, 48, 102, 70, 110, 78] then .ok false
  else if bytes.headD 0 ∈ [1, 0xFF, 49, 116, 84, 121, 89] then .ok true
  else .error .protoError

/-- The magnitude of an INT8, in two words with the low one first. -/
def int8Magnitude (bytes : List UInt8) : Nat :=
  natOfBytes ((bytes.drop 2).take 4) +
    2 ^ 32 * natOfBytes ((bytes.drop 6).take 4)

def decodeInt8 (bytes : List UInt8) : Except Status Int :=
  if bytes.length ≠ 10 then .error .protoError
  else if natOfBytes (bytes.take 2) = 1 then
    if 9223372036854775807 < int8Magnitude bytes then .error .outOfRange
    else .ok (int8Magnitude bytes)
  else if natOfBytes (bytes.take 2) = 0xFFFF then
    if 9223372036854775808 < int8Magnitude bytes then .error .outOfRange
    else .ok (-int8Magnitude bytes)
  else .error .protoError

def integerWidth (type : UInt8) : Nat :=
  if type = typeSmallint then 2
  else if type ∈ [typeBigint, typeBigserial] then 8
  else 4

/-- `decode_integer` -/
def decodeInteger (type : UInt8) (bytes : List UInt8) : Except Status Int :=
  if type ∈ [typeBool, typeDboolean] then
    (decodeBoolean bytes).map fun value => if value then 1 else 0
  else if type ∈ [typeInt8, typeSerial8] then decodeInt8 bytes
  else if bytes.length ≠ integerWidth type then .error .protoError
  else .ok ((natOfBytes bytes : Int).bmod (2 ^ (8 * bytes.length)))

/-- `sqli_result_get_decimal` -/
def getDecimal (setting : Setting) (malloc : Nat → Bool) (result : Result)
    (index : Nat) (out : Decimal) : Status × Decimal :=
  readColumn setting result index out fun column bytes =>
    if decimalType column.type = false then (.typeMismatch, out)
    else if 0xFFFF < column.encodedLength.toNat then (.protoError, out)
    else Decimal.decodeWire malloc bytes column.encodedLength.toUInt16 out

/-- `sqli_result_get_date` -/
def getDate (setting : Setting) (result : Result) (index : Nat)
    (out : Temporal.Date) : Status × Temporal.Date :=
  readColumn setting result index out fun column bytes =>
    if column.type ≠ typeDate then (.typeMismatch, out)
    else if column.encodedLength.toNat ≠ Temporal.dateWireSize then
      (.protoError, out)
    else Temporal.decodeDate bytes out

/-- `sqli_result_get_datetime` -/
def getDatetime (setting : Setting) (result : Result) (index : Nat)
    (out : Datetime) : Status × Datetime :=
  readColumn setting result index out fun column bytes =>
    if column.type ≠ typeDatetime then (.typeMismatch, out)
    else if 0xFFFF < column.encodedLength.toNat then (.protoError, out)
    else Temporal.decodeDatetime bytes column.encodedLength.toUInt16 out

/-- `sqli_result_get_interval` -/
def getInterval (setting : Setting) (result : Result) (index : Nat)
    (out : Interval) : Status × Interval :=
  readColumn setting result index out fun column bytes =>
    if column.type ≠ typeInterval then (.typeMismatch, out)
    else if 0xFFFF < column.encodedLength.toNat then (.protoError, out)
    else Temporal.decodeInterval bytes column.encodedLength.toUInt16 out

/-- `decimal_integer` -/
def decimalInteger (setting : Setting) (services : Services) (result : Result)
    (index : Nat) : Except Status Int :=
  if services.createDecimal = false then .error .allocFail
  else
    match getDecimal setting services.malloc result index .null with
    | (.ok, value) => value.toI64
    | (status, _) => .error status

/-- The scalar getters end alike: a value is written with the flag cleared. -/
def Cell.store (cell : Cell α) : Except Status α → Status × Cell α
  | .ok value => (.ok, ⟨value, false⟩)
  | .error status => (status, cell)

/-- `sqli_result_get_int64` -/
def getInt64 (setting : Setting) (services : Services) (result : Result)
    (index : Nat) (out : Cell Int) : Status × Cell Int :=
  readColumn setting result index out fun column bytes =>
    if integerType column.type = false ∧ decimalType column.type = false then
      (.typeMismatch, out)
    else if result.nullAt index then (.ok, out.setNull)
    else if decimalType column.type then
      out.store (decimalInteger setting services result index)
    else out.store (decodeInteger column.type bytes)

/-- `sqli_result_get_int`, through a 64-bit value of its own. -/
def getInt (setting : Setting) (services : Services) (result : Result)
    (index : Nat) (out : Cell Int) : Status × Cell Int :=
  match getInt64 setting services result index ⟨0, false⟩ with
  | (.ok, cell) =>
      if cell.isNull then (.ok, out.setNull)
      else if cell.value < -2147483648 ∨ int32Max < cell.value then
        (.outOfRange, out)
      else (.ok, cell)
  | (status, _) => (status, out)

/-- `isfinite` on the bit pattern of a binary64 number. -/
def isFinite (bits : UInt64) : Bool := (bits >>> 52) &&& 0x7FF != 0x7FF

/-- The number before it is checked to be finite. -/
def decodeDouble (setting : Setting) (services : Services) (floats : Floats)
    (result : Result) (index : Nat) (column : Column) (bytes : List UInt8) :
    Except Status UInt64 :=
  if integerType column.type then
    (decodeInteger column.type bytes).map floats.ofInt64
  else if decimalType column.type then
    if services.createDecimal = false then .error .allocFail
    else
      match getDecimal setting services.malloc result index .null with
      | (.ok, value) => floats.ofDecimal value
      | (status, _) => .error status
  else if column.type = typeFloat ∧ bytes.length = 8 then
    .ok (UInt64.ofNat (natOfBytes bytes))
  else if column.type = typeSmfloat ∧ bytes.length = 4 then
    .ok (floats.widen (UInt32.ofNat (natOfBytes bytes)))
  else .error .protoError

/-- `sqli_result_get_double` -/
def getDouble (setting : Setting) (services : Services) (floats : Floats)
    (result : Result) (index : Nat) (out : Cell UInt64) :
    Status × Cell UInt64 :=
  readColumn setting result index out fun column bytes =>
    if integerType column.type = false ∧ decimalType column.type = false ∧
        column.type ≠ typeFloat ∧ column.type ≠ typeSmfloat then
      (.typeMismatch, out)
    else if result.nullAt index then (.ok, out.setNull)
    else
      match decodeDouble setting services floats result index column bytes with
      | .error status => (status, out)
      | .ok bits =>
          if isFinite bits then (.ok, ⟨bits, false⟩) else (.outOfRange, out)

/-- `sqli_result_get_bool` -/
def getBool (setting : Setting) (result : Result) (index : Nat)
    (out : Cell Bool) : Status × Cell Bool :=
  readColumn setting result index out fun column bytes =>
    if column.type ∉ [typeBool, typeDboolean] then (.typeMismatch, out)
    else if result.nullAt index then (.ok, out.setNull)
    else out.store (decodeBoolean bytes)

/-- `copy_result_buffer`; NULL is given without data. -/
def copyResultBuffer (data : Option (List UInt8)) (text : Bool)
    (buffer : Buffer) : Status × Buffer :=
  match data with
  | none => (.ok, { buffer with required := 0, isNull := true })
  | some bytes =>
      let written := if text then bytes ++ [0] else bytes
      if text ∧ 2 ^ 64 ≤ bytes.length + 1 then (.limitExceeded, buffer)
      else
        match buffer.out with
        | none => (.ok, ⟨none, written.length, false⟩)
        | some old =>
            if old.length < written.length then
              (.bufferTooSmall, ⟨some old, written.length, false⟩)
            else (.ok, ⟨some (written ++ old.drop written.length),
              written.length, false⟩)

/-- The first `T` of a temporal text separates date and time. -/
def replaceSeparator (text : List UInt8) : List UInt8 :=
  match text.idxOf? 84 with
  | none => text
  | some index => text.set index 32

def trimSpaces (bytes : List UInt8) : List UInt8 := bytes.rdropWhile (· == 32)

/-- Reads into an object of the getter's own and formats it. -/
def formatted (read : Status × α)
    (format : α → Except Status (Option (List UInt8))) :
    Except Status (Option (List UInt8)) :=
  match read with
  | (.ok, value) => format value
  | (status, _) => .error status

/-- The text of a column that is not NULL. -/
def columnText (setting : Setting) (services : Services) (result : Result)
    (index : Nat) (column : Column) (bytes : List UInt8) :
    Except Status (Option (List UInt8)) :=
  if decimalType column.type then
    if services.createDecimal = false then .error .allocFail
    else formatted (getDecimal setting services.malloc result index .null)
      services.formatDecimal
  else if column.type = typeDatetime then
    (formatted (getDatetime setting result index .create)
      services.formatDatetime).map (·.map replaceSeparator)
  else if column.type = typeInterval then
    (formatted (getInterval setting result index .create)
      services.formatInterval).map (·.map replaceSeparator)
  else if column.type = typeDate then
    formatted (getDate setting result index .null) services.formatDate
  else if column.type ∈ [typeByte, typeText] then
    (services.materialize index >>= services.convert).map some
  else if isStringyType column.type = false then .error .typeMismatch
  else (services.convert
    (if services.trimTrailingSpaces then trimSpaces bytes else bytes)).map some

/-- `sqli_result_get_string_len` -/
def getStringLen (setting : Setting) (services : Services) (result : Result)
    (index : Nat) (out : Buffer) : Status × Buffer :=
  readColumn setting result index out fun column bytes =>
    if result.nullAt index then copyResultBuffer none true out
    else
      match columnText setting services result index column bytes with
      | .error status => (status, out)
      | .ok text => copyResultBuffer text true out

/-- `sqli_result_get_bytes` -/
def getBytes (setting : Setting) (services : Services) (result : Result)
    (index : Nat) (out : Buffer) : Status × Buffer :=
  readColumn setting result index out fun column bytes =>
    if result.nullAt index then copyResultBuffer none false out
    else if column.type ∈ [typeByte, typeText, typeBlob, typeClob] then
      match services.materialize index with
      | .error status => (status, out)
      | .ok lob => copyResultBuffer (some lob) false out
    else copyResultBuffer (some bytes) false out

theorem readColumn_error {out : α}
    {read : Column → List UInt8 → Status × α}
    (herror : currentSpan setting result index = .error status) :
    readColumn setting result index out read = (status, out) := by
  simp [readColumn, herror]

/-- An error, with nothing written. -/
def Refuses (returned : Status × α) (out : α) : Prop :=
  returned.1 ≠ .ok ∧ returned.2 = out

/-- No checked getter returns anything of a column. -/
structure GettersRefuse (setting : Setting) (result : Result) : Prop where
  int : ∀ services index out,
    Refuses (getInt setting services result index out) out
  int64 : ∀ services index out,
    Refuses (getInt64 setting services result index out) out
  double : ∀ services floats index out,
    Refuses (getDouble setting services floats result index out) out
  bool : ∀ index out, Refuses (getBool setting result index out) out
  decimal : ∀ malloc index out,
    Refuses (getDecimal setting malloc result index out) out
  date : ∀ index out, Refuses (getDate setting result index out) out
  datetime : ∀ index out, Refuses (getDatetime setting result index out) out
  interval : ∀ index out, Refuses (getInterval setting result index out) out
  stringLen : ∀ services index out,
    Refuses (getStringLen setting services result index out) out
  bytes : ∀ services index out,
    Refuses (getBytes setting services result index out) out

/-- Every getter starts with the span of the current row. -/
theorem gettersRefuse_of_error {setting : Setting} {result : Result}
    (hspan : ∀ index, ∃ status, status ≠ .ok ∧
      currentSpan setting result index = .error status) :
    GettersRefuse setting result := by
  have hread {α : Type} (index : Nat) (out : α)
      (read : Column → List UInt8 → Status × α) :
      Refuses (readColumn setting result index out read) out := by
    obtain ⟨status, hstatus, herror⟩ := hspan index
    rw [readColumn_error herror]
    exact ⟨hstatus, rfl⟩
  refine ⟨fun services index out => ?_, fun _ _ _ => hread _ _ _,
    fun _ _ _ _ => hread _ _ _, fun _ _ => hread _ _ _,
    fun _ _ _ => hread _ _ _, fun _ _ => hread _ _ _, fun _ _ => hread _ _ _,
    fun _ _ => hread _ _ _, fun _ _ _ => hread _ _ _,
    fun _ _ _ => hread _ _ _⟩
  obtain ⟨status, hstatus, herror⟩ := hspan index
  unfold getInt getInt64
  rw [readColumn_error herror]
  cases status
  case ok => exact absurd rfl hstatus
  all_goals exact ⟨hstatus, rfl⟩

end Libsqli.Result
