import Libsqli.Data.Bytes
import Libsqli.Temporal.Value

namespace Libsqli.Temporal

open Libsqli.Data.Bytes

/-- `sqli_date_t` -/
structure Date where
  year : Int32
  month : UInt8
  day : UInt8
  isNull : Bool
  deriving DecidableEq, Repr

def calendarFirstYear : Int32 := 1
def calendarLastYear : Int32 := 9999
def monthsPerYear : UInt8 := 12
def epochFollowingYear : Int := 1900
def dateWireSize : Nat := 4

/-- `sqli_date_validate` -/
def Date.validate (date : Date) : Status :=
  if date.isNull then .ok
  else if date.year < calendarFirstYear ∨ calendarLastYear < date.year ∨
      date.month < 1 ∨ monthsPerYear < date.month ∨ date.day < 1 then
    .outOfRange
  else if date.day.toNat ≤
      monthDays date.month.toNat date.year.toNatClampNeg then .ok
  else .outOfRange

def daysBeforeYear (year : Int) : Int :=
  (year - 1) * 365 + (year - 1).tdiv 4 - (year - 1).tdiv 100 +
    (year - 1).tdiv 400

/-- Days from 31 December 1899. -/
def Date.days (date : Date) : Int :=
  daysBeforeYear date.year.toInt + date.day.toNat - 1 +
    ((List.range' 1 (date.month.toNat - 1)).map fun month =>
      monthDays month date.year.toNatClampNeg).sum -
    (daysBeforeYear epochFollowingYear - 1)

/-- The 32-bit code; the conversion from signed days is modular. -/
def Date.code (date : Date) : Nat :=
  if date.isNull then 0x80000000 else (date.days % 2 ^ 32).toNat

/-- `sqli_date_encode_wire` -/
def encodeDate (date : Date) (capacity : Nat) : Except Status (List UInt8) :=
  match date.validate with
  | .ok =>
      if capacity < dateWireSize then .error .bufferTooSmall
      else .ok (bigEndian dateWireSize date.code)
  | failure => .error failure

theorem encodeDate_length (hencode : encodeDate date capacity = .ok bytes) :
    bytes.length = dateWireSize := by
  unfold encodeDate at hencode
  split at hencode
  · split at hencode
    · cases hencode
    · cases hencode
      exact length_bigEndian _ _
  · cases hencode

/-! Decoding. -/

def Date.null : Date := ⟨0, 0, 0, true⟩

/-- `sqli_date_set` -/
def Date.set (year month day : Int) (out : Date) : Status × Date :=
  if month < 1 ∨ 12 < month ∨ day < 1 ∨ 31 < day then (.outOfRange, out)
  else
    match (Date.mk (Int32.ofInt year) (UInt8.ofNat month.toNat)
        (UInt8.ofNat day.toNat) false).validate with
    | .ok => (.ok, ⟨Int32.ofInt year, UInt8.ofNat month.toNat,
        UInt8.ofNat day.toNat, false⟩)
    | failure => (failure, out)

/-- The binary search for the year; `fuel` bounds the distance of its ends. -/
def searchYear (ordinal : Int) : Nat → Int → Int → Int
  | 0, low, _ => low
  | fuel + 1, low, high =>
      if low < high then
        if daysBeforeYear (low + (high - low + 1) / 2) ≤ ordinal then
          searchYear ordinal fuel (low + (high - low + 1) / 2) high
        else searchYear ordinal fuel low (low + (high - low + 1) / 2 - 1)
      else low

/-- The loop over the months; what remains of `day` is counted from zero. -/
def searchMonth (year : Nat) : Nat → Nat → Nat → Nat × Nat
  | 0, month, day => (month, day)
  | fuel + 1, month, day =>
      if month < 12 ∧ monthDays month year ≤ day then
        searchMonth year fuel (month + 1) (day - monthDays month year)
      else (month, day)

def ordinalYear (ordinal : Int) : Int :=
  searchYear ordinal 9998 calendarFirstYear.toInt calendarLastYear.toInt

def ordinalMonthDay (ordinal : Int) : Nat × Nat :=
  searchMonth (ordinalYear ordinal).toNat 11 1
    (ordinal - daysBeforeYear (ordinalYear ordinal)).toNat

/-- Days from 31 December 1899 as the 32 bits say. -/
def codeDays (code : Nat) : Int :=
  if 0x7FFFFFFF < code then (code : Int) - 4294967296 else code

/-- `sqli_date_decode_wire` -/
def decodeDate (bytes : List UInt8) (out : Date) : Status × Date :=
  if bytes.length ≠ dateWireSize then (.protoError, out)
  else if natOfBytes bytes = 0x80000000 then (.ok, .null)
  else
    let ordinal := codeDays (natOfBytes bytes) +
      daysBeforeYear epochFollowingYear - 1
    if ordinal < 0 ∨ daysBeforeYear (calendarLastYear.toInt + 1) ≤ ordinal then
      (.protoError, out)
    else Date.set (ordinalYear ordinal) (ordinalMonthDay ordinal).1
      ((ordinalMonthDay ordinal).2 + 1) out

end Libsqli.Temporal
