import Libsqli.Status
import Mathlib.Algebra.Group.Nat.Defs
import Mathlib.Data.Nat.Basic
import Mathlib.Tactic.Common

namespace Libsqli.Temporal

/-! Field codes of `sqli_temporal_field_t`.  Callers may pass any code, so a code
is a number and `validate_range` rejects the ones that name no field. -/

abbrev fieldUnknown : Nat := 0
abbrev fieldYear : Nat := 1
abbrev fieldMonth : Nat := 2
abbrev fieldDay : Nat := 3
abbrev fieldHour : Nat := 4
abbrev fieldMinute : Nat := 5
abbrev fieldSecond : Nat := 6
abbrev fieldFraction : Nat := 7

def nanosecondsPerSecond : Nat := 1000000000

/-- `sqli_temporal_range_t` -/
structure TemporalRange where
  first : Nat
  last : Nat
  fractionalDigits : Nat
  deriving DecidableEq, Repr

/-- `struct temporal_fields` -/
structure TemporalFields where
  range : TemporalRange
  integral : Nat → Nat
  nanosecond : Nat
  negative : Bool
  isNull : Bool

/-- The integral fields by code; every other slot of the array is zero. -/
def fieldTable (year month day hour minute second : Nat) : Nat → Nat
  | 1 => year
  | 2 => month
  | 3 => day
  | 4 => hour
  | 5 => minute
  | 6 => second
  | _ => 0

def leapYear (year : Nat) : Bool :=
  year % 4 == 0 && (year % 100 != 0 || year % 400 == 0)

def daysPerMonth : List Nat := [31, 28, 31, 30, 31, 30, 31, 31, 30, 31, 30, 31]

/-- `month_days`; year zero is an absent year. -/
def monthDays (month year : Nat) : Nat :=
  if month = 2 ∧ (year = 0 ∨ leapYear year) then 29
  else daysPerMonth.getD (month - 1) 0

/-- `validate_range` -/
def validateRange (range : TemporalRange) (interval allowUnknown : Bool) :
    Status :=
  if range.first = fieldUnknown ∧ range.last = fieldUnknown ∧
      range.fractionalDigits = 0 then
    if allowUnknown then .ok else .invalidArgument
  else if range.first < fieldYear ∨ fieldFraction < range.last ∨
      range.last < range.first then .invalidArgument
  else if interval ∧ range.first ≤ fieldMonth ∧ fieldMonth < range.last then
    .invalidArgument
  else if range.last = fieldFraction then
    if range.fractionalDigits = 0 ∨ 9 < range.fractionalDigits then
      .invalidArgument
    else .ok
  else if range.fractionalDigits ≠ 0 then .invalidArgument
  else .ok

def fieldMinimum (interval : Bool) (field : Nat) : Nat :=
  if !interval ∧ field ≤ fieldDay then 1 else 0

def fieldMaximum (interval : Bool) (field : Nat) : Nat :=
  match field with
  | 1 => 9999
  | 2 => if interval then 11 else 12
  | 3 => 31
  | 4 => 23
  | _ => 59

/-- One round of the loop over the integral fields. -/
def validateField (fields : TemporalFields) (interval : Bool) (field : Nat) :
    Status :=
  let magnitude := fields.integral field
  if field < fields.range.first ∨ fields.range.last < field then
    if magnitude ≠ 0 then .invalidArgument else .ok
  else if interval ∧ field = fields.range.first then .ok
  else if magnitude < fieldMinimum interval field ∨
      fieldMaximum interval field < magnitude then .outOfRange
  else .ok

def integralFields : List Nat :=
  [fieldYear, fieldMonth, fieldDay, fieldHour, fieldMinute, fieldSecond]

def validateDay (fields : TemporalFields) (interval : Bool) : Status :=
  if !interval ∧ fields.integral fieldMonth ≠ 0 ∧
      fields.integral fieldDay ≠ 0 ∧
      monthDays (fields.integral fieldMonth) (fields.integral fieldYear) <
        fields.integral fieldDay then .outOfRange
  else .ok

def validateNanosecond (fields : TemporalFields) : Status :=
  if fields.range.last ≠ fieldFraction then
    if fields.nanosecond = 0 then .ok else .invalidArgument
  else if nanosecondsPerSecond ≤ fields.nanosecond then .outOfRange
  else if fields.nanosecond % 10 ^ (9 - fields.range.fractionalDigits) ≠ 0 then
    .inexact
  else .ok

/-- The first status that is not success. -/
def firstFailure : List Status → Status
  | [] => .ok
  | .ok :: rest => firstFailure rest
  | failure :: _ => failure

/-- `validate_fields` -/
def validateFields (fields : TemporalFields) (interval : Bool) : Status :=
  match validateRange fields.range interval fields.isNull with
  | .ok =>
      if fields.isNull then .ok
      else firstFailure (integralFields.map (validateField fields interval) ++
        [validateDay fields interval, validateNanosecond fields])
  | failure => failure

theorem firstFailure_ok_iff (checks : List Status) :
    firstFailure checks = .ok ↔ ∀ check ∈ checks, check = .ok := by
  induction checks with
  | nil => simp [firstFailure]
  | cons check rest ih =>
      cases check <;> simp [firstFailure, ih]

/-- What validation establishes about the fields of a value that is not NULL. -/
structure TemporalFields.Valid (fields : TemporalFields) (interval : Bool) :
    Prop where
  range_ok : validateRange fields.range interval false = .ok
  fields_ok : ∀ field ∈ integralFields,
    validateField fields interval field = .ok
  day_ok : validateDay fields interval = .ok
  nanosecond_ok : validateNanosecond fields = .ok

theorem validateFields_ok_iff {fields : TemporalFields}
    (hnull : fields.isNull = false) :
    validateFields fields interval = .ok ↔ fields.Valid interval := by
  unfold validateFields
  rw [hnull]
  constructor
  · intro hok
    cases hrange : validateRange fields.range interval false <;>
      simp only [hrange, reduceCtorEq] at hok
    have hall := (firstFailure_ok_iff _).mp hok
    refine ⟨hrange, ?_, hall _ (by simp), hall _ (by simp)⟩
    intro field member
    exact hall _ (List.mem_append_left _ (List.mem_map_of_mem member))
  · intro hvalid
    rw [hvalid.range_ok]
    simp only [Bool.false_eq_true, if_false]
    rw [firstFailure_ok_iff]
    intro check member
    rcases List.mem_append.mp member with member | member
    · obtain ⟨field, hfield, rfl⟩ := List.mem_map.mp member
      exact hvalid.fields_ok field hfield
    · rcases List.mem_cons.mp member with rfl | member
      · exact hvalid.day_ok
      · rw [List.mem_singleton.mp member]
        exact hvalid.nanosecond_ok

theorem validateRange_unknown_allowed
    (hok : validateRange range interval false = .ok) :
    validateRange range interval true = .ok := by
  unfold validateRange at hok ⊢
  split
  · rfl
  · rename_i hknown
    rwa [if_neg hknown] at hok

theorem validateRange_null
    (hok : validateFields fields interval = .ok) :
    validateRange fields.range interval true = .ok := by
  unfold validateFields at hok
  cases hrange : validateRange fields.range interval fields.isNull <;>
    simp only [hrange, reduceCtorEq] at hok
  cases hnull : fields.isNull with
  | true => rwa [hnull] at hrange
  | false =>
      rw [hnull] at hrange
      exact validateRange_unknown_allowed hrange

/-! DATETIME objects. -/

/-- `sqli_datetime_parts_t` -/
structure DatetimeParts where
  range : TemporalRange
  year : Int32
  month : UInt8
  day : UInt8
  hour : UInt8
  minute : UInt8
  second : UInt8
  nanosecond : UInt32
  isNull : Bool
  deriving DecidableEq

/-- `datetime_fields` -/
def DatetimeParts.fields (parts : DatetimeParts) : TemporalFields where
  range := parts.range
  integral := fieldTable parts.year.toNatClampNeg parts.month.toNat
    parts.day.toNat parts.hour.toNat parts.minute.toNat parts.second.toNat
  nanosecond := parts.nanosecond.toNat
  negative := false
  isNull := parts.isNull

/-- The same fields under another range. -/
def DatetimeParts.withRange (parts : DatetimeParts) (range : TemporalRange) :
    DatetimeParts := { parts with range }

def nullDatetimeParts (range : TemporalRange) : DatetimeParts :=
  ⟨range, 0, 0, 0, 0, 0, 0, 0, true⟩

structure DatetimeParts.Valid (parts : DatetimeParts) : Prop where
  year_nonnegative : 0 ≤ parts.year
  fields_ok : validateFields parts.fields false = .ok
  null_cleared : parts.isNull = true → parts = nullDatetimeParts parts.range

end Temporal

/-- `struct sqli_datetime` -/
structure Datetime where
  parts : Temporal.DatetimeParts
  valid : parts.Valid

namespace Datetime

open Temporal

def null (range : TemporalRange)
    (hrange : validateRange range false true = .ok) : Datetime where
  parts := nullDatetimeParts range
  valid := by
    refine ⟨Int32.le_refl 0, ?_, fun _ => rfl⟩
    simp [validateFields, DatetimeParts.fields, nullDatetimeParts, hrange]

/-- `sqli_datetime_create` -/
def create : Datetime := null ⟨fieldUnknown, fieldUnknown, 0⟩ rfl

/-- `sqli_datetime_set_null` -/
def setNull (value : Datetime) : Status × Datetime :=
  (.ok, null value.parts.range (validateRange_null value.valid.fields_ok))

/-- `sqli_datetime_copy` -/
def copy (source _destination : Datetime) : Status × Datetime := (.ok, source)

/-- `sqli_datetime_set_parts` -/
def setParts (parts : DatetimeParts) (value : Datetime) : Status × Datetime :=
  if hyear : !parts.isNull ∧ parts.year < 0 then (.outOfRange, value)
  else if hstatus : validateFields parts.fields false = .ok then
    if hnull : parts.isNull then
      (.ok, null parts.range (validateRange_null hstatus))
    else
      (.ok, ⟨parts, by
        rw [Bool.not_eq_true] at hnull
        refine ⟨?_, hstatus, by simp [hnull]⟩
        rw [hnull] at hyear
        simpa using hyear⟩)
  else (validateFields parts.fields false, value)

/-- `set_parts` stores the parts, cleared when NULL, or changes nothing. -/
theorem setParts_cases (parts : DatetimeParts) (value : Datetime) :
    (∃ out, value.setParts parts = (.ok, out) ∧
      out.parts = if parts.isNull then nullDatetimeParts parts.range
        else parts) ∨
    (∃ status, status ≠ .ok ∧ value.setParts parts = (status, value)) := by
  unfold setParts
  split
  · exact .inr ⟨_, by decide, rfl⟩
  split
  · split <;> exact .inl ⟨_, rfl, rfl⟩
  · rename_i hstatus
    exact .inr ⟨_, hstatus, rfl⟩

theorem setParts_parts {parts : DatetimeParts} {value out : Datetime}
    (hset : value.setParts parts = (.ok, out)) :
    out.parts = if parts.isNull then nullDatetimeParts parts.range
      else parts := by
  rcases value.setParts_cases parts with
    ⟨other, hother, hparts⟩ | ⟨status, hfailed, hother⟩
  · obtain rfl : other = out := (Prod.mk.inj (hother.symm.trans hset)).2
    exact hparts
  · exact absurd (Prod.mk.inj (hother.symm.trans hset)).1 hfailed

theorem setParts_unchanged {parts : DatetimeParts} {value : Datetime}
    (hfailed : (value.setParts parts).1 ≠ .ok) :
    (value.setParts parts).2 = value := by
  rcases value.setParts_cases parts with ⟨out, hset, -⟩ | ⟨status, -, hset⟩
  · rw [hset] at hfailed
    exact absurd rfl hfailed
  · rw [hset]

theorem setParts_valid {parts : DatetimeParts} (value : Datetime)
    (hyear : 0 ≤ parts.year)
    (hvalid : validateFields parts.fields false = .ok) :
    ∃ out, value.setParts parts = (.ok, out) := by
  have hnonnegative : ¬ (!parts.isNull ∧ parts.year < 0) :=
    fun hnegative => Int32.not_lt.mpr hyear hnegative.2
  rw [setParts, dif_neg hnonnegative, dif_pos hvalid]
  split <;> exact ⟨_, rfl⟩

end Datetime

/-! INTERVAL objects. -/

namespace Temporal

/-- `sqli_interval_parts_t` -/
structure IntervalParts where
  range : TemporalRange
  years : UInt64
  months : UInt64
  days : UInt64
  hours : UInt64
  minutes : UInt64
  seconds : UInt64
  nanosecond : UInt32
  negative : Bool
  isNull : Bool
  deriving DecidableEq

/-- `interval_fields` -/
def IntervalParts.fields (parts : IntervalParts) : TemporalFields where
  range := parts.range
  integral := fieldTable parts.years.toNat parts.months.toNat
    parts.days.toNat parts.hours.toNat parts.minutes.toNat parts.seconds.toNat
  nanosecond := parts.nanosecond.toNat
  negative := parts.negative
  isNull := parts.isNull

/-- The same fields under another range. -/
def IntervalParts.withRange (parts : IntervalParts) (range : TemporalRange) :
    IntervalParts := { parts with range }

def nullIntervalParts (range : TemporalRange) : IntervalParts :=
  ⟨range, 0, 0, 0, 0, 0, 0, 0, false, true⟩

/-- Every magnitude is zero, so the value has no sign. -/
def TemporalFields.isZero (fields : TemporalFields) : Bool :=
  fields.nanosecond == 0 && integralFields.all (fields.integral · == 0)

/-- A zero value has no sign. -/
def IntervalParts.normalizeSign (parts : IntervalParts) : IntervalParts :=
  { parts with negative := parts.negative && !parts.fields.isZero }

theorem IntervalParts.normalizeSign_of_sign {parts : IntervalParts}
    (hsign : parts.fields.isZero = true → parts.negative = false) :
    parts.normalizeSign = parts := by
  have hsame : (parts.negative && !parts.fields.isZero) = parts.negative := by
    cases hzero : parts.fields.isZero with
    | false => simp
    | true => simp [hsign hzero]
  rw [normalizeSign, hsame]

structure IntervalParts.Valid (parts : IntervalParts) : Prop where
  fields_ok : validateFields parts.fields true = .ok
  zero_nonnegative : parts.fields.isZero = true → parts.negative = false
  null_cleared : parts.isNull = true → parts = nullIntervalParts parts.range

end Temporal

/-- `struct sqli_interval` -/
structure Interval where
  parts : Temporal.IntervalParts
  valid : parts.Valid

namespace Interval

open Temporal

def null (range : TemporalRange)
    (hrange : validateRange range true true = .ok) : Interval where
  parts := nullIntervalParts range
  valid := by
    refine ⟨?_, fun _ => rfl, fun _ => rfl⟩
    simp [validateFields, IntervalParts.fields, nullIntervalParts, hrange]

/-- `sqli_interval_create` -/
def create : Interval := null ⟨fieldUnknown, fieldUnknown, 0⟩ rfl

/-- `sqli_interval_set_null` -/
def setNull (value : Interval) : Status × Interval :=
  (.ok, null value.parts.range (validateRange_null value.valid.fields_ok))

/-- `sqli_interval_copy` -/
def copy (source _destination : Interval) : Status × Interval := (.ok, source)

/-- `sqli_interval_set_parts` -/
def setParts (parts : IntervalParts) (value : Interval) : Status × Interval :=
  if hstatus : validateFields parts.fields true = .ok then
    if hnull : parts.isNull then
      (.ok, null parts.range (validateRange_null hstatus))
    else
      (.ok,
        { parts := parts.normalizeSign
          valid := by
            refine ⟨hstatus, fun hzero => ?_, fun hset => absurd hset hnull⟩
            have hsame : parts.fields.isZero = true := hzero
            simp [IntervalParts.normalizeSign, hsame] })
  else (validateFields parts.fields true, value)

/-- `set_parts` stores the parts, cleared when NULL and unsigned when zero, or
changes nothing. -/
theorem setParts_cases (parts : IntervalParts) (value : Interval) :
    (∃ out, value.setParts parts = (.ok, out) ∧
      out.parts = if parts.isNull then nullIntervalParts parts.range
        else parts.normalizeSign) ∨
    (∃ status, status ≠ .ok ∧ value.setParts parts = (status, value)) := by
  unfold setParts
  split
  · split <;> exact .inl ⟨_, rfl, rfl⟩
  · rename_i hstatus
    exact .inr ⟨_, hstatus, rfl⟩

theorem setParts_parts {parts : IntervalParts} {value out : Interval}
    (hset : value.setParts parts = (.ok, out)) :
    out.parts = if parts.isNull then nullIntervalParts parts.range
      else parts.normalizeSign := by
  rcases value.setParts_cases parts with
    ⟨other, hother, hparts⟩ | ⟨status, hfailed, hother⟩
  · obtain rfl : other = out := (Prod.mk.inj (hother.symm.trans hset)).2
    exact hparts
  · exact absurd (Prod.mk.inj (hother.symm.trans hset)).1 hfailed

theorem setParts_unchanged {parts : IntervalParts} {value : Interval}
    (hfailed : (value.setParts parts).1 ≠ .ok) :
    (value.setParts parts).2 = value := by
  rcases value.setParts_cases parts with ⟨out, hset, -⟩ | ⟨status, -, hset⟩
  · rw [hset] at hfailed
    exact absurd rfl hfailed
  · rw [hset]

theorem setParts_valid {parts : IntervalParts} (value : Interval)
    (hvalid : validateFields parts.fields true = .ok) :
    ∃ out, value.setParts parts = (.ok, out) := by
  rw [setParts, dif_pos hvalid]
  split <;> exact ⟨_, rfl⟩

end Interval

end Libsqli
