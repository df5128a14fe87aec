import Libsqli.Temporal.DateCodec
import Libsqli.Temporal.Formatted

namespace Libsqli

open Temporal
open Libsqli.Data.Numeral

namespace Temporal

variable {interval : Bool} {fields : TemporalFields} {date : Date}

/-! Valid objects hold fields that some text denotes. -/

theorem validateNanosecond_fraction
    (hnanosecond : validateNanosecond fields = .ok)
    (hlast : fields.range.last = fieldFraction) :
    fields.nanosecond < nanosecondsPerSecond ∧
      fields.nanosecond % 10 ^ (9 - fields.range.fractionalDigits) = 0 := by
  rw [validateNanosecond, if_neg (not_not.mpr hlast)] at hnanosecond
  split at hnanosecond
  · cases hnanosecond
  · rename_i hlt
    split at hnanosecond
    · cases hnanosecond
    · rename_i hexact
      exact ⟨by omega, not_not.mp hexact⟩

theorem validateNanosecond_whole
    (hnanosecond : validateNanosecond fields = .ok)
    (hlast : fields.range.last ≠ fieldFraction) : fields.nanosecond = 0 := by
  rw [validateNanosecond, if_pos hlast] at hnanosecond
  by_contra hsome
  rw [if_neg hsome] at hnanosecond
  cases hnanosecond

theorem parsed_of_valid (hvalid : validateFields fields interval = .ok)
    (hnull : fields.isNull = false)
    (hunsigned : interval = false → fields.negative = false)
    (houtside : ∀ field, field ∉ integralFields → fields.integral field = 0)
    (huint64 : ∀ field, fields.integral field ≤ uint64Max) :
    Parsed fields.range interval fields := by
  have hchecked := (validateFields_ok_iff hnull).mp hvalid
  refine ⟨⟨rfl, hnull, fun field hfield => ?_,
    validateNanosecond_whole hchecked.nanosecond_ok,
    validateNanosecond_fraction hchecked.nanosecond_ok⟩, hvalid, hunsigned,
    huint64, validateRange_ok_iff.mp hchecked.range_ok⟩
  by_cases hmember : field ∈ integralFields
  · refine hchecked.outside hmember ?_
    rcases hfield with hfield | rfl
    · rw [TemporalRange.mem_fields] at hfield
      omega
    · exact absurd hmember (by decide)
  · exact houtside field hmember

theorem fieldTable_le {bound : Nat} (hyear : year ≤ bound)
    (hmonth : month ≤ bound) (hday : day ≤ bound) (hhour : hour ≤ bound)
    (hminute : minute ≤ bound) (hsecond : second ≤ bound) (field : Nat) :
    fieldTable year month day hour minute second field ≤ bound := by
  match field with
  | 0 => exact Nat.zero_le _
  | 1 => exact hyear
  | 2 => exact hmonth
  | 3 => exact hday
  | 4 => exact hhour
  | 5 => exact hminute
  | 6 => exact hsecond
  | _ + 7 => exact Nat.zero_le _

theorem uint8_le_uint64Max (byte : UInt8) : byte.toNat ≤ uint64Max := by
  have hlt := byte.toNat_lt
  have hmax : 2 ^ 8 ≤ uint64Max := by decide
  omega

theorem int32_le_uint64Max (value : Int32) :
    value.toNatClampNeg ≤ uint64Max := by
  have hlt := value.toNatClampNeg_lt
  have hmax : 2 ^ 31 ≤ uint64Max := by decide
  omega

theorem uint64_le_uint64Max (value : UInt64) : value.toNat ≤ uint64Max := by
  have hlt := value.toNat_lt
  simp only [uint64Max]
  omega

theorem datetime_parsed (value : Datetime) (hnull : value.parts.isNull = false) :
    Parsed value.parts.range false value.parts.fields :=
  parsed_of_valid value.valid.fields_ok hnull (fun _ => rfl)
    value.parts.fields_table (fieldTable_le (int32_le_uint64Max _)
      (uint8_le_uint64Max _) (uint8_le_uint64Max _) (uint8_le_uint64Max _)
      (uint8_le_uint64Max _) (uint8_le_uint64Max _))

theorem interval_parsed (value : Interval) (hnull : value.parts.isNull = false) :
    Parsed value.parts.range true value.parts.fields :=
  parsed_of_valid value.valid.fields_ok hnull (by simp)
    value.parts.fields_table (fieldTable_le (uint64_le_uint64Max _)
      (uint64_le_uint64Max _) (uint64_le_uint64Max _) (uint64_le_uint64Max _)
      (uint64_le_uint64Max _) (uint64_le_uint64Max _))

/-- A valid date is within the limits of YEAR TO DAY. -/
theorem date_parsed (hvalid : date.validate = .ok)
    (hnull : date.isNull = false) :
    Parsed ⟨fieldYear, fieldDay, 0⟩ false date.fields := by
  have hday := ((Date.validate_ok_iff date).mp hvalid).resolve_left
    (by simp [hnull])
  have hknown : (TemporalRange.mk fieldYear fieldDay 0).Known false :=
    validateRange_ok_iff.mp (by decide)
  have htable : date.fields.integral = fieldTable date.year.toNatClampNeg
      date.month.toNat date.day.toNat 0 0 0 := by
    simp [Date.fields, hnull]
  have hspelled : Spelled ⟨fieldYear, fieldDay, 0⟩ date.fields := by
    refine ⟨rfl, hnull, fun field hfield => ?_, fun _ => rfl, by simp⟩
    rw [htable]
    match field with
    | 0 => rfl
    | 1 | 2 | 3 => exact absurd hfield (by decide)
    | 4 | 5 | 6 => rfl
    | _ + 7 => rfl
  refine ⟨hspelled, (validateFields_spelled hknown hspelled).mpr ⟨?_, ?_⟩,
    fun _ => rfl, ?_, hknown⟩
  · intro field member hfirst hlast _
    have hmonthDays := monthDays_le date.month.toNat date.year.toNatClampNeg
    obtain ⟨hyear, hyears, hmonth, hmonths, hone, hdays⟩ := hday
    simp only [Date.calendarDay, lastYear]
      at hyear hyears hmonth hmonths hone hdays
    rw [htable]
    have hcases : field = 1 ∨ field = 2 ∨ field = 3 := by
      simp only [Date.fields, fieldYear, fieldDay] at hfirst hlast
      omega
    rcases hcases with rfl | rfl | rfl
    · exact ⟨hyear, hyears⟩
    · exact ⟨hmonth, hmonths⟩
    · exact ⟨hone, hdays.trans hmonthDays⟩
  · intro _ _ _
    rw [htable]
    exact hday.day_le
  · rw [htable]
    exact fieldTable_le (int32_le_uint64Max _) (uint8_le_uint64Max _)
      (uint8_le_uint64Max _) (Nat.zero_le _) (Nat.zero_le _) (Nat.zero_le _)

end Temporal

/-! The formatters of the objects. -/

/-- `sqli_datetime_format` -/
def Datetime.format (value : Datetime) (out : FormatOutputs) :
    Status × FormatOutputs :=
  formatValue value.parts.fields false false out

/-- `sqli_datetime_format_iso` -/
def Datetime.formatIso (value : Datetime) (out : FormatOutputs) :
    Status × FormatOutputs :=
  formatValue value.parts.fields false true out

/-- `sqli_interval_format` -/
def Interval.format (value : Interval) (out : FormatOutputs) :
    Status × FormatOutputs :=
  formatValue value.parts.fields true false out

namespace Temporal

variable {date : Date} {value : Datetime} {fields : TemporalFields}

/-! Parsing what was formatted. -/

theorem DatetimeParts.fields_injective {left right : DatetimeParts}
    (hleft : 0 ≤ left.year) (hright : 0 ≤ right.year)
    (hfields : left.fields = right.fields) : left = right := by
  have hrange : left.range = right.range :=
    congrArg TemporalFields.range hfields
  have hparts := datetimeParts_toWire hleft left.range
  rw [hfields, hrange, datetimeParts_toWire hright] at hparts
  exact (hparts.trans (by rw [← hrange]; rfl)).symm

theorem IntervalParts.fields_injective {left right : IntervalParts}
    (hfields : left.fields = right.fields) : left = right := by
  have hrange : left.range = right.range :=
    congrArg TemporalFields.range hfields
  have hparts := intervalParts_toWire left left.range
  rw [hfields, hrange, intervalParts_toWire] at hparts
  exact (hparts.trans (by rw [← hrange]; rfl)).symm

theorem datetime_roundTrip (value other : Datetime)
    (hnull : value.parts.isNull = false) :
    Formats value.format (value.parts.fields.text false) ∧
      other.parse (some value.parts.range) (value.parts.fields.text false)
        false = (.ok, value) := by
  have hparsed := datetime_parsed value hnull
  have hrecognizes := datetimeParse_recognizes
    (validateRange_ok_iff.mpr hparsed.known)
    (value.parts.fields.text false) other
  refine ⟨formats_of_deliver hparsed.formatValue_eq, Prod.ext
    (hrecognizes.accepts.mpr ⟨_, hparsed.writes⟩) (Datetime.eq_of_parts ?_)⟩
  exact DatetimeParts.fields_injective (Datetime.valid _).year_nonnegative
    value.valid.year_nonnegative (hrecognizes.holds _ hparsed.writes)

theorem interval_roundTrip (value other : Interval)
    (hnull : value.parts.isNull = false) :
    Formats value.format (value.parts.fields.text true) ∧
      other.parse (some value.parts.range) (value.parts.fields.text true)
        false = (.ok, value) := by
  have hparsed := interval_parsed value hnull
  have hrecognizes := intervalParse_recognizes
    (validateRange_ok_iff.mpr hparsed.known)
    (value.parts.fields.text true) other
  have hnormal : value.parts.fields = value.parts.fields.normalizeSign :=
    congrArg IntervalParts.fields (IntervalParts.normalizeSign_of_sign
      value.valid.zero_nonnegative).symm
  have hdenotes : ∃ written, Writes value.parts.range true
      (value.parts.fields.text true) written ∧
      value.parts.fields = written.normalizeSign :=
    ⟨_, hparsed.writes, hnormal⟩
  refine ⟨formats_of_deliver hparsed.formatValue_eq, Prod.ext
    (hrecognizes.accepts.mpr ⟨_, hdenotes⟩) (Interval.eq_of_parts ?_)⟩
  exact IntervalParts.fields_injective (hrecognizes.holds _ hdenotes)

/-! A complete timestamp is written as an instant. -/

/-- The digit strings of a complete timestamp. -/
def TemporalFields.timestamp (fields : TemporalFields) : Timestamp where
  year := fields.digits false fieldYear
  month := fields.digits false fieldMonth
  day := fields.digits false fieldDay
  hour := fields.digits false fieldHour
  minute := fields.digits false fieldMinute
  second := fields.digits false fieldSecond
  fraction := if fields.range.last = fieldFraction then
    fields.digits false fieldFraction else []

theorem timestampRange_of_complete {range : TemporalRange}
    (hknown : range.Known false) (hcomplete : completeTimestamp range = true) :
    TimestampRange range := by
  simp only [completeTimestamp, Bool.and_eq_true, beq_iff_eq,
    decide_eq_true_eq] at hcomplete
  obtain ⟨first, last, precision⟩ := range
  obtain ⟨hfirst, hlast⟩ := hcomplete
  have hend := hknown.last_le
  have hprecision := hknown.precision
  simp only at hfirst hlast hend hprecision
  subst hfirst
  by_cases hfraction : last = fieldFraction
  · subst hfraction
    rw [if_pos rfl] at hprecision
    exact .inr ⟨precision, hprecision.1, hprecision.2, rfl⟩
  · rw [if_neg hfraction] at hprecision
    have hsecond : last = fieldSecond := by
      simp only [fieldSecond, fieldFraction] at *
      omega
    exact .inl (by rw [hprecision, hsecond])

/-- The digits of the timestamp have the widths of its fields. -/
theorem timestamp_wellformed {range : TemporalRange}
    (hparsed : Parsed range false fields) (hrange : TimestampRange range) :
    fields.timestamp.Wellformed ∧ fields.timestamp.range = range ∧
      fields.text false = fields.timestamp.text letterT := by
  have hdigits : ∀ field, ∀ byte ∈ fields.digits false field,
      isDigit byte = true := fun field => isDigit_printPadded _ _
  have hlength : ∀ field ∈ range.fields,
      (fields.digits false field).length = formatWidth range false field :=
    fun field member => hparsed.length_digits member (.inr (by simp))
  have hrangeEq := hparsed.spelled.range_eq
  have hnegative := hparsed.unsigned rfl
  rcases hrange with rfl | ⟨precision, hpositive, hprecision, rfl⟩
  · have hnone : fields.timestamp.fraction = [] := by
      rw [TemporalFields.timestamp, hrangeEq]
      rfl
    refine ⟨⟨?_, hlength 1 (by decide), hlength 2 (by decide),
      hlength 3 (by decide), hlength 4 (by decide), hlength 5 (by decide),
      hlength 6 (by decide), by simp [hnone]⟩, ?_, ?_⟩
    · simp only [List.forall_mem_cons, hnone]
      exact ⟨hdigits 1, hdigits 2, hdigits 3, hdigits 4, hdigits 5, hdigits 6,
        by simp, by simp⟩
    · rw [Timestamp.range, if_pos hnone]
    · rw [Timestamp.text, if_pos hnone, TemporalFields.text, hnegative,
        hrangeEq, show (TemporalRange.mk fieldYear fieldSecond 0).fields =
          [1, 2, 3, 4, 5, 6] from rfl]
      simp [TemporalFields.body, TemporalFields.separator, hrangeEq,
        TemporalFields.timestamp, fieldSeparator, separatorIso,
        completeTimestamp, List.append_assoc]
  · have hmember : fieldFraction ∈
        (TemporalRange.mk fieldYear fieldFraction precision).fields := by
      rw [TemporalRange.mem_fields]
      exact ⟨show 1 ≤ 7 by decide, Nat.le_refl _⟩
    have hfraction : fields.timestamp.fraction =
        fields.digits false fieldFraction := by
      rw [TemporalFields.timestamp, hrangeEq]
      rfl
    have hcount : (fields.digits false fieldFraction).length = precision :=
      hlength fieldFraction hmember
    have hsome : fields.timestamp.fraction ≠ [] := by
      intro hnone
      rw [hfraction] at hnone
      rw [hnone, List.length_nil] at hcount
      omega
    have hall : ∀ field, 1 ≤ field → field ≤ 6 → field ∈
        (TemporalRange.mk fieldYear fieldFraction precision).fields :=
      fun field hlow hhigh => TemporalRange.mem_fields.mpr
        ⟨hlow, hhigh.trans (show 6 ≤ 7 by decide)⟩
    refine ⟨⟨?_, hlength 1 (hall 1 (by decide) (by decide)),
      hlength 2 (hall 2 (by decide) (by decide)),
      hlength 3 (hall 3 (by decide) (by decide)),
      hlength 4 (hall 4 (by decide) (by decide)),
      hlength 5 (hall 5 (by decide) (by decide)),
      hlength 6 (hall 6 (by decide) (by decide)), ?_⟩, ?_, ?_⟩
    · simp only [List.forall_mem_cons, hfraction]
      exact ⟨hdigits 1, hdigits 2, hdigits 3, hdigits 4, hdigits 5, hdigits 6,
        hdigits 7, by simp⟩
    · rw [hfraction, hcount]
      exact hprecision
    · rw [Timestamp.range, if_neg hsome, hfraction, hcount]
    · rw [Timestamp.text, if_neg hsome, TemporalFields.text, hnegative,
        hrangeEq,
        show (TemporalRange.mk fieldYear fieldFraction precision).fields =
          [1, 2, 3, 4, 5, 6, 7] from rfl]
      simp [TemporalFields.body, TemporalFields.separator, hrangeEq,
        TemporalFields.timestamp, fieldSeparator, separatorIso,
        completeTimestamp, List.append_assoc,
        show ¬ fieldFraction < fieldSecond by decide]

theorem datetime_roundTrip_iso (value other : Datetime)
    (hnull : value.parts.isNull = false)
    (hcomplete : completeTimestamp value.parts.range = true) :
    Formats value.formatIso (value.parts.fields.text false) ∧
      other.parseIso (value.parts.fields.text false) false = (.ok, value) := by
  have hparsed := datetime_parsed value hnull
  obtain ⟨hwellformed, hrange, htext⟩ := timestamp_wellformed hparsed
    (timestampRange_of_complete hparsed.known hcomplete)
  refine ⟨formats_of_deliver fun out => ?_, ?_⟩
  · rw [← hparsed.formatValue_eq, Datetime.formatIso, formatValue, formatValue]
    have hstamp : completeTimestamp value.parts.fields.range = true := hcomplete
    simp [hstamp]
  · rw [htext, Datetime.parseIso_text hwellformed, hrange, ← htext]
    exact (datetime_roundTrip value other hnull).2

/-! Dates. -/

theorem date_text_length (hparsed :
    Parsed ⟨fieldYear, fieldDay, 0⟩ false fields) :
    (fields.text false).length = calendarDateLength := by
  have hlength : ∀ field ∈ (TemporalRange.mk fieldYear fieldDay 0).fields,
      (fields.digits false field).length =
        formatWidth ⟨fieldYear, fieldDay, 0⟩ false field :=
    fun field member => hparsed.length_digits member (.inr (by simp))
  rw [TemporalFields.text, hparsed.unsigned rfl, hparsed.spelled.range_eq,
    show (TemporalRange.mk fieldYear fieldDay 0).fields = [1, 2, 3] from rfl]
  simp only [TemporalFields.body, TemporalFields.separator,
    hparsed.spelled.range_eq, List.flatMap_cons, List.flatMap_nil,
    List.length_append, hlength 1 (by decide), hlength 2 (by decide),
    hlength 3 (by decide)]
  rfl

theorem date_roundTrip (hvalid : date.validate = .ok)
    (hnull : date.isNull = false) (other : Date) :
    Formats date.format (date.fields.text false) ∧
      Date.parse (date.fields.text false) false other = (.ok, date) := by
  have hparsed := date_parsed hvalid hnull
  refine ⟨formats_of_deliver fun out => ?_, ?_⟩
  · rw [Date.format, hvalid]
    exact hparsed.formatValue_eq out
  · have hread : parseFields ⟨fieldYear, fieldDay, 0⟩
        (date.fields.text false) false = .ok date.fields :=
      (parseFields_ok_iff_writes hparsed.known).mpr hparsed.writes
    have hyear : Int32.ofNat date.year.toNatClampNeg = date.year := by
      apply Int32.ofNat_toNatClampNeg
      have hpositive := (((Date.validate_ok_iff date).mp hvalid).resolve_left
        (by simp [hnull])).year_pos
      simp only [Date.calendarDay, ← Int32.toNat_toInt] at hpositive
      rw [Int32.le_iff_toInt_le]
      change 0 ≤ date.year.toInt
      omega
    rw [Date.parse, if_neg (by decide),
      if_neg (not_not.mpr (date_text_length hparsed)), hread]
    cases date
    simp only at hnull hyear
    simp [Date.fields, hnull, fieldTable, hyear]

/-- What a value is formatted to, parsing under its range reads back. -/
theorem temporalText_roundTrip :
    (∀ value other : Datetime, value.parts.isNull = false →
      ∃ text, Formats value.format text ∧
        other.parse (some value.parts.range) text false = (.ok, value) ∧
        (completeTimestamp value.parts.range = true →
          Formats value.formatIso text ∧
            other.parseIso text false = (.ok, value))) ∧
    (∀ value other : Interval, value.parts.isNull = false →
      ∃ text, Formats value.format text ∧
        other.parse (some value.parts.range) text false = (.ok, value)) ∧
    ∀ date other : Date, date.validate = .ok → date.isNull = false →
      ∃ text, Formats date.format text ∧
        Date.parse text false other = (.ok, date) := by
  refine ⟨fun value other hnull => ?_, fun value other hnull => ?_,
    fun date other hvalid hnull => ?_⟩
  · obtain ⟨hformat, hparse⟩ := datetime_roundTrip value other hnull
    exact ⟨_, hformat, hparse, datetime_roundTrip_iso value other hnull⟩
  · exact ⟨_, interval_roundTrip value other hnull⟩
  · exact ⟨_, date_roundTrip hvalid hnull other⟩

theorem temporalText_roundTrip_leapDay :
    ∃ text, Formats (Date.mk 2000 2 29 false).format text ∧
      Date.parse text false .null = (.ok, ⟨2000, 2, 29, false⟩) :=
  temporalText_roundTrip.2.2 _ _ (by decide) rfl

end Temporal

end Libsqli
