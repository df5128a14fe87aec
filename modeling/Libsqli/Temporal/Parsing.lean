import Libsqli.Temporal.DatetimeWire
import Libsqli.Temporal.IntervalWire
import Libsqli.Temporal.Parsed

namespace Libsqli

namespace Temporal

variable {range : TemporalRange} {interval : Bool} {text : List UInt8}
  {fields : TemporalFields}

/-! What a successful parse has established. -/

structure Parsed (range : TemporalRange) (interval : Bool)
    (fields : TemporalFields) : Prop where
  spelled : Spelled range fields
  valid : validateFields fields interval = .ok
  unsigned : interval = false → fields.negative = false
  uint64 : ∀ field, fields.integral field ≤ uint64Max
  known : range.Known interval

theorem Spells.unsigned (hspells : Spells range false text fields) :
    fields.negative = false := by
  obtain ⟨sign, body, negative, -, hsign, hdenotes⟩ := hspells
  rcases hsign with ⟨-, rfl⟩ | ⟨hinterval, -⟩
  · exact hdenotes.shape.2.2
  · cases hinterval

theorem Spells.uint64 (hspells : Spells range interval text fields) :
    ∀ field, fields.integral field ≤ uint64Max := by
  obtain ⟨sign, body, negative, -, -, hdenotes⟩ := hspells
  exact hdenotes.uint64 fun _ => Nat.zero_le _

theorem parseFields_known (hparse : parseFields range text interval =
    .ok fields) : range.Known interval := by
  rw [← validateRange_ok_iff]
  by_contra hrange
  rw [parseFields, if_pos (.inl hrange)] at hparse
  cases hparse

theorem parseFields_parsed (hparse : parseFields range text interval =
    .ok fields) : Parsed range interval fields := by
  have hknown := parseFields_known hparse
  obtain ⟨-, hspells, hlimits⟩ := (parseFields_ok_iff hknown).mp hparse
  refine ⟨hspells.spelled hknown, ?_, ?_, hspells.uint64, hknown⟩
  · exact (validateFields_spelled hknown (hspells.spelled hknown)).mpr hlimits
  · rintro rfl
    exact hspells.unsigned

namespace Parsed

theorem outside (hparsed : Parsed range interval fields) :
    ∀ field, field ∉ integralFields → fields.integral field = 0 := by
  intro field hfield
  apply hparsed.spelled.outside
  by_contra hinside
  rw [not_or, not_not, TemporalRange.mem_fields] at hinside
  have hlow := hparsed.known.first_pos
  have hhigh := hparsed.known.last_le
  apply hfield
  simp only [integralFields, List.mem_cons, List.not_mem_nil, or_false,
    fieldYear, fieldMonth, fieldDay, fieldHour, fieldMinute, fieldSecond,
    fieldFraction] at *
  omega

theorem checked (hparsed : Parsed range interval fields) :
    fields.Valid interval :=
  (validateFields_ok_iff hparsed.spelled.present).mp hparsed.valid

/-- The members of the parts are wide enough for validated fields. -/
theorem datetimeParts_fields (hparsed : Parsed range false fields) :
    fields.datetimeParts.fields = fields := by
  have hvalid := hparsed.checked
  have hmaximum : ∀ field ∈ integralFields,
      fields.integral field ≤ fieldMaximum false field := by
    intro field member
    by_cases hrange : field < fields.range.first ∨ fields.range.last < field
    · rw [hvalid.outside member hrange]
      exact Nat.zero_le _
    · exact hvalid.bounded member hrange (by simp)
  have hnarrow : ¬ ∃ field ∈ integralFields.tail,
      255 < fields.toWire.fields field := by
    rintro ⟨field, member, hlarge⟩
    have hle := hmaximum field (List.mem_of_mem_tail member)
    have hbyte : ∀ field ∈ integralFields.tail,
        fieldMaximum false field ≤ 255 := by decide
    exact absurd hlarge (Nat.not_lt.mpr (hle.trans (hbyte field member)))
  have hwire := @toWire_datetimeParts fields.range fields.toWire
    (hmaximum fieldYear (by decide)) hnarrow hvalid.nanosecond_lt
    (hparsed.unsigned rfl) hparsed.outside
  simp only [TemporalFields.toWire, WireFields.mk.injEq] at hwire
  obtain ⟨hintegral, hnanosecond, hnegative, hnull⟩ := hwire
  cases fields
  simp only [TemporalFields.datetimeParts, DatetimeParts.fields,
    TemporalFields.mk.injEq, true_and]
  exact ⟨hintegral, hnanosecond, hnegative, trivial⟩

theorem datetimeParts_valid (hparsed : Parsed range false fields) :
    fields.datetimeParts.Valid where
  year_nonnegative := by
    have hyear := congrArg (TemporalFields.integral · fieldYear)
      hparsed.datetimeParts_fields
    have hbounded : fields.integral fieldYear ≤ lastYear := by
      by_cases hrange : fieldYear < fields.range.first ∨
          fields.range.last < fieldYear
      · rw [hparsed.checked.outside (by decide) hrange]
        exact Nat.zero_le _
      · exact hparsed.checked.bounded (by decide) hrange (by simp)
    simp only [lastYear] at hbounded
    exact Int32.zero_le_ofNat_of_lt (by omega)
  fields_ok := by
    rw [hparsed.datetimeParts_fields]
    exact hparsed.valid
  null_cleared := by
    intro hnull
    have hpresent : fields.isNull = true := hnull
    rw [hparsed.spelled.present] at hpresent
    cases hpresent

theorem intervalParts_fields (hparsed : Parsed range true fields) :
    fields.intervalParts.fields = fields := by
  have hwide : ∀ field,
      (UInt64.ofNat (fields.integral field)).toNat = fields.integral field :=
    fun field => UInt64.toNat_ofNat_of_lt' (by
      have := hparsed.uint64 field
      simp only [uint64Max, UInt64.size] at *
      omega)
  have hnano : (UInt32.ofNat fields.nanosecond).toNat = fields.nanosecond := by
    have hlt := hparsed.checked.nanosecond_lt
    simp only [nanosecondsPerSecond] at hlt
    exact UInt32.toNat_ofNat_of_lt' (by simp only [UInt32.size]; omega)
  have htable := fieldTable_self hparsed.outside
  have hnull := hparsed.spelled.present
  cases fields
  simp only at hwide hnano htable hnull
  simp only [TemporalFields.intervalParts, IntervalParts.fields, hwide, hnano,
    htable, hnull]

end Parsed

end Temporal

open Temporal
open Libsqli.Data.Numeral

/-! The parsers of the objects; no range stands for a null pointer. -/

namespace Datetime

variable {range : TemporalRange} {text : List UInt8} {value out : Datetime}

/-- `sqli_datetime_parse` -/
def parse (range : Option TemporalRange) (text : List UInt8) (isNull : Bool)
    (value : Datetime) : Status × Datetime :=
  match range with
  | none => if isNull then value.setNull else (.invalidArgument, value)
  | some range =>
      if hrange : validateRange range false isNull = .ok then
        if hnull : isNull = true then (.ok, null range (hnull ▸ hrange))
        else
          match hparse : parseFields range text false with
          | .error status => (status, value)
          | .ok fields => (.ok,
              ⟨fields.datetimeParts,
                (parseFields_parsed hparse).datetimeParts_valid⟩)
      else (validateRange range false isNull, value)

/-- `sqli_datetime_parse_iso` -/
def parseIso (text : List UInt8) (isNull : Bool) (value : Datetime) :
    Status × Datetime :=
  if isNull then value.setNull
  else if text.length < timestampSecondLength then (.invalidArgument, value)
  else if temporalMaxText < text.length then (.limitExceeded, value)
  else if text.getD calendarDateLength 0 ≠ letterT then
    (.invalidArgument, value)
  else if timestampSecondLength < text.length then
    if text.length ≤ timestampFractionOffset ∨
        nanosecondDigits < text.length - timestampFractionOffset ∨
        text.getD timestampSecondLength 0 ≠ point then
      (.invalidArgument, value)
    else
      value.parse (some ⟨fieldYear, fieldFraction,
        text.length - timestampFractionOffset⟩) text false
  else value.parse (some ⟨fieldYear, fieldSecond, 0⟩) text false

theorem eq_of_parts {left right : Datetime} (hparts : left.parts = right.parts) :
    left = right := by
  cases left
  cases right
  simpa using hparts

/-- Text that is parsed replaces the value, or nothing changes. -/
theorem parse_cases (range : TemporalRange) (text : List UInt8)
    (value : Datetime) :
    (∃ fields out, parseFields range text false = .ok fields ∧
      value.parse (some range) text false = (.ok, out) ∧
      out.parts = fields.datetimeParts) ∨
    ((∀ fields, parseFields range text false ≠ .ok fields) ∧
      ∃ status, status ≠ .ok ∧
        value.parse (some range) text false = (status, value)) := by
  have herror := parseFields_error range text false
  by_cases hrange : validateRange range false false = .ok
  · simp only [parse, dif_pos hrange, Bool.false_eq_true, dif_neg,
      not_false_eq_true]
    split
    · rename_i status hparse
      rw [hparse] at herror
      refine .inr ⟨by simp [hparse], status, by simpa using herror, rfl⟩
    · rename_i fields hparse
      exact .inl ⟨fields, _, hparse, rfl, rfl⟩
  · refine .inr ⟨fun fields hparse => ?_, _, hrange, ?_⟩
    · exact hrange (validateRange_ok_iff.mpr (parseFields_known hparse))
    · simp only [parse, dif_neg hrange]

/-- A rejected text is an ISO text whose range was rejected, or none at all. -/
theorem parseIso_unchanged (text : List UInt8) (value : Datetime)
    (hfailed : (value.parseIso text false).1 ≠ .ok) :
    (value.parseIso text false).2 = value := by
  have hparse : ∀ range, (value.parse (some range) text false).1 ≠ .ok →
      (value.parse (some range) text false).2 = value := by
    intro range hstatus
    rcases value.parse_cases range text with ⟨fields, out, -, hout, -⟩ |
      ⟨-, status, -, hout⟩
    · rw [hout] at hstatus
      exact absurd rfl hstatus
    · rw [hout]
  unfold parseIso at hfailed ⊢
  rw [if_neg (by decide)] at hfailed ⊢
  by_cases hshort : text.length < timestampSecondLength
  · rw [if_pos hshort]
  rw [if_neg hshort] at hfailed ⊢
  by_cases hlong : temporalMaxText < text.length
  · rw [if_pos hlong]
  rw [if_neg hlong] at hfailed ⊢
  by_cases hletter : text.getD calendarDateLength 0 ≠ letterT
  · rw [if_pos hletter]
  rw [if_neg hletter] at hfailed ⊢
  by_cases hfraction : timestampSecondLength < text.length
  · rw [if_pos hfraction] at hfailed ⊢
    split at hfailed
    · rename_i hinvalid
      rw [if_pos hinvalid]
    · rename_i hvalid
      rw [if_neg hvalid]
      exact hparse _ hfailed
  · rw [if_neg hfraction] at hfailed ⊢
    exact hparse _ hfailed

end Datetime

namespace Interval

variable {range : TemporalRange} {text : List UInt8} {value out : Interval}

/-- `sqli_interval_parse` -/
def parse (range : Option TemporalRange) (text : List UInt8) (isNull : Bool)
    (value : Interval) : Status × Interval :=
  match range with
  | none => if isNull then value.setNull else (.invalidArgument, value)
  | some range =>
      if hrange : validateRange range true isNull = .ok then
        if hnull : isNull = true then (.ok, null range (hnull ▸ hrange))
        else
          match parseFields range text true with
          | .error status => (status, value)
          | .ok fields => value.setParts fields.intervalParts
      else (validateRange range true isNull, value)

theorem eq_of_parts {left right : Interval} (hparts : left.parts = right.parts) :
    left = right := by
  cases left
  cases right
  simpa using hparts

theorem parse_cases (range : TemporalRange) (text : List UInt8)
    (value : Interval) :
    (∃ fields out, parseFields range text true = .ok fields ∧
      value.parse (some range) text false = (.ok, out) ∧
      out.parts = fields.intervalParts.normalizeSign) ∨
    ((∀ fields, parseFields range text true ≠ .ok fields) ∧
      ∃ status, status ≠ .ok ∧
        value.parse (some range) text false = (status, value)) := by
  have herror := parseFields_error range text true
  by_cases hrange : validateRange range true false = .ok
  · simp only [parse, dif_pos hrange, Bool.false_eq_true, dif_neg,
      not_false_eq_true]
    split
    · rename_i status hparse
      rw [hparse] at herror
      exact .inr ⟨by simp [hparse], status, by simpa using herror, rfl⟩
    · rename_i fields hparse
      have hparsed := parseFields_parsed hparse
      obtain ⟨out, hset⟩ := setParts_valid value
        (hparsed.intervalParts_fields.symm ▸ hparsed.valid)
      exact .inl ⟨fields, out, hparse, hset, setParts_parts hset⟩
  · refine .inr ⟨fun fields hparse => ?_, _, hrange, ?_⟩
    · exact hrange (validateRange_ok_iff.mpr (parseFields_known hparse))
    · simp only [parse, dif_neg hrange]

end Interval

end Libsqli
