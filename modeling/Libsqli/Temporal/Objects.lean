import Libsqli.Data.Objects
import Libsqli.Temporal.TextRoundTrip

namespace Libsqli.Temporal

open Libsqli.Data.Objects

/-! Any number of DATETIME and INTERVAL objects under any calls. -/

structure TemporalObjects where
  datetimes : List Datetime
  intervals : List Interval

inductive DatetimeCall where
  | setNull
  | setParts (parts : DatetimeParts)
  | copy (source : Nat)
  | parse (range : Option TemporalRange) (text : List UInt8) (isNull : Bool)
  | parseIso (text : List UInt8) (isNull : Bool)
  | decodeWire (bytes : List UInt8) (qualifier : UInt16)

inductive IntervalCall where
  | setNull
  | setParts (parts : IntervalParts)
  | copy (source : Nat)
  | parse (range : Option TemporalRange) (text : List UInt8) (isNull : Bool)
  | decodeWire (bytes : List UInt8) (qualifier : UInt16)

/-- `allocated` says whether the allocation of a new object succeeds. -/
inductive TemporalCall where
  | createDatetime (allocated : Bool)
  | createInterval (allocated : Bool)
  | onDatetime (index : Nat) (call : DatetimeCall)
  | onInterval (index : Nat) (call : IntervalCall)

/-- A call on one object among the others; a handle without an object stands
for a null pointer. -/
def DatetimeCall.run (objects : List Datetime) (call : DatetimeCall)
    (value : Datetime) : Status × Datetime :=
  match call with
  | .setNull => value.setNull
  | .setParts parts => value.setParts parts
  | .copy source =>
      match objects[source]? with
      | none => (.invalidArgument, value)
      | some other => other.copy value
  | .parse range text isNull => value.parse range text isNull
  | .parseIso text isNull => value.parseIso text isNull
  | .decodeWire bytes qualifier => decodeDatetime bytes qualifier value

def IntervalCall.run (objects : List Interval) (call : IntervalCall)
    (value : Interval) : Status × Interval :=
  match call with
  | .setNull => value.setNull
  | .setParts parts => value.setParts parts
  | .copy source =>
      match objects[source]? with
      | none => (.invalidArgument, value)
      | some other => other.copy value
  | .parse range text isNull => value.parse range text isNull
  | .decodeWire bytes qualifier => decodeInterval bytes qualifier value

def TemporalObjects.step (objects : TemporalObjects) :
    TemporalCall → Status × TemporalObjects
  | .createDatetime allocated =>
      if allocated then
        (.ok, { objects with datetimes := objects.datetimes ++ [.create] })
      else (.allocFail, objects)
  | .createInterval allocated =>
      if allocated then
        (.ok, { objects with intervals := objects.intervals ++ [.create] })
      else (.allocFail, objects)
  | .onDatetime index call =>
      let result := onObject .invalidArgument objects.datetimes index
        (call.run objects.datetimes)
      (result.1, { objects with datetimes := result.2 })
  | .onInterval index call =>
      let result := onObject .invalidArgument objects.intervals index
        (call.run objects.intervals)
      (result.1, { objects with intervals := result.2 })

/-- The objects after some calls, from none. -/
def TemporalObjects.after (calls : List TemporalCall) : TemporalObjects :=
  calls.foldl (fun objects call => (objects.step call).2) ⟨[], []⟩

/-! What a failed call leaves. -/

/-- What the two parsers share: a range is checked, then NULL is stored under it or
the text is. -/
def parseInto {α : Type} (interval : Bool) (value : α) (setNull : Status × α)
    (null : ∀ range, validateRange range interval true = .ok → α)
    (store : TemporalRange → Status × α) (range : Option TemporalRange)
    (isNull : Bool) : Status × α :=
  match range with
  | none => if isNull then setNull else (.invalidArgument, value)
  | some range =>
      if hrange : validateRange range interval isNull = .ok then
        if hnull : isNull = true then (.ok, null range (hnull ▸ hrange))
        else store range
      else (validateRange range interval isNull, value)

theorem parseInto_unchanged {α : Type} {interval isNull : Bool} {value : α}
    {setNull : Status × α}
    {null : ∀ range, validateRange range interval true = .ok → α}
    {store : TemporalRange → Status × α} {range : Option TemporalRange}
    (hset : setNull.1 = .ok)
    (hstore : ∀ range, (store range).1 ≠ .ok → (store range).2 = value)
    (hfailed : (parseInto interval value setNull null store range isNull).1 ≠
      .ok) :
    (parseInto interval value setNull null store range isNull).2 = value := by
  unfold parseInto at hfailed ⊢
  cases range with
  | none =>
      cases isNull with
      | true => exact absurd hset hfailed
      | false => rfl
  | some range =>
      by_cases hrange : validateRange range interval isNull = .ok
      · by_cases hnull : isNull = true
        · simp only [dif_pos hrange, dif_pos hnull] at hfailed
          exact absurd rfl hfailed
        · simp only [dif_pos hrange, dif_neg hnull] at hfailed ⊢
          exact hstore range hfailed
      · simp only [dif_neg hrange]

theorem datetimeParse_unchanged {value : Datetime}
    {range : Option TemporalRange}
    (hfailed : (value.parse range text isNull).1 ≠ .ok) :
    (value.parse range text isNull).2 = value := by
  refine @parseInto_unchanged _ false isNull value value.setNull Datetime.null
    _ range rfl (fun range => ?_) hfailed
  split
  · exact fun _ => rfl
  · exact fun hstatus => absurd rfl hstatus

theorem intervalParse_unchanged {value : Interval}
    {range : Option TemporalRange}
    (hfailed : (value.parse range text isNull).1 ≠ .ok) :
    (value.parse range text isNull).2 = value := by
  refine @parseInto_unchanged _ true isNull value value.setNull Interval.null
    _ range rfl (fun range => ?_) hfailed
  split
  · exact fun _ => rfl
  · exact Interval.setParts_unchanged

theorem DatetimeCall.unchanged {objects : List Datetime} {call : DatetimeCall}
    {value : Datetime} (hfailed : (call.run objects value).1 ≠ .ok) :
    (call.run objects value).2 = value := by
  cases call with
  | setNull => exact absurd rfl hfailed
  | setParts parts => exact Datetime.setParts_unchanged hfailed
  | copy source =>
      simp only [DatetimeCall.run] at hfailed ⊢
      cases hsource : objects[source]? with
      | none => rfl
      | some other =>
          simp only [hsource] at hfailed
          exact absurd rfl hfailed
  | parse range text isNull => exact datetimeParse_unchanged hfailed
  | parseIso text isNull =>
      cases isNull with
      | true => exact absurd rfl hfailed
      | false => exact value.parseIso_unchanged text hfailed
  | decodeWire bytes qualifier => exact decodeDatetime_failed rfl hfailed

theorem IntervalCall.unchanged {objects : List Interval} {call : IntervalCall}
    {value : Interval} (hfailed : (call.run objects value).1 ≠ .ok) :
    (call.run objects value).2 = value := by
  cases call with
  | setNull => exact absurd rfl hfailed
  | setParts parts => exact Interval.setParts_unchanged hfailed
  | copy source =>
      simp only [IntervalCall.run] at hfailed ⊢
      cases hsource : objects[source]? with
      | none => rfl
      | some other =>
          simp only [hsource] at hfailed
          exact absurd rfl hfailed
  | parse range text isNull => exact intervalParse_unchanged hfailed
  | decodeWire bytes qualifier => exact decodeInterval_failed rfl hfailed

theorem TemporalObjects.step_unchanged {objects : TemporalObjects}
    {call : TemporalCall} (hfailed : (objects.step call).1 ≠ .ok) :
    (objects.step call).2 = objects := by
  cases call with
  | createDatetime allocated =>
      cases allocated with
      | true => exact absurd rfl hfailed
      | false => rfl
  | createInterval allocated =>
      cases allocated with
      | true => exact absurd rfl hfailed
      | false => rfl
  | onDatetime index call =>
      have hkept : (onObject .invalidArgument objects.datetimes index
          (call.run objects.datetimes)).2 = objects.datetimes :=
        onObject_unchanged (· ≠ Status.ok)
          (fun _ _ => DatetimeCall.unchanged) hfailed
      exact congrArg (fun datetimes => { objects with datetimes }) hkept
  | onInterval index call =>
      have hkept : (onObject .invalidArgument objects.intervals index
          (call.run objects.intervals)).2 = objects.intervals :=
        onObject_unchanged (· ≠ Status.ok)
          (fun _ _ => IntervalCall.unchanged) hfailed
      exact congrArg (fun intervals => { objects with intervals }) hkept

/-! What every object satisfies. -/

/-- NULL under a valid or unknown range with all else cleared, or fields that
pass validation: within the calendar, none outside the range, the fraction one
of its precision. -/
structure Sound (fields : TemporalFields) (interval : Bool) : Prop where
  null : fields.isNull = true →
    validateRange fields.range interval true = .ok ∧
      fields = { blankFields fields.range with isNull := true }
  known : fields.isNull = false →
    validateFields fields interval = .ok ∧
      Spelled fields.range fields ∧ Limits fields interval
  unsigned : fields.isZero = true → fields.negative = false

/-- A formatter succeeds: on NULL with no text, else with a text that fits. -/
def FormatsSound (fields : TemporalFields)
    (format : FormatOutputs → Status × FormatOutputs) : Prop :=
  (fields.isNull = true → ∀ out, format out = (.ok, out.nullOutputs)) ∧
    (fields.isNull = false →
      ∃ text, text.length ≤ temporalMaxText ∧ Formats format text)

theorem formatValue_null {fields : TemporalFields}
    (hvalid : validateFields fields interval = .ok)
    (hnull : fields.isNull = true) (out : FormatOutputs) :
    formatValue fields interval false out = (.ok, out.nullOutputs) := by
  rw [formatValue, hvalid]
  simp only [hnull, if_true]

theorem Parsed.sound {fields : TemporalFields}
    (hparsed : Parsed fields.range interval fields) :
    validateFields fields interval = .ok ∧ Spelled fields.range fields ∧
      Limits fields interval :=
  ⟨hparsed.valid, hparsed.spelled, hparsed.writes.limits⟩

theorem datetime_sound (value : Datetime) :
    Sound value.parts.fields false ∧
      FormatsSound value.parts.fields value.format := by
  refine ⟨⟨fun hnull => ⟨validateRange_null value.valid.fields_ok, ?_⟩,
    fun hknown => (datetime_parsed value hknown).sound, fun _ => rfl⟩,
    fun hnull => formatValue_null value.valid.fields_ok hnull,
    fun hknown => ⟨_, (datetime_parsed value hknown).writes.length_le,
      (datetime_roundTrip value value hknown).1⟩⟩
  have hcleared := congrArg DatetimeParts.fields (value.valid.null_cleared hnull)
  rw [hcleared]
  simp [DatetimeParts.fields, nullDatetimeParts, blankFields, fieldTable_zero]

theorem interval_sound (value : Interval) :
    Sound value.parts.fields true ∧
      FormatsSound value.parts.fields value.format := by
  refine ⟨⟨fun hnull => ⟨validateRange_null value.valid.fields_ok, ?_⟩,
    fun hknown => (interval_parsed value hknown).sound,
    value.valid.zero_nonnegative⟩,
    fun hnull => formatValue_null value.valid.fields_ok hnull,
    fun hknown => ⟨_, (interval_parsed value hknown).writes.length_le,
      (interval_roundTrip value value hknown).1⟩⟩
  have hcleared := congrArg IntervalParts.fields (value.valid.null_cleared hnull)
  rw [hcleared]
  simp [IntervalParts.fields, nullIntervalParts, blankFields, fieldTable_zero]

/-- Whatever the calls, every object is sound and can be formatted, and a call
that fails changes none. -/
theorem temporalObjects_sound (calls : List TemporalCall) :
    (∀ value ∈ (TemporalObjects.after calls).datetimes,
      Sound value.parts.fields false ∧
        FormatsSound value.parts.fields value.format) ∧
    (∀ value ∈ (TemporalObjects.after calls).intervals,
      Sound value.parts.fields true ∧
        FormatsSound value.parts.fields value.format) ∧
    ∀ call, ((TemporalObjects.after calls).step call).1 ≠ .ok →
      TemporalObjects.after (calls ++ [call]) =
        TemporalObjects.after calls := by
  refine ⟨fun value _ => datetime_sound value,
    fun value _ => interval_sound value, fun call hfailed => ?_⟩
  rw [TemporalObjects.after, List.foldl_append]
  exact TemporalObjects.step_unchanged hfailed

end Libsqli.Temporal
