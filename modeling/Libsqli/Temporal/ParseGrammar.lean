import Libsqli.Temporal.Timestamp

namespace Libsqli.Temporal

open Libsqli.Data.Numeral

variable {range : TemporalRange} {interval : Bool} {text : List UInt8}
  {fields : TemporalFields}

/-! The parsers of the objects against the grammar. -/

/-- A parser succeeds on what denotes something, then holds it, and on the rest
leaves its object alone. -/
structure Recognizes (result : Status × α) (value : α)
    (read : α → TemporalFields) (denotes : TemporalFields → Prop) : Prop where
  accepts : result.1 = .ok ↔ ∃ fields, denotes fields
  holds : ∀ fields, denotes fields → read result.2 = fields
  unchanged : result.1 ≠ .ok → result.2 = value

/-- A text of the grammar within the limits of its fields. -/
structure Writes (range : TemporalRange) (interval : Bool) (text : List UInt8)
    (fields : TemporalFields) : Prop where
  length_le : text.length ≤ temporalMaxText
  spells : Spells range interval text fields
  limits : Limits fields interval

/-- A zero value has no sign. -/
def TemporalFields.normalizeSign (fields : TemporalFields) : TemporalFields :=
  { fields with negative := fields.negative && !fields.isZero }

/-- `YYYY-MM-DDThh:mm:ss` with an optional fraction, naming an instant. -/
def WritesInstant (text : List UInt8) (fields : TemporalFields) : Prop :=
  ∃ stamp : Timestamp, stamp.Wellformed ∧ text = stamp.text letterT ∧
    Limits stamp.fields false ∧ fields = stamp.fields

theorem parseFields_ok_iff_writes (hknown : range.Known interval) :
    parseFields range text interval = .ok fields ↔
      Writes range interval text fields := by
  rw [parseFields_ok_iff hknown]
  exact ⟨fun ⟨hlength, hspells, hlimits⟩ => ⟨hlength, hspells, hlimits⟩,
    fun ⟨hlength, hspells, hlimits⟩ => ⟨hlength, hspells, hlimits⟩⟩

theorem Writes.unique (hknown : range.Known interval)
    (hleft : Writes range interval text left)
    (hright : Writes range interval text right) : left = right := by
  rw [← parseFields_ok_iff_writes hknown] at hleft hright
  exact Except.ok.inj (hleft.symm.trans hright)

theorem datetimeParse_recognizes (hrange : validateRange range false false = .ok)
    (text : List UInt8) (value : Datetime) :
    Recognizes (value.parse (some range) text false) value (·.parts.fields)
      (Writes range false text) := by
  have hknown := validateRange_ok_iff.mp hrange
  rcases value.parse_cases range text with
    ⟨fields, out, hparse, hout, hparts⟩ | ⟨hreject, status, hstatus, hout⟩
  · have hwrites := (parseFields_ok_iff_writes hknown).mp hparse
    refine ⟨?_, fun other hother => ?_, ?_⟩
    · rw [hout]
      exact ⟨fun _ => ⟨fields, hwrites⟩, fun _ => rfl⟩
    · rw [hout, ← hwrites.unique hknown hother]
      change out.parts.fields = fields
      rw [hparts, (parseFields_parsed hparse).datetimeParts_fields]
    · rw [hout]
      exact fun hfailed => absurd rfl hfailed
  · refine ⟨?_, fun other hother => ?_, ?_⟩
    · rw [hout]
      refine ⟨fun hok => absurd hok hstatus, fun ⟨fields, hwrites⟩ => ?_⟩
      exact absurd ((parseFields_ok_iff_writes hknown).mpr hwrites)
        (hreject fields)
    · exact absurd ((parseFields_ok_iff_writes hknown).mpr hother)
        (hreject other)
    · rw [hout]
      exact fun _ => rfl

theorem intervalParse_recognizes
    (hrange : validateRange range true false = .ok) (text : List UInt8)
    (value : Interval) :
    Recognizes (value.parse (some range) text false) value (·.parts.fields)
      (fun fields => ∃ written, Writes range true text written ∧
        fields = written.normalizeSign) := by
  have hknown := validateRange_ok_iff.mp hrange
  rcases value.parse_cases range text with
    ⟨fields, out, hparse, hout, hparts⟩ | ⟨hreject, status, hstatus, hout⟩
  · have hwrites := (parseFields_ok_iff_writes hknown).mp hparse
    have hfields := (parseFields_parsed hparse).intervalParts_fields
    refine ⟨?_, ?_, ?_⟩
    · rw [hout]
      exact ⟨fun _ => ⟨_, fields, hwrites, rfl⟩, fun _ => rfl⟩
    · rintro _ ⟨written, hwritten, rfl⟩
      rw [hout, ← hwrites.unique hknown hwritten]
      change out.parts.fields = fields.normalizeSign
      have hnormal : fields.intervalParts.normalizeSign.fields =
          fields.intervalParts.fields.normalizeSign := rfl
      rw [hparts, hnormal, hfields]
    · rw [hout]
      exact fun hfailed => absurd rfl hfailed
  · have hnone : ∀ written, ¬ Writes range true text written :=
      fun written hwritten => hreject written
        ((parseFields_ok_iff_writes hknown).mpr hwritten)
    refine ⟨?_, ?_, ?_⟩
    · rw [hout]
      exact ⟨fun hok => absurd hok hstatus,
        fun ⟨_, written, hwritten, _⟩ => absurd hwritten (hnone written)⟩
    · rintro _ ⟨written, hwritten, -⟩
      exact absurd hwritten (hnone written)
    · rw [hout]
      exact fun _ => rfl

theorem Timestamp.Wellformed.writes {stamp : Timestamp}
    (hwellformed : stamp.Wellformed) (hlimits : Limits stamp.fields false) :
    Writes stamp.range false (stamp.text letterT) stamp.fields where
  length_le := by
    have hlength := hwellformed.length_text letterT
    have hbound := hwellformed.fraction_length
    simp only [temporalMaxText]
    split at hlength <;> omega
  spells := (spells_timestamp_iff hwellformed.timestampRange).mpr
    ⟨stamp, letterT, hwellformed, rfl, .inr rfl, rfl, rfl⟩
  limits := hlimits

theorem parseIso_recognizes (text : List UInt8) (value : Datetime) :
    Recognizes (value.parseIso text false) value (·.parts.fields)
      (WritesInstant text) := by
  have hfound : ∀ fields, WritesInstant text fields →
      (value.parseIso text false).1 = .ok ∧
        (value.parseIso text false).2.parts.fields = fields := by
    rintro _ ⟨stamp, hwellformed, rfl, hlimits, rfl⟩
    have hparse := datetimeParse_recognizes
      (validateRange_ok_iff.mpr hwellformed.timestampRange.known)
      (stamp.text letterT) value
    have hwrites := hwellformed.writes hlimits
    rw [Datetime.parseIso_text hwellformed]
    exact ⟨hparse.accepts.mpr ⟨_, hwrites⟩, hparse.holds _ hwrites⟩
  refine ⟨⟨fun hok => ?_, fun ⟨fields, hfields⟩ => (hfound fields hfields).1⟩,
    fun fields hfields => (hfound fields hfields).2,
    value.parseIso_unchanged text⟩
  obtain ⟨range, hrange, hletter, hparse⟩ := Datetime.parseIso_range hok
  rw [hparse] at hok
  obtain ⟨fields, hwrites⟩ := (datetimeParse_recognizes
    (validateRange_ok_iff.mpr hrange.known) text value).accepts.mp hok
  obtain ⟨stamp, separator, hwellformed, -, -, rfl, rfl⟩ :=
    (spells_timestamp_iff hrange).mp hwrites.spells
  rw [hwellformed.separator_at] at hletter
  subst hletter
  exact ⟨stamp.fields, stamp, hwellformed, rfl, hwrites.limits, rfl⟩

/-- The parsers accept the grammar and nothing else. -/
theorem temporalParse_grammar :
    (∀ (range : TemporalRange) (text : List UInt8) (value : Datetime),
      validateRange range false false = .ok →
      Recognizes (value.parse (some range) text false) value (·.parts.fields)
        (Writes range false text)) ∧
    (∀ (range : TemporalRange) (text : List UInt8) (value : Interval),
      validateRange range true false = .ok →
      Recognizes (value.parse (some range) text false) value (·.parts.fields)
        (fun fields => ∃ written, Writes range true text written ∧
          fields = written.normalizeSign)) ∧
    ∀ (text : List UInt8) (value : Datetime),
      Recognizes (value.parseIso text false) value (·.parts.fields)
        (WritesInstant text) :=
  ⟨fun _ text value hrange => datetimeParse_recognizes hrange text value,
    fun _ text value hrange => intervalParse_recognizes hrange text value,
    parseIso_recognizes⟩

theorem temporalParse_grammar_halfSecond :
    validateRange ⟨fieldFraction, fieldFraction, 1⟩ false false = .ok ∧
      Recognizes (Datetime.create.parse
        (some ⟨fieldFraction, fieldFraction, 1⟩) [zero, point, 53] false)
        Datetime.create (·.parts.fields)
        (Writes ⟨fieldFraction, fieldFraction, 1⟩ false [zero, point, 53]) :=
  ⟨by decide, temporalParse_grammar.1 _ _ _ (by decide)⟩

end Libsqli.Temporal
