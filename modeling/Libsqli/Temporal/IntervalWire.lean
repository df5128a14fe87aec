import Libsqli.Temporal.Packable
import Libsqli.Temporal.DatetimeWire

namespace Libsqli.Temporal

open Libsqli.Base100
open Libsqli.Data.Radix

/-! INTERVAL payloads. -/

theorem IntervalParts.fields_table (parts : IntervalParts) :
    ∀ field, field ∉ integralFields → parts.fields.integral field = 0 :=
  fun _ hmember => fieldTable_of_not_mem hmember

theorem interval_wireForm {value : Interval} {range : WireRange}
    (hrange : range.Valid true)
    (hmatch : matchingRange value.parts.range range value.parts.isNull = true)
    (hpack : pack value.parts.fields.toWire range capacity = .ok bytes) :
    WireForm range value.parts.fields.toWire bytes := by
  rcases pack_ok hpack with ⟨hnull, hbytes⟩ |
    ⟨hnull, hleading, hexact, hbytes⟩
  · refine .null ?_ hbytes
    rw [value.valid.null_cleared hnull]
    simp [TemporalFields.toWire, IntervalParts.fields, nullIntervalParts,
      fieldTable_zero]
  · have hparts : value.parts.isNull = false := hnull
    rw [hparts, matchingRange_iff] at hmatch
    have hvalid := (validateFields_ok_iff hnull).mp value.valid.fields_ok
    exact .packed (hvalid.packable hnull value.parts.fields_table hrange
      hmatch.1 hmatch.2 hleading hexact value.valid.zero_nonnegative) hbytes

theorem intervalParts_toWire (parts : IntervalParts) (range : TemporalRange) :
    intervalParts range parts.fields.toWire = parts.withRange range := by
  simp [intervalParts, TemporalFields.toWire, IntervalParts.fields, fieldTable,
    IntervalParts.withRange]

/-- Leading fields hold at most nine digits and the others at most two, so the
wide members of the parts lose nothing. -/
theorem toWire_intervalParts {fields : WireFields} {range : WireRange}
    (hrange : range.Valid true) (hpackable : fields.Packable range) :
    (intervalParts range.range fields).fields.toWire = fields := by
  have htable := hpackable.table_zero hrange
  have hwide : ∀ field,
      (UInt64.ofNat (fields.fields field)).toNat = fields.fields field := by
    intro field
    apply UInt64.toNat_ofNat_of_lt'
    by_cases hmember : field ∈ rangeFields range.range
    · have hlt := hpackable.inside field hmember
      have hwidth : fieldWidth range field ≤ 5 := by
        have := hrange.leading_le
        simp only [maxLeadingDigits] at this
        unfold fieldWidth
        split <;> omega
      have hpower : radix ^ fieldWidth range field ≤ radix ^ 5 :=
        Nat.pow_le_pow_right (by decide) hwidth
      have hsize : radix ^ 5 < UInt64.size := by decide
      omega
    · rw [hpackable.outside field hmember]
      decide
  have hnano : (UInt32.ofNat fields.nanosecond).toNat = fields.nanosecond := by
    have hlt := hpackable.nanosecond_lt
    simp only [nanosecondsPerSecond] at hlt
    exact UInt32.toNat_ofNat_of_lt' (by simp [UInt32.size]; omega)
  cases fields with
  | mk table nanosecond negative isNull =>
      simp only at hwide hnano htable
      simp only [intervalParts, IntervalParts.fields, TemporalFields.toWire,
        hwide, hnano]
      congr 1
      exact fieldTable_self htable

theorem interval_setParts {value : Interval} {range : WireRange}
    (hrange : range.Valid true)
    (hmatch : matchingRange value.parts.range range value.parts.isNull = true)
    (hexact : value.parts.isNull = false → value.parts.fields.nanosecond %
      10 ^ (9 - range.range.fractionalDigits) = 0) (out : Interval) :
    ∃ decoded, out.setParts (value.parts.withRange range.range) =
        (.ok, decoded) ∧
      decoded.parts = value.parts.withRange range.range := by
  have hok : validateFields (value.parts.withRange range.range).fields true =
      .ok := by
    cases hnull : value.parts.isNull with
    | true =>
        have hallowed := validateRange_unknown_allowed hrange.range_ok
        simp [validateFields, IntervalParts.fields, IntervalParts.withRange,
          hnull, hallowed]
    | false =>
        rw [hnull, matchingRange_iff] at hmatch
        exact retarget_fields_ok
          ((validateFields_ok_iff hnull).mp value.valid.fields_ok) hnull hrange
          hmatch.1 hmatch.2 (hexact hnull)
  obtain ⟨decoded, hset⟩ := out.setParts_valid hok
  refine ⟨decoded, hset, ?_⟩
  rw [Interval.setParts_parts hset]
  split
  · next hnull =>
    rw [value.valid.null_cleared hnull]
    rfl
  · exact IntervalParts.normalizeSign_of_sign value.valid.zero_nonnegative

theorem decodeInterval_of_encode {value : Interval}
    (hencode : encodeInterval value qualifier capacity = .ok bytes)
    (out : Interval) :
    ∃ decoded, decodeInterval bytes qualifier out = (.ok, decoded) ∧
      decoded.parts.withRange value.parts.range = value.parts := by
  unfold encodeInterval at hencode
  cases hdecode : decodeRange qualifier true with
  | error status => simp [hdecode] at hencode
  | ok range =>
      have hrange := decodeRange_valid hdecode
      simp only [hdecode] at hencode
      by_cases hmatch : matchingRange value.parts.range range
          value.parts.isNull = true
      · rw [if_pos hmatch] at hencode
        have hform := interval_wireForm hrange hmatch hencode
        obtain ⟨decoded, hset, hparts⟩ := interval_setParts hrange hmatch
          (fun hnull => hform.exact hnull) out
        refine ⟨decoded, ?_, by rw [hparts]; rfl⟩
        simp only [decodeInterval, hdecode, (unpack_ok_iff hrange).mpr hform]
        rw [intervalParts_toWire, hset]
        rfl
      · rw [if_neg hmatch] at hencode
        cases hencode

/-- A packable value keeps its sign when imported. -/
theorem packable_sign {fields : WireFields} {range : WireRange}
    (hrange : range.Valid true) (hpackable : fields.Packable range)
    (hzero : (intervalParts range.range fields).fields.isZero = true) :
    fields.negative = false := by
  apply hpackable.sign
  have hsame := toWire_intervalParts hrange hpackable
  simp only [TemporalFields.isZero, Bool.and_eq_true, beq_iff_eq,
    List.all_eq_true] at hzero
  have hnano : fields.nanosecond = 0 := by
    rw [← hsame]
    exact hzero.1
  have hfields : ∀ field ∈ rangeFields range.range, fields.fields field = 0 := by
    intro field hmember
    by_cases hintegral : field ∈ integralFields
    · rw [← hsame]
      exact hzero.2 field hintegral
    · exact hpackable.table_zero hrange field hintegral
  intro group member
  rcases List.mem_append.mp member with member | member
  · obtain ⟨field, hfield, hgroup⟩ := List.mem_flatMap.mp member
    rw [hfields field hfield] at hgroup
    refine (ofBigEndian_eq_zero_iff (by decide : 0 < radix)).mp ?_ group hgroup
    exact ofBigEndian_toBigEndian _ (Nat.pow_pos (by decide))
  · have hvalue := fractionGroups_value hrange hpackable.nanosecond_lt
    rw [hnano] at hvalue member
    rw [Nat.zero_div, Nat.zero_mul, ite_self] at hvalue
    exact (ofBigEndian_eq_zero_iff (by decide)).mp hvalue group member

/-- What a successful decode has checked, and what it has stored. -/
theorem decodeInterval_ok {decoded : Interval}
    (hdecode : decodeInterval bytes qualifier out = (.ok, decoded)) :
    ∃ range, decodeRange qualifier true = .ok range ∧
      decoded.parts.range = range.range ∧
      WireForm range decoded.parts.fields.toWire bytes := by
  unfold decodeInterval at hdecode
  split at hdecode
  · rename_i status hqualifier
    rw [decodeRange_error hqualifier] at hdecode
    cases hdecode
  rename_i range hqualifier
  have hrange := decodeRange_valid hqualifier
  split at hdecode
  · rename_i status hunpack
    rw [unpack_error hunpack] at hdecode
    cases hdecode
  rename_i fields hunpack
  rw [importResult_ok_iff] at hdecode
  have hform := (unpack_ok_iff hrange).mp hunpack
  have hparts := Interval.setParts_parts hdecode
  refine ⟨range, hqualifier, ?_, ?_⟩
  · rw [hparts]
    split <;> rfl
  · cases hform with
    | null fields_eq bytes_eq =>
        refine .null ?_ bytes_eq
        rw [hparts, fields_eq]
        simp [intervalParts, nullIntervalParts, TemporalFields.toWire,
          IntervalParts.fields, fieldTable_zero]
    | packed packable bytes_eq =>
        have hsame : decoded.parts.fields.toWire = fields := by
          rw [hparts, if_neg (by simp [intervalParts, packable.not_null]),
            IntervalParts.normalizeSign_of_sign
              fun hzero => packable_sign hrange packable hzero]
          exact toWire_intervalParts hrange packable
        rw [hsame]
        exact .packed packable bytes_eq

theorem encodeInterval_of_decode {decoded : Interval}
    (hdecode : decodeInterval bytes qualifier out = (.ok, decoded))
    (hcapacity : bytes.length ≤ capacity) :
    encodeInterval decoded qualifier capacity = .ok bytes := by
  obtain ⟨range, hqualifier, hparts, hform⟩ := decodeInterval_ok hdecode
  have hlength := hform.length (decodeRange_valid hqualifier)
  simp only [encodeInterval, hqualifier]
  rw [if_pos (by simp [matchingRange, hparts])]
  exact pack_of_wireForm hform (by omega)

theorem decodeInterval_failed {stored : Interval}
    (hdecode : decodeInterval bytes qualifier out = (status, stored))
    (hfailed : status ≠ .ok) : stored = out := by
  unfold decodeInterval at hdecode
  split at hdecode
  · exact (Prod.mk.inj hdecode).2.symm
  split at hdecode
  · exact (Prod.mk.inj hdecode).2.symm
  obtain ⟨rfl, rfl⟩ := Prod.ext_iff.mp hdecode
  exact importResult_unchanged Interval.setParts_unchanged hfailed

theorem temporalWire_canonical (qualifier : UInt16) :
    (∀ value capacity bytes out,
      encodeDatetime value qualifier capacity = .ok bytes →
        ∃ decoded, decodeDatetime bytes qualifier out = (.ok, decoded) ∧
          decoded.parts.withRange value.parts.range = value.parts) ∧
    (∀ bytes out decoded capacity,
      decodeDatetime bytes qualifier out = (.ok, decoded) →
        bytes.length ≤ capacity →
          encodeDatetime decoded qualifier capacity = .ok bytes) ∧
    (∀ bytes out status stored,
      decodeDatetime bytes qualifier out = (status, stored) → status ≠ .ok →
        stored = out) ∧
    (∀ value capacity bytes out,
      encodeInterval value qualifier capacity = .ok bytes →
        ∃ decoded, decodeInterval bytes qualifier out = (.ok, decoded) ∧
          decoded.parts.withRange value.parts.range = value.parts) ∧
    (∀ bytes out decoded capacity,
      decodeInterval bytes qualifier out = (.ok, decoded) →
        bytes.length ≤ capacity →
          encodeInterval decoded qualifier capacity = .ok bytes) ∧
    ∀ bytes out status stored,
      decodeInterval bytes qualifier out = (status, stored) → status ≠ .ok →
        stored = out := by
  refine ⟨?_, ?_, ?_, ?_, ?_, ?_⟩
  · exact fun value capacity bytes out hencode =>
      decodeDatetime_of_encode hencode out
  · exact fun bytes out decoded capacity hdecode hcapacity =>
      encodeDatetime_of_decode hdecode hcapacity
  · exact fun bytes out status stored hdecode hfailed =>
      decodeDatetime_failed hdecode hfailed
  · exact fun value capacity bytes out hencode =>
      decodeInterval_of_encode hencode out
  · exact fun bytes out decoded capacity hdecode hcapacity =>
      encodeInterval_of_decode hdecode hcapacity
  · exact fun bytes out status stored hdecode hfailed =>
      decodeInterval_failed hdecode hfailed

/-- `13:05:09.250` as an HOUR TO FRACTION(3) column stores it. -/
def quarterPastNine : Datetime where
  parts := ⟨⟨4, 7, 3⟩, 0, 0, 0, 13, 5, 9, 250000000, false⟩
  valid := by refine ⟨?_, ?_, ?_⟩ <;> decide

/-- Minus 120 days, 7 hours and 5 minutes as a DAY(3) TO MINUTE column stores
it. -/
def minusHundredTwentyDays : Interval where
  parts := ⟨⟨3, 5, 0⟩, 0, 0, 120, 7, 5, 0, 0, true, false⟩
  valid := by refine ⟨?_, ?_, ?_⟩ <;> decide

theorem temporalWire_canonical_samples :
    (∃ decoded,
      decodeDatetime [195, 13, 5, 9, 25, 0] 0x096d Datetime.create =
        (.ok, decoded) ∧
      decoded.parts.withRange quarterPastNine.parts.range =
        quarterPastNine.parts) ∧
    encodeDatetime quarterPastNine 0x096d 6 = .ok [195, 13, 5, 9, 25, 0] ∧
    (decodeDatetime [195, 13, 5] 0x096d quarterPastNine).2 =
      quarterPastNine ∧
    (∃ decoded,
      decodeInterval [58, 98, 79, 92, 95] 0x0748 Interval.create =
        (.ok, decoded) ∧
      decoded.parts.withRange minusHundredTwentyDays.parts.range =
        minusHundredTwentyDays.parts) ∧
    encodeInterval minusHundredTwentyDays 0x0748 5 =
      .ok [58, 98, 79, 92, 95] ∧
    (decodeInterval [58, 98] 0x0748 minusHundredTwentyDays).2 =
      minusHundredTwentyDays := by
  obtain ⟨hdatetime, hdatetimeBack, hdatetimeKept, -, -, -⟩ :=
    temporalWire_canonical 0x096d
  obtain ⟨-, -, -, hinterval, hintervalBack, hintervalKept⟩ :=
    temporalWire_canonical 0x0748
  refine ⟨?_, ?_, ?_, ?_, ?_, ?_⟩
  · exact hdatetime quarterPastNine 12 _ _ (by decide +kernel)
  · exact hdatetimeBack [195, 13, 5, 9, 25, 0] Datetime.create _ 6
      (by rfl) (by decide)
  · exact hdatetimeKept [195, 13, 5] quarterPastNine .protoError _
      (by rfl) (by decide)
  · exact hinterval minusHundredTwentyDays 12 _ _ (by decide +kernel)
  · exact hintervalBack [58, 98, 79, 92, 95] Interval.create _ 5
      (by rfl) (by decide)
  · exact hintervalKept [58, 98] minusHundredTwentyDays .protoError _
      (by rfl) (by decide)

end Libsqli.Temporal
