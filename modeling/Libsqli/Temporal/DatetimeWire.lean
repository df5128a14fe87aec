import Libsqli.Temporal.Packable

namespace Libsqli.Temporal

open Libsqli.Base100
open Libsqli.Data.Radix

/-! DATETIME payloads. -/

theorem DatetimeParts.fields_table (parts : DatetimeParts) :
    ∀ field, field ∉ integralFields → parts.fields.integral field = 0 :=
  fun _ hmember => fieldTable_of_not_mem hmember

theorem datetime_wireForm {value : Datetime} {range : WireRange}
    (hrange : range.Valid false)
    (hmatch : matchingRange value.parts.range range value.parts.isNull = true)
    (hpack : pack value.parts.fields.toWire range capacity = .ok bytes) :
    WireForm range value.parts.fields.toWire bytes := by
  rcases pack_ok hpack with ⟨hnull, hbytes⟩ |
    ⟨hnull, hleading, hexact, hbytes⟩
  · refine .null ?_ hbytes
    rw [value.valid.null_cleared hnull]
    simp [TemporalFields.toWire, DatetimeParts.fields, nullDatetimeParts,
      fieldTable_zero]
  · have hparts : value.parts.isNull = false := hnull
    rw [hparts, matchingRange_iff] at hmatch
    have hvalid := (validateFields_ok_iff hnull).mp value.valid.fields_ok
    exact .packed (hvalid.packable hnull value.parts.fields_table hrange
      hmatch.1 hmatch.2 hleading hexact fun _ => rfl) hbytes

theorem datetimeParts_toWire {parts : DatetimeParts}
    (hyear : 0 ≤ parts.year) (range : TemporalRange) :
    datetimeParts range parts.fields.toWire = parts.withRange range := by
  have hyearNat : Int32.ofNat parts.year.toNatClampNeg = parts.year := by
    have hnonnegative : 0 ≤ parts.year.toInt := Int32.le_iff_toInt_le.mp hyear
    have hbound := parts.year.toInt_lt
    apply Int32.toInt_inj.mp
    rw [← Int32.toNat_toInt, Int32.toInt_ofNat_of_lt (by omega),
      Int.toNat_of_nonneg hnonnegative]
  simp [datetimeParts, TemporalFields.toWire, DatetimeParts.fields, fieldTable,
    DatetimeParts.withRange, hyearNat]

theorem toWire_datetimeParts {fields : WireFields}
    (hyear : fields.fields fieldYear ≤ lastYear)
    (hnarrow : ¬ ∃ field ∈ integralFields.tail, 255 < fields.fields field)
    (hnanosecond : fields.nanosecond < nanosecondsPerSecond)
    (hnegative : fields.negative = false)
    (htable : ∀ field, field ∉ integralFields → fields.fields field = 0) :
    (datetimeParts range fields).fields.toWire = fields := by
  have hbyte : ∀ field ∈ integralFields.tail,
      (UInt8.ofNat (fields.fields field)).toNat = fields.fields field := by
    intro field hmember
    apply UInt8.toNat_ofNat_of_lt'
    have : ¬ 255 < fields.fields field := fun hlarge =>
      hnarrow ⟨field, hmember, hlarge⟩
    simp [UInt8.size]
    omega
  have hyearNat : (Int32.ofNat (fields.fields fieldYear)).toNatClampNeg =
      fields.fields fieldYear := by
    simp only [lastYear] at hyear
    exact Int32.toNatClampNeg_ofNat_of_lt (by omega)
  have hnano : (UInt32.ofNat fields.nanosecond).toNat = fields.nanosecond := by
    simp only [nanosecondsPerSecond] at hnanosecond
    exact UInt32.toNat_ofNat_of_lt' (by simp [UInt32.size]; omega)
  cases fields with
  | mk table nanosecond negative isNull =>
      simp only at hnegative hnano hyearNat hbyte htable
      subst hnegative
      simp only [datetimeParts, DatetimeParts.fields, TemporalFields.toWire,
        hnano, hyearNat, hbyte fieldMonth (by decide),
        hbyte fieldDay (by decide), hbyte fieldHour (by decide),
        hbyte fieldMinute (by decide), hbyte fieldSecond (by decide)]
      congr 1
      exact fieldTable_self htable

theorem datetime_year_le (value : Datetime) :
    value.parts.fields.integral fieldYear ≤ lastYear := by
  cases hnull : value.parts.isNull with
  | true =>
      rw [value.valid.null_cleared hnull]
      exact Nat.zero_le _
  | false =>
      have hvalid := (validateFields_ok_iff hnull).mp value.valid.fields_ok
      by_cases hrange : fieldYear < value.parts.fields.range.first ∨
          value.parts.fields.range.last < fieldYear
      · rw [hvalid.outside (by decide) hrange]
        decide
      · exact hvalid.bounded (by decide) hrange (by simp)

theorem datetime_narrow (value : Datetime) :
    ¬ ∃ field ∈ integralFields.tail,
      255 < value.parts.fields.toWire.fields field := by
  have hbyte : ∀ byte : UInt8, ¬ 255 < byte.toNat := fun byte => by
    have := byte.toNat_lt
    omega
  rintro ⟨field, hmember, hlarge⟩
  simp only [integralFields, List.tail_cons, List.mem_cons, List.not_mem_nil,
    or_false] at hmember
  rcases hmember with rfl | rfl | rfl | rfl | rfl <;> exact hbyte _ hlarge

theorem datetime_setParts {value : Datetime} {range : WireRange}
    (hrange : range.Valid false)
    (hmatch : matchingRange value.parts.range range value.parts.isNull = true)
    (hexact : value.parts.isNull = false → value.parts.fields.nanosecond %
      10 ^ (9 - range.range.fractionalDigits) = 0) (out : Datetime) :
    ∃ decoded, out.setParts (value.parts.withRange range.range) =
        (.ok, decoded) ∧
      decoded.parts = value.parts.withRange range.range := by
  have hok : validateFields (value.parts.withRange range.range).fields false =
      .ok := by
    cases hnull : value.parts.isNull with
    | true =>
        have hallowed := validateRange_unknown_allowed hrange.range_ok
        simp [validateFields, DatetimeParts.fields, DatetimeParts.withRange,
          hnull, hallowed]
    | false =>
        rw [hnull, matchingRange_iff] at hmatch
        exact retarget_fields_ok
          ((validateFields_ok_iff hnull).mp value.valid.fields_ok) hnull hrange
          hmatch.1 hmatch.2 (hexact hnull)
  have hyear : 0 ≤ (value.parts.withRange range.range).year :=
    value.valid.year_nonnegative
  obtain ⟨decoded, hset⟩ := out.setParts_valid hyear hok
  refine ⟨decoded, hset, ?_⟩
  rw [Datetime.setParts_parts hset]
  split
  · next hnull =>
    rw [value.valid.null_cleared hnull]
    rfl
  · rfl

theorem decodeDatetime_of_encode {value : Datetime}
    (hencode : encodeDatetime value qualifier capacity = .ok bytes)
    (out : Datetime) :
    ∃ decoded, decodeDatetime bytes qualifier out = (.ok, decoded) ∧
      decoded.parts.withRange value.parts.range = value.parts := by
  unfold encodeDatetime at hencode
  cases hdecode : decodeRange qualifier false with
  | error status => simp [hdecode] at hencode
  | ok range =>
      have hrange := decodeRange_valid hdecode
      simp only [hdecode] at hencode
      by_cases hmatch : matchingRange value.parts.range range
          value.parts.isNull = true
      · rw [if_pos hmatch] at hencode
        have hform := datetime_wireForm hrange hmatch hencode
        obtain ⟨decoded, hset, hparts⟩ := datetime_setParts hrange hmatch
          (fun hnull => hform.exact hnull) out
        refine ⟨decoded, ?_, by rw [hparts]; rfl⟩
        have hyear : ¬ lastYear < value.parts.fields.toWire.fields fieldYear :=
          Nat.not_lt.mpr (datetime_year_le value)
        simp only [decodeDatetime, hdecode, (unpack_ok_iff hrange).mpr hform]
        rw [if_neg (by simp [TemporalFields.toWire, DatetimeParts.fields]),
          if_neg hyear, if_neg (datetime_narrow value),
          datetimeParts_toWire value.valid.year_nonnegative, hset]
        rfl
      · rw [if_neg hmatch] at hencode
        cases hencode

/-- What a successful decode has checked, and what it has stored. -/
theorem decodeDatetime_ok {decoded : Datetime}
    (hdecode : decodeDatetime bytes qualifier out = (.ok, decoded)) :
    ∃ range, decodeRange qualifier false = .ok range ∧
      decoded.parts.range = range.range ∧
      WireForm range decoded.parts.fields.toWire bytes := by
  unfold decodeDatetime at hdecode
  split at hdecode
  · rename_i status hqualifier
    rw [decodeRange_error hqualifier] at hdecode
    cases hdecode
  rename_i range hqualifier
  split at hdecode
  · cases hdecode
  rename_i fields hunpack
  split at hdecode
  · cases hdecode
  rename_i hnegative
  split at hdecode
  · cases hdecode
  rename_i hyear
  split at hdecode
  · cases hdecode
  rename_i hnarrow
  rw [importResult_ok_iff] at hdecode
  have hform := (unpack_ok_iff (decodeRange_valid hqualifier)).mp hunpack
  have hparts := Datetime.setParts_parts hdecode
  refine ⟨range, hqualifier, ?_, ?_⟩
  · rw [hparts]
    split <;> rfl
  · cases hform with
    | null fields_eq bytes_eq =>
        refine .null ?_ bytes_eq
        rw [hparts, fields_eq]
        simp [datetimeParts, nullDatetimeParts, TemporalFields.toWire,
          DatetimeParts.fields, fieldTable_zero]
    | packed packable bytes_eq =>
        have hsame : decoded.parts.fields.toWire = fields := by
          rw [hparts, if_neg (by simp [datetimeParts, packable.not_null])]
          exact toWire_datetimeParts (Nat.not_lt.mp hyear) hnarrow
            packable.nanosecond_lt (by simpa using hnegative)
            (packable.table_zero (decodeRange_valid hqualifier))
        rw [hsame]
        exact .packed packable bytes_eq

theorem encodeDatetime_of_decode {decoded : Datetime}
    (hdecode : decodeDatetime bytes qualifier out = (.ok, decoded))
    (hcapacity : bytes.length ≤ capacity) :
    encodeDatetime decoded qualifier capacity = .ok bytes := by
  obtain ⟨range, hqualifier, hparts, hform⟩ := decodeDatetime_ok hdecode
  have hlength := hform.length (decodeRange_valid hqualifier)
  simp only [encodeDatetime, hqualifier]
  rw [if_pos (by simp [matchingRange, hparts])]
  exact pack_of_wireForm hform (by omega)

theorem decodeDatetime_failed {stored : Datetime}
    (hdecode : decodeDatetime bytes qualifier out = (status, stored))
    (hfailed : status ≠ .ok) : stored = out := by
  unfold decodeDatetime at hdecode
  split at hdecode
  · exact (Prod.mk.inj hdecode).2.symm
  split at hdecode
  · exact (Prod.mk.inj hdecode).2.symm
  split at hdecode
  · exact (Prod.mk.inj hdecode).2.symm
  split at hdecode
  · exact (Prod.mk.inj hdecode).2.symm
  split at hdecode
  · exact (Prod.mk.inj hdecode).2.symm
  obtain ⟨rfl, rfl⟩ := Prod.ext_iff.mp hdecode
  exact importResult_unchanged Datetime.setParts_unchanged hfailed

end Libsqli.Temporal
