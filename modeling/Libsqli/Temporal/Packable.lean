import Libsqli.Temporal.RoundTrip

namespace Libsqli.Temporal

open Libsqli.Base100
open Libsqli.Data.Radix

/-! From validated values to packable fields. -/

theorem fieldTable_of_not_mem (hfield : field ∉ integralFields) :
    fieldTable year month day hour minute second field = 0 := by
  match field with
  | 0 => rfl
  | 1 | 2 | 3 | 4 | 5 | 6 => simp [integralFields] at hfield
  | _ + 7 => rfl

namespace TemporalFields.Valid

theorem outside {fields : TemporalFields} (hvalid : fields.Valid interval)
    (hmember : field ∈ integralFields)
    (hrange : field < fields.range.first ∨ fields.range.last < field) :
    fields.integral field = 0 := by
  have hcheck := hvalid.fields_ok field hmember
  rw [validateField, if_pos hrange] at hcheck
  by_contra hnonzero
  rw [if_pos hnonzero] at hcheck
  cases hcheck

theorem bounded {fields : TemporalFields} (hvalid : fields.Valid interval)
    (hmember : field ∈ integralFields)
    (hrange : ¬ (field < fields.range.first ∨ fields.range.last < field))
    (hfree : ¬ (interval = true ∧ field = fields.range.first)) :
    fields.integral field ≤ fieldMaximum interval field := by
  have hcheck := hvalid.fields_ok field hmember
  rw [validateField, if_neg hrange, if_neg hfree] at hcheck
  by_contra hlarge
  rw [if_pos (.inr (by omega))] at hcheck
  cases hcheck

theorem nanosecond_lt {fields : TemporalFields}
    (hvalid : fields.Valid interval) :
    fields.nanosecond < nanosecondsPerSecond := by
  have hcheck := hvalid.nanosecond_ok
  unfold validateNanosecond at hcheck
  split at hcheck
  · split at hcheck
    · rename_i hzero
      rw [hzero]
      decide
    · cases hcheck
  · split at hcheck
    · cases hcheck
    · omega

/-- Validation looks at the end fields and at the fraction, so a value stays
valid under any qualifier that keeps both. -/
theorem retarget {fields : TemporalFields} (hvalid : fields.Valid interval)
    {target : TemporalRange}
    (hok : validateRange target interval false = .ok)
    (hfirst : fields.range.first = target.first)
    (hlast : fields.range.last = target.last)
    (hexact : fields.nanosecond % 10 ^ (9 - target.fractionalDigits) = 0) :
    ({ fields with range := target } : TemporalFields).Valid interval where
  range_ok := hok
  fields_ok := by
    intro field hmember
    have hcheck := hvalid.fields_ok field hmember
    rw [validateField, hfirst, hlast] at hcheck
    exact hcheck
  day_ok := hvalid.day_ok
  nanosecond_ok := by
    have hcheck := hvalid.nanosecond_ok
    have hlt := hvalid.nanosecond_lt
    rw [validateNanosecond, hlast] at hcheck
    by_cases hfraction : target.last ≠ fieldFraction
    · rw [if_pos hfraction] at hcheck
      rw [validateNanosecond, if_pos hfraction]
      exact hcheck
    · rw [validateNanosecond, if_neg hfraction, if_neg (by simpa using hlt),
        if_neg (by simpa using hexact)]

end TemporalFields.Valid

theorem inside_of_valid {fields : TemporalFields}
    (hvalid : fields.Valid interval) {range : WireRange}
    (hrange : range.Valid interval)
    (hfirst : fields.range.first = range.range.first)
    (hlast : fields.range.last = range.range.last)
    (hleading : range.leadingDigits ≠ 0 →
      fields.integral range.range.first < 10 ^ range.leadingDigits)
    (hmember : field ∈ rangeFields range.range) :
    fields.integral field < radix ^ fieldWidth range field := by
  obtain ⟨hlow, hhigh, hsecond⟩ := mem_rangeFields.mp hmember
  have hpos := hrange.first_pos
  simp only [fieldYear, fieldSecond] at hpos hsecond
  by_cases hsame : field = range.range.first
  · have hdigits := hrange.leading_pos (by simp only [fieldFraction]; omega)
    rw [fieldWidth, if_pos hsame, hsame, show radix = 10 ^ 2 by decide, ← pow_mul]
    exact lt_of_lt_of_le (hleading (by omega))
      (Nat.pow_le_pow_right (by omega) (by omega))
  · have hintegral : field ∈ integralFields := by
      simp only [integralFields, fieldYear, fieldMonth, fieldDay, fieldHour,
        fieldMinute, fieldSecond, List.mem_cons, List.not_mem_nil, or_false]
      omega
    have hbound : fields.integral field ≤ fieldMaximum interval field :=
      hvalid.bounded hintegral (by rw [hfirst, hlast]; omega)
        (by rw [hfirst]; tauto)
    have hmaximum : fieldMaximum interval field ≤ 59 := by
      rcases field with _ | _ | _ | _ | _ | _ | field
      · omega
      · omega
      · cases interval <;> decide
      all_goals simp [fieldMaximum]
    rw [fieldWidth, if_neg hsame, pow_one]
    simp only [radix]
    omega

theorem isZero_of_groups {fields : WireFields} {range : WireRange}
    (hvalid : range.Valid interval)
    (hinside : ∀ field ∈ rangeFields range.range,
      fields.fields field < radix ^ fieldWidth range field)
    (hlt : fields.nanosecond < nanosecondsPerSecond)
    (hexact : fields.nanosecond % 10 ^ (9 - range.range.fractionalDigits) = 0)
    (hzero : ∀ group ∈ packedGroups fields range, group = 0) :
    fields.nanosecond = 0 ∧
      ∀ field ∈ rangeFields range.range, fields.fields field = 0 := by
  constructor
  · have hvalue := fractionGroups_value hvalid hlt
    rw [(ofBigEndian_eq_zero_iff (by decide)).mpr fun group member =>
      hzero group (List.mem_append_right _ member)] at hvalue
    have hquotient : fields.nanosecond /
        10 ^ (9 - range.range.fractionalDigits) = 0 := by
      split at hvalue <;> omega
    have hsplit := Nat.div_mul_cancel (Nat.dvd_of_mod_eq_zero hexact)
    rw [hquotient, Nat.zero_mul] at hsplit
    exact hsplit.symm
  · intro field hmember
    rw [← ofBigEndian_toBigEndian _ (hinside field hmember)]
    refine (ofBigEndian_eq_zero_iff (by decide)).mpr fun group member => ?_
    exact hzero group (List.mem_append_left _
      (List.mem_flatMap.mpr ⟨field, hmember, member⟩))

theorem TemporalFields.Valid.packable {fields : TemporalFields}
    (hvalid : fields.Valid interval) (hnull : fields.isNull = false)
    (htable : ∀ field, field ∉ integralFields → fields.integral field = 0)
    {range : WireRange} (hrange : range.Valid interval)
    (hfirst : fields.range.first = range.range.first)
    (hlast : fields.range.last = range.range.last)
    (hleading : range.leadingDigits ≠ 0 →
      fields.integral range.range.first < 10 ^ range.leadingDigits)
    (hexact : fields.nanosecond % 10 ^ (9 - range.range.fractionalDigits) = 0)
    (hsign : fields.isZero = true → fields.negative = false) :
    fields.toWire.Packable range := by
  have houtside : ∀ field, field ∉ rangeFields range.range →
      fields.integral field = 0 := by
    intro field hmember
    by_cases hintegral : field ∈ integralFields
    · refine hvalid.outside hintegral ?_
      rw [mem_rangeFields] at hmember
      have hle : field ≤ fieldSecond := by
        simp only [integralFields, fieldYear, fieldMonth, fieldDay, fieldHour,
          fieldMinute, fieldSecond, List.mem_cons, List.not_mem_nil, or_false]
          at hintegral ⊢
        omega
      rw [hfirst, hlast]
      omega
    · exact htable field hintegral
  have hinside : ∀ field ∈ rangeFields range.range,
      fields.integral field < radix ^ fieldWidth range field :=
    fun field => inside_of_valid hvalid hrange hfirst hlast hleading
  refine ⟨hnull, houtside, hinside, hleading, hvalid.nanosecond_lt, hexact, ?_⟩
  intro hzero
  obtain ⟨hnanosecond, hfields⟩ := isZero_of_groups hrange hinside
    hvalid.nanosecond_lt hexact hzero
  apply hsign
  simp only [isZero, Bool.and_eq_true, beq_iff_eq, List.all_eq_true]
  refine ⟨hnanosecond, fun field _ => ?_⟩
  by_cases hmember : field ∈ rangeFields range.range
  · exact hfields field hmember
  · exact houtside field hmember

theorem matchingRange_iff {value : TemporalRange} {range : WireRange}
 :
    matchingRange value range false = true ↔
      value.first = range.range.first ∧ value.last = range.range.last := by
  simp [matchingRange]

theorem fieldTable_zero : fieldTable 0 0 0 0 0 0 = fun _ => 0 := by
  funext field
  match field with
  | 0 | 1 | 2 | 3 | 4 | 5 | 6 => rfl
  | _ + 7 => rfl

theorem fieldTable_self {table : Nat → Nat}
    (htable : ∀ field, field ∉ integralFields → table field = 0) :
    fieldTable (table 1) (table 2) (table 3) (table 4) (table 5) (table 6) =
      table := by
  funext field
  by_cases hmember : field ∈ integralFields
  · simp only [integralFields, List.mem_cons, List.not_mem_nil, or_false]
      at hmember
    rcases hmember with rfl | rfl | rfl | rfl | rfl | rfl <;> rfl
  · rw [fieldTable_of_not_mem hmember, htable field hmember]

theorem importResult_ok_iff {result : Status × α} :
    importResult result = (.ok, value) ↔ result = (.ok, value) := by
  cases result with
  | mk status out =>
      simp only [importResult, Prod.mk.injEq]
      by_cases hok : status = .ok <;> simp [hok]

theorem importResult_unchanged {result : Status × α}
    (hunchanged : result.1 ≠ .ok → result.2 = out)
    (hfailed : (importResult result).1 ≠ .ok) :
    (importResult result).2 = out := by
  apply hunchanged
  intro hok
  simp [importResult, hok] at hfailed

theorem WireFields.Packable.table_zero {fields : WireFields}
    (hpackable : fields.Packable range) (hrange : range.Valid interval) :
    ∀ field, field ∉ integralFields → fields.fields field = 0 := by
  intro field hmember
  apply hpackable.outside
  intro hfield
  obtain ⟨hlow, -, hsecond⟩ := mem_rangeFields.mp hfield
  have := hrange.first_pos
  apply hmember
  simp only [integralFields, fieldYear, fieldMonth, fieldDay, fieldHour,
    fieldMinute, fieldSecond, List.mem_cons, List.not_mem_nil, or_false] at *
  omega

/-- `set_parts` accepts the fields of a value under any range it can travel by. -/
theorem retarget_fields_ok {fields : TemporalFields}
    (hvalid : fields.Valid interval) (hnull : fields.isNull = false)
    {range : WireRange} (hrange : range.Valid interval)
    (hfirst : fields.range.first = range.range.first)
    (hlast : fields.range.last = range.range.last)
    (hexact : fields.nanosecond % 10 ^ (9 - range.range.fractionalDigits) = 0) :
    validateFields { fields with range := range.range } interval = .ok := by
  have hretarget := hvalid.retarget hrange.range_ok hfirst hlast hexact
  rwa [← validateFields_ok_iff (by exact hnull)] at hretarget

theorem WireForm.exact {fields : WireFields} {range : WireRange}
    (hform : WireForm range fields bytes) (hnull : fields.isNull = false) :
    fields.nanosecond % 10 ^ (9 - range.range.fractionalDigits) = 0 := by
  cases hform with
  | null fields_eq _ =>
      rw [fields_eq] at hnull
      cases hnull
  | packed packable _ => exact packable.nanosecond_exact

theorem WireForm.length {fields : WireFields} {range : WireRange}
    (hrange : range.Valid interval) (hform : WireForm range fields bytes) :
    bytes.length = range.width := by
  cases hform with
  | null _ bytes_eq => simp [bytes_eq]
  | packed _ bytes_eq =>
      rw [bytes_eq]
      exact length_packedBytes hrange (length_packedGroups hrange fields)

end Libsqli.Temporal
