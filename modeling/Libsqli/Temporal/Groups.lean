import Libsqli.Temporal.Codec

namespace Libsqli.Temporal

open Libsqli.Base100
open Libsqli.Data.Radix

/-! What an accepted qualifier says. -/

structure WireRange.Valid (range : WireRange) (interval : Bool) : Prop where
  first_pos : fieldYear ≤ range.range.first
  first_le : range.range.first ≤ range.range.last
  last_le : range.range.last ≤ fieldFraction
  fraction_pos : range.range.last = fieldFraction →
    0 < range.range.fractionalDigits
  fraction_le : range.range.fractionalDigits ≤ 5
  fraction_none : range.range.last ≠ fieldFraction →
    range.range.fractionalDigits = 0
  not_mixed : interval = true → range.range.first ≤ fieldMonth →
    range.range.last ≤ fieldMonth
  leading_le : range.leadingDigits ≤ maxLeadingDigits
  leading_pos : range.range.first ≠ fieldFraction → 0 < range.leadingDigits
  integral_eq : range.integralPairs =
    if range.range.first = fieldFraction then 0
    else (range.leadingDigits + 1) / 2 +
      (min range.range.last fieldSecond - range.range.first)
  fraction_eq : range.fractionPairs = (range.range.fractionalDigits + 1) / 2
  width_eq : range.width = 1 + range.integralPairs + range.fractionPairs
  width_le : range.width ≤ wireCapacity
  exponent_lower : 0 ≤ range.exponent
  exponent_upper : range.exponent ≤ 16

theorem closeRange_ok (hclose : closeRange fieldRange leadingDigits
      pairs exponent = .ok range) :
    range = ⟨fieldRange, leadingDigits, pairs,
      (fieldRange.fractionalDigits + 1) / 2,
      1 + pairs + (fieldRange.fractionalDigits + 1) / 2, exponent⟩ ∧
    1 + pairs + (fieldRange.fractionalDigits + 1) / 2 ≤
      wireCapacity := by
  unfold closeRange at hclose
  simp only at hclose
  split at hclose
  · cases hclose
  · exact ⟨(Except.ok.inj hclose).symm, by omega⟩

theorem qualifierRange_fraction (hstop : 10 < stop) :
    qualifierRange start stop = ⟨start / 2 + 1, 7, stop - 10⟩ := by
  simp [qualifierRange, wireSecond, hstop]

theorem qualifierRange_integral (hstop : ¬ 10 < stop) :
    qualifierRange start stop = ⟨start / 2 + 1, stop / 2 + 1, 0⟩ := by
  simp [qualifierRange, wireSecond, hstop]

theorem integralStop_eq : integralStop stop = min stop 10 := by
  unfold integralStop wireSecond
  split <;> omega

theorem decodeCodes_valid (hstop : stop ≤ 15)
    (hdecode : decodeCodes digits start stop interval = .ok range) :
    range.Valid interval := by
  unfold decodeCodes at hdecode
  split at hdecode
  · cases hdecode
  rename_i hshape
  split at hdecode
  · cases hdecode
  rename_i hmixed
  simp only [wireSecond, wireFractionStart] at hshape
  split at hdecode
  · rename_i hstart
    split at hdecode
    · cases hdecode
    rename_i hdigits
    simp only [wireFractionStart] at hstart
    have hfraction : 10 < stop := by omega
    rw [qualifierRange_fraction hfraction] at hdecode hmixed hdigits
    obtain ⟨rfl, hwidth⟩ := closeRange_ok hdecode
    simp only [wireCapacity] at hwidth
    have hfirst : start / 2 + 1 = 7 := by omega
    constructor <;>
      simp only [fieldYear, fieldFraction, fieldMonth, fieldSecond,
        maxLeadingDigits, wireCapacity, hfirst, if_true] <;> omega
  split at hdecode
  · cases hdecode
  rename_i hstart hdigits
  split at hdecode
  · cases hdecode
  rename_i hleading
  have hnine : digits - (stop - start) ≤ 9 := by
    cases interval
    · simp only [leadingInvalid, Bool.false_eq_true, if_false, ne_eq,
        decide_not, Bool.not_eq_true, Bool.not_eq_false',
        decide_eq_true_eq] at hleading
      split at hleading <;> omega
    · rw [leadingInvalid, if_pos rfl, Bool.not_eq_true,
        decide_eq_false_iff_not] at hleading
      exact Nat.le_of_not_lt hleading
  simp only [wireFractionStart] at hstart
  have hfirst : start / 2 + 1 ≠ 7 := by omega
  obtain ⟨rfl, hwidth⟩ := closeRange_ok hdecode
  simp only [integralPairs, integralStop_eq, wireCapacity] at hwidth ⊢
  have hnot : interval = true →
      (qualifierRange start stop).first ≤ fieldMonth →
      (qualifierRange start stop).last ≤ fieldMonth :=
    fun hinterval hlow =>
      Nat.le_of_not_lt fun hhigh => hmixed ⟨hinterval, hlow, hhigh⟩
  by_cases hfraction : 10 < stop
  · simp only [qualifierRange_fraction hfraction] at hnot hwidth ⊢
    constructor
    case not_mixed => exact hnot
    all_goals
      simp only [fieldYear, fieldFraction, fieldSecond, wireSecond,
        maxLeadingDigits, wireCapacity, hfirst, if_false] <;> omega
  · simp only [qualifierRange_integral hfraction] at hnot hwidth ⊢
    constructor
    case not_mixed => exact hnot
    all_goals
      simp only [fieldYear, fieldFraction, fieldSecond, wireSecond,
        maxLeadingDigits, wireCapacity, hfirst, if_false, implies_true] <;> omega

theorem decodeRange_valid
    (hdecode : decodeRange qualifier interval = .ok range) :
    range.Valid interval :=
  decodeCodes_valid Nat.and_le_right hdecode

theorem closeRange_error (hclose : closeRange range leadingDigits pairs
    exponent = .error status) : status = .protoError := by
  unfold closeRange at hclose
  simp only at hclose
  split at hclose
  · exact (Except.error.inj hclose).symm
  · cases hclose

/-- A rejected qualifier is always malformed data. -/
theorem decodeRange_error
    (hdecode : decodeRange qualifier interval = .error status) :
    status = .protoError := by
  unfold decodeRange decodeCodes at hdecode
  split at hdecode
  · exact (Except.error.inj hdecode).symm
  split at hdecode
  · exact (Except.error.inj hdecode).symm
  split at hdecode
  · split at hdecode
    · exact (Except.error.inj hdecode).symm
    · exact closeRange_error hdecode
  split at hdecode
  · exact (Except.error.inj hdecode).symm
  split at hdecode
  · exact (Except.error.inj hdecode).symm
  · exact closeRange_error hdecode

theorem WireRange.Valid.range_ok {range : WireRange}
    (hvalid : range.Valid interval) :
    validateRange range.range interval false = .ok := by
  obtain ⟨hfirst, hle, hlast, hpos, hmax, hnone, hmixed, -⟩ := hvalid
  simp only [fieldYear, fieldFraction, fieldMonth]
    at hfirst hlast hpos hnone hmixed
  unfold validateRange
  split <;> rename_i hunknown
  · simp only [fieldUnknown] at hunknown
    omega
  split <;> rename_i hcodes
  · simp only [fieldYear, fieldFraction] at hcodes
    omega
  split <;> rename_i hcross
  · have := hmixed hcross.1 hcross.2.1
    exact absurd hcross.2.2 (Nat.not_lt.mpr this)
  split <;> rename_i hfraction
  · rw [if_neg (by have := hpos hfraction; omega)]
  · rw [if_neg (by simpa using hnone hfraction)]

theorem rangeFields_nodup (range : TemporalRange) :
    (rangeFields range).Nodup := List.nodup_range'

theorem mem_rangeFields {range : TemporalRange} :
    field ∈ rangeFields range ↔
      range.first ≤ field ∧ field ≤ range.last ∧ field ≤ fieldSecond := by
  simp only [rangeFields, List.mem_range'_1]
  omega

/-! Fields and groups. -/

def fieldsWidth (range : WireRange) (fields : List Nat) : Nat :=
  (fields.map (fieldWidth range)).sum

theorem fieldsWidth_rangeFields {range : WireRange}
    (hvalid : range.Valid interval) :
    fieldsWidth range (rangeFields range.range) = range.integralPairs := by
  have hfirst := hvalid.first_pos
  have hle := hvalid.first_le
  have hlast := hvalid.last_le
  rw [hvalid.integral_eq, fieldsWidth, rangeFields]
  simp only [fieldYear, fieldFraction, fieldSecond] at *
  split
  · rename_i hfraction
    rw [show min range.range.last 6 + 1 - range.range.first = 0 by omega]
    rfl
  · rename_i hfraction
    rw [show min range.range.last 6 + 1 - range.range.first =
      min range.range.last 6 - range.range.first + 1 by omega,
      List.range'_succ, List.map_cons, List.sum_cons]
    have hrest : (List.range' (range.range.first + 1)
        (min range.range.last 6 - range.range.first)).map (fieldWidth range) =
          List.replicate (min range.range.last 6 - range.range.first) 1 := by
      rw [List.eq_replicate_iff]
      refine ⟨by simp, ?_⟩
      intro width member
      obtain ⟨field, hfield, rfl⟩ := List.mem_map.mp member
      rw [List.mem_range'_1] at hfield
      rw [fieldWidth, if_neg (by omega)]
    rw [hrest, List.sum_replicate, fieldWidth, if_pos rfl]
    simp

def fieldGroups (range : WireRange) (fields : List Nat) (table : Nat → Nat) :
    List Nat :=
  fields.flatMap fun field =>
    toBigEndian radix (fieldWidth range field) (table field)

@[simp] theorem fieldGroups_nil : fieldGroups range [] table = [] := rfl

@[simp] theorem fieldGroups_cons :
    fieldGroups range (field :: rest) table =
      toBigEndian radix (fieldWidth range field) (table field) ++
        fieldGroups range rest table := rfl

theorem length_fieldGroups :
    (fieldGroups range fields table).length = fieldsWidth range fields := by
  induction fields with
  | nil => rfl
  | cons field rest ih =>
      simp only [fieldGroups_cons, List.length_append, length_toBigEndian, ih,
        fieldsWidth, List.map_cons, List.sum_cons]

theorem fieldGroups_lt (range : WireRange) (fields : List Nat)
    (table : Nat → Nat) :
    ∀ group ∈ fieldGroups range fields table, group < radix := by
  intro group member
  obtain ⟨field, -, hgroup⟩ := List.mem_flatMap.mp member
  exact toBigEndian_lt (by decide) _ _ group hgroup

theorem readFields_of_not_mem (hfield : field ∉ fields) :
    (readFields range fields groups table).1 field = table field := by
  induction fields generalizing groups table with
  | nil => rfl
  | cons other rest ih =>
      rw [List.mem_cons, not_or] at hfield
      rw [readFields, ih hfield.2, Function.update_of_ne hfield.1]

theorem readFields_fieldGroups {table : Nat → Nat} (tail : List Nat)
    (initial : Nat → Nat) (hnodup : fields.Nodup)
    (hfits : ∀ field ∈ fields,
      table field < radix ^ fieldWidth range field) :
    (readFields range fields (fieldGroups range fields table ++ tail)
      initial).2 = tail ∧
    ∀ field ∈ fields,
      (readFields range fields (fieldGroups range fields table ++ tail)
        initial).1 field = table field := by
  induction fields generalizing initial with
  | nil => simp [readFields]
  | cons field rest ih =>
      rw [List.nodup_cons] at hnodup
      have hwidth := length_toBigEndian radix (fieldWidth range field)
        (table field)
      have hrest := ih (Function.update initial field (table field)) hnodup.2
        fun other member => hfits other (List.mem_cons_of_mem _ member)
      simp only [readFields, fieldGroups_cons, List.append_assoc,
        foldl_eq_ofBigEndian]
      rw [List.take_left' hwidth, List.drop_left' hwidth,
        ofBigEndian_toBigEndian _ (hfits field List.mem_cons_self)]
      refine ⟨hrest.1, fun other member => ?_⟩
      rcases List.mem_cons.mp member with rfl | member
      · rw [readFields_of_not_mem hnodup.1, Function.update_self]
      · exact hrest.2 other member

theorem fieldGroups_readFields (initial : Nat → Nat) {groups : List Nat}
    (hnodup : fields.Nodup)
    (hgroups : ∀ group ∈ groups, group < radix)
    (hlength : fieldsWidth range fields ≤ groups.length) :
    fieldGroups range fields (readFields range fields groups initial).1 =
        groups.take (fieldsWidth range fields) ∧
      (readFields range fields groups initial).2 =
        groups.drop (fieldsWidth range fields) ∧
      ∀ field ∈ fields, (readFields range fields groups initial).1 field <
        radix ^ fieldWidth range field := by
  induction fields generalizing groups initial with
  | nil => simp [readFields, fieldsWidth]
  | cons field rest ih =>
      rw [List.nodup_cons] at hnodup
      have hsum : fieldsWidth range (field :: rest) =
          fieldWidth range field + fieldsWidth range rest := rfl
      have htake : (groups.take (fieldWidth range field)).length =
          fieldWidth range field := by
        rw [List.length_take]
        omega
      have hhead : ∀ group ∈ groups.take (fieldWidth range field),
          group < radix :=
        fun group member => hgroups group (List.mem_of_mem_take member)
      have hdrop : ∀ group ∈ groups.drop (fieldWidth range field),
          group < radix :=
        fun group member => hgroups group (List.mem_of_mem_drop member)
      obtain ⟨hsame, hrest, hbound⟩ := ih
        (Function.update initial field (ofBigEndian radix
          (groups.take (fieldWidth range field))))
        hnodup.2 hdrop (by rw [List.length_drop]; omega)
      have hread : (readFields range rest
          (groups.drop (fieldWidth range field))
          (Function.update initial field (ofBigEndian radix
            (groups.take (fieldWidth range field))))).1 field =
          ofBigEndian radix (groups.take (fieldWidth range field)) := by
        rw [readFields_of_not_mem hnodup.1, Function.update_self]
      simp only [readFields, fieldGroups_cons, foldl_eq_ofBigEndian]
      refine ⟨?_, ?_, ?_⟩
      · rw [hread, hsame, hsum, List.take_add]
        congr 1
        conv => lhs; rw [← htake]
        rw [htake]
        have hback := toBigEndian_ofBigEndian (by decide) hhead
        rwa [htake] at hback
      · rw [hrest, List.drop_drop, hsum]
      · intro other member
        rcases List.mem_cons.mp member with rfl | member
        · rw [hread]
          have hlt := ofBigEndian_lt (by decide) hhead
          rwa [htake] at hlt
        · exact hbound other member

end Libsqli.Temporal
