import Libsqli.Temporal.WireForm

namespace Libsqli.Temporal

open Libsqli.Base100
open Libsqli.Data.Radix

/-! Fields that a qualifier can carry exactly. -/

structure WireFields.Packable (fields : WireFields) (range : WireRange) :
    Prop where
  not_null : fields.isNull = false
  outside : ∀ field, field ∉ rangeFields range.range → fields.fields field = 0
  inside : ∀ field ∈ rangeFields range.range,
    fields.fields field < radix ^ fieldWidth range field
  leading : range.leadingDigits ≠ 0 →
    fields.fields range.range.first < 10 ^ range.leadingDigits
  nanosecond_lt : fields.nanosecond < nanosecondsPerSecond
  nanosecond_exact :
    fields.nanosecond % 10 ^ (9 - range.range.fractionalDigits) = 0
  sign : SignOk fields.negative (packedGroups fields range)

theorem length_packedGroups {range : WireRange}
    (hvalid : range.Valid interval) (fields : WireFields) :
    (packedGroups fields range).length = range.width - 1 := by
  have hfields :
      (fieldGroups range (rangeFields range.range) fields.fields).length =
        range.integralPairs :=
    length_fieldGroups.trans (fieldsWidth_rangeFields hvalid)
  rw [packedGroups, List.length_append, ← fieldGroups, hfields, fractionGroups,
    length_toBigEndian, hvalid.width_eq]
  omega

theorem packedGroups_lt (fields : WireFields) (range : WireRange) :
    ∀ group ∈ packedGroups fields range, group < radix := by
  intro group member
  rcases List.mem_append.mp member with member | member
  · exact fieldGroups_lt range _ _ group member
  · exact toBigEndian_lt (by decide) _ _ group member

theorem fraction_lt {range : WireRange} (hvalid : range.Valid interval)
    (hlt : nanosecond < nanosecondsPerSecond) :
    nanosecond / 10 ^ (9 - range.range.fractionalDigits) <
      10 ^ range.range.fractionalDigits := by
  have hdigits := hvalid.fraction_le
  rw [Nat.div_lt_iff_lt_mul (by positivity), ← pow_add,
    show range.range.fractionalDigits + (9 - range.range.fractionalDigits) = 9 by
      omega]
  exact hlt

theorem pairs_power {range : WireRange} (hvalid : range.Valid interval) :
    radix ^ range.fractionPairs =
      if range.range.fractionalDigits % 2 ≠ 0 then
        10 ^ range.range.fractionalDigits * 10
      else 10 ^ range.range.fractionalDigits := by
  rw [hvalid.fraction_eq, show radix = 10 ^ 2 by decide, ← pow_mul]
  split
  · rw [← pow_succ]
    congr 1
    omega
  · congr 1
    omega

theorem fractionGroups_value {range : WireRange}
    (hvalid : range.Valid interval) (hlt : nanosecond < nanosecondsPerSecond) :
    ofBigEndian radix (fractionGroups range nanosecond) =
      if range.range.fractionalDigits % 2 ≠ 0 then
        nanosecond / 10 ^ (9 - range.range.fractionalDigits) * 10
      else nanosecond / 10 ^ (9 - range.range.fractionalDigits) := by
  have hfraction := fraction_lt hvalid hlt
  apply ofBigEndian_toBigEndian
  rw [pairs_power hvalid]
  split <;> omega

theorem readAligned_packedGroups {range : WireRange}
    (hvalid : range.Valid interval) {fields : WireFields}
    (hpackable : fields.Packable range) :
    readAligned range fields.negative (packedGroups fields range) =
      .ok fields := by
  obtain ⟨hrest, hread⟩ := readFields_fieldGroups
    (fractionGroups range fields.nanosecond) (fun _ => 0)
    (rangeFields_nodup range.range) hpackable.inside
  have hfields : (readFields range (rangeFields range.range)
      (packedGroups fields range) fun _ => 0).1 = fields.fields := by
    funext field
    by_cases hmember : field ∈ rangeFields range.range
    · exact hread field hmember
    · rw [readFields_of_not_mem hmember, hpackable.outside field hmember]
  have htake : (fractionGroups range fields.nanosecond).take
      range.fractionPairs = fractionGroups range fields.nanosecond :=
    List.take_of_length_le (by simp [fractionGroups])
  have hvalue := fractionGroups_value hvalid hpackable.nanosecond_lt
  have hnanosecond := Nat.div_mul_cancel
    (Nat.dvd_of_mod_eq_zero hpackable.nanosecond_exact)
  have hleading : ¬ (range.leadingDigits ≠ 0 ∧
      10 ^ range.leadingDigits ≤ fields.fields range.range.first) := by
    rintro ⟨hdigits, hle⟩
    exact absurd (hpackable.leading hdigits) (by omega)
  unfold readAligned
  simp only [hfields, foldl_eq_ofBigEndian]
  rw [show (readFields range (rangeFields range.range)
    (packedGroups fields range) fun _ => 0).2 =
      fractionGroups range fields.nanosecond from hrest, htake, hvalue]
  have hnull := hpackable.not_null
  cases fields with
  | mk table nanosecond negative isNull =>
      simp only at hnanosecond hleading hnull ⊢
      subst hnull
      by_cases hodd : range.range.fractionalDigits % 2 ≠ 0
      · simp only [if_pos hodd, Nat.mul_mod_left,
          Nat.mul_div_cancel _ (by omega : 0 < 10), hnanosecond]
        rw [if_neg (by simp), if_neg hleading]
      · simp only [if_neg hodd, hnanosecond]
        rw [if_neg (by tauto), if_neg hleading]

theorem readAligned_ok {range : WireRange} (hvalid : range.Valid interval)
    {groups : List Nat} (hgroups : ∀ group ∈ groups, group < radix)
    (hlength : groups.length = range.width - 1)
    (hsign : SignOk negative groups)
    (hread : readAligned range negative groups = .ok fields) :
    fields.Packable range ∧ fields.negative = negative ∧
      packedGroups fields range = groups := by
  have hwidth := fieldsWidth_rangeFields hvalid
  have htotal : groups.length = range.integralPairs + range.fractionPairs := by
    rw [hlength, hvalid.width_eq]
    omega
  obtain ⟨hsame, hrest, hbound⟩ := fieldGroups_readFields (fun _ => 0)
    (rangeFields_nodup range.range) hgroups (by rw [hwidth]; omega)
  rw [hwidth] at hsame hrest
  have htail : (groups.drop range.integralPairs).take range.fractionPairs =
      groups.drop range.integralPairs :=
    List.take_of_length_le (by rw [List.length_drop]; omega)
  have htailLength : (groups.drop range.integralPairs).length =
      range.fractionPairs := by
    rw [List.length_drop]
    omega
  have htailLt : ∀ group ∈ groups.drop range.integralPairs, group < radix :=
    fun group member => hgroups group (List.mem_of_mem_drop member)
  have hfraction := ofBigEndian_lt (by decide) htailLt
  have hback := toBigEndian_ofBigEndian (by decide) htailLt
  rw [htailLength] at hfraction hback
  rw [pairs_power hvalid] at hfraction
  unfold readAligned at hread
  simp only [foldl_eq_ofBigEndian, hrest, htail] at hread
  generalize hvalue : ofBigEndian radix (groups.drop range.integralPairs) = value
    at hread hfraction hback
  have hdigits := hvalid.fraction_le
  have hnine : 10 ^ range.range.fractionalDigits *
      10 ^ (9 - range.range.fractionalDigits) = nanosecondsPerSecond := by
    rw [← pow_add, show range.range.fractionalDigits +
      (9 - range.range.fractionalDigits) = 9 by omega]
    rfl
  have hscale : 0 < 10 ^ (9 - range.range.fractionalDigits) := by positivity
  by_cases hpad : range.range.fractionalDigits % 2 ≠ 0 ∧ value % 10 ≠ 0
  · rw [if_pos hpad] at hread
    cases hread
  rw [if_neg hpad] at hread
  split at hread
  · cases hread
  rename_i hleading
  obtain rfl := Except.ok.inj hread
  have hpacked : packedGroups
      ⟨(readFields range (rangeFields range.range) groups fun _ => 0).1,
        (if range.range.fractionalDigits % 2 ≠ 0 then value / 10 else value) *
          10 ^ (9 - range.range.fractionalDigits), negative, false⟩ range =
      groups := by
    rw [packedGroups, ← fieldGroups, hsame, fractionGroups]
    simp only [Nat.mul_div_cancel _ hscale]
    have hvalueEq : (if range.range.fractionalDigits % 2 ≠ 0 then
        (if range.range.fractionalDigits % 2 ≠ 0 then value / 10 else value) * 10
      else if range.range.fractionalDigits % 2 ≠ 0 then value / 10
        else value) = value := by
      by_cases hodd : range.range.fractionalDigits % 2 ≠ 0
      · simp only [if_pos hodd]
        omega
      · simp only [if_neg hodd]
    rw [hvalueEq, hback, List.take_append_drop]
  refine ⟨⟨rfl, ?_, hbound, ?_, ?_, ?_, ?_⟩, rfl, hpacked⟩
  · exact fun field hmember => readFields_of_not_mem hmember
  · intro hdigits
    exact Nat.lt_of_not_le fun hle => hleading ⟨hdigits, hle⟩
  · rw [← hnine]
    refine Nat.mul_lt_mul_of_pos_right ?_ hscale
    by_cases hodd : range.range.fractionalDigits % 2 ≠ 0
    · rw [if_pos hodd] at hfraction ⊢
      omega
    · rw [if_neg hodd] at hfraction ⊢
      exact hfraction
  · exact Nat.mul_mod_left _ _
  · rw [hpacked]
    exact hsign

/-- The bytes are the wire form of the fields under the qualifier. -/
inductive WireForm (range : WireRange) (fields : WireFields)
    (bytes : List UInt8) : Prop where
  | null
      (fields_eq : fields = ⟨fun _ => 0, 0, false, true⟩)
      (bytes_eq : bytes = List.replicate range.width 0)
  | packed
      (packable : fields.Packable range)
      (bytes_eq : bytes = packedBytes fields.negative range
        (packedGroups fields range))

theorem length_packedBytes {range : WireRange} (hvalid : range.Valid interval)
    (hlength : groups.length = range.width - 1) :
    (packedBytes negative range groups).length = range.width := by
  have hwidth := hvalid.width_eq
  unfold packedBytes
  simp only
  split
  · simp
    omega
  · have hle := (List.dropWhile_suffix (· = 0) (l := groups)).length_le
    simp
    omega

theorem unpack_ok_iff {range : WireRange} (hvalid : range.Valid interval) :
    unpack bytes range = .ok fields ↔ WireForm range fields bytes := by
  constructor
  · intro hunpack
    rcases unpack_ok hunpack with ⟨hbytes, hfields⟩ |
      ⟨groups, hgroups, hlength, hsign, hread, hbytes⟩
    · exact .null hfields hbytes
    · obtain ⟨hpackable, -, hpacked⟩ :=
        readAligned_ok hvalid hgroups hlength hsign hread
      exact .packed hpackable (by rw [hpacked, hbytes])
  · rintro (⟨rfl, rfl⟩ | ⟨hpackable, rfl⟩)
    · simp [unpack]
    · rw [unpack_packedBytes hvalid (packedGroups_lt fields range)
        (length_packedGroups hvalid fields) hpackable.sign]
      exact readAligned_packedGroups hvalid hpackable

theorem pack_of_wireForm {range : WireRange}
    (hform : WireForm range fields bytes) (hcapacity : range.width ≤ capacity) :
    pack fields range capacity = .ok bytes := by
  have hroom : ¬ capacity < range.width := by omega
  cases hform with
  | null fields_eq bytes_eq => simp [pack, fields_eq, bytes_eq, hroom]
  | packed packable bytes_eq =>
      have hleading : ¬ (!fields.isNull ∧ range.leadingDigits ≠ 0 ∧
          10 ^ range.leadingDigits ≤ fields.fields range.range.first) := by
        rintro ⟨-, hdigits, hle⟩
        exact absurd (packable.leading hdigits) (by omega)
      rw [pack, if_neg hleading, if_neg (by simp [packable.nanosecond_exact]),
        if_neg hroom, if_neg (by simp [packable.not_null]), bytes_eq]

theorem pack_ok (hpack : pack fields range capacity = .ok bytes) :
    (fields.isNull = true ∧ bytes = List.replicate range.width 0) ∨
    (fields.isNull = false ∧
      (range.leadingDigits ≠ 0 →
        fields.fields range.range.first < 10 ^ range.leadingDigits) ∧
      fields.nanosecond % 10 ^ (9 - range.range.fractionalDigits) = 0 ∧
      bytes = packedBytes fields.negative range (packedGroups fields range)) := by
  unfold pack at hpack
  split at hpack
  · cases hpack
  rename_i hleading
  split at hpack
  · cases hpack
  rename_i hexact
  split at hpack
  · cases hpack
  split at hpack
  · rename_i hnull
    exact .inl ⟨hnull, (Except.ok.inj hpack).symm⟩
  · rename_i hnull
    rw [Bool.not_eq_true] at hnull
    simp only [hnull, Bool.not_false, true_and, ne_eq, not_and,
      Decidable.not_not] at hleading hexact
    exact .inr ⟨hnull, fun hdigits => Nat.lt_of_not_le (hleading hdigits),
      hexact, (Except.ok.inj hpack).symm⟩

end Libsqli.Temporal
