import Libsqli.Decimal.Decode

namespace Libsqli.Decimal

open Libsqli.Base100
open Libsqli.Data.Radix

structure WireType.Valid (type : WireType) : Prop where
  precision_pos : 0 < type.precision
  precision_le : type.precision ≤ maxPrecision
  scale_le : type.scale ≤ 255
  width_pos : 2 ≤ type.width

theorem decodeType_valid (hdecode : decodeType descriptor = .ok type) :
    type.Valid := by
  unfold decodeType at hdecode
  simp only at hdecode
  split at hdecode
  · cases hdecode
  · cases hdecode
    rename_i hvalid
    have hscale : descriptor.toNat &&& 0xff ≤ 255 := Nat.and_le_right
    have hpositive : descriptor.toNat >>> 8 ≠ 0 := fun hzero =>
      hvalid (.inl hzero)
    refine ⟨Nat.pos_of_ne_zero hpositive,
      Nat.le_of_not_lt fun hlarge => hvalid (.inr (.inl hlarge)), hscale, ?_⟩
    simp only
    omega

/-! Scales. -/

theorem targetScale_of_fits {value : Scientific} (hfits : Fits type value) :
    ∃ extraZeros : Nat, targetScale type value.digits (-value.power) =
      some (extraZeros, -value.power + extraZeros) ∧
      value.digits + extraZeros ≤ type.precision ∧
      (type.scale ≠ floatingScale →
        -value.power + extraZeros = type.scale) := by
  unfold Fits at hfits
  by_cases hfloating : type.scale = floatingScale
  · rw [if_pos hfloating] at hfits
    refine ⟨0, ?_, hfits, fun hfixed => absurd hfloating hfixed⟩
    rw [targetScale, if_neg (by omega), if_pos hfloating]
    simp
  · rw [if_neg hfloating] at hfits
    refine ⟨(type.scale - -value.power).toNat, ?_, by omega, fun _ => by omega⟩
    rw [targetScale, if_neg (by omega), if_neg hfloating]
    simp only
    rw [if_neg (by omega)]
    congr 2
    omega

theorem fits_of_targetScale (value : Scientific) {scale : Int}
    (htarget : targetScale type value.digits (-value.power) =
      some (extraZeros, scale)) :
    Fits type value ∧ scale = -value.power + extraZeros ∧
      value.digits + extraZeros ≤ type.precision := by
  unfold targetScale at htarget
  unfold Fits
  split at htarget
  · cases htarget
  · split at htarget
    · rename_i hfloating
      rw [if_pos hfloating]
      simp only [Option.some.injEq, Prod.mk.injEq] at htarget
      omega
    · rename_i hfixed
      rw [if_neg hfixed]
      simp only at htarget
      split at htarget
      · cases htarget
      · simp only [Option.some.injEq, Prod.mk.injEq] at htarget
        omega

/-! The decoder on nonzero groups. -/

theorem decodeCoefficient_eq {received : List Nat}
    (hreceived : ∀ group ∈ received, group < radix)
    (hne : stripGroups (plainGroups header received) ≠ [])
    (hcount : (stripGroups (plainGroups header received)).length ≤
      maxCoefficientGroups)
    (hhead : (stripGroups (plainGroups header received)).headD 0 ≠ 0) :
    decodeCoefficient malloc header received type out =
      match targetScale type
          ((stripGroups (plainGroups header received)).length * 2 -
            dropLastZero (stripGroups (plainGroups header received)) -
            firstDigit (stripGroups (plainGroups header received)))
          ((stripGroups (plainGroups header received)).length * 2 -
            headerExponent header * 2 -
            dropLastZero (stripGroups (plainGroups header received))) with
      | none => (.protoError, out)
      | some (extraZeros, scale) =>
          setParts malloc (decodedParts
            (stripGroups (plainGroups header received))
            (headerNegative header) extraZeros scale) out := by
  have hrange : ¬ ∃ group ∈ received, radix ≤ group := by
    rintro ⟨group, member, hle⟩
    exact absurd (hreceived group member) (by omega)
  have hlength : (stripGroups (plainGroups header received)).length ≠ 0 :=
    fun hzero => hne (List.eq_nil_of_length_eq_zero hzero)
  rw [decodeCoefficient, if_neg hrange]
  simp only
  rw [if_neg hlength, if_neg (by
    rintro (hlarge | hzero)
    · omega
    · exact hhead hzero)]
  rfl

theorem head_of_value {groups : List Nat}
    (hgroups : ∀ group ∈ groups, group < radix)
    (hne : stripGroups groups ≠ [])
    (hvalue : radix ^ (groups.length - 1) ≤ ofBigEndian radix groups) :
    (stripGroups groups).headD 0 ≠ 0 := by
  have hhead : (stripGroups groups).headD 0 = groups.headD 0 := by
    obtain ⟨rest, hrest⟩ := stripGroups_isPrefix groups
    cases hstrip : stripGroups groups with
    | nil => exact absurd hstrip hne
    | cons group tail =>
        rw [hstrip] at hrest
        rw [← hrest]
        rfl
  rw [hhead]
  cases groups with
  | nil => exact absurd rfl hne
  | cons group rest =>
      intro hzero
      have hgroup : group = 0 := hzero
      have hbound := ofBigEndian_lt (by decide : 1 < radix)
        fun other member => hgroups other (List.mem_cons_of_mem group member)
      rw [hgroup, ofBigEndian_cons, Nat.zero_mul, Nat.zero_add,
        List.length_cons, Nat.add_sub_cancel] at hvalue
      omega

theorem Payload.plainGroups_eq (payload : Payload type value) :
    plainGroups (encodeHeader value.negative payload.exponent)
      payload.codedGroups = payload.groups := by
  have hsign := (header_encode_decode value.negative payload.exponent_min
    payload.exponent_max).1
  rw [plainGroups, hsign, codedGroups,
    codeGroups_involutive value.negative payload.groups_lt]

theorem Payload.value_lower (payload : Payload type value) :
    radix ^ (type.width - 1 - 1) ≤ ofBigEndian radix payload.groups := by
  have hmantissa : 10 ^ (value.digits - 1) ≤ value.mantissa :=
    (Nat.lt_digits_length_iff (by omega) _).mp
      (Nat.sub_lt value.digits_pos (by omega))
  have := payload.padding_le
  have := payload.room
  have := value.digits_pos
  rw [payload.groups_value, show radix = 10 ^ 2 by decide, ← pow_mul]
  calc
    10 ^ (2 * (type.width - 1 - 1)) ≤
        10 ^ (value.digits - 1 +
          (2 * (type.width - 1) - (payload.padding + value.digits))) :=
      Nat.pow_le_pow_right (by omega) (by omega)
    _ ≤ _ := by
      rw [pow_add]
      exact Nat.mul_le_mul_right _ hmantissa

/-- Stripping the groups of a payload gives back its mantissa and alignment. -/
theorem Payload.strip_spec (payload : Payload type value) :
    GroupsOf (stripGroups payload.groups) value.mantissa ∧
      stripGroups payload.groups ≠ [] ∧
      (stripGroups payload.groups).headD 0 ≠ 0 ∧
      payload.padding = firstDigit (stripGroups payload.groups) ∧
      (stripGroups payload.groups).length ≤ maxCoefficientGroups := by
  have hstrip := stripGroups_value payload.groups
  have hpositive := payload.groups_value_pos
  have hne : stripGroups payload.groups ≠ [] := by
    intro hempty
    rw [hempty, ofBigEndian_nil] at hstrip
    omega
  have hhead := head_of_value payload.groups_lt hne (by
    rw [payload.length_groups]
    exact payload.value_lower)
  obtain ⟨mantissa, hreading⟩ := exists_groupsOf payload.groups_lt hne hhead
  have hlength := (stripGroups_isPrefix payload.groups).length_le
  rw [payload.length_groups] at hlength
  rw [payload.groups_value, hreading.value_eq, payload.length_groups,
    Nat.mul_assoc, ← pow_add] at hstrip
  obtain ⟨rfl, hzeros⟩ := normalized_unique (by omega) hstrip
    value.normalized hreading.normalized
  have hdigits := hreading.digits_eq
  have := hreading.digits_le
  have := payload.room
  have := payload.capacity
  have hdrop : dropLastZero (stripGroups payload.groups) ≤ 1 := by
    unfold dropLastZero
    split <;> omega
  change value.digits = _ at hdigits
  exact ⟨hreading, hne, hhead, by omega, by omega⟩

end Libsqli.Decimal
