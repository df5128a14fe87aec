import Libsqli.Decimal.Codec
import Mathlib.Tactic.FieldSimp
import Mathlib.Algebra.Order.Field.Power
import Mathlib.Algebra.Order.Ring.Rat

namespace Libsqli.Decimal

open Libsqli.Base100
open Libsqli.Data.Radix

/-! Nonzero numbers with their trailing zeros moved into a power of ten. -/

structure Scientific where
  negative : Bool
  mantissa : Nat
  power : Int
  normalized : mantissa % 10 ≠ 0

namespace Scientific

def number (value : Scientific) : ℚ :=
  (if value.negative then -1 else 1) * value.mantissa * (10 : ℚ) ^ value.power

def digits (value : Scientific) : Nat := (Nat.digits 10 value.mantissa).length

/-- Digits before the decimal point; negative for numbers below a tenth. -/
def integralDigits (value : Scientific) : Int := value.digits + value.power

theorem mantissa_pos (value : Scientific) : 0 < value.mantissa := by
  have := value.normalized
  omega

theorem digits_pos (value : Scientific) : 0 < value.digits := by
  have hpositive := value.mantissa_pos
  exact (Nat.lt_digits_length_iff (by omega) _).mpr
    (by rw [pow_zero]; exact hpositive)

theorem magnitude_pos (value : Scientific) :
    (0 : ℚ) < value.mantissa * (10 : ℚ) ^ value.power := by
  have hpositive : (0 : ℚ) < value.mantissa := by
    exact_mod_cast value.mantissa_pos
  positivity

theorem number_ne_zero (value : Scientific) : value.number ≠ 0 := by
  have hmagnitude := value.magnitude_pos
  unfold number
  rw [mul_assoc]
  refine mul_ne_zero ?_ (ne_of_gt hmagnitude)
  split <;> norm_num

theorem negative_iff (value : Scientific) :
    value.negative = true ↔ value.number < 0 := by
  have hmagnitude := value.magnitude_pos
  cases hnegative : value.negative <;>
    simp only [number, hnegative, mul_assoc] <;> simp <;> linarith

theorem ext_of_fields {left right : Scientific}
    (hnegative : left.negative = right.negative)
    (hmantissa : left.mantissa = right.mantissa)
    (hpower : left.power = right.power) : left = right := by
  cases left
  cases right
  simp_all

theorem number_injective {left right : Scientific}
    (heq : left.number = right.number) : left = right := by
  have hnegative : left.negative = right.negative := by
    rw [Bool.eq_iff_iff, negative_iff, negative_iff, heq]
  have hmagnitude : (left.mantissa : ℚ) * (10 : ℚ) ^ left.power =
      right.mantissa * (10 : ℚ) ^ right.power := by
    simp only [number, hnegative, mul_assoc] at heq
    refine mul_left_cancel₀ ?_ heq
    split <;> norm_num
  -- Scale both sides by the smaller power, so that only natural powers remain.
  let low := min left.power right.power
  have hleft : left.power = (left.power - low).toNat + low := by omega
  have hright : right.power = (right.power - low).toNat + low := by omega
  have hnatural : left.mantissa * 10 ^ (left.power - low).toNat =
      right.mantissa * 10 ^ (right.power - low).toNat := by
    rw [hleft, hright, zpow_add₀ (by norm_num), zpow_add₀ (by norm_num),
      ← mul_assoc, ← mul_assoc] at hmagnitude
    have hcancel := mul_right_cancel₀
      (zpow_ne_zero low (by norm_num : (10 : ℚ) ≠ 0)) hmagnitude
    rw [zpow_natCast, zpow_natCast] at hcancel
    exact_mod_cast hcancel
  obtain ⟨hmantissa, hzeros⟩ := normalized_unique (by omega) hnatural
    left.normalized right.normalized
  exact ext_of_fields hnegative hmantissa (by omega)

end Scientific

/-! Nonzero decimal objects and the numbers they store. -/

structure Parts.Denotes (parts : Parts) (value : Scientific) (zeros : Nat) :
    Prop where
  not_null : parts.isNull = false
  negative_eq : parts.negative = value.negative
  coefficient_eq : parts.coefficient = value.mantissa * 10 ^ zeros
  power_eq : value.power = zeros - parts.scale.toInt

theorem Parts.Denotes.number_eq {parts : Parts}
    (hdenotes : parts.Denotes value zeros) : parts.number = value.number := by
  have hten : (10 : ℚ) ≠ 0 := by norm_num
  rw [Parts.number, Scientific.number, hdenotes.negative_eq,
    hdenotes.coefficient_eq, hdenotes.power_eq, sub_eq_add_neg,
    zpow_add₀ hten, zpow_natCast]
  push_cast
  ring

theorem Parts.Wellformed.exists_denotes {parts : Parts}
    (hwellformed : parts.Wellformed) (hnull : parts.isNull = false)
    (hne : parts.limbs ≠ []) :
    ∃ value, parts.Denotes value (trailingZeros parts.limbs) := by
  have hpositive := coefficient_pos hne hwellformed.trimmed
  obtain ⟨mantissa, hvalue, hdigit⟩ :=
    trailingZeros_spec hwellformed.limbs_lt hpositive
  exact ⟨⟨parts.negative, mantissa,
    trailingZeros parts.limbs - parts.scale.toInt, hdigit⟩, hnull, rfl, hvalue,
    rfl⟩

theorem Parts.Denotes.limbs_ne_nil {parts : Parts}
    (hdenotes : parts.Denotes value zeros) : parts.limbs ≠ [] := by
  intro hempty
  have hcoefficient := hdenotes.coefficient_eq
  have hpositive := value.mantissa_pos
  have : 0 < value.mantissa * 10 ^ zeros := by positivity
  simp [Parts.coefficient, hempty] at hcoefficient
  omega

theorem Parts.Denotes.trailingZeros_eq {parts : Parts}
    (hdenotes : parts.Denotes value zeros) (hwellformed : parts.Wellformed) :
    trailingZeros parts.limbs = zeros := by
  obtain ⟨rest, hvalue, hdigit⟩ := trailingZeros_spec hwellformed.limbs_lt
    (coefficient_pos hdenotes.limbs_ne_nil hwellformed.trimmed)
  exact (normalized_unique (by omega) (hvalue.symm.trans hdenotes.coefficient_eq)
    hdigit value.normalized).2

theorem Parts.Denotes.coefficientDigits_eq {parts : Parts}
    (hdenotes : parts.Denotes value zeros) (hwellformed : parts.Wellformed) :
    coefficientDigits parts.limbs = value.digits + zeros := by
  rw [Decimal.coefficientDigits_eq hdenotes.limbs_ne_nil hwellformed.trimmed
    hwellformed.limbs_lt]
  have hcoefficient := hdenotes.coefficient_eq
  rw [Parts.coefficient] at hcoefficient
  rw [hcoefficient, digitCount_mul_pow (by omega) value.mantissa_pos]
  rfl

end Libsqli.Decimal

namespace Libsqli.Decimal

open Libsqli.Base100
open Libsqli.Data.Radix

/-! The payload of a nonzero number: a base-100 fraction whose first group holds
its first one or two digits, scaled by a power of one hundred. -/

/-- The number can be written at the precision and scale of the column. -/
def Fits (type : WireType) (value : Scientific) : Prop :=
  if type.scale = floatingScale then value.digits ≤ type.precision
  else 0 ≤ value.power + type.scale ∧
    value.digits + value.power + type.scale ≤ type.precision

structure Payload (type : WireType) (value : Scientific) where
  exponent : Int
  padding : Nat
  groups : List Nat
  exponent_min : exponentMin ≤ exponent
  exponent_max : exponent ≤ exponentMax
  aligned : exponent * 2 = value.integralDigits + padding
  padding_le : padding ≤ 1
  length_groups : groups.length = type.width - 1
  groups_lt : ∀ group ∈ groups, group < radix
  room : padding + value.digits ≤ 2 * (type.width - 1)
  groups_value : ofBigEndian radix groups =
    value.mantissa * 10 ^ (2 * (type.width - 1) - (padding + value.digits))
  capacity : padding + value.digits ≤ 2 * maxCoefficientGroups

namespace Payload

def codedGroups (payload : Payload type value) : List Nat :=
  codeGroups value.negative payload.groups

def bytes (payload : Payload type value) : List UInt8 :=
  encodeHeader value.negative payload.exponent ::
    groupBytes payload.codedGroups

theorem exponent_unique (left right : Payload type value) :
    left.exponent = right.exponent ∧ left.padding = right.padding := by
  have hleft := left.aligned
  have hright := right.aligned
  have := left.padding_le
  have := right.padding_le
  omega

theorem bytes_unique (left right : Payload type value) :
    left.bytes = right.bytes := by
  obtain ⟨hexponent, hpadding⟩ := exponent_unique left right
  have hgroups : left.groups = right.groups := by
    refine ofBigEndian_injective (by decide : 1 < radix)
      (left.length_groups.trans right.length_groups.symm) left.groups_lt
      right.groups_lt ?_
    rw [left.groups_value, right.groups_value, hpadding]
  rw [bytes, bytes, codedGroups, codedGroups, hexponent, hgroups]

theorem codedGroups_lt (payload : Payload type value) :
    ∀ group ∈ payload.codedGroups, group < radix :=
  codeGroups_lt value.negative payload.groups_lt

@[simp] theorem length_codedGroups (payload : Payload type value) :
    payload.codedGroups.length = type.width - 1 := by
  simp [codedGroups, payload.length_groups]

theorem groups_value_pos (payload : Payload type value) :
    0 < ofBigEndian radix payload.groups := by
  have := value.mantissa_pos
  rw [payload.groups_value]
  positivity

theorem codedGroups_value_pos (payload : Payload type value) :
    0 < ofBigEndian radix payload.codedGroups :=
  codeGroups_value_pos value.negative payload.groups_lt payload.groups_value_pos

end Payload

/-! The digit-filling loop of the encoder. -/

theorem pair_weight {pairs position : Nat} (hposition : position < 2 * pairs) :
    (if position % 2 = 0 then digit * 10 else digit) *
        radix ^ (pairs - 1 - position / 2) =
      digit * 10 ^ (2 * pairs - 1 - position) := by
  have hradix : radix = 10 ^ 2 := by decide
  rw [hradix, ← pow_mul]
  split
  · rw [Nat.mul_assoc, ← pow_succ']
    congr 2
    omega
  · congr 2
    omega

@[simp] theorem length_addDigit (groups : List Nat) :
    (addDigit padding digitAt groups index).length = groups.length := by
  simp [addDigit]

@[simp] theorem length_fillGroups :
    (fillGroups padding significant digitAt count).length = count := by
  unfold fillGroups
  induction significant with
  | zero => simp
  | succ index ih =>
      rw [List.range_succ, List.foldl_append]
      simpa using ih

theorem fillGroups_succ :
    fillGroups padding (index + 1) digitAt count =
      addDigit padding digitAt (fillGroups padding index digitAt count) index := by
  simp [fillGroups, List.range_succ]

theorem fillGroups_value {digitAt : Nat → Nat} {whole : Nat}
    (hwhole : whole < 10 ^ significant)
    (hdigit : ∀ index < significant,
      digitAt index = whole / 10 ^ (significant - 1 - index) % 10)
    (hroom : padding + significant ≤ 2 * count) :
    ofBigEndian radix (fillGroups padding significant digitAt count) =
      whole * 10 ^ (2 * count - (padding + significant)) := by
  have hprogress : ∀ index ≤ significant,
      ofBigEndian radix (fillGroups padding index digitAt count) =
        whole / 10 ^ (significant - index) *
          10 ^ (2 * count - (padding + index)) := by
    intro index
    induction index with
    | zero => simp [fillGroups, Nat.div_eq_of_lt hwhole]
    | succ index ih =>
        intro hindex
        have hposition : index + padding < 2 * count := by omega
        have hprevious := ih (by omega)
        rw [fillGroups_succ, addDigit, ofBigEndian_modify (by
          rw [length_fillGroups]
          omega), length_fillGroups, pair_weight hposition, hprevious,
          hdigit index (by omega)]
        have hquotient : whole / 10 ^ (significant - (index + 1)) =
            whole / 10 ^ (significant - index) * 10 +
              whole / 10 ^ (significant - 1 - index) % 10 := by
          rw [show significant - index = significant - 1 - index + 1 by omega,
            show significant - (index + 1) = significant - 1 - index by omega,
            pow_succ, ← Nat.div_div_eq_div_mul]
          omega
        rw [hquotient,
          show 2 * count - (padding + index) =
            2 * count - (padding + (index + 1)) + 1 by omega,
          show 2 * count - 1 - (index + padding) =
            2 * count - (padding + (index + 1)) by omega, pow_succ]
        ring
  simpa using hprogress significant (Nat.le_refl _)

/-- Digits already placed never push a pair to one hundred, and the pair being
filled holds a multiple of ten. -/
theorem fillGroups_lt {digitAt : Nat → Nat}
    (hdigit : ∀ index, digitAt index < 10) :
    ∀ group ∈ fillGroups padding significant digitAt count, group < radix := by
  have hbound : ∀ pair < count,
      (fillGroups padding significant digitAt count).getD pair 0 < radix ∧
      (padding + significant ≤ 2 * pair + 1 →
        (fillGroups padding significant digitAt count).getD pair 0 ≤ 90) ∧
      (padding + significant ≤ 2 * pair →
        (fillGroups padding significant digitAt count).getD pair 0 = 0) := by
    induction significant with
    | zero => simp +contextual [fillGroups, radix]
    | succ index ih =>
        intro pair hpair
        have hprevious := ih pair hpair
        have hlt := hdigit index
        have hlength :
            (fillGroups padding index digitAt count).length = count :=
          length_fillGroups
        simp only [radix] at hprevious ⊢
        rw [fillGroups_succ, addDigit, List.getD_eq_getElem?_getD,
          List.getElem?_modify]
        rw [List.getD_eq_getElem?_getD] at hprevious
        have hsome : (fillGroups padding index digitAt count)[pair]? =
            some ((fillGroups padding index digitAt count)[pair]) :=
          List.getElem?_eq_getElem (by omega)
        rw [hsome, Option.getD_some] at hprevious
        rw [hsome]
        by_cases hsame : (index + padding) / 2 = pair
        · simp only [hsame, if_true, Option.map_eq_map, Option.map_some,
            Option.getD_some]
          split <;> omega
        · simp only [hsame, if_false, Option.map_eq_map, Option.map_some,
            Option.getD_some]
          omega
  intro group member
  obtain ⟨pair, hpair, rfl⟩ := List.mem_iff_getElem.mp member
  have hresult := (hbound pair (by simpa using hpair)).1
  rwa [List.getD_eq_getElem?_getD, List.getElem?_eq_getElem hpair,
    Option.getD_some] at hresult

end Libsqli.Decimal
