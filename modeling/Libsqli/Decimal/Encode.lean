import Libsqli.Decimal.Payload

namespace Libsqli.Decimal

open Libsqli.Base100
open Libsqli.Data.Radix

/-! The encoder produces the payload of the number, whenever there is one. -/

theorem checkTarget_ok_iff {parts : Parts} (hwellformed : parts.Wellformed)
    (hdenotes : parts.Denotes value zeros) :
    checkTarget parts type = .ok () ↔ Fits type value := by
  have hpower := hdenotes.power_eq
  simp only [checkTarget, Fits, hdenotes.coefficientDigits_eq hwellformed,
    hdenotes.trailingZeros_eq hwellformed]
  by_cases hfloating : type.scale = floatingScale
  · rw [if_pos hfloating, if_pos hfloating]
    split <;> simp <;> omega
  · rw [if_neg hfloating, if_neg hfloating]
    push_cast
    split
    · simp
      omega
    · split <;> simp <;> omega

theorem wireExponent_padding (integralDigits : Int) :
    0 ≤ wireExponent integralDigits * 2 - integralDigits ∧
      wireExponent integralDigits * 2 - integralDigits ≤ 1 := by
  unfold wireExponent
  split <;> omega

theorem wireExponent_eq {exponent integralDigits padding : Int}
    (haligned : exponent * 2 = integralDigits + padding)
    (hlower : 0 ≤ padding) (hupper : padding ≤ 1) :
    wireExponent integralDigits = exponent := by
  have := wireExponent_padding integralDigits
  omega

theorem Payload.exponent_eq (payload : Payload type value) :
    payload.exponent = wireExponent value.integralDigits := by
  have := payload.padding_le
  exact (wireExponent_eq payload.aligned (by omega) (by omega)).symm

theorem Payload.padding_eq (payload : Payload type value) :
    payload.padding = (wireExponent value.integralDigits * 2 -
      value.integralDigits).toNat := by
  have := payload.aligned
  have := payload.exponent_eq
  omega

theorem Parts.Denotes.coefficientDigit_eq {parts : Parts}
    (hdenotes : parts.Denotes value zeros) (hwellformed : parts.Wellformed)
    (hindex : index < value.digits) :
    coefficientDigit parts.limbs (value.digits + zeros - 1 - index) =
      value.mantissa / 10 ^ (value.digits - 1 - index) % 10 := by
  have hcoefficient := hdenotes.coefficient_eq
  rw [Parts.coefficient] at hcoefficient
  rw [Decimal.coefficientDigit_eq hwellformed.limbs_lt, hcoefficient,
    show value.digits + zeros - 1 - index =
      value.digits - 1 - index + zeros by omega, pow_add,
    Nat.mul_div_mul_right _ _ (by positivity)]

/-- The groups that `encode_coefficient` fills in form a payload. -/
def filledPayload {parts : Parts} (hwellformed : parts.Wellformed)
    (hdenotes : parts.Denotes value zeros)
    (hmin : exponentMin ≤ wireExponent value.integralDigits)
    (hmax : wireExponent value.integralDigits ≤ exponentMax)
    (hcapacity : ((wireExponent value.integralDigits * 2 -
      value.integralDigits).toNat + value.digits + 1) / 2 ≤
        maxCoefficientGroups)
    (hroom : ((wireExponent value.integralDigits * 2 -
      value.integralDigits).toNat + value.digits + 1) / 2 ≤ type.width - 1) :
    Payload type value where
  exponent := wireExponent value.integralDigits
  padding := (wireExponent value.integralDigits * 2 -
    value.integralDigits).toNat
  groups := fillGroups
    (wireExponent value.integralDigits * 2 - value.integralDigits).toNat
    value.digits
    (fun index =>
      coefficientDigit parts.limbs (value.digits + zeros - 1 - index))
    (type.width - 1)
  exponent_min := hmin
  exponent_max := hmax
  aligned := by
    have := wireExponent_padding value.integralDigits
    omega
  padding_le := by
    have := wireExponent_padding value.integralDigits
    omega
  length_groups := length_fillGroups
  groups_lt := fillGroups_lt fun index => Nat.mod_lt _ (by omega)
  room := by omega
  groups_value := by
    refine fillGroups_value (Nat.lt_base_pow_length_digits (by omega)) ?_
      (by omega)
    intro index hindex
    exact hdenotes.coefficientDigit_eq hwellformed hindex
  capacity := by omega

theorem encodeCoefficient_eq {parts : Parts} (hwellformed : parts.Wellformed)
    (hdenotes : parts.Denotes value zeros)
    (hmin : exponentMin ≤ wireExponent value.integralDigits)
    (hmax : wireExponent value.integralDigits ≤ exponentMax)
    (hcapacity : ((wireExponent value.integralDigits * 2 -
      value.integralDigits).toNat + value.digits + 1) / 2 ≤
        maxCoefficientGroups)
    (hroom : ((wireExponent value.integralDigits * 2 -
      value.integralDigits).toNat + value.digits + 1) / 2 ≤ type.width - 1)
    (htarget : checkTarget parts type = .ok ()) :
    encodeCoefficient parts type =
      .ok (filledPayload hwellformed hdenotes hmin hmax hcapacity hroom).bytes := by
  have hintegral : ((value.digits + zeros : Nat) : Int) - parts.scale.toInt =
      value.integralDigits := by
    have := hdenotes.power_eq
    rw [Scientific.integralDigits]
    omega
  simp only [encodeCoefficient, htarget,
    hdenotes.coefficientDigits_eq hwellformed,
    hdenotes.trailingZeros_eq hwellformed, hintegral, Nat.add_sub_cancel,
    hdenotes.negative_eq]
  rw [if_neg (by omega), if_neg (by omega)]
  rfl

theorem encodeCoefficient_sound {parts : Parts}
    (hwellformed : parts.Wellformed) (hdenotes : parts.Denotes value zeros)
    (hencode : encodeCoefficient parts type = .ok bytes) :
    Fits type value ∧ ∃ payload : Payload type value, payload.bytes = bytes := by
  have htarget : checkTarget parts type = .ok () := by
    cases hcheck : checkTarget parts type with
    | error status => simp [encodeCoefficient, hcheck] at hencode
    | ok _ => rfl
  have hintegral : ((value.digits + zeros : Nat) : Int) - parts.scale.toInt =
      value.integralDigits := by
    have := hdenotes.power_eq
    rw [Scientific.integralDigits]
    omega
  have hranges : exponentMin ≤ wireExponent value.integralDigits ∧
      wireExponent value.integralDigits ≤ exponentMax ∧
      ((wireExponent value.integralDigits * 2 -
        value.integralDigits).toNat + value.digits + 1) / 2 ≤
          maxCoefficientGroups ∧
      ((wireExponent value.integralDigits * 2 -
        value.integralDigits).toNat + value.digits + 1) / 2 ≤
          type.width - 1 := by
    simp only [encodeCoefficient, htarget,
      hdenotes.coefficientDigits_eq hwellformed,
      hdenotes.trailingZeros_eq hwellformed, hintegral,
      Nat.add_sub_cancel] at hencode
    split at hencode
    · cases hencode
    · split at hencode
      · cases hencode
      · omega
  obtain ⟨hmin, hmax, hcapacity, hroom⟩ := hranges
  rw [encodeCoefficient_eq hwellformed hdenotes hmin hmax hcapacity hroom
    htarget] at hencode
  exact ⟨(checkTarget_ok_iff hwellformed hdenotes).mp htarget, _,
    Except.ok.inj hencode⟩

theorem encodeCoefficient_complete {parts : Parts}
    (hwellformed : parts.Wellformed) (hdenotes : parts.Denotes value zeros)
    (hfits : Fits type value) (payload : Payload type value) :
    encodeCoefficient parts type = .ok payload.bytes := by
  have hexponent := payload.exponent_eq
  have hpadding := payload.padding_eq
  have hcapacity := payload.capacity
  have hroom := payload.room
  rw [encodeCoefficient_eq hwellformed hdenotes
    (hexponent ▸ payload.exponent_min) (hexponent ▸ payload.exponent_max)
    (by omega) (by omega)
    ((checkTarget_ok_iff hwellformed hdenotes).mpr hfits)]
  rw [Payload.bytes_unique]

end Libsqli.Decimal
