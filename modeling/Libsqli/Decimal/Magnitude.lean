import Libsqli.Decimal.Coefficient
import Libsqli.Decimal.Codec
import Mathlib.Algebra.Order.Field.Power
import Mathlib.Algebra.Order.Field.Rat

namespace Libsqli.Decimal

open Libsqli.Data.Radix

variable {value left right : Decimal}

/-! Decimals as signed magnitudes. -/

abbrev coefficient (value : Decimal) : Nat := value.parts.coefficient

/-- A decimal object that holds zero, of whatever scale, or NULL. -/
abbrev IsZero (value : Decimal) : Prop := value.parts.limbs = []

/-- The number without its sign. -/
def absolute (value : Decimal) : ℚ :=
  value.coefficient * (10 : ℚ) ^ (-value.scale.toInt)

theorem number_eq (value : Decimal) :
    value.number = if value.negative then -value.absolute
      else value.absolute := by
  unfold number Parts.number absolute
  split <;> ring

theorem coefficient_zero (hzero : value.IsZero) : value.coefficient = 0 := by
  have hempty : value.parts.limbs = [] := hzero
  simp [coefficient, Parts.coefficient, hempty]

theorem absolute_zero (hzero : value.IsZero) : value.absolute = 0 := by
  rw [absolute, coefficient_zero hzero]
  simp

theorem number_zero (hzero : value.IsZero) : value.number = 0 := by
  rw [number_eq, absolute_zero hzero]
  split <;> simp

theorem coefficient_positive (hne : ¬ value.IsZero) : 0 < value.coefficient :=
  coefficient_pos hne value.wellformed.trimmed

theorem absolute_pos (hne : ¬ value.IsZero) : 0 < value.absolute := by
  have hpositive : (0 : ℚ) < value.coefficient := by
    exact_mod_cast coefficient_positive hne
  unfold absolute
  positivity

theorem absolute_nonneg (value : Decimal) : 0 ≤ value.absolute := by
  unfold absolute
  positivity

/-! The digits of a coefficient. -/

theorem decimalDigits_pos (limbs : List Nat) : 0 < decimalDigits limbs := by
  unfold decimalDigits coefficientDigits
  split
  · decide
  · rw [limbLength]
    split <;> omega

theorem decimalDigits_eq {limbs : List Nat} (hne : limbs ≠ [])
    (htrimmed : limbs.getLast? ≠ some 0)
    (hlimbs : ∀ limb ∈ limbs, limb < limbBase) :
    decimalDigits limbs =
      (Nat.digits 10 (Nat.ofDigits limbBase limbs)).length := by
  rw [decimalDigits, if_neg hne, coefficientDigits_eq hne htrimmed hlimbs]

theorem limbLength_le (hlimb : limb < limbBase) :
    limbLength limb ≤ limbDigits := by
  by_cases hzero : limb = 0
  · subst limb
    rw [limbLength]
    decide
  · rw [limbLength_eq (Nat.pos_of_ne_zero hzero)]
    exact (Nat.digits_length_le_iff (by decide) _).mpr
      (by rwa [← limbBase_eq_pow])

theorem decimalDigits_le_limbs {limbs : List Nat}
    (hlimbs : ∀ limb ∈ limbs, limb < limbBase) (hne : limbs ≠ []) :
    decimalDigits limbs ≤ limbs.length * limbDigits := by
  have hlength := List.length_pos_iff.mpr hne
  have htop : limbs.getLastD 0 < limbBase := by
    rw [List.getLastD_eq_getLast?, List.getLast?_eq_some_getLast hne]
    exact hlimbs _ (List.getLast_mem hne)
  have hdigits := limbLength_le htop
  have hsplit : limbs.length * limbDigits =
      (limbs.length - 1) * limbDigits + limbDigits := by
    rw [← Nat.succ_mul]
    congr 1
    omega
  rw [decimalDigits, if_neg hne, coefficientDigits, hsplit]
  omega

theorem coefficient_lt (value : Decimal) :
    value.coefficient < 10 ^ decimalDigits value.parts.limbs := by
  by_cases hzero : value.IsZero
  · rw [coefficient_zero hzero]
    positivity
  · rw [decimalDigits_eq hzero value.wellformed.trimmed
      value.wellformed.limbs_lt]
    exact Nat.lt_base_pow_length_digits (by decide)

theorem le_coefficient (hne : ¬ value.IsZero) :
    10 ^ (decimalDigits value.parts.limbs - 1) ≤ value.coefficient := by
  have hpositive : 0 < (Nat.digits 10 value.coefficient).length :=
    (Nat.lt_digits_length_iff (by decide) _).mpr
      (by rw [pow_zero]; exact coefficient_positive hne)
  rw [decimalDigits_eq hne value.wellformed.trimmed value.wellformed.limbs_lt]
  exact (Nat.lt_digits_length_iff (by decide) _).mp (Nat.sub_lt hpositive
    Nat.one_pos)

theorem decimalDigit_lt (value : Decimal) (position : Nat) :
    value.decimalDigit position < 10 := by
  unfold decimalDigit coefficientDigit
  split
  · decide
  · exact Nat.mod_lt _ (by decide)

/-- The digit that a walk reads is one of the coefficient. -/
theorem decimalDigit_eq
    (hposition : position < decimalDigits value.parts.limbs) :
    value.decimalDigit position = value.coefficient /
      10 ^ (decimalDigits value.parts.limbs - position - 1) % 10 := by
  rw [decimalDigit, if_neg (Nat.not_le.mpr hposition),
    coefficientDigit_eq value.wellformed.limbs_lt]
  rfl

/-- The digits read from the first on are those of the coefficient, shifted
left by the virtual zeros. -/
theorem decimalDigit_shifted
    (hcount : decimalDigits value.parts.limbs ≤ count) (hindex : index < count) :
    value.decimalDigit index = value.coefficient *
      10 ^ (count - decimalDigits value.parts.limbs) /
        10 ^ (count - index - 1) % 10 := by
  by_cases hinside : index < decimalDigits value.parts.limbs
  · rw [decimalDigit_eq hinside,
      show count - index - 1 = (count - decimalDigits value.parts.limbs) +
        (decimalDigits value.parts.limbs - index - 1) by omega, pow_add,
      Nat.mul_comm value.coefficient, Nat.mul_div_mul_left _ _ (by positivity)]
  · rw [decimalDigit, if_pos (by omega),
      show count - decimalDigits value.parts.limbs = (count - index - 1) +
        (index - decimalDigits value.parts.limbs + 1) by omega, pow_add,
      Nat.mul_left_comm, Nat.mul_div_cancel_left _ (by positivity),
      pow_succ, ← Nat.mul_assoc, Nat.mul_mod_left]

/-! Magnitudes and their digits before the decimal point. -/

theorem absolute_lt (value : Decimal) :
    value.absolute < (10 : ℚ) ^ value.wholeDigits := by
  have hlt : (value.coefficient : ℚ) <
      (10 : ℚ) ^ decimalDigits value.parts.limbs := by
    exact_mod_cast value.coefficient_lt
  unfold absolute wholeDigits
  rw [sub_eq_add_neg, zpow_add₀ (by norm_num), zpow_natCast]
  exact mul_lt_mul_of_pos_right hlt (by positivity)

theorem le_absolute (hne : ¬ value.IsZero) :
    (10 : ℚ) ^ (value.wholeDigits - 1) ≤ value.absolute := by
  have hle : (10 : ℚ) ^ (decimalDigits value.parts.limbs - 1) ≤
      value.coefficient := by
    exact_mod_cast le_coefficient hne
  have hpositive := decimalDigits_pos value.parts.limbs
  have hexponent : value.wholeDigits - 1 =
      ((decimalDigits value.parts.limbs - 1 : Nat) : Int) +
        -value.scale.toInt := by
    unfold wholeDigits
    omega
  unfold absolute
  rw [hexponent, zpow_add₀ (by norm_num), zpow_natCast]
  exact mul_le_mul_of_nonneg_right hle (by positivity)

/-- Fewer digits before the point make a smaller number. -/
theorem absolute_lt_of_wholeDigits (hrightNe : ¬ right.IsZero)
    (hlt : left.wholeDigits < right.wholeDigits) :
    left.absolute < right.absolute :=
  calc
    left.absolute < (10 : ℚ) ^ left.wholeDigits := left.absolute_lt
    _ ≤ (10 : ℚ) ^ (right.wholeDigits - 1) :=
      zpow_le_zpow_right₀ (by norm_num) (by omega)
    _ ≤ right.absolute := le_absolute hrightNe

/-- A magnitude as a natural number of `count` digits. -/
theorem absolute_eq_shifted
    (hcount : decimalDigits value.parts.limbs ≤ count) :
    value.absolute = (value.coefficient *
      10 ^ (count - decimalDigits value.parts.limbs) : Nat) *
        (10 : ℚ) ^ (value.wholeDigits - count) := by
  have hpower : (-value.scale.toInt : Int) =
      ((count - decimalDigits value.parts.limbs : Nat) : Int) +
        (value.wholeDigits - count) := by
    unfold wholeDigits
    omega
  rw [absolute, hpower, zpow_add₀ (by norm_num), zpow_natCast]
  push_cast
  ring

theorem shifted_lt (hcount : decimalDigits value.parts.limbs ≤ count) :
    value.coefficient * 10 ^ (count - decimalDigits value.parts.limbs) <
      10 ^ count :=
  calc
    _ < 10 ^ decimalDigits value.parts.limbs *
        10 ^ (count - decimalDigits value.parts.limbs) :=
      Nat.mul_lt_mul_of_pos_right value.coefficient_lt (by positivity)
    _ = 10 ^ count := by rw [← pow_add, Nat.add_sub_cancel' hcount]

/-! Numbers written to a given number of places behind the point. -/

/-- The digits up to the last of `places` places. -/
def coefficientAt (value : Decimal) (places : Int) : Nat :=
  value.coefficient * 10 ^ (places - value.scale.toInt).toNat /
    10 ^ (value.scale.toInt - places).toNat

/-- No digit behind them is significant. -/
def EndsAt (value : Decimal) (places : Int) : Prop :=
  10 ^ (value.scale.toInt - places).toNat ∣ value.coefficient

theorem endsAt_zero (hzero : value.IsZero) (places : Int) :
    value.EndsAt places := by
  rw [EndsAt, coefficient_zero hzero]
  exact Nat.dvd_zero _

theorem endsAt_of_le (hle : value.scale.toInt ≤ places) :
    value.EndsAt places := by
  rw [EndsAt, Int.toNat_of_nonpos (by omega), pow_zero]
  exact Nat.one_dvd _

theorem coefficientAt_of_le (hle : value.scale.toInt ≤ places) :
    value.coefficientAt places =
      value.coefficient * 10 ^ (places - value.scale.toInt).toNat := by
  rw [coefficientAt, Int.toNat_of_nonpos (by omega : _ - places ≤ 0), pow_zero,
    Nat.div_one]

theorem coefficientAt_of_ge (hle : places ≤ value.scale.toInt) :
    value.coefficientAt places =
      value.coefficient / 10 ^ (value.scale.toInt - places).toNat := by
  rw [coefficientAt, Int.toNat_of_nonpos (by omega : places - _ ≤ 0), pow_zero,
    Nat.mul_one]

theorem absolute_at (hends : value.EndsAt places) :
    value.absolute * (10 : ℚ) ^ places = value.coefficientAt places := by
  rw [absolute, mul_assoc, ← zpow_add₀ (by norm_num)]
  rcases le_total value.scale.toInt places with hle | hle
  · rw [coefficientAt_of_le hle, show -value.scale.toInt + places =
      ((places - value.scale.toInt).toNat : Int) by omega, zpow_natCast]
    push_cast
    rfl
  · obtain ⟨whole, hwhole⟩ := hends
    rw [coefficientAt_of_ge hle, hwhole, Nat.mul_div_cancel_left _
      (by positivity), show -value.scale.toInt + places =
        -((value.scale.toInt - places).toNat : Int) by omega, zpow_neg,
      zpow_natCast]
    push_cast
    rw [mul_right_comm, mul_inv_cancel₀ (by positivity), one_mul]

theorem abs_number (value : Decimal) : |value.number| = value.absolute := by
  rw [number_eq]
  split
  · rw [abs_neg, abs_of_nonneg value.absolute_nonneg]
  · rw [abs_of_nonneg value.absolute_nonneg]

theorem endsAt_of_integer {whole : Int}
    (hwhole : value.number * (10 : ℚ) ^ places = whole) :
    value.EndsAt places ∧ whole.natAbs = value.coefficientAt places := by
  have habs : value.absolute * (10 : ℚ) ^ places = (whole.natAbs : ℚ) := by
    rw [← abs_number, Nat.cast_natAbs, Int.cast_abs, ← hwhole, abs_mul,
      abs_of_pos (by positivity : (0 : ℚ) < (10 : ℚ) ^ places)]
  have hends : value.EndsAt places := by
    rcases le_total value.scale.toInt places with hle | hle
    · exact endsAt_of_le hle
    · rw [absolute, mul_assoc, ← zpow_add₀ (by norm_num),
        show -value.scale.toInt + places =
          -((value.scale.toInt - places).toNat : Int) by omega, zpow_neg,
        zpow_natCast, mul_inv_eq_iff_eq_mul₀ (by positivity)] at habs
      have hcoefficient : value.coefficient =
          whole.natAbs * 10 ^ (value.scale.toInt - places).toNat := by
        exact_mod_cast habs
      exact ⟨_, hcoefficient.trans (Nat.mul_comm _ _)⟩
  rw [absolute_at hends] at habs
  exact ⟨hends, by exact_mod_cast habs.symm⟩

theorem endsAt_iff (value : Decimal) (places : Int) :
    value.EndsAt places ↔
      ∃ whole : Int, value.number * (10 : ℚ) ^ places = whole := by
  constructor
  · intro hends
    have hat := absolute_at hends
    rw [number_eq]
    cases value.negative with
    | true =>
        refine ⟨-(value.coefficientAt places : Int), ?_⟩
        rw [if_pos rfl, neg_mul, hat]
        push_cast
        rfl
    | false =>
        refine ⟨value.coefficientAt places, ?_⟩
        rw [if_neg (by decide), hat]
        push_cast
        rfl
  · rintro ⟨whole, hwhole⟩
    exact (endsAt_of_integer hwhole).1

end Libsqli.Decimal
