import Libsqli.Decimal.Rescale

namespace Libsqli.Decimal.Object

open Libsqli.Data

variable {object : Object} {value : Decimal} {malloc : Malloc} {scale : Int32}

/-! What rescaling returns, in every case. -/

/-- The value at another scale. -/
structure RescaledTo (value after : Decimal) (scale : Int32) : Prop where
  not_null : after.isNull = false
  scale_eq : after.scale = scale
  negative_eq : after.negative = value.negative
  coefficient_eq : after.coefficient = value.coefficientAt scale.toInt

theorem RescaledTo.number_eq (hrescaled : RescaledTo value after scale)
    (hends : value.EndsAt scale.toInt) : after.number = value.number := by
  have hat := absolute_at hends
  have hafter : after.absolute = value.absolute := by
    rw [absolute, hrescaled.scale_eq, hrescaled.coefficient_eq, ← hat,
      mul_assoc, ← zpow_add₀ (by norm_num), add_neg_cancel, zpow_zero, mul_one]
  rw [Decimal.number_eq, Decimal.number_eq, hafter, hrescaled.negative_eq]

theorem coefficient_lt_max (value : Decimal) :
    value.coefficient < 10 ^ maxDigits :=
  lt_of_lt_of_le value.coefficient_lt
    (Nat.pow_le_pow_right (by decide) value.wellformed.digits_le)

theorem coefficientAt_same (value : Decimal) :
    value.coefficientAt value.scale.toInt = value.coefficient := by
  rw [coefficientAt_of_le (Int.le_refl _), Int.sub_self, Int.toNat_zero,
    pow_zero, Nat.mul_one]

theorem multiplyPower_limit (hstores : object.Stores value)
    (hlong : maxDigits < decimalDigits value.parts.limbs + power) :
    multiplyPower malloc object power = some (.limitExceeded, init) := by
  simp only [multiplyPower, hstores.digits_eq]
  rw [if_pos (by omega)]

/-- The result of a rescaling, by what stands in its way. -/
inductive RescaleOutcome (malloc : Malloc) (object : Object) (value : Decimal)
    (scale : Int32) : Status × Object → Prop where
  | rescaled (result : Object) (after : Decimal)
      (stores : result.Stores after)
      (rescaled : RescaledTo value after scale)
      (ends : value.EndsAt scale.toInt)
      (fits : value.coefficientAt scale.toInt < 10 ^ maxDigits) :
      RescaleOutcome malloc object value scale (.ok, result)
  | inexact (endless : ¬ value.EndsAt scale.toInt) :
      RescaleOutcome malloc object value scale (.inexact, object)
  | limit (ends : value.EndsAt scale.toInt)
      (long : 10 ^ maxDigits ≤ value.coefficientAt scale.toInt) :
      RescaleOutcome malloc object value scale (.limitExceeded, object)
  | allocFail (count : Nat) (refused : malloc count = none) :
      RescaleOutcome malloc object value scale (.allocFail, object)

/-- A temporary that carries the digits at the new scale finishes the call. -/
theorem Carries.rescaled {temporary : Object}
    (hcarries : temporary.Carries (value.coefficientAt scale.toInt))
    (hstores : object.Stores value) (hne : ¬ value.IsZero)
    (hends : value.EndsAt scale.toInt)
    (hfits : value.coefficientAt scale.toInt < 10 ^ maxDigits) :
    RescaleOutcome malloc object value scale
      (.ok, object.move (trim { temporary with
        isNull := false
        negative := object.negative
        scale })) := by
  obtain ⟨after, hnull, hcoefficient, hscale, hnegative, hafter⟩ :=
    hcarries.finish hstores.toSized hfits scale object.negative
  have hnonzero : value.coefficientAt scale.toInt ≠ 0 := by
    intro hzero
    have hat := absolute_at hends
    have hpositive := absolute_pos hne
    rw [hzero, Nat.cast_zero] at hat
    exact absurd hat (by positivity)
  refine .rescaled _ after hafter ⟨hnull, hscale, ?_, hcoefficient⟩ hends hfits
  rw [hnegative, hstores.negative_eq]
  simp [hnonzero]

theorem rescaleExact_outcome (malloc : Malloc) (hstores : object.Stores value)
    (hnull : value.isNull = false) (scale : Int32) :
    ∃ result, rescaleExact malloc scale object = some result ∧
      RescaleOutcome malloc object value scale result := by
  have hscale := hstores.scale_eq
  unfold rescaleExact
  rw [if_neg (by simp [hstores.isNull_eq, hnull]), hscale]
  by_cases hsame : value.scale = scale
  · rw [if_pos hsame, ← hsame]
    exact ⟨_, rfl, .rescaled object value hstores
      ⟨hnull, rfl, rfl, (coefficientAt_same value).symm⟩
      (endsAt_of_le (Int.le_refl _))
      ((coefficientAt_same value).symm ▸ coefficient_lt_max value)⟩
  rw [if_neg hsame]
  by_cases hzero : value.IsZero
  · have hused : object.used = 0 := by
      rw [hstores.used_eq, show value.parts.limbs = [] from hzero,
        List.length_nil]
    have hnothing : value.coefficientAt scale.toInt = 0 := by
      rw [coefficientAt, coefficient_zero hzero, Nat.zero_mul, Nat.zero_div]
    let after : Decimal := ⟨{ value.parts with scale },
      { value.wellformed with
        null_cleared := fun hcleared => absurd hcleared (by simp [hnull]) }⟩
    have hafter : Stores { object with scale } after :=
      ⟨⟨hstores.inline_length, hstores.limbs_length, hstores.used_le⟩,
        congrArg (fun parts : Parts => { parts with scale }) hstores.parts_eq⟩
    rw [if_pos hused]
    exact ⟨_, rfl, .rescaled _ after hafter
      ⟨hnull, rfl, rfl, (coefficient_zero hzero).trans hnothing.symm⟩
      (endsAt_zero hzero _) (hnothing ▸ Nat.pow_pos (by decide))⟩
  have hused : ¬ object.used = 0 := fun hnone =>
    hzero (List.eq_nil_of_length_eq_zero (hstores.used_eq.symm.trans hnone))
  rw [if_neg hused]
  by_cases hgrows : 0 < scale.toInt - value.scale.toInt
  · simp only [if_pos hgrows]
    have hends : value.EndsAt scale.toInt := endsAt_of_le (by omega)
    have hat := @coefficientAt_of_le value scale.toInt (by omega)
    by_cases hfits : decimalDigits value.parts.limbs +
        (scale.toInt - value.scale.toInt).toNat ≤ maxDigits
    · rcases multiplyPower_spec malloc hstores hzero hfits with
        ⟨temporary, hproduct, hcarries⟩ | ⟨count, out, hfailed, hrefused⟩
      · rw [hproduct, Option.map_some]
        rw [← hat] at hcarries
        refine ⟨_, rfl, hcarries.rescaled hstores hzero hends ?_⟩
        rw [hat]
        calc
          _ < 10 ^ decimalDigits value.parts.limbs *
              10 ^ (scale.toInt - value.scale.toInt).toNat :=
            Nat.mul_lt_mul_of_pos_right value.coefficient_lt (by positivity)
          _ ≤ 10 ^ maxDigits := by
            rw [← pow_add]
            exact Nat.pow_le_pow_right (by decide) hfits
      · rw [hfailed, Option.map_some]
        exact ⟨_, rfl, .allocFail count hrefused⟩
    · rw [multiplyPower_limit hstores (Nat.lt_of_not_le hfits),
        Option.map_some]
      refine ⟨_, rfl, .limit hends ?_⟩
      have hpositive := decimalDigits_pos value.parts.limbs
      rw [hat]
      calc
        10 ^ maxDigits ≤ 10 ^ (decimalDigits value.parts.limbs - 1 +
            (scale.toInt - value.scale.toInt).toNat) :=
          Nat.pow_le_pow_right (by decide) (by omega)
        _ ≤ _ := by
          rw [pow_add]
          exact Nat.mul_le_mul_right _ (le_coefficient hzero)
  · simp only [if_neg hgrows, neg_sub]
    have hat := @coefficientAt_of_ge value scale.toInt (by omega)
    rcases dividePower_spec malloc hstores hzero
        (value.scale.toInt - scale.toInt).toNat with
      ⟨hendless, out, hfailed⟩ | ⟨hends, temporary, hquotient, hcarries⟩ |
        ⟨count, out, hfailed, hrefused⟩
    · rw [hfailed, Option.map_some]
      exact ⟨_, rfl, .inexact hendless⟩
    · rw [hquotient, Option.map_some]
      rw [← hat] at hcarries
      refine ⟨_, rfl, hcarries.rescaled hstores hzero hends ?_⟩
      rw [hat]
      exact lt_of_le_of_lt (Nat.div_le_self _ _) (coefficient_lt_max value)
    · rw [hfailed, Option.map_some]
      exact ⟨_, rfl, .allocFail count hrefused⟩

/-- Rescaling is exact, and writes within the limbs it reserved. -/
theorem rescaleExact_exact :
    (∀ (malloc : Malloc) (object : Object) (value : Decimal) (scale : Int32),
      object.Stores value → value.isNull = false →
      (rescaleExact malloc scale object).isSome = true) ∧
    ∀ (malloc : Malloc) (object : Object) (value : Decimal) (scale : Int32),
      object.Stores value → value.isNull = false →
      (∀ count, malloc count ≠ none) →
      ∃ status result,
        rescaleExact malloc scale object = some (status, result) ∧
        (status = .ok ↔ value.number = 0 ∨ ∃ whole : Int,
          value.number * (10 : ℚ) ^ scale.toInt = whole ∧
            whole.natAbs < 10 ^ maxDigits) ∧
        (status = .ok → ∃ after, result.Stores after ∧
          after.isNull = false ∧ after.scale = scale ∧
          after.number = value.number ∧ after.negative = value.negative) ∧
        (status = .inexact ↔ ¬ ∃ whole : Int,
          value.number * (10 : ℚ) ^ scale.toInt = whole) ∧
        (status = .limitExceeded ↔ ∃ whole : Int,
          value.number * (10 : ℚ) ^ scale.toInt = whole ∧
            10 ^ maxDigits ≤ whole.natAbs) ∧
        (status ≠ .ok → result = object) := by
  constructor
  · intro malloc object value scale hstores hnull
    obtain ⟨result, hresult, -⟩ := rescaleExact_outcome malloc hstores hnull scale
    rw [hresult]
    rfl
  · intro malloc object value scale hstores hnull hmalloc
    obtain ⟨⟨status, result⟩, hresult, houtcome⟩ :=
      rescaleExact_outcome malloc hstores hnull scale
    have hnatural : ∀ whole : Int,
        value.number * (10 : ℚ) ^ scale.toInt = whole →
          whole.natAbs = value.coefficientAt scale.toInt :=
      fun whole hwhole => (endsAt_of_integer hwhole).2
    have hinteger := value.endsAt_iff scale.toInt
    have hzero : value.number = 0 → ∃ whole : Int,
        value.number * (10 : ℚ) ^ scale.toInt = whole ∧
          whole.natAbs < 10 ^ maxDigits := by
      intro hnumber
      refine ⟨0, by rw [hnumber, zero_mul, Int.cast_zero], ?_⟩
      exact Nat.pow_pos (by decide)
    refine ⟨status, result, hresult, ?_⟩
    rw [or_iff_right_of_imp hzero]
    cases houtcome with
    | rescaled _ after stores rescaled ends fits =>
        obtain ⟨whole, hwhole⟩ := hinteger.mp ends
        have habs := hnatural whole hwhole
        refine ⟨iff_of_true rfl ⟨whole, hwhole, habs ▸ fits⟩, fun _ => ⟨after,
          stores, rescaled.not_null, rescaled.scale_eq,
          rescaled.number_eq ends, rescaled.negative_eq⟩,
          iff_of_false (by decide) (not_not.mpr ⟨whole, hwhole⟩),
          iff_of_false (by decide) ?_, fun hfailed => absurd rfl hfailed⟩
        rintro ⟨other, hother, hlong⟩
        rw [hnatural other hother] at hlong
        exact absurd fits (Nat.not_lt.mpr hlong)
    | inexact endless =>
        have hnone := fun hexists => endless (hinteger.mpr hexists)
        refine ⟨iff_of_false (by decide) ?_, fun hok => absurd hok (by decide),
          iff_of_true rfl hnone, iff_of_false (by decide) ?_, fun _ => rfl⟩
        · rintro ⟨whole, hwhole, -⟩
          exact hnone ⟨whole, hwhole⟩
        · rintro ⟨whole, hwhole, -⟩
          exact hnone ⟨whole, hwhole⟩
    | limit ends long =>
        obtain ⟨whole, hwhole⟩ := hinteger.mp ends
        have habs := hnatural whole hwhole
        refine ⟨iff_of_false (by decide) ?_, fun hok => absurd hok (by decide),
          iff_of_false (by decide) (not_not.mpr ⟨whole, hwhole⟩),
          iff_of_true rfl ⟨whole, hwhole, habs ▸ long⟩, fun _ => rfl⟩
        rintro ⟨other, hother, hfits⟩
        rw [hnatural other hother] at hfits
        exact absurd hfits (Nat.not_lt.mpr long)
    | allocFail count refused => exact absurd refused (hmalloc count)

/-- `1.50` in the inline limbs of its object. -/
def oneFifty : Object := ⟨[150, 0, 0, 0], none, 1, 4, 2, false, false⟩

def oneFiftyValue : Decimal where
  parts := ⟨[150], 2, false, false⟩
  wellformed := by constructor <;> decide +kernel

theorem oneFifty_stores : oneFifty.Stores oneFiftyValue := by
  constructor
  · constructor <;> decide
  · rfl

theorem rescaleExact_exact_oneFifty :
    (rescaleExact (fun _ => none) 0 oneFifty).isSome = true ∧
    ∃ result after, rescaleExact (fun count => some
        ⟨List.replicate count 0, List.length_replicate⟩) 1 oneFifty =
          some (.ok, result) ∧
      result.Stores after ∧ after.number = oneFiftyValue.number := by
  refine ⟨rescaleExact_exact.1 _ _ _ 0 oneFifty_stores rfl, ?_⟩
  obtain ⟨status, result, hresult, hok, hrescaled, -⟩ :=
    rescaleExact_exact.2 (fun count => some
      ⟨List.replicate count 0, List.length_replicate⟩) _ _ 1 oneFifty_stores rfl
      (fun count hnone => by cases hnone)
  have hnumber : oneFiftyValue.number * (10 : ℚ) ^ (1 : Int32).toInt =
      (15 : Int) := by
    have hone : (1 : Int32).toInt = 1 := by decide
    have htwo : (2 : Int32).toInt = 2 := by decide
    rw [number, Parts.number, Parts.coefficient, hone]
    norm_num [oneFiftyValue, Nat.ofDigits_singleton, htwo]
  have hstatus := hok.mpr (.inr ⟨15, hnumber, by
    calc
      15 < 10 ^ 2 := by decide
      _ ≤ 10 ^ maxDigits := Nat.pow_le_pow_right (by decide) (by decide)⟩)
  obtain ⟨after, hafter, -, -, hsame, -⟩ := hrescaled hstatus
  exact ⟨result, after, hstatus ▸ hresult, hafter, hsame⟩

end Libsqli.Decimal.Object
