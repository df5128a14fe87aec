import Libsqli.Decimal.Magnitude

namespace Libsqli.Decimal

open Libsqli.Data.Radix

variable {value : Decimal}

/-! Decimals that are integers, and their conversion to 64 bits. -/

/-- `sqli_decimal_to_i64` with the variable it writes. -/
def storeI64 (value : Decimal) (out : Int) : Status × Int :=
  match value.toI64 with
  | .ok number => (.ok, number)
  | .error status => (status, out)

def InInt64 (number : Int) : Prop :=
  -9223372036854775808 ≤ number ∧ number < 9223372036854775808

instance (number : Int) : Decidable (InInt64 number) :=
  inferInstanceAs (Decidable (_ ∧ _))

/-- No digit behind the decimal point is significant. -/
def Integral (value : Decimal) : Prop :=
  value.scale.toInt ≤ 0 ∨ value.coefficient % 10 ^ value.scale.toInt.toNat = 0

instance (value : Decimal) : Decidable value.Integral :=
  inferInstanceAs (Decidable (_ ∨ _))

/-- The digits before the decimal point as a number. -/
def wholePart (value : Decimal) : Nat :=
  value.coefficient * 10 ^ (-value.scale.toInt).toNat /
    10 ^ value.scale.toInt.toNat

def wholeNumber (value : Decimal) : Int :=
  if value.negative then -value.wholePart else value.wholePart

theorem absolute_eq_wholePart (hintegral : value.Integral) :
    value.absolute = value.wholePart := by
  unfold absolute wholePart
  by_cases hscale : value.scale.toInt ≤ 0
  · have hpower : -value.scale.toInt = ((-value.scale.toInt).toNat : Int) := by
      omega
    rw [Int.toNat_of_nonpos hscale, pow_zero, Nat.div_one, hpower, zpow_natCast,
      Int.toNat_natCast]
    push_cast
    rfl
  · have hpower : value.scale.toInt = (value.scale.toInt.toNat : Int) := by
      omega
    obtain ⟨whole, hwhole⟩ :=
      Nat.dvd_of_mod_eq_zero (hintegral.resolve_left hscale)
    rw [Int.toNat_of_nonpos (by omega : -value.scale.toInt ≤ 0), pow_zero,
      Nat.mul_one, hwhole, Nat.mul_div_cancel_left _ (by positivity), zpow_neg]
    conv => lhs; rw [hpower, zpow_natCast, Int.toNat_natCast]
    push_cast
    rw [mul_right_comm, mul_inv_cancel₀ (by positivity), one_mul]

theorem number_eq_wholeNumber (hintegral : value.Integral) :
    value.number = value.wholeNumber := by
  rw [number_eq, absolute_eq_wholePart hintegral, wholeNumber]
  split <;> push_cast <;> rfl

theorem integral_iff (value : Decimal) :
    value.Integral ↔ ∃ number : Int, value.number = number := by
  constructor
  · intro hintegral
    exact ⟨_, number_eq_wholeNumber hintegral⟩
  · rintro ⟨number, hnumber⟩
    by_cases hscale : value.scale.toInt ≤ 0
    · exact .inl hscale
    · have hpower : value.scale.toInt = (value.scale.toInt.toNat : Int) := by
        omega
      have hmagnitude : value.absolute = (number.natAbs : ℚ) := by
        have hnonneg := value.absolute_nonneg
        rw [number_eq] at hnumber
        rw [Nat.cast_natAbs, Int.cast_abs, ← hnumber]
        split
        · rw [abs_neg, abs_of_nonneg hnonneg]
        · rw [abs_of_nonneg hnonneg]
      have hcoefficient : value.coefficient =
          number.natAbs * 10 ^ value.scale.toInt.toNat := by
        rw [absolute, zpow_neg, hpower, zpow_natCast,
          mul_inv_eq_iff_eq_mul₀ (by positivity)] at hmagnitude
        exact_mod_cast hmagnitude
      exact .inr (by rw [hcoefficient, Nat.mul_mod_left])

/-! What the loops of the conversion compute. -/

theorem fractionDigitsZero_iff (hwhole : 0 ≤ value.wholeDigits)
    (hscale : 0 ≤ value.scale.toInt) :
    value.fractionDigitsZero = true ↔
      value.coefficient % 10 ^ value.scale.toInt.toNat = 0 := by
  have hdigits : value.wholeDigits =
      decimalDigits value.parts.limbs - value.scale.toInt := rfl
  have hcount : decimalDigits value.parts.limbs - value.wholeDigits.toNat =
      value.scale.toInt.toNat := by
    omega
  rw [fractionDigitsZero, hcount, mod_pow_eq_zero_iff]
  simp only [List.all_eq_true, List.mem_range'_1, beq_iff_eq]
  constructor
  · intro hzeros index hindex
    have hzero := hzeros (decimalDigits value.parts.limbs - index - 1)
      (by omega)
    rwa [decimalDigit_eq (by omega), show decimalDigits value.parts.limbs -
      (decimalDigits value.parts.limbs - index - 1) - 1 = index by omega]
      at hzero
  · intro hzeros position hposition
    rw [decimalDigit_eq (by omega)]
    exact hzeros _ (by omega)

theorem wholeDigits_value (hwhole : 0 ≤ value.wholeDigits) :
    ofBigEndian 10
      ((List.range value.wholeDigits.toNat).map value.decimalDigit) =
        value.wholePart := by
  have hdigits : value.wholeDigits =
      decimalDigits value.parts.limbs - value.scale.toInt := rfl
  -- The walk may pass the last digit of the coefficient, into its zeros.
  let width := max (decimalDigits value.parts.limbs) value.wholeDigits.toNat
  have hwidth : decimalDigits value.parts.limbs ≤ width := le_max_left _ _
  have hleading := ofBigEndian_leading (shifted_lt hwidth)
    (le_max_right _ _ : value.wholeDigits.toNat ≤ width)
  have hwalk : (List.range value.wholeDigits.toNat).map value.decimalDigit =
      (List.range value.wholeDigits.toNat).map fun index =>
        value.coefficient * 10 ^ (width - decimalDigits value.parts.limbs) /
          10 ^ (width - index - 1) % 10 := by
    refine List.map_congr_left fun index hindex => ?_
    have := List.mem_range.mp hindex
    exact decimalDigit_shifted hwidth (by omega)
  rw [hwalk, hleading, wholePart]
  have hzeros : width - decimalDigits value.parts.limbs =
      (-value.scale.toInt).toNat := by
    simp only [width]
    omega
  have hfraction : width - value.wholeDigits.toNat =
      value.scale.toInt.toNat := by
    simp only [width]
    omega
  rw [hzeros, hfraction]

theorem accumulate_eq (hlimit : 9 ≤ limit)
    (hdigits : ∀ digit ∈ digits, digit < 10) (magnitude : Nat)
    (hmagnitude : magnitude ≤ limit) :
    accumulate limit digits magnitude =
      if limit < magnitude * 10 ^ digits.length + ofBigEndian 10 digits then none
      else some (magnitude * 10 ^ digits.length + ofBigEndian 10 digits) := by
  induction digits generalizing magnitude with
  | nil => simp [accumulate, Nat.not_lt.mpr hmagnitude]
  | cons digit rest ih =>
      have hdigit := hdigits digit List.mem_cons_self
      have htotal : magnitude * 10 ^ (digit :: rest).length +
          ofBigEndian 10 (digit :: rest) =
            (magnitude * 10 + digit) * 10 ^ rest.length +
              ofBigEndian 10 rest := by
        rw [ofBigEndian_cons, List.length_cons, pow_succ]
        ring
      rw [htotal, accumulate]
      by_cases hpast : (limit - digit) / 10 < magnitude
      · have hover : limit < magnitude * 10 + digit := by omega
        have hgrow := Nat.le_mul_of_pos_right (magnitude * 10 + digit)
          (Nat.pow_pos (n := rest.length) (by decide : 0 < 10))
        rw [if_pos hpast, if_pos (by omega)]
      · rw [if_neg hpast]
        exact ih (fun other member => hdigits other
          (List.mem_cons_of_mem _ member)) _ (by omega)

/-! The conversion. -/

theorem le_wholePart (hne : ¬ value.IsZero) (hintegral : value.Integral)
    (hwhole : 0 < value.wholeDigits) :
    10 ^ (value.wholeDigits.toNat - 1) ≤ value.wholePart := by
  have hmagnitude := le_absolute hne
  have hpower : value.wholeDigits - 1 =
      ((value.wholeDigits.toNat - 1 : Nat) : Int) := by omega
  rw [absolute_eq_wholePart hintegral, hpower, zpow_natCast] at hmagnitude
  exact_mod_cast hmagnitude

/-- A number below one has digits behind its decimal point. -/
theorem not_integral (hne : ¬ value.IsZero) (hwhole : value.wholeDigits ≤ 0) :
    ¬ value.Integral := by
  have hdigits : value.wholeDigits =
      decimalDigits value.parts.limbs - value.scale.toInt := rfl
  have hpositive := decimalDigits_pos value.parts.limbs
  have hsmall : value.coefficient < 10 ^ value.scale.toInt.toNat :=
    lt_of_lt_of_le value.coefficient_lt
      (Nat.pow_le_pow_right (by decide) (by omega))
  have := coefficient_positive hne
  rintro (hscale | hdivides)
  · omega
  · rw [Nat.mod_eq_of_lt hsmall] at hdivides
    omega

theorem toI64_eq (hnull : value.isNull = false) :
    value.toI64 =
      if ¬ value.Integral then .error .inexact
      else if i64Limit value.negative < value.wholePart then .error .outOfRange
      else .ok value.wholeNumber := by
  have hnegative := value.wellformed.zero_nonnegative
  have hscale : 0 < value.scale ↔ 0 < value.scale.toInt := Int32.lt_iff_toInt_lt
  have hlimit : ∀ sign, 9 ≤ i64Limit sign ∧ i64Limit sign < 10 ^ 19 := by
    decide
  rw [toI64, if_neg (by simp [hnull])]
  by_cases hne : value.IsZero
  · have hcoefficient := coefficient_zero hne
    have hwhole : value.wholePart = 0 := by
      rw [wholePart, hcoefficient, Nat.zero_mul, Nat.zero_div]
    have hintegral : value.Integral :=
      .inr (by rw [hcoefficient, Nat.zero_mod])
    rw [if_pos hne, if_neg (not_not.mpr hintegral), if_neg (by omega),
      wholeNumber, hwhole]
    simp
  · rw [if_neg hne]
    by_cases hwhole : value.wholeDigits ≤ 0
    · rw [if_pos hwhole, if_pos (not_integral hne hwhole)]
    · rw [if_neg hwhole]
      by_cases hintegral : value.Integral
      · have hfraction : ¬ (0 < value.scale ∧
            value.fractionDigitsZero = false) := by
          rintro ⟨hpositive, hzeros⟩
          rcases hintegral with hbelow | hdivides
          · have := hscale.mp hpositive
            omega
          · have := (fractionDigitsZero_iff (by omega)
              (hscale.mp hpositive).le).mpr hdivides
            simp [hzeros] at this
        have hleast := le_wholePart hne hintegral (by omega)
        rw [if_neg hfraction, if_neg (not_not.mpr hintegral)]
        by_cases hlong : 19 < value.wholeDigits
        · have hover : 10 ^ 19 ≤ 10 ^ (value.wholeDigits.toNat - 1) :=
            Nat.pow_le_pow_right (by decide) (by omega)
          have := (hlimit value.negative).2
          rw [if_pos hlong, if_pos (by omega)]
        · rw [if_neg hlong, accumulate_eq (hlimit value.negative).1
            (by simp [decimalDigit_lt]) 0 (Nat.zero_le _), Nat.zero_mul,
            Nat.zero_add, wholeDigits_value (by omega)]
          by_cases hover : i64Limit value.negative < value.wholePart
          · rw [if_pos hover, if_pos hover]
          · rw [if_neg hover, if_neg hover]
            rfl
      · have hpositive : 0 < value.scale.toInt := by
          by_contra hbelow
          exact hintegral (.inl (by omega))
        have hzeros : value.fractionDigitsZero = false := by
          rw [← Bool.not_eq_true, fractionDigitsZero_iff (by omega)
            hpositive.le]
          exact fun hdivides => hintegral (.inr hdivides)
        rw [if_pos ⟨hscale.mpr hpositive, hzeros⟩, if_pos hintegral]

theorem inInt64_wholeNumber (value : Decimal) :
    InInt64 value.wholeNumber ↔
      value.wholePart ≤ i64Limit value.negative := by
  unfold InInt64 wholeNumber i64Limit
  split <;> omega

/-- `sqli_decimal_set_i64` always succeeds. -/
theorem setI64_number (malloc : Nat → Bool) (coefficient : Int64)
    (scale : Int32) (value : Decimal) :
    ∃ stored, setI64 malloc coefficient scale value = (.ok, stored) ∧
      stored.isNull = false ∧
      stored.number = coefficient.toInt * (10 : ℚ) ^ (-scale.toInt) := by
  have hrange : coefficient.toInt.natAbs < limbBase ^ 3 := by
    have hlower := Int64.le_toInt coefficient
    have hupper := Int64.toInt_lt coefficient
    have hbase : limbBase ^ 3 = 10 ^ 27 := by decide
    rw [hbase]
    omega
  have hlimbs : ∀ limb ∈ Nat.digits limbBase coefficient.toInt.natAbs,
      limb < limbBase :=
    fun limb member => Nat.digits_lt_base (by decide) member
  have hlength : (Nat.digits limbBase coefficient.toInt.natAbs).length ≤ 3 :=
    (Nat.digits_length_le_iff (by decide) _).mpr hrange
  have hkept := trimLimbs_isPrefix
    (Nat.digits limbBase coefficient.toInt.natAbs)
  have hdigits : decimalDigits
      (trimLimbs (Nat.digits limbBase coefficient.toInt.natAbs)) ≤
        maxDigits := by
    by_cases hempty : trimLimbs
        (Nat.digits limbBase coefficient.toInt.natAbs) = []
    · rw [hempty]
      decide
    · have hbound := decimalDigits_le_limbs
        (fun limb member => hlimbs limb (hkept.subset member)) hempty
      have hmax : maxDigits = 1000000 := rfl
      have := hkept.length_le
      rw [limbDigits] at hbound
      omega
  have hinline : inlineLimbs = 4 := rfl
  let parts : Parts :=
    ⟨Nat.digits limbBase coefficient.toInt.natAbs, scale, coefficient < 0, false⟩
  have hstored : setI64 malloc coefficient scale value =
      (.ok, ⟨trimmedParts parts, trimmedParts_wellformed hlimbs hdigits⟩) :=
    @setParts_inline malloc value parts rfl (by simp only [parts]; omega)
      hlimbs hdigits
  refine ⟨_, hstored, rfl, ?_⟩
  have hvalue : (trimmedParts parts).coefficient = coefficient.toInt.natAbs := by
    rw [Parts.coefficient, trimmedParts, ofDigits_trimLimbs,
      Nat.ofDigits_digits]
  have hnegative : (coefficient < 0) ↔ coefficient.toInt < 0 :=
    Int64.lt_iff_toInt_lt
  simp only [number, Parts.number, hvalue]
  congr 1
  by_cases hempty : trimLimbs
      (Nat.digits limbBase coefficient.toInt.natAbs) = []
  · have hzero : coefficient.toInt.natAbs = 0 := by
      rw [← Nat.ofDigits_digits limbBase coefficient.toInt.natAbs,
        ← ofDigits_trimLimbs, hempty, Nat.ofDigits_nil]
    rw [Int.natAbs_eq_zero.mp hzero]
    simp
  · by_cases hbelow : coefficient < 0
    · have hsign : (trimmedParts parts).negative = true := by
        simp [trimmedParts, parts, hempty, hbelow]
      rw [if_pos hsign, Nat.cast_natAbs, Int.cast_abs, abs_of_neg
        (by exact_mod_cast hnegative.mp hbelow)]
      ring
    · have hsign : (trimmedParts parts).negative = false := by
        simp [trimmedParts, parts, hbelow]
      rw [if_neg (by simp [hsign]), Nat.cast_natAbs, Int.cast_abs, abs_of_nonneg
        (by exact_mod_cast Int.not_lt.mp fun hlt => hbelow (hnegative.mpr hlt)),
        one_mul]

/-- `sqli_decimal_to_i64` is exact. -/
theorem toI64_exact :
    (∀ value : Decimal, value.isNull = false →
      (∀ number : Int, value.toI64 = .ok number ↔
        value.number = number ∧ InInt64 number) ∧
      (value.toI64 = .error .inexact ↔
        ¬ ∃ number : Int, value.number = number) ∧
      (value.toI64 = .error .outOfRange ↔
        ∃ number : Int, value.number = number ∧ ¬ InInt64 number) ∧
      ∀ status, value.toI64 = .error status →
        status = .inexact ∨ status = .outOfRange) ∧
    (∀ (value : Decimal) (out : Int), (value.storeI64 out).1 ≠ .ok →
      (value.storeI64 out).2 = out) ∧
    ∀ (malloc : Nat → Bool) (coefficient : Int64) (scale : Int32)
      (value : Decimal) (number : Int),
      coefficient.toInt * (10 : ℚ) ^ (-scale.toInt) = number →
      InInt64 number →
      (setI64 malloc coefficient scale value).1 = .ok ∧
        (setI64 malloc coefficient scale value).2.toI64 = .ok number := by
  have hexact : ∀ value : Decimal, value.isNull = false →
      ∀ number : Int, value.toI64 = .ok number ↔
        value.number = number ∧ InInt64 number := by
    intro value hnull number
    rw [toI64_eq hnull]
    by_cases hintegral : value.Integral
    · rw [if_neg (not_not.mpr hintegral), number_eq_wholeNumber hintegral,
        Int.cast_inj]
      constructor
      · intro hresult
        split at hresult
        · cases hresult
        · rename_i hwithin
          obtain rfl := Except.ok.inj hresult
          exact ⟨rfl, value.inInt64_wholeNumber.mpr (Nat.not_lt.mp hwithin)⟩
      · rintro ⟨rfl, hrange⟩
        rw [if_neg (Nat.not_lt.mpr (value.inInt64_wholeNumber.mp hrange))]
    · rw [if_pos hintegral]
      simp only [reduceCtorEq, false_iff, not_and]
      intro hnumber
      exact absurd ((integral_iff value).mpr ⟨number, hnumber⟩) hintegral
  refine ⟨fun value hnull => ⟨hexact value hnull, ?_, ?_, ?_⟩, ?_, ?_⟩
  · rw [toI64_eq hnull, ← integral_iff]
    by_cases hintegral : value.Integral
    · rw [if_neg (not_not.mpr hintegral)]
      split <;> simp [hintegral]
    · simp [hintegral]
  · rw [toI64_eq hnull]
    by_cases hintegral : value.Integral
    · have hrange := value.inInt64_wholeNumber
      rw [if_neg (not_not.mpr hintegral), number_eq_wholeNumber hintegral]
      constructor
      · intro hresult
        refine ⟨_, rfl, fun hwithin => ?_⟩
        rw [if_neg (Nat.not_lt.mpr (hrange.mp hwithin))] at hresult
        cases hresult
      · rintro ⟨number, hnumber, hover⟩
        obtain rfl := Int.cast_inj.mp hnumber
        rw [if_pos (Nat.lt_of_not_le fun hwithin => hover (hrange.mpr hwithin))]
    · rw [if_pos hintegral]
      simp only [Except.error.injEq, reduceCtorEq, false_iff, not_exists]
      rintro number ⟨hnumber, -⟩
      exact hintegral ((integral_iff value).mpr ⟨number, hnumber⟩)
  · intro status
    rw [toI64_eq hnull]
    split
    · rintro ⟨⟩
      exact .inl rfl
    · split
      · rintro ⟨⟩
        exact .inr rfl
      · rintro ⟨⟩
  · intro value out hfailed
    unfold storeI64 at hfailed ⊢
    split
    · rename_i number hresult
      simp [hresult] at hfailed
    · rfl
  · intro malloc coefficient scale value number hnumber hrange
    obtain ⟨stored, hstored, hnull, hvalue⟩ :=
      setI64_number malloc coefficient scale value
    rw [hstored]
    exact ⟨rfl, (hexact stored hnull number).mpr
      ⟨hvalue.trans hnumber, hrange⟩⟩

theorem toI64_exact_least :
    (setI64 (fun _ => false) Int64.minValue 0 null).2.toI64 =
        .ok (-9223372036854775808) ∧
      (setI64 (fun _ => false) 1230 1 null).2.toI64 = .ok 123 := by
  constructor
  · refine (toI64_exact.2.2 _ _ _ _ _ ?_ (by decide)).2
    have hscale : (0 : Int32).toInt = 0 := by decide
    have hleast : Int64.minValue.toInt = -9223372036854775808 := by decide
    rw [hscale, hleast]
    norm_num
  · refine (toI64_exact.2.2 _ _ _ _ _ ?_ (by decide)).2
    have hscale : (1 : Int32).toInt = 1 := by decide
    have hcoefficient : (1230 : Int64).toInt = 1230 := by decide
    rw [hscale, hcoefficient]
    norm_num

end Libsqli.Decimal
