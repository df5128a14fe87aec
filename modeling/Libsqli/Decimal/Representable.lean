import Libsqli.Decimal.Canonical
import Libsqli.Decimal.Magnitude

namespace Libsqli.Decimal

open Libsqli.Base100
open Libsqli.Data.Radix

variable {type : WireType} {magnitude : Scientific} {value : Decimal}

/-! The numbers that a column can hold, without a word about bytes. -/

/-- The digits fit the precision, at the scale of the column if it has one. -/
def FitsColumn (type : WireType) (number : ℚ) : Prop :=
  if type.scale = floatingScale then
    ∃ magnitude : Scientific,
      magnitude.number = number ∧ magnitude.digits ≤ type.precision
  else
    ∃ whole : Int, number * (10 : ℚ) ^ type.scale = whole ∧
      whole.natAbs < 10 ^ type.precision

/-- In base 100, aligned to the decimal point, the exponent is in its range and
no digit follows the last group. -/
def FitsGroups (number : ℚ) : Prop :=
  ∃ exponent : Int, exponentMin ≤ exponent ∧ exponent ≤ exponentMax ∧
    (100 : ℚ) ^ (exponent - 1) ≤ |number| ∧ |number| < (100 : ℚ) ^ exponent ∧
    ∃ whole : Int,
      number * (100 : ℚ) ^ ((maxCoefficientGroups : Int) - exponent) = whole

/-- `sqli_decimal_encode_wire` with the buffer and the length it writes. -/
def storeWire (value : Decimal) (descriptor : UInt16) (bytes : List UInt8)
    (length : Nat) : Status × List UInt8 × Nat :=
  match encodeWire value descriptor bytes.length with
  | .ok encoded =>
      (.ok, encoded ++ bytes.drop encoded.length, encoded.length)
  | .error status => (status, bytes, length)

/-! Numbers in scientific form. -/

namespace Scientific

def sign (value : Scientific) : Int := if value.negative then -1 else 1

theorem natAbs_sign (value : Scientific) : value.sign.natAbs = 1 := by
  unfold sign
  split <;> rfl

theorem number_shift (value : Scientific) (shift : Int) :
    value.number * (10 : ℚ) ^ shift =
      value.sign * value.mantissa * (10 : ℚ) ^ (value.power + shift) := by
  rw [number, sign, zpow_add₀ (by norm_num)]
  push_cast
  ring

theorem abs_number (value : Scientific) :
    |value.number| = value.mantissa * (10 : ℚ) ^ value.power := by
  have hmagnitude := value.magnitude_pos
  rw [number, mul_assoc, abs_mul, abs_of_pos hmagnitude]
  split <;> simp

/-- Shifted to an integer, the mantissa is followed by zeros only. -/
theorem shifted_integer (value : Scientific) {shift : Int} {whole : Int}
    (hwhole : value.number * (10 : ℚ) ^ shift = whole) :
    0 ≤ value.power + shift ∧
      whole.natAbs = value.mantissa * 10 ^ (value.power + shift).toNat := by
  rw [number_shift] at hwhole
  by_cases hpower : 0 ≤ value.power + shift
  · refine ⟨hpower, ?_⟩
    obtain ⟨zeros, hzeros⟩ := Int.eq_ofNat_of_zero_le hpower
    rw [hzeros, zpow_natCast] at hwhole
    have hinteger : whole = value.sign * value.mantissa * 10 ^ zeros := by
      exact_mod_cast hwhole.symm
    rw [hzeros, hinteger, Int.natAbs_mul, Int.natAbs_mul, natAbs_sign,
      Int.natAbs_pow, Nat.one_mul, Int.natAbs_natCast]
    rfl
  · obtain ⟨places, hplaces⟩ :=
      Int.eq_ofNat_of_zero_le (by omega : 0 ≤ -(value.power + shift) - 1)
    have hexponent : value.power + shift = -((places + 1 : Nat) : Int) := by
      omega
    rw [hexponent, zpow_neg, zpow_natCast,
      mul_inv_eq_iff_eq_mul₀ (by positivity)] at hwhole
    have hinteger : value.sign * value.mantissa = whole * 10 ^ (places + 1) := by
      exact_mod_cast hwhole
    have hmantissa : value.mantissa = whole.natAbs * 10 ^ places * 10 := by
      have habs := congrArg Int.natAbs hinteger
      rw [Int.natAbs_mul, Int.natAbs_mul, natAbs_sign, Nat.one_mul,
        Int.natAbs_natCast, Int.natAbs_pow] at habs
      rw [habs, pow_succ, Nat.mul_assoc]
      rfl
    have := value.normalized
    omega

theorem integer_iff (value : Scientific) (shift : Int) :
    (∃ whole : Int, value.number * (10 : ℚ) ^ shift = whole) ↔
      0 ≤ value.power + shift := by
  constructor
  · rintro ⟨whole, hwhole⟩
    exact (value.shifted_integer hwhole).1
  · intro hpower
    obtain ⟨zeros, hzeros⟩ := Int.eq_ofNat_of_zero_le hpower
    refine ⟨value.sign * value.mantissa * 10 ^ zeros, ?_⟩
    rw [number_shift, hzeros, zpow_natCast]
    push_cast
    rfl

theorem abs_number_lt (value : Scientific) :
    |value.number| < (10 : ℚ) ^ value.integralDigits := by
  have hmantissa : (value.mantissa : ℚ) < (10 : ℚ) ^ value.digits := by
    exact_mod_cast Nat.lt_base_pow_length_digits (by decide)
  rw [abs_number, integralDigits, zpow_add₀ (by norm_num), zpow_natCast]
  exact mul_lt_mul_of_pos_right hmantissa (by positivity)

theorem le_abs_number (value : Scientific) :
    (10 : ℚ) ^ (value.integralDigits - 1) ≤ |value.number| := by
  have hdigits := value.digits_pos
  have hmantissa : (10 : ℚ) ^ (value.digits - 1) ≤ value.mantissa := by
    exact_mod_cast (Nat.lt_digits_length_iff (by decide) _).mp
      (Nat.sub_lt hdigits Nat.one_pos)
  have hexponent : value.integralDigits - 1 =
      ((value.digits - 1 : Nat) : Int) + value.power := by
    rw [integralDigits]
    omega
  rw [abs_number, hexponent, zpow_add₀ (by norm_num), zpow_natCast]
  exact mul_le_mul_of_nonneg_right hmantissa (by positivity)

end Scientific

theorem hundred_zpow (exponent : Int) :
    (100 : ℚ) ^ exponent = (10 : ℚ) ^ (2 * exponent) := by
  rw [zpow_mul]
  norm_num

theorem fitsColumn_iff (type : WireType) (magnitude : Scientific) :
    FitsColumn type magnitude.number ↔ Fits type magnitude := by
  unfold FitsColumn Fits
  by_cases hfloating : type.scale = floatingScale
  · rw [if_pos hfloating, if_pos hfloating]
    constructor
    · rintro ⟨other, hother, hdigits⟩
      obtain rfl := Scientific.number_injective hother
      exact hdigits
    · exact fun hdigits => ⟨magnitude, rfl, hdigits⟩
  · rw [if_neg hfloating, if_neg hfloating]
    have hlength : ∀ zeros : Nat,
        magnitude.mantissa * 10 ^ zeros < 10 ^ type.precision ↔
          magnitude.digits + zeros ≤ type.precision := fun zeros => by
      rw [← Nat.digits_length_le_iff (by decide),
        digitCount_mul_pow (by decide) magnitude.mantissa_pos]
      rfl
    constructor
    · rintro ⟨whole, hwhole, hbound⟩
      rw [← zpow_natCast] at hwhole
      obtain ⟨hpower, habs⟩ := magnitude.shifted_integer hwhole
      rw [habs, hlength] at hbound
      omega
    · rintro ⟨hpower, hdigits⟩
      obtain ⟨whole, hwhole⟩ :=
        (magnitude.integer_iff type.scale).mpr (by omega)
      obtain ⟨-, habs⟩ := magnitude.shifted_integer hwhole
      refine ⟨whole, by rwa [zpow_natCast] at hwhole, ?_⟩
      rw [habs, hlength]
      omega

theorem fitsGroups_iff (magnitude : Scientific) :
    FitsGroups magnitude.number ↔
      exponentMin ≤ wireExponent magnitude.integralDigits ∧
      wireExponent magnitude.integralDigits ≤ exponentMax ∧
      ((wireExponent magnitude.integralDigits * 2 -
        magnitude.integralDigits).toNat + magnitude.digits + 1) / 2 ≤
          maxCoefficientGroups := by
  have hpadding := wireExponent_padding magnitude.integralDigits
  have hten : (1 : ℚ) < 10 := by norm_num
  have hgroups : maxCoefficientGroups = 16 := rfl
  have hintegral : magnitude.integralDigits =
      magnitude.digits + magnitude.power := rfl
  have hwhole : ∀ exponent : Int,
      (∃ whole : Int, magnitude.number *
        (100 : ℚ) ^ ((maxCoefficientGroups : Int) - exponent) = whole) ↔
      0 ≤ magnitude.power + 2 * ((maxCoefficientGroups : Int) - exponent) :=
    fun exponent => by rw [hundred_zpow, magnitude.integer_iff]
  constructor
  · rintro ⟨exponent, hmin, hmax, hlower, hupper, hfits⟩
    rw [hundred_zpow] at hlower hupper
    have hbelow := (zpow_lt_zpow_iff_right₀ hten).mp
      (lt_of_le_of_lt hlower magnitude.abs_number_lt)
    have habove := (zpow_lt_zpow_iff_right₀ hten).mp
      (lt_of_le_of_lt magnitude.le_abs_number hupper)
    have haligned : exponent * 2 = magnitude.integralDigits +
        (exponent * 2 - magnitude.integralDigits) := by omega
    have hexponent := wireExponent_eq haligned (by omega) (by omega)
    have := (hwhole exponent).mp hfits
    rw [hexponent]
    omega
  · rintro ⟨hmin, hmax, hcapacity⟩
    refine ⟨_, hmin, hmax, ?_, ?_, (hwhole _).mpr (by omega)⟩
    · rw [hundred_zpow]
      exact le_trans (zpow_le_zpow_right₀ hten.le (by omega))
        magnitude.le_abs_number
    · rw [hundred_zpow]
      exact lt_of_lt_of_le magnitude.abs_number_lt
        (zpow_le_zpow_right₀ hten.le (by omega))

/-- The payload of a column has room for every number of its precision. -/
theorem room_of_fits (hwidth : type.width =
      (type.precision + (type.scale &&& 1) + 3) / 2)
    (hfits : Fits type magnitude) :
    ((wireExponent magnitude.integralDigits * 2 -
      magnitude.integralDigits).toNat + magnitude.digits + 1) / 2 ≤
        type.width - 1 := by
  have hpadding := wireExponent_padding magnitude.integralDigits
  have hintegral : magnitude.integralDigits =
      magnitude.digits + magnitude.power := rfl
  rw [Nat.and_one_is_mod] at hwidth
  unfold Fits at hfits
  split at hfits
  · rename_i hfloating
    rw [hfloating, floatingScale] at hwidth
    omega
  · omega

/-! What the encoder returns. -/

theorem checkTarget_cases {parts : Parts} (hwellformed : parts.Wellformed)
    (hdenotes : parts.Denotes magnitude zeros) :
    checkTarget parts type = .ok () ∨
    (checkTarget parts type = .error .inexact ∧
      type.scale ≠ floatingScale ∧ magnitude.power + type.scale < 0) ∨
    (checkTarget parts type = .error .outOfRange ∧
      (type.scale ≠ floatingScale → 0 ≤ magnitude.power + type.scale)) := by
  have hpower := hdenotes.power_eq
  simp only [checkTarget, hdenotes.coefficientDigits_eq hwellformed,
    hdenotes.trailingZeros_eq hwellformed]
  by_cases hfloating : type.scale = floatingScale
  · rw [if_pos hfloating]
    split
    · exact .inr (.inr ⟨rfl, absurd hfloating⟩)
    · exact .inl rfl
  · rw [if_neg hfloating]
    split
    · exact .inr (.inl ⟨rfl, hfloating, by omega⟩)
    · split
      · exact .inr (.inr ⟨rfl, fun _ => by omega⟩)
      · exact .inl rfl

theorem encodeCoefficient_error {parts : Parts}
    (hwellformed : parts.Wellformed) (hdenotes : parts.Denotes magnitude zeros)
    (hfailed : encodeCoefficient parts type = .error status) :
    (status = .inexact ∨ status = .outOfRange) ∧
      (status = .inexact ↔
        type.scale ≠ floatingScale ∧ magnitude.power + type.scale < 0) := by
  rcases @checkTarget_cases type magnitude _ _ hwellformed hdenotes with
    hok | ⟨hinexact, hfixed, hpower⟩ | ⟨hrange, hpower⟩
  · have hfits := (checkTarget_ok_iff hwellformed hdenotes).mp hok
    have hstatus : status = .outOfRange := by
      simp only [encodeCoefficient, hok] at hfailed
      split at hfailed
      · exact (Except.error.inj hfailed).symm
      · split at hfailed
        · exact (Except.error.inj hfailed).symm
        · cases hfailed
    subst hstatus
    refine ⟨.inr rfl, by simp, ?_⟩
    rintro ⟨hfixed, hbelow⟩
    rw [Fits, if_neg hfixed] at hfits
    omega
  · simp only [encodeCoefficient, hinexact, Except.error.injEq] at hfailed
    subst hfailed
    exact ⟨.inl rfl, fun _ => ⟨hfixed, hpower⟩, fun _ => rfl⟩
  · simp only [encodeCoefficient, hrange, Except.error.injEq] at hfailed
    subst hfailed
    refine ⟨.inr rfl, by simp, ?_⟩
    rintro ⟨hfixed, hbelow⟩
    have := hpower hfixed
    omega

theorem encodeCoefficient_ok_iff {parts : Parts}
    (hwellformed : parts.Wellformed) (hdenotes : parts.Denotes magnitude zeros)
    (hwidth : type.width = (type.precision + (type.scale &&& 1) + 3) / 2) :
    (∃ bytes, encodeCoefficient parts type = .ok bytes) ↔
      FitsColumn type magnitude.number ∧ FitsGroups magnitude.number := by
  rw [fitsColumn_iff, fitsGroups_iff]
  constructor
  · rintro ⟨bytes, hencode⟩
    obtain ⟨hfits, payload, -⟩ :=
      encodeCoefficient_sound hwellformed hdenotes hencode
    have hexponent := payload.exponent_eq
    have hpadding := payload.padding_eq
    have hcapacity := payload.capacity
    exact ⟨hfits, hexponent ▸ payload.exponent_min,
      hexponent ▸ payload.exponent_max, by omega⟩
  · rintro ⟨hfits, hmin, hmax, hcapacity⟩
    exact ⟨_, encodeCoefficient_eq hwellformed hdenotes hmin hmax hcapacity
      (room_of_fits hwidth hfits)
      ((checkTarget_ok_iff hwellformed hdenotes).mpr hfits)⟩

theorem encodeParts_value (hnull : value.isNull = false)
    (hwidth : type.width = (type.precision + (type.scale &&& 1) + 3) / 2) :
    ((∃ bytes, encodeParts value.parts type = .ok bytes) ↔
      value.number = 0 ∨
        FitsColumn type value.number ∧ FitsGroups value.number) ∧
    ∀ status, encodeParts value.parts type = .error status →
      (status = .inexact ∨ status = .outOfRange) ∧
      (status = .inexact ↔ type.scale ≠ floatingScale ∧
        ¬ ∃ whole : Int, value.number * (10 : ℚ) ^ type.scale = whole) := by
  have hopen : encodeParts value.parts type =
      if value.parts.limbs.length = 0 then
        .ok (positiveFlag :: List.replicate (type.width - 1) 0)
      else encodeCoefficient value.parts type := by
    rw [encodeParts, if_neg (by simp [hnull])]
  rw [hopen]
  by_cases hzero : value.IsZero
  · rw [if_pos (by simp [hzero]), number_zero hzero]
    simp
  · rw [if_neg (by simpa using hzero)]
    obtain ⟨magnitude, hdenotes⟩ := value.wellformed.exists_denotes hnull hzero
    have hnumber : value.number = magnitude.number := hdenotes.number_eq
    rw [hnumber, encodeCoefficient_ok_iff value.wellformed hdenotes hwidth]
    refine ⟨(or_iff_right magnitude.number_ne_zero).symm, fun status hfailed => ?_⟩
    rw [← zpow_natCast, magnitude.integer_iff, not_le]
    exact encodeCoefficient_error value.wellformed hdenotes hfailed

theorem decodeType_width_eq (htype : decodeType descriptor = .ok type) :
    type.width = (type.precision + (type.scale &&& 1) + 3) / 2 := by
  unfold decodeType at htype
  simp only at htype
  split at htype
  · cases htype
  · obtain rfl := Except.ok.inj htype
    rfl

/-- The encoder accepts what a column can hold, and never rounds. -/
theorem decimalEncoding_exact (descriptor : UInt16) :
    (∀ (type : WireType) (value : Decimal) (capacity : Nat),
      decodeType descriptor = .ok type → value.isNull = false →
      type.width ≤ capacity →
      ((∃ bytes, encodeWire value descriptor capacity = .ok bytes) ↔
        value.number = 0 ∨
          FitsColumn type value.number ∧ FitsGroups value.number) ∧
      (encodeWire value descriptor capacity = .error .inexact ↔
        type.scale ≠ floatingScale ∧
          ¬ ∃ whole : Int, value.number * (10 : ℚ) ^ type.scale = whole) ∧
      ∀ status, encodeWire value descriptor capacity = .error status →
        status = .inexact ∨ status = .outOfRange) ∧
    (∀ (value : Decimal) (capacity : Nat) (bytes : List UInt8),
      encodeWire value descriptor capacity = .ok bytes →
      ∀ malloc out, ∃ decoded,
        decodeWire malloc bytes descriptor out = (.ok, decoded) ∧
        decoded.number = value.number) ∧
    ∀ (value : Decimal) (bytes : List UInt8) (length : Nat),
      (value.storeWire descriptor bytes length).1 ≠ .ok →
        (value.storeWire descriptor bytes length).2 = (bytes, length) := by
  refine ⟨?_, ?_, ?_⟩
  · intro type value capacity htype hnull hcapacity
    have hwire : encodeWire value descriptor capacity =
        encodeParts value.parts type := by
      simp only [encodeWire, htype, if_neg (Nat.not_lt.mpr hcapacity)]
      cases encodeParts value.parts type <;> rfl
    obtain ⟨haccepts, hrefuses⟩ :=
      encodeParts_value hnull (decodeType_width_eq htype)
    rw [hwire]
    refine ⟨haccepts, ?_, fun status hfailed => (hrefuses status hfailed).1⟩
    cases hresult : encodeParts value.parts type with
    | error status =>
        rw [Except.error.injEq]
        exact (hrefuses status hresult).2
    | ok bytes =>
        simp only [reduceCtorEq, false_iff, not_and, not_not]
        intro hfixed
        rcases haccepts.mp ⟨bytes, hresult⟩ with hzero | ⟨hcolumn, -⟩
        · exact ⟨0, by rw [hzero, zero_mul, Int.cast_zero]⟩
        · rw [FitsColumn, if_neg hfixed] at hcolumn
          obtain ⟨whole, hwhole, -⟩ := hcolumn
          exact ⟨whole, hwhole⟩
  · intro value capacity bytes hencode malloc out
    obtain ⟨type, htype, -, hrepresents⟩ := encodeWire_ok_iff.mp hencode
    obtain ⟨decoded, hdecode, -, hnumber, -⟩ :=
      decodeWire_of_represents malloc out htype hrepresents
    exact ⟨decoded, hdecode, hnumber⟩
  · intro value bytes length hfailed
    unfold storeWire at hfailed ⊢
    split
    · rename_i encoded hencoded
      simp [hencoded] at hfailed
    · rfl

theorem decimalEncoding_exact_columns :
    (∃ bytes, encodeWire minusTwelveThirty 0x0502 4 = .ok bytes) ∧
      encodeWire minusTwelveThirty 0x0500 4 = .error .inexact := by
  have hscale : (2 : Int32).toInt = 2 := by decide
  have hnumber : minusTwelveThirty.number = -(1230 / 100) := by
    norm_num [number, Parts.number, Parts.coefficient, minusTwelveThirty,
      Nat.ofDigits_singleton, hscale]
  have hexact := fun descriptor => (decimalEncoding_exact descriptor).1
  constructor
  · refine (hexact 0x0502 ⟨5, 2, 4⟩ _ 4 (by decide) rfl (by decide)).1.mpr
      (.inr ⟨?_, 1, by decide, by decide, ?_, ?_, ?_⟩)
    · rw [hnumber, FitsColumn, if_neg (by decide)]
      exact ⟨-1230, by norm_num, by decide⟩
    · rw [hnumber]
      norm_num
    · rw [hnumber]
      norm_num
    · refine ⟨-123 * 10 ^ 29, ?_⟩
      rw [hnumber, show maxCoefficientGroups = 16 from rfl]
      norm_num
  · refine (hexact 0x0500 ⟨5, 0, 4⟩ _ 4 (by decide) rfl (by decide)).2.1.mpr
      ⟨by decide, ?_⟩
    rintro ⟨whole, hwhole⟩
    rw [hnumber] at hwhole
    have hscaled : (-1230 : Int) = whole * 100 := by
      exact_mod_cast (by linarith : (-1230 : ℚ) = whole * 100)
    omega

end Libsqli.Decimal
