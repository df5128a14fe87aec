import Libsqli.Decimal.Magnitude

namespace Libsqli.Decimal

open Libsqli.Data.Radix

variable {value left right : Decimal}

/-! Comparison without rescaling. -/

/-- The loop over the digits, from the position `index` on. -/
def compareDigits (leftDigit rightDigit : Nat → Nat) : Nat → Nat → Int
  | 0, _ => 0
  | remaining + 1, index =>
      if leftDigit index ≠ rightDigit index then
        if leftDigit index < rightDigit index then -1 else 1
      else compareDigits leftDigit rightDigit remaining (index + 1)

/-- The ordering of two nonzero values of one sign, before the sign. -/
def compareMagnitudes (left right : Decimal) : Int :=
  let leftDigits := decimalDigits left.parts.limbs
  let rightDigits := decimalDigits right.parts.limbs
  let leftExponent : Int := leftDigits - left.scale.toInt
  let rightExponent : Int := rightDigits - right.scale.toInt
  if leftExponent ≠ rightExponent then
    if leftExponent < rightExponent then -1 else 1
  else
    compareDigits left.decimalDigit right.decimalDigit
      (if rightDigits < leftDigits then leftDigits else rightDigits) 0

def compareValues (left right : Decimal) : Int :=
  if left.parts.limbs = [] ∨ right.parts.limbs = [] then
    if left.parts.limbs ≠ [] then if left.negative then -1 else 1
    else if right.parts.limbs ≠ [] then if right.negative then 1 else -1
    else 0
  else if left.negative ≠ right.negative then if left.negative then -1 else 1
  else if left.negative then -compareMagnitudes left right
  else compareMagnitudes left right

/-- `sqli_decimal_compare`; `out` is what the caller's variable holds. -/
def compare (left right : Decimal) (out : Int) : Status × Int :=
  if left.isNull ∨ right.isNull then (.nullValue, out)
  else (.ok, compareValues left right)

/-- How two numbers stand to each other. -/
def ordering (first second : ℚ) : Int :=
  if first < second then -1 else if first = second then 0 else 1

/-! Orderings. -/

theorem ordering_lt {first second : ℚ} (hlt : first < second) :
    ordering first second = -1 := by
  rw [ordering, if_pos hlt]

theorem ordering_gt {first second : ℚ} (hgt : second < first) :
    ordering first second = 1 := by
  rw [ordering, if_neg (not_lt.mpr hgt.le), if_neg (ne_of_gt hgt)]

@[simp] theorem ordering_self (number : ℚ) : ordering number number = 0 := by
  simp [ordering]

theorem ordering_neg (first second : ℚ) :
    ordering (-first) (-second) = -ordering first second := by
  rcases lt_trichotomy first second with hlt | rfl | hgt
  · rw [ordering_lt hlt, ordering_gt (neg_lt_neg hlt)]
    rfl
  · simp
  · rw [ordering_gt hgt, ordering_lt (neg_lt_neg hgt)]

theorem ordering_mul {first second factor : ℚ} (hfactor : 0 < factor) :
    ordering (first * factor) (second * factor) = ordering first second := by
  simp only [ordering, mul_lt_mul_iff_left₀ hfactor,
    mul_left_inj' (ne_of_gt hfactor)]

theorem ordering_nonpos_iff {first second : ℚ} :
    ordering first second ≤ 0 ↔ first ≤ second := by
  rcases lt_trichotomy first second with hlt | rfl | hgt
  · rw [ordering_lt hlt]
    simp [hlt.le]
  · simp
  · rw [ordering_gt hgt]
    simp [hgt]

/-! The digit walk. -/

/-- The lowest digits of a number, one more at a time. -/
theorem mod_pow_succ (number count : Nat) :
    number % 10 ^ (count + 1) =
      number / 10 ^ count % 10 * 10 ^ count + number % 10 ^ count := by
  rw [pow_succ, Nat.mod_mul]
  ring

/-- The walk compares what the remaining digits make up. -/
theorem compareDigits_eq (leftDigit rightDigit : Nat → Nat)
    (leftNumber rightNumber count : Nat)
    (hleft : ∀ index < count,
      leftDigit index = leftNumber / 10 ^ (count - index - 1) % 10)
    (hright : ∀ index < count,
      rightDigit index = rightNumber / 10 ^ (count - index - 1) % 10)
    (remaining index : Nat) (hcount : index + remaining = count) :
    compareDigits leftDigit rightDigit remaining index =
      ordering (leftNumber % 10 ^ remaining : Nat)
        (rightNumber % 10 ^ remaining : Nat) := by
  induction remaining generalizing index with
  | zero => simp [compareDigits, Nat.mod_one]
  | succ remaining ih =>
      have hplace : count - index - 1 = remaining := by omega
      have hfirst := hleft index (by omega)
      have hsecond := hright index (by omega)
      have hleftRest := Nat.mod_lt leftNumber
        (Nat.pow_pos (n := remaining) (by decide : 0 < 10))
      have hrightRest := Nat.mod_lt rightNumber
        (Nat.pow_pos (n := remaining) (by decide : 0 < 10))
      rw [hplace] at hfirst hsecond
      rw [compareDigits, ih (index + 1) (by omega), mod_pow_succ leftNumber,
        mod_pow_succ rightNumber, ← hfirst, ← hsecond]
      by_cases hsame : leftDigit index = rightDigit index
      · rw [if_neg (not_not.mpr hsame), hsame]
        unfold ordering
        simp only [Nat.cast_add, add_lt_add_iff_left, add_right_inj]
      · rw [if_pos hsame]
        rcases Nat.lt_or_gt_of_ne hsame with hlt | hgt
        · rw [if_pos hlt, ordering_lt]
          have hstep : (leftDigit index + 1) * 10 ^ remaining ≤
              rightDigit index * 10 ^ remaining :=
            Nat.mul_le_mul_right _ hlt
          rw [Nat.add_mul] at hstep
          exact_mod_cast (by omega :
            leftDigit index * 10 ^ remaining + leftNumber % 10 ^ remaining <
              rightDigit index * 10 ^ remaining + rightNumber % 10 ^ remaining)
        · rw [if_neg (Nat.not_lt.mpr hgt.le), ordering_gt]
          have hstep : (rightDigit index + 1) * 10 ^ remaining ≤
              leftDigit index * 10 ^ remaining :=
            Nat.mul_le_mul_right _ hgt
          rw [Nat.add_mul] at hstep
          exact_mod_cast (by omega :
            rightDigit index * 10 ^ remaining + rightNumber % 10 ^ remaining <
              leftDigit index * 10 ^ remaining + leftNumber % 10 ^ remaining)

theorem compareMagnitudes_eq (hleftNe : ¬ left.IsZero)
    (hrightNe : ¬ right.IsZero) :
    compareMagnitudes left right =
      ordering left.absolute right.absolute := by
  simp only [compareMagnitudes]
  by_cases hsame : left.wholeDigits = right.wholeDigits
  · have hexponents := hsame
    unfold wholeDigits at hexponents
    rw [if_neg (not_not.mpr hexponents)]
    generalize hcount : (if decimalDigits right.parts.limbs <
      decimalDigits left.parts.limbs then decimalDigits left.parts.limbs
      else decimalDigits right.parts.limbs) = count
    have hcounts : decimalDigits left.parts.limbs ≤ count ∧
        decimalDigits right.parts.limbs ≤ count := by
      split at hcount <;> omega
    -- Both magnitudes are integers of `count` digits at one power of ten.
    rw [compareDigits_eq _ _ _ _ count
      (fun index hindex => decimalDigit_shifted hcounts.1 hindex)
      (fun index hindex => decimalDigit_shifted hcounts.2 hindex)
      count 0 (Nat.zero_add _), Nat.mod_eq_of_lt (shifted_lt hcounts.1),
      Nat.mod_eq_of_lt (shifted_lt hcounts.2), absolute_eq_shifted hcounts.1,
      absolute_eq_shifted hcounts.2, hsame, ordering_mul (by positivity)]
  · have hexponents := hsame
    unfold wholeDigits at hexponents
    rw [if_pos hexponents]
    rcases lt_or_gt_of_ne hsame with hlt | hgt
    · rw [ordering_lt (absolute_lt_of_wholeDigits hrightNe hlt)]
      exact if_pos hlt
    · rw [ordering_gt (absolute_lt_of_wholeDigits hleftNe hgt)]
      exact if_neg (not_lt.mpr hgt.le)

theorem compareValues_eq (left right : Decimal) :
    compareValues left right = ordering left.number right.number := by
  unfold compareValues
  by_cases hleft : left.IsZero
  · rw [if_pos (.inl hleft), if_neg (not_not.mpr hleft), number_zero hleft]
    by_cases hright : right.IsZero
    · rw [if_neg (not_not.mpr hright), number_zero hright, ordering_self]
    · have hpositive := absolute_pos hright
      rw [if_pos hright, number_eq]
      cases right.negative with
      | true => exact (ordering_gt (neg_neg_of_pos hpositive)).symm
      | false => exact (ordering_lt hpositive).symm
  · have hleftPos := absolute_pos hleft
    by_cases hright : right.IsZero
    · rw [if_pos (.inr hright), if_pos hleft, number_zero hright, number_eq]
      cases left.negative with
      | true => exact (ordering_lt (neg_neg_of_pos hleftPos)).symm
      | false => exact (ordering_gt hleftPos).symm
    · have hrightPos := absolute_pos hright
      have hmagnitudes := compareMagnitudes_eq hleft hright
      rw [if_neg (not_or.mpr ⟨hleft, hright⟩), number_eq left, number_eq right]
      cases left.negative <;> cases right.negative
      · simpa using hmagnitudes
      · have hlt : -right.absolute < left.absolute := by linarith
        simpa using (ordering_gt hlt).symm
      · have hlt : -left.absolute < right.absolute := by linarith
        simpa using (ordering_lt hlt).symm
      · simpa [ordering_neg] using hmagnitudes

/-- Comparison is the order of the numbers, whatever the scales. -/
theorem compare_numeric :
    (∀ (left right : Decimal) (out : Int), left.isNull = false →
      right.isNull = false →
      compare left right out = (.ok, ordering left.number right.number)) ∧
    (∀ value : Decimal, compareValues value value ≤ 0) ∧
    (∀ first second third : Decimal, compareValues first second ≤ 0 →
      compareValues second third ≤ 0 → compareValues first third ≤ 0) ∧
    (∀ first second : Decimal,
      compareValues first second ≤ 0 ∨ compareValues second first ≤ 0) ∧
    ∀ first second : Decimal,
      (compareValues first second ≤ 0 ∧ compareValues second first ≤ 0) ↔
        first.number = second.number := by
  have hcompare : ∀ first second : Decimal,
      compareValues first second ≤ 0 ↔ first.number ≤ second.number :=
    fun first second => by rw [compareValues_eq, ordering_nonpos_iff]
  refine ⟨fun left right out hleft hright => ?_, fun value => ?_,
    fun first second third => ?_, fun first second => ?_,
    fun first second => ?_⟩
  · rw [compare, if_neg (by simp [hleft, hright]), compareValues_eq]
  · exact (hcompare value value).mpr le_rfl
  · rw [hcompare, hcompare, hcompare]
    exact le_trans
  · rw [hcompare, hcompare]
    exact le_total _ _
  · rw [hcompare, hcompare]
    exact le_antisymm_iff.symm

def minusOneAndHalf : Decimal where
  parts := ⟨[15], 1, true, false⟩
  wellformed := by constructor <;> decide +kernel

def minusOneFifty : Decimal where
  parts := ⟨[150], 2, true, false⟩
  wellformed := by constructor <;> decide +kernel

theorem compare_numeric_scales :
    compare minusOneAndHalf minusOneFifty 7 = (.ok, 0) ∧
      (compareValues minusOneAndHalf minusOneFifty ≤ 0 ∧
        compareValues minusOneFifty minusOneAndHalf ≤ 0) := by
  have hsame : minusOneAndHalf.number = minusOneFifty.number := by
    have hone : (1 : Int32).toInt = 1 := by decide
    have htwo : (2 : Int32).toInt = 2 := by decide
    norm_num [number, Parts.number, Parts.coefficient, minusOneAndHalf,
      minusOneFifty, Nat.ofDigits_singleton, hone, htwo]
  refine ⟨?_, (compare_numeric.2.2.2.2 _ _).mpr hsame⟩
  rw [compare_numeric.1 _ _ 7 rfl rfl, hsame, ordering_self]

end Libsqli.Decimal
