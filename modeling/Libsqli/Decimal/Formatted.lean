import Libsqli.Decimal.Codec
import Libsqli.Decimal.Text
import Libsqli.Formatting
import Libsqli.Decimal.Parsing

namespace Libsqli.Decimal

open Libsqli.Data.Ctype
open Libsqli.Data.Numeral

/-! `sqli_decimal_format`. -/

def plainMinExponent : Int := -6

/-- `exponent_digits`: the digits of a magnitude from its end. -/
def exponentDigits (magnitude : Nat) : List UInt8 :=
  digitByte (magnitude % 10) ::
    if magnitude / 10 = 0 then [] else exponentDigits (magnitude / 10)

/-- The power of ten of the first digit. -/
def adjustedExponent (value : Decimal) : Int :=
  (decimalDigits value.parts.limbs : Int) - 1 - value.scale.toInt

def scientific (value : Decimal) : Bool :=
  value.scale < 0 || value.adjustedExponent < plainMinExponent

/-- The digits of the exponent, when there is one. -/
def exponentBuffer (value : Decimal) : List UInt8 :=
  if value.scientific then exponentDigits value.adjustedExponent.natAbs else []

/-- The length, computed before any character is written. -/
def formatLength (value : Decimal) : Nat :=
  let digits := decimalDigits value.parts.limbs
  (if value.negative then 1 else 0) +
    if value.scientific then
      digits + (if 1 < digits then 1 else 0) + 2 + value.exponentBuffer.length
    else if value.scale = 0 then digits
    else if value.scale.toInt.toNat < digits then digits + 1
    else 2 + value.scale.toInt.toNat

/-- The loop over the digits, with a point before the digit `dot`. -/
def writeDigits (value : Decimal) (dot : Option Nat) : Nat → Nat → List UInt8
  | 0, _ => []
  | remaining + 1, position =>
      (if dot = some position then [point] else []) ++
        digitByte (value.decimalDigit position) ::
          writeDigits value dot remaining (position + 1)

/-- What is written into the buffer before the terminator. -/
def formatText (value : Decimal) : List UInt8 :=
  let digits := decimalDigits value.parts.limbs
  let scale := value.scale.toInt.toNat
  (if value.negative then [minus] else []) ++
    if value.scientific then
      value.writeDigits (some 1) digits 0 ++
        upperE :: (if value.adjustedExponent < 0 then minus else plus) ::
          value.exponentBuffer.reverse
    else if 0 < value.scale ∧ digits ≤ scale then
      zero :: point :: (List.replicate (scale - digits) zero ++
        value.writeDigits none digits 0)
    else
      value.writeDigits
        (if value.scale ≠ 0 then some (digits - scale) else none) digits 0

def format (value : Decimal) (out : FormatOutputs) : Status × FormatOutputs :=
  if value.isNull then (.ok, out.nullOutputs)
  else out.deliver value.formatLength value.formatText

open Libsqli.Data
open Libsqli.Data.Radix

variable {value : Decimal} {literal : Literal}

/-! The digits as they are written. -/

/-- The characters of `count` digits from `first` on. -/
def digitText (value : Decimal) (first count : Nat) : List UInt8 :=
  (List.range' first count).map fun position =>
    digitByte (value.decimalDigit position)

@[simp] theorem length_digitText (value : Decimal) (first count : Nat) :
    (value.digitText first count).length = count := by
  simp [digitText]

theorem isDigit_digitText (value : Decimal) (first count : Nat) :
    ∀ byte ∈ value.digitText first count, isDigit byte = true := by
  intro byte member
  obtain ⟨position, -, rfl⟩ := List.mem_map.mp member
  exact isDigit_digitByte (value.decimalDigit_lt position)

theorem digitText_append (value : Decimal) (first count more : Nat) :
    value.digitText first count ++ value.digitText (first + count) more =
      value.digitText first (count + more) := by
  rw [digitText, digitText, digitText, ← List.map_append,
    List.range'_append_1]

theorem digitsValue_digitText (value : Decimal) :
    digitsValue (value.digitText 0 (decimalDigits value.parts.limbs)) =
      value.coefficient := by
  have hleading := ofBigEndian_leading value.coefficient_lt (Nat.le_refl _)
  rw [Nat.sub_self, pow_zero, Nat.div_one] at hleading
  rw [← hleading, digitsValue, digitText, List.map_map, ← List.range_eq_range']
  congr 1
  refine List.map_congr_left fun position member => ?_
  rw [Function.comp_apply, digitValue_digitByte (value.decimalDigit_lt position),
    decimalDigit_eq (List.mem_range.mp member)]

theorem reverse_exponentDigits (magnitude : Nat) :
    (exponentDigits magnitude).reverse = printDigits magnitude := by
  induction magnitude using Nat.strongRecOn with
  | ind magnitude ih =>
      rw [exponentDigits, printDigits]
      split
      · rfl
      · rw [List.reverse_cons, ih (magnitude / 10) (by omega)]

/-- Away from the point the loop writes digits only. -/
theorem writeDigits_away {dot : Option Nat} (remaining position : Nat)
    (haway : ∀ place ∈ dot, place < position ∨ position + remaining ≤ place) :
    value.writeDigits dot remaining position =
      value.digitText position remaining := by
  induction remaining generalizing position with
  | zero => rfl
  | succ remaining ih =>
      have hdot : dot ≠ some position := by
        intro hsame
        have := haway position hsame
        omega
      rw [writeDigits, if_neg hdot, List.nil_append,
        ih (position + 1) fun place hplace => by
          have := haway place hplace
          omega]
      simp [digitText, List.range'_succ]

theorem writeDigits_append (dot : Option Nat) (count more position : Nat) :
    value.writeDigits dot (count + more) position =
      value.writeDigits dot count position ++
        value.writeDigits dot more (position + count) := by
  induction count generalizing position with
  | zero => simp [writeDigits]
  | succ count ih =>
      rw [Nat.add_right_comm, writeDigits, writeDigits, ih (position + 1),
        Nat.add_right_comm position 1 count]
      simp [Nat.add_assoc]

theorem writeDigits_point (remaining position : Nat) :
    value.writeDigits (some position) (remaining + 1) position =
      point :: value.digitText position (remaining + 1) := by
  rw [writeDigits, if_pos rfl, writeDigits_away _ _ fun place hplace => by
    obtain rfl : position = place := Option.some.inj hplace
    exact .inl (Nat.lt_succ_self position)]
  simp [digitText, List.range'_succ]

theorem writeDigits_around {place digits : Nat} (hplace : place < digits) :
    value.writeDigits (some place) digits 0 = value.digitText 0 place ++
      point :: value.digitText place (digits - place) := by
  obtain ⟨more, rfl⟩ := Nat.exists_eq_add_of_lt hplace
  rw [Nat.add_assoc, writeDigits_append, Nat.zero_add, writeDigits_point,
    writeDigits_away place 0 fun other hother => by
      obtain rfl : place = other := Option.some.inj hother
      exact .inr (Nat.zero_add _).le]
  simp

/-! The text of a value as a literal. -/

/-- The literal is what the formatter writes, and says what the value is. -/
structure Prints (value : Decimal) (literal : Literal) : Prop where
  text_eq : value.formatText = literal.text
  length_eq : value.formatLength = literal.text.length
  negative_eq : literal.sign.negative = value.negative
  digits_eq : ∃ zeros, literal.digits = List.replicate zeros zero ++
    value.digitText 0 (decimalDigits value.parts.limbs)
  scale_eq : literal.scale = value.scale.toInt
  exponent_digits : ∀ exponent ∈ literal.exponent,
    exponent.digits = printDigits value.adjustedExponent.natAbs

theorem Prints.valid (hprints : Prints value literal) : literal.Valid := by
  obtain ⟨zeros, hdigits⟩ := hprints.digits_eq
  have hpositive := decimalDigits_pos value.parts.limbs
  refine ⟨fun byte member => ?_, fun hempty => ?_, fun exponent hexponent => ?_⟩
  · rw [hdigits] at member
    rcases List.mem_append.mp member with member | member
    · rw [List.eq_of_mem_replicate member]
      decide
    · exact value.isDigit_digitText _ _ byte member
  · have hlength := congrArg List.length (hdigits.symm.trans hempty)
    simp only [List.length_append, length_digitText, List.length_nil] at hlength
    omega
  · have hlength := length_printDigits_pos value.adjustedExponent.natAbs
    rw [hprints.exponent_digits exponent hexponent]
    exact ⟨List.length_pos_iff.mp hlength, isDigit_printDigits _⟩

theorem Prints.coefficient_eq (hprints : Prints value literal) :
    literal.coefficient = value.coefficient := by
  obtain ⟨zeros, hdigits⟩ := hprints.digits_eq
  rw [Literal.coefficient, hdigits, digitsValue_replicate_zero,
    digitsValue_digitText]

theorem adjustedExponent_bounds (value : Decimal) :
    -2 ^ 31 < value.adjustedExponent ∧
      value.adjustedExponent < 2 ^ 31 + maxDigits := by
  have hpositive := decimalDigits_pos value.parts.limbs
  have hdigits := value.wellformed.digits_le
  have hmin := value.scale.le_toInt
  have hmax := value.scale.toInt_lt
  unfold adjustedExponent
  constructor <;> omega

theorem Prints.inRange (hprints : Prints value literal) : literal.InRange := by
  obtain ⟨zeros, hdigits⟩ := hprints.digits_eq
  have hscaleMin := value.scale.le_toInt
  have hscaleMax := value.scale.toInt_lt
  have hscale := hprints.scale_eq
  refine ⟨?_, ?_, by unfold int32Min; omega, by unfold int32Max; omega⟩
  · have hlength := (List.dropWhile_suffix (l :=
      value.digitText 0 (decimalDigits value.parts.limbs))
      (fun byte => decide (byte = zero))).length_le
    rw [length_digitText] at hlength
    rw [Literal.significant, hdigits, List.dropWhile_append_of_pos
      fun byte member => by simp [List.eq_of_mem_replicate member]]
    exact hlength.trans value.wellformed.digits_le
  · have hdigit := hprints.exponent_digits
    unfold Literal.exponentMagnitude
    cases hexponent : literal.exponent with
    | none => exact Nat.zero_le _
    | some exponent =>
        have hbounds := value.adjustedExponent_bounds
        unfold maxDigits at hbounds
        simp only
        rw [hdigit exponent hexponent, digitsValue_printDigits]
        unfold int64Max
        omega

/-! The literals of the three notations. -/

def signOf (negative : Bool) : Sign := if negative then .minus else .absent

/-- One digit before the point, the others behind it. -/
def scientificLiteral (value : Decimal) : Literal where
  sign := signOf value.negative
  integral := value.digitText 0 1
  fraction :=
    if 1 < decimalDigits value.parts.limbs then
      some (value.digitText 1 (decimalDigits value.parts.limbs - 1))
    else none
  exponent := some
    { upper := true
      sign := if value.adjustedExponent < 0 then .minus else .plus
      digits := printDigits value.adjustedExponent.natAbs }

/-- A zero before the point. -/
def fractionLiteral (value : Decimal) : Literal where
  sign := signOf value.negative
  integral := [zero]
  fraction := some (List.replicate
    (value.scale.toInt.toNat - decimalDigits value.parts.limbs) zero ++
      value.digitText 0 (decimalDigits value.parts.limbs))
  exponent := none

def wholeLiteral (value : Decimal) : Literal where
  sign := signOf value.negative
  integral := value.digitText 0 (decimalDigits value.parts.limbs)
  fraction := none
  exponent := none

/-- The point among the digits. -/
def pointLiteral (value : Decimal) : Literal where
  sign := signOf value.negative
  integral := value.digitText 0
    (decimalDigits value.parts.limbs - value.scale.toInt.toNat)
  fraction := some (value.digitText
    (decimalDigits value.parts.limbs - value.scale.toInt.toNat)
      value.scale.toInt.toNat)
  exponent := none

theorem signOf_text (negative : Bool) :
    (signOf negative).text = if negative then [minus] else [] := by
  cases negative <;> rfl

theorem length_signOf (negative : Bool) :
    (signOf negative).text.length = if negative then 1 else 0 := by
  cases negative <;> rfl

theorem negative_signOf (negative : Bool) :
    (signOf negative).negative = negative := by
  cases negative <;> rfl

/-- Splitting the digits leaves them as they are. -/
theorem digitText_split {place digits : Nat} (hplace : place ≤ digits) :
    value.digitText 0 place ++ value.digitText place (digits - place) =
      value.digitText 0 digits := by
  have happend := value.digitText_append 0 place (digits - place)
  rwa [Nat.zero_add, Nat.add_sub_cancel' hplace] at happend

theorem wholeLiteral_prints (hscientific : value.scientific = false)
    (hscale : value.scale = 0) : Prints value value.wholeLiteral where
  text_eq := by
    have hwritten : value.writeDigits none (decimalDigits value.parts.limbs) 0 =
        value.digitText 0 (decimalDigits value.parts.limbs) :=
      writeDigits_away _ _ fun _ hplace => by cases hplace
    simp [formatText, hscientific, hscale, hwritten, wholeLiteral, Literal.text,
      Literal.mantissa, Literal.exponentText, signOf_text]
  length_eq := by
    simp [formatLength, hscientific, hscale, wholeLiteral, Literal.text,
      Literal.mantissa, Literal.exponentText, length_signOf]
  negative_eq := negative_signOf _
  digits_eq := ⟨0, by simp [wholeLiteral, Literal.digits]⟩
  scale_eq := by
    simp [wholeLiteral, Literal.scale, Literal.exponentValue, hscale]
  exponent_digits := fun _ hexponent => by cases hexponent

theorem toNat_scale_pos (hpositive : 0 < value.scale) :
    0 < value.scale.toInt.toNat := by
  have hlt := Int32.lt_iff_toInt_lt.mp hpositive
  simp at hlt
  omega

theorem fractionLiteral_prints (hscientific : value.scientific = false)
    (hpositive : 0 < value.scale)
    (hdigits : decimalDigits value.parts.limbs ≤ value.scale.toInt.toNat) :
    Prints value value.fractionLiteral where
  text_eq := by
    have hwritten : value.writeDigits none (decimalDigits value.parts.limbs) 0 =
        value.digitText 0 (decimalDigits value.parts.limbs) :=
      writeDigits_away _ _ fun _ hplace => by cases hplace
    simp [formatText, hscientific, hpositive, hdigits, hwritten, fractionLiteral,
      Literal.text, Literal.mantissa, Literal.exponentText, signOf_text,
      -Int32.toNat_toInt]
  length_eq := by
    have hnonzero : value.scale ≠ 0 := fun hzero => by
      rw [hzero] at hpositive
      exact absurd hpositive (by decide)
    simp [formatLength, hscientific, hnonzero, Nat.not_lt.mpr hdigits,
      fractionLiteral, Literal.text, Literal.mantissa, Literal.exponentText,
      length_signOf, -Int32.toNat_toInt]
    omega
  negative_eq := negative_signOf _
  digits_eq :=
    ⟨value.scale.toInt.toNat - decimalDigits value.parts.limbs + 1, by
      simp [fractionLiteral, Literal.digits, List.replicate_succ]⟩
  scale_eq := by
    have hscale := toNat_scale_pos hpositive
    simp [fractionLiteral, Literal.scale, Literal.exponentValue,
      -Int32.toNat_toInt]
    omega
  exponent_digits := fun _ hexponent => by cases hexponent

theorem pointLiteral_prints (hscientific : value.scientific = false)
    (hpositive : 0 < value.scale)
    (hdigits : value.scale.toInt.toNat < decimalDigits value.parts.limbs) :
    Prints value value.pointLiteral := by
  have hscale := toNat_scale_pos hpositive
  have hnonzero : value.scale ≠ 0 := fun hzero => by
    rw [hzero] at hpositive
    exact absurd hpositive (by decide)
  have hbehind : decimalDigits value.parts.limbs -
      (decimalDigits value.parts.limbs - value.scale.toInt.toNat) =
        value.scale.toInt.toNat := by omega
  refine ⟨?_, ?_, negative_signOf _, ⟨0, ?_⟩, ?_, fun _ hexponent => by
    cases hexponent⟩
  · have hwritten := @writeDigits_around value
      (decimalDigits value.parts.limbs - value.scale.toInt.toNat)
      (decimalDigits value.parts.limbs) (by omega)
    rw [hbehind] at hwritten
    simp [formatText, hscientific, hnonzero, Nat.not_le.mpr hdigits, hwritten,
      pointLiteral, Literal.text, Literal.mantissa, Literal.exponentText,
      signOf_text, -Int32.toNat_toInt]
  · simp [formatLength, hscientific, hnonzero, hdigits, pointLiteral,
      Literal.text, Literal.mantissa, Literal.exponentText, length_signOf,
      -Int32.toNat_toInt]
    omega
  · have hsplit := @digitText_split value
      (decimalDigits value.parts.limbs - value.scale.toInt.toNat)
      (decimalDigits value.parts.limbs) (Nat.sub_le _ _)
    rw [hbehind] at hsplit
    simp [pointLiteral, Literal.digits, hsplit, -Int32.toNat_toInt]
  · simp [pointLiteral, Literal.scale, Literal.exponentValue,
      -Int32.toNat_toInt]
    omega

theorem length_exponentDigits (magnitude : Nat) :
    (exponentDigits magnitude).length = (printDigits magnitude).length := by
  rw [← reverse_exponentDigits, List.length_reverse]

theorem exponentSign_text (exponent : Int) :
    (if exponent < 0 then Sign.minus else Sign.plus).text =
      [if exponent < 0 then minus else plus] := by
  split <;> rfl

theorem scientificLiteral_mantissa (value : Decimal) :
    value.scientificLiteral.mantissa =
      value.writeDigits (some 1) (decimalDigits value.parts.limbs) 0 := by
  by_cases hmore : 1 < decimalDigits value.parts.limbs
  · simp [Literal.mantissa, scientificLiteral, hmore, writeDigits_around hmore]
  · have hpositive := decimalDigits_pos value.parts.limbs
    have hone : decimalDigits value.parts.limbs = 1 := by omega
    have hwritten : value.writeDigits (some 1) 1 0 = value.digitText 0 1 :=
      writeDigits_away _ _ fun place hplace => by
        obtain rfl : 1 = place := Option.some.inj hplace
        exact .inr (Nat.le_refl _)
    simp [Literal.mantissa, scientificLiteral, hone, hwritten]

theorem scientificLiteral_digits (value : Decimal) :
    value.scientificLiteral.digits =
      value.digitText 0 (decimalDigits value.parts.limbs) := by
  have hpositive := decimalDigits_pos value.parts.limbs
  rw [← digitText_split (Nat.succ_le_of_lt hpositive)]
  by_cases hmore : 1 < decimalDigits value.parts.limbs
  · simp [Literal.digits, scientificLiteral, hmore]
  · have hone : decimalDigits value.parts.limbs = 1 := by omega
    simp [Literal.digits, scientificLiteral, hone, digitText]

theorem scientificLiteral_exponentValue (value : Decimal) :
    value.scientificLiteral.exponentValue = value.adjustedExponent := by
  by_cases hnegative : value.adjustedExponent < 0
  · simp only [Literal.exponentValue, scientificLiteral, hnegative, if_true,
      Sign.negative, digitsValue_printDigits]
    omega
  · simp only [Literal.exponentValue, scientificLiteral, hnegative, if_false,
      Sign.negative, digitsValue_printDigits, Bool.false_eq_true]
    omega

theorem scientificLiteral_prints (hscientific : value.scientific = true) :
    Prints value value.scientificLiteral := by
  have hpositive := decimalDigits_pos value.parts.limbs
  refine ⟨?_, ?_, negative_signOf _,
    ⟨0, by rw [scientificLiteral_digits]; rfl⟩, ?_, ?_⟩
  · have hsign : value.scientificLiteral.sign.text =
        if value.negative then [minus] else [] := signOf_text _
    rw [Literal.text, hsign, scientificLiteral_mantissa]
    simp only [formatText, hscientific, if_true, Literal.exponentText,
      Exponent.text, exponentBuffer, reverse_exponentDigits, scientificLiteral,
      exponentSign_text, List.append_assoc, List.singleton_append]
  · by_cases hmore : 1 < decimalDigits value.parts.limbs
    · simp [formatLength, hscientific, hmore, exponentBuffer,
        length_exponentDigits, scientificLiteral, Literal.text,
        Literal.mantissa, Literal.exponentText, Exponent.text, length_signOf,
        exponentSign_text]
      omega
    · have hone : decimalDigits value.parts.limbs = 1 := by omega
      simp [formatLength, hscientific, hone, exponentBuffer,
        length_exponentDigits, scientificLiteral, Literal.text,
        Literal.mantissa, Literal.exponentText, Exponent.text, length_signOf,
        exponentSign_text]
      omega
  · have hfraction : ((value.scientificLiteral.fraction.getD []).length : Int) =
        decimalDigits value.parts.limbs - 1 := by
      by_cases hmore : 1 < decimalDigits value.parts.limbs
      · simp [scientificLiteral, hmore]
        omega
      · simp [scientificLiteral, hmore]
        omega
    rw [Literal.scale, hfraction, scientificLiteral_exponentValue,
      adjustedExponent]
    omega
  · intro exponent hexponent
    obtain rfl := Option.some.inj hexponent
    rfl

theorem scientific_false (hscientific : value.scientific = false) :
    0 ≤ value.scale.toInt ∧ -6 ≤ value.adjustedExponent := by
  rw [scientific, Bool.or_eq_false_iff, decide_eq_false_iff_not,
    decide_eq_false_iff_not, Int32.lt_iff_toInt_lt, plainMinExponent]
    at hscientific
  exact ⟨Int.not_lt.mp hscientific.1, Int.not_lt.mp hscientific.2⟩

theorem exists_prints (value : Decimal) :
    ∃ literal, Prints value literal := by
  cases hscientific : value.scientific with
  | true => exact ⟨_, scientificLiteral_prints hscientific⟩
  | false =>
      have hscale := (scientific_false hscientific).1
      by_cases hzero : value.scale = 0
      · exact ⟨_, wholeLiteral_prints hscientific hzero⟩
      · have hpositive : 0 < value.scale := by
          have hne : value.scale.toInt ≠ 0 := fun hsame =>
            hzero (Int32.toInt_inj.mp hsame)
          rw [Int32.lt_iff_toInt_lt]
          simp
          omega
        rcases Nat.lt_or_ge value.scale.toInt.toNat
            (decimalDigits value.parts.limbs) with hinside | hbeyond
        · exact ⟨_, pointLiteral_prints hscientific hpositive hinside⟩
        · exact ⟨_, fractionLiteral_prints hscientific hpositive hbeyond⟩

/-- Every text fits the parser. -/
theorem formatLength_le (value : Decimal) : value.formatLength ≤ maxText := by
  have hdigits := value.wellformed.digits_le
  have hmax : maxText = maxDigits + 32 := rfl
  have hsign : (if value.negative then 1 else 0) ≤ 1 := by split <;> decide
  cases hscientific : value.scientific with
  | true =>
      have hbounds := value.adjustedExponent_bounds
      have hexponent : (exponentDigits value.adjustedExponent.natAbs).length ≤
          10 := by
        rw [length_exponentDigits]
        refine length_printDigits_le (by decide) ?_
        unfold maxDigits at hbounds
        omega
      simp only [formatLength, hscientific, if_true, exponentBuffer]
      refine Nat.le_trans (Nat.add_le_add_right hsign _) ?_
      split <;> omega
  | false =>
      have hplain := scientific_false hscientific
      unfold adjustedExponent at hplain
      simp only [formatLength, hscientific, Bool.false_eq_true, if_false]
      refine Nat.le_trans (Nat.add_le_add_right hsign _) ?_
      split
      · omega
      split <;> omega

/-! Back to the value. -/

/-- No two limb arrays of an invariant object carry one coefficient. -/
theorem limbs_eq_digits (value : Decimal) :
    value.parts.limbs = Nat.digits limbBase value.coefficient := by
  refine (Nat.digits_ofDigits limbBase (by decide) _
    value.wellformed.limbs_lt fun hne hzero => ?_).symm
  exact value.wellformed.trimmed (by
    rw [List.getLast?_eq_some_getLast hne, hzero])

theorem eq_of_coefficient {left right : Decimal}
    (hnull : left.isNull = right.isNull)
    (hcoefficient : left.coefficient = right.coefficient)
    (hscale : left.scale = right.scale)
    (hnegative : left.negative = right.negative) : left = right := by
  have hlimbs : left.parts.limbs = right.parts.limbs := by
    rw [limbs_eq_digits, limbs_eq_digits, hcoefficient]
  obtain ⟨⟨_, _, _, _⟩, _⟩ := left
  obtain ⟨⟨_, _, _, _⟩, _⟩ := right
  cases hnull
  cases hlimbs
  cases hscale
  cases hnegative
  rfl

/-- A literal that prints a value is parsed to that value. -/
theorem Prints.eq_of_parsedTo {after : Decimal} (hvalue : value.isNull = false)
    (hprints : Prints value literal)
    (hparsed : Object.ParsedTo literal after) : after = value := by
  have hcoefficient := hparsed.coefficient_eq.trans hprints.coefficient_eq
  refine eq_of_coefficient (hparsed.not_null.trans hvalue.symm) hcoefficient
    (Int32.toInt_inj.mp (hparsed.scale_eq.trans hprints.scale_eq)) ?_
  rw [hparsed.negative_eq, hprints.coefficient_eq, hprints.negative_eq]
  by_cases hzero : value.IsZero
  · have hsign : value.negative = false :=
      value.wellformed.zero_nonnegative hzero
    simp [hsign]
  · simp [(coefficient_positive hzero).ne']

theorem format_formats (hvalue : value.isNull = false) :
    Formats value.format value.formatText := by
  obtain ⟨literal, hprints⟩ := value.exists_prints
  refine formats_of_deliver fun out => ?_
  rw [format, if_neg (by simp [hvalue]), hprints.length_eq, hprints.text_eq]

/-- Formatting stores exactly the announced text, and parsing it yields the
value again, unless memory runs out. -/
theorem format_parse (malloc : Malloc) (value current : Decimal)
    (object : Object) (hstores : object.Stores current)
    (hvalue : value.isNull = false) :
    Formats value.format value.formatText ∧
      ∃ status result,
        Object.parse malloc value.formatText false object =
          some (status, result) ∧
        (status = .ok ∧ result.Stores value ∨
          status = .allocFail ∧ result = object ∧
            ∃ count, malloc count = none) := by
  refine ⟨format_formats hvalue, ?_⟩
  obtain ⟨literal, hprints⟩ := value.exists_prints
  have hlength : literal.text.length ≤ maxText :=
    hprints.length_eq ▸ value.formatLength_le
  obtain ⟨⟨status, result⟩, hresult, houtcome⟩ :=
    Object.parse_outcome malloc hstores value.formatText
  refine ⟨status, result, hresult, ?_⟩
  rw [hprints.text_eq] at houtcome
  cases houtcome with
  | parsed other _ after valid range spells stores parsed =>
      have hparsed := parsed.transfer valid range hprints.valid hprints.inRange
        spells.symm (spells ▸ hlength)
      rw [hprints.eq_of_parsedTo hvalue hparsed] at stores
      exact .inl ⟨rfl, stores⟩
  | refused _ failed outside =>
      exact absurd hprints.inRange (outside literal hprints.valid rfl hlength)
  | allocFail count refused => exact .inr ⟨rfl, rfl, count, refused⟩

/-- `0E+2147483648`. -/
def scaledZero : Decimal where
  parts := ⟨[], -2147483648, false, false⟩
  wellformed := by
    constructor <;> simp [decimalDigits, maxDigits]

theorem format_parse_scaledZero :
    Formats scaledZero.format scaledZero.formatText ∧
      ∃ result, Object.parse
          (fun count => some ⟨List.replicate count 0, List.length_replicate⟩)
          scaledZero.formatText false Object.init = some (.ok, result) ∧
        result.Stores scaledZero := by
  obtain ⟨hformats, status, result, hresult, ⟨rfl, hstores⟩ | ⟨-, -, hrefused⟩⟩ :=
    format_parse (fun count => some
      ⟨List.replicate count 0, List.length_replicate⟩) scaledZero null
      Object.init Object.init_stores rfl
  · exact ⟨hformats, result, hresult, hstores⟩
  · obtain ⟨count, hnone⟩ := hrefused
    cases hnone

end Libsqli.Decimal
