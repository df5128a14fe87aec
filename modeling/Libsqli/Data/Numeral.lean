import Libsqli.Data.Radix
import Mathlib.Algebra.Order.Ring.Rat
import Mathlib.Tactic.FieldSimp
import Mathlib.Tactic.Ring

namespace Libsqli.Data.Numeral

open Libsqli.Data.Radix

/-! Decimal numerals in ASCII and the numbers they stand for. -/

def zero : UInt8 := 48
def nine : UInt8 := 57
def minus : UInt8 := 45
def point : UInt8 := 46

def isDigit (byte : UInt8) : Bool := zero ≤ byte && byte ≤ nine

def digitValue (byte : UInt8) : Nat := byte.toNat - zero.toNat

def digitsValue (text : List UInt8) : Nat :=
  ofBigEndian 10 (text.map digitValue)

def signed (negative : Bool) (magnitude : ℚ) : ℚ :=
  if negative then -magnitude else magnitude

/-- What follows the digits before the point: nothing, or a point and digits. -/
def readFraction : List UInt8 → Option (List UInt8)
  | [] => some []
  | byte :: fraction =>
      if byte = point ∧ fraction ≠ [] ∧ fraction.all isDigit then some fraction
      else none

def readMagnitude (text : List UInt8) : Option ℚ :=
  let integral := text.takeWhile isDigit
  if integral = [] then none
  else (readFraction (text.dropWhile isDigit)).map fun fraction =>
    (digitsValue (integral ++ fraction) : ℚ) / 10 ^ fraction.length

/-- The number a numeral stands for. -/
def readNumeral : List UInt8 → Option ℚ
  | [] => none
  | byte :: text =>
      if byte = minus then (readMagnitude text).map (signed true)
      else readMagnitude (byte :: text)

variable {text integral fraction : List UInt8} {negative : Bool}

@[simp] theorem digitsValue_nil : digitsValue [] = 0 := rfl

theorem digitsValue_concat (text : List UInt8) (byte : UInt8) :
    digitsValue (text ++ [byte]) = digitsValue text * 10 + digitValue byte := by
  rw [digitsValue, List.map_append, List.map_singleton, ofBigEndian_concat]
  rfl

theorem digitsValue_append (left right : List UInt8) :
    digitsValue (left ++ right) =
      digitsValue left * 10 ^ right.length + digitsValue right := by
  simp [digitsValue, ofBigEndian_append]

theorem digitValue_lt {byte : UInt8} (hbyte : isDigit byte = true) :
    digitValue byte < 10 := by
  have hbounds : zero ≤ byte ∧ byte ≤ nine := by
    simpa [isDigit] using hbyte
  have hle := UInt8.le_iff_toNat_le.mp hbounds.2
  simp only [digitValue, nine, zero] at hle ⊢
  simp at hle ⊢
  omega

theorem digitValues_lt (hdigits : text.all isDigit = true) :
    ∀ digit ∈ text.map digitValue, digit < 10 := by
  intro digit hdigit
  obtain ⟨byte, hbyte, rfl⟩ := List.mem_map.mp hdigit
  exact digitValue_lt (List.all_eq_true.mp hdigits byte hbyte)

theorem digitsValue_lt (hdigits : text.all isDigit = true) :
    digitsValue text < 10 ^ text.length := by
  have hlt := ofBigEndian_lt (by decide : 1 < 10) (digitValues_lt hdigits)
  rwa [List.length_map] at hlt

theorem digitsValue_zero_cons (text : List UInt8) :
    digitsValue (zero :: text) = digitsValue text := by
  rw [digitsValue, List.map_cons, ofBigEndian_cons]
  simp [digitValue, digitsValue]

/-- A numeral as it is printed. -/
def numeral (negative : Bool) (integral fraction : List UInt8) : List UInt8 :=
  (if negative then [minus] else []) ++ integral ++
    if fraction = [] then [] else point :: fraction

theorem isDigit_point : isDigit point = false := by decide

theorem ne_minus_of_isDigit {byte : UInt8} (hbyte : isDigit byte = true) :
    byte ≠ minus := by
  rintro rfl
  exact absurd hbyte (by decide)

theorem readMagnitude_printed (hnonempty : integral ≠ [])
    (hintegral : integral.all isDigit = true)
    (hfraction : fraction.all isDigit = true) :
    readMagnitude (integral ++ if fraction = [] then [] else point :: fraction) =
      some ((digitsValue (integral ++ fraction) : ℚ) / 10 ^ fraction.length) := by
  have hdigits : ∀ byte ∈ integral, isDigit byte = true :=
    List.all_eq_true.mp hintegral
  unfold readMagnitude
  by_cases hempty : fraction = []
  · subst hempty
    rw [if_pos rfl, List.append_nil, List.takeWhile_eq_self_iff.mpr hdigits,
      List.dropWhile_eq_nil_iff.mpr hdigits]
    simp only [if_neg hnonempty, readFraction, Option.map_some, List.append_nil]
  · rw [if_neg hempty, List.takeWhile_append_of_pos hdigits,
      List.dropWhile_append_of_pos hdigits,
      List.takeWhile_cons_of_neg (by simp [isDigit_point]), List.append_nil,
      List.dropWhile_cons_of_neg (by simp [isDigit_point])]
    simp only [if_neg hnonempty]
    rw [readFraction, if_pos ⟨rfl, hempty, hfraction⟩, Option.map_some]

theorem readNumeral_printed (hnonempty : integral ≠ [])
    (hintegral : integral.all isDigit = true)
    (hfraction : fraction.all isDigit = true) :
    readNumeral (numeral negative integral fraction) =
      some (signed negative ((digitsValue (integral ++ fraction) : ℚ) /
        10 ^ fraction.length)) := by
  have hmagnitude := readMagnitude_printed hnonempty hintegral hfraction
  unfold numeral
  cases negative with
  | true =>
      rw [if_pos rfl, List.append_assoc, List.singleton_append, readNumeral,
        if_pos rfl, hmagnitude]
      rfl
  | false =>
      obtain ⟨byte, rest, rfl⟩ := List.exists_cons_of_ne_nil hnonempty
      have hbyte : byte ≠ minus := ne_minus_of_isDigit (by
        rw [List.all_cons, Bool.and_eq_true] at hintegral
        exact hintegral.1)
      rw [if_neg (by decide), List.nil_append, List.cons_append, readNumeral,
        if_neg hbyte, ← List.cons_append, hmagnitude]
      rfl

end Libsqli.Data.Numeral
