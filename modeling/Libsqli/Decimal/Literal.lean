import Libsqli.Decimal.Text
import Mathlib.Algebra.Order.Ring.Rat

namespace Libsqli.Decimal

open Libsqli.Data.Ctype
open Libsqli.Data.Numeral
open Libsqli.Data.Radix

/-! The grammar of decimal text: a sign, digits with at most one point among
them, and an exponent. -/

inductive Sign where
  | absent
  | plus
  | minus
  deriving DecidableEq, Repr

def Sign.text : Sign → List UInt8
  | .absent => []
  | .plus => [Data.Ctype.plus]
  | .minus => [Data.Numeral.minus]

def Sign.negative : Sign → Bool
  | .minus => true
  | _ => false

structure Exponent where
  upper : Bool
  sign : Sign
  digits : List UInt8
  deriving DecidableEq, Repr

def Exponent.text (exponent : Exponent) : List UInt8 :=
  (if exponent.upper then upperE else lowerE) ::
    (exponent.sign.text ++ exponent.digits)

structure Literal where
  sign : Sign
  integral : List UInt8
  fraction : Option (List UInt8)
  exponent : Option Exponent
  deriving DecidableEq, Repr

namespace Literal

/-- The digits of the mantissa without the point. -/
def digits (literal : Literal) : List UInt8 :=
  literal.integral ++ literal.fraction.getD []

def mantissa (literal : Literal) : List UInt8 :=
  literal.integral ++
    match literal.fraction with
    | none => []
    | some fraction => point :: fraction

def exponentText (literal : Literal) : List UInt8 :=
  match literal.exponent with
  | none => []
  | some exponent => exponent.text

def text (literal : Literal) : List UInt8 :=
  literal.sign.text ++ literal.mantissa ++ literal.exponentText

/-- The characters are digits, and there are some where there must be. -/
structure Valid (literal : Literal) : Prop where
  mantissa_digits : ∀ byte ∈ literal.digits, isDigit byte = true
  mantissa_nonempty : literal.digits ≠ []
  exponent_digits : ∀ exponent ∈ literal.exponent,
    exponent.digits ≠ [] ∧ ∀ byte ∈ exponent.digits, isDigit byte = true

/-- The digits behind the leading zeros. -/
def significant (literal : Literal) : List UInt8 :=
  literal.digits.dropWhile (· = zero)

def exponentMagnitude (literal : Literal) : Nat :=
  match literal.exponent with
  | none => 0
  | some exponent => digitsValue exponent.digits

def exponentValue (literal : Literal) : Int :=
  match literal.exponent with
  | none => 0
  | some exponent =>
      if exponent.sign.negative then -(digitsValue exponent.digits : Int)
      else digitsValue exponent.digits

/-- Fractional digits less the exponent. -/
def scale (literal : Literal) : Int :=
  (literal.fraction.getD []).length - literal.exponentValue

def coefficient (literal : Literal) : Nat := digitsValue literal.digits

/-- The rational that the text denotes. -/
def number (literal : Literal) : ℚ :=
  (if literal.sign.negative then -1 else 1) * literal.coefficient *
    (10 : ℚ) ^ (-literal.scale)

structure InRange (literal : Literal) : Prop where
  digits_le : literal.significant.length ≤ maxDigits
  exponent_le : literal.exponentMagnitude ≤ int64Max
  scale_min : int32Min ≤ literal.scale
  scale_max : literal.scale ≤ int32Max

end Literal

/-! The sign. -/

theorem readSign_text (sign : Sign) {rest : List UInt8}
    (hrest : ∀ byte ∈ rest.head?, byte ≠ plus ∧ byte ≠ minus) :
    readSign (sign.text ++ rest) = (sign.negative, rest) := by
  cases sign with
  | absent =>
      cases rest with
      | nil => rfl
      | cons byte rest =>
          have hbyte := hrest byte rfl
          simp [readSign, Sign.text, Sign.negative, hbyte.1, hbyte.2]
  | plus => simp [readSign, Sign.text, Sign.negative, plus, minus]
  | minus => simp [readSign, Sign.text, Sign.negative]

theorem exists_sign (text : List UInt8) :
    ∃ sign : Sign, text = sign.text ++ (readSign text).2 ∧
      (readSign text).1 = sign.negative := by
  cases text with
  | nil => exact ⟨.absent, rfl, rfl⟩
  | cons byte rest =>
      by_cases hplus : byte = plus
      · subst hplus
        exact ⟨.plus, by simp [readSign, Sign.text],
          by simp [readSign, Sign.negative, plus, minus]⟩
      · by_cases hminus : byte = minus
        · subst hminus
          exact ⟨.minus, by simp [readSign, Sign.text],
            by simp [readSign, Sign.negative]⟩
        · exact ⟨.absent, by simp [readSign, Sign.text, hplus, hminus],
            by simp [readSign, Sign.negative, hplus, hminus]⟩

/-- Digits, the point and the exponent marker are no signs. -/
theorem not_sign_of_isDigit {byte : UInt8} (hbyte : isDigit byte = true) :
    byte ≠ plus ∧ byte ≠ minus := by
  constructor <;> rintro rfl <;> revert hbyte <;> decide

/-! The exponent. -/

theorem exponentLoop_digits {digits : List UInt8}
    (hdigits : ∀ byte ∈ digits, isDigit byte = true) (exponent : Nat)
    (hexponent : exponent ≤ int64Max) :
    exponentLoop digits exponent =
      if int64Max < exponent * 10 ^ digits.length + digitsValue digits then
        .error .outOfRange
      else .ok (exponent * 10 ^ digits.length + digitsValue digits) := by
  induction digits generalizing exponent with
  | nil => simp [exponentLoop, Nat.not_lt.mpr hexponent]
  | cons digit rest ih =>
      have hdigit := hdigits digit List.mem_cons_self
      have hlt := digitValue_lt hdigit
      have hmax : int64Max = 9223372036854775807 := rfl
      have htotal : exponent * 10 ^ (digit :: rest).length +
          digitsValue (digit :: rest) =
            (exponent * 10 + digitValue digit) * 10 ^ rest.length +
              digitsValue rest := by
        rw [digitsValue_cons, List.length_cons, pow_succ]
        ring
      rw [htotal, exponentLoop, if_neg (not_not.mpr hdigit)]
      by_cases hpast : (int64Max - digitValue digit) / 10 < exponent
      · have hgrow := Nat.le_mul_of_pos_right (exponent * 10 + digitValue digit)
          (Nat.pow_pos (n := rest.length) (by decide : 0 < 10))
        rw [if_pos hpast, if_pos (by omega)]
      · rw [if_neg hpast]
        exact ih (fun byte member => hdigits byte
          (List.mem_cons_of_mem _ member)) _ (by omega)

theorem isDigit_of_exponentLoop {text : List UInt8}
    (hread : exponentLoop text exponent = .ok value) :
    ∀ byte ∈ text, isDigit byte = true := by
  induction text generalizing exponent with
  | nil => simp
  | cons ch rest ih =>
      rw [exponentLoop] at hread
      split at hread
      · cases hread
      · rename_i hdigit
        split at hread
        · cases hread
        · intro byte member
          rcases List.mem_cons.mp member with rfl | member
          · exact not_not.mp hdigit
          · exact ih hread byte member

theorem head_not_sign {digits : List UInt8}
    (hdigits : ∀ byte ∈ digits, isDigit byte = true) :
    ∀ byte ∈ digits.head?, byte ≠ plus ∧ byte ≠ minus := fun byte hbyte =>
  not_sign_of_isDigit (hdigits byte (List.mem_of_mem_head? hbyte))

theorem parseExponent_text (sign : Sign) {digits : List UInt8}
    (hnonempty : digits ≠ [])
    (hdigits : ∀ byte ∈ digits, isDigit byte = true) :
    parseExponent (sign.text ++ digits) =
      if int64Max < digitsValue digits then .error .outOfRange
      else .ok (if sign.negative then -(digitsValue digits : Int)
        else digitsValue digits) := by
  have hloop := exponentLoop_digits hdigits 0 (Nat.zero_le _)
  rw [Nat.zero_mul, Nat.zero_add] at hloop
  simp only [parseExponent, readSign_text sign (head_not_sign hdigits)]
  rw [if_neg hnonempty, hloop]
  by_cases hlong : int64Max < digitsValue digits
  · rw [if_pos hlong, if_pos hlong]
  · rw [if_neg hlong, if_neg hlong]

theorem exists_exponent (hread : parseExponent text = .ok value) :
    ∃ (sign : Sign) (digits : List UInt8), text = sign.text ++ digits ∧
      digits ≠ [] ∧ ∀ byte ∈ digits, isDigit byte = true := by
  obtain ⟨sign, htext, -⟩ := exists_sign text
  simp only [parseExponent] at hread
  split at hread
  · cases hread
  · rename_i hnonempty
    refine ⟨sign, _, htext, hnonempty, ?_⟩
    cases hloop : exponentLoop (readSign text).2 0 with
    | error status => simp [hloop] at hread
    | ok exponent => exact isDigit_of_exponentLoop hloop

/-! The mantissa. -/

/-- The counts over the digits read so far. -/
def Mantissa.after (integral : List UInt8) (fraction : Option (List UInt8)) :
    Mantissa where
  digits := (integral ++ fraction.getD []).length
  fractional := (fraction.getD []).length
  significantDigits :=
    ((integral ++ fraction.getD []).dropWhile (· = zero)).length
  point := fraction.isSome

theorem length_dropWhile_concat (digits : List UInt8) (byte : UInt8) :
    ((digits ++ [byte]).dropWhile (· = zero)).length =
      if byte ≠ zero ∨ (digits.dropWhile (· = zero)).length ≠ 0 then
        (digits.dropWhile (· = zero)).length + 1
      else (digits.dropWhile (· = zero)).length := by
  rw [List.dropWhile_append]
  by_cases hempty : digits.dropWhile (· = zero) = []
  · by_cases hbyte : byte = zero
    · simp [hempty, hbyte]
    · simp [hempty, hbyte]
  · simp [hempty]

/-- The marker of an exponent, or the end. -/
def EndsMantissa (rest : List UInt8) : Prop :=
  ∀ byte ∈ rest.head?, byte = lowerE ∨ byte = upperE

theorem not_marker_of_isDigit {byte : UInt8} (hbyte : isDigit byte = true) :
    ¬ (byte = lowerE ∨ byte = upperE) := by
  rintro (rfl | rfl) <;> revert hbyte <;> decide

theorem scanMantissa_ends (mantissa : Mantissa) {rest : List UInt8}
    (hends : EndsMantissa rest) :
    scanMantissa rest mantissa = some (mantissa, rest) := by
  cases rest with
  | nil => rfl
  | cons byte rest => rw [scanMantissa, if_pos (hends byte rfl)]

theorem scanMantissa_integral {digits : List UInt8}
    (hdigits : ∀ byte ∈ digits, isDigit byte = true) (integral rest : List UInt8) :
    scanMantissa (digits ++ rest) (.after integral none) =
      scanMantissa rest (.after (integral ++ digits) none) := by
  induction digits generalizing integral with
  | nil => simp
  | cons digit digits ih =>
      have hdigit := hdigits digit List.mem_cons_self
      have hpoint : digit ≠ point := by
        rintro rfl
        rw [isDigit_point] at hdigit
        cases hdigit
      have hnext := ih (fun byte member => hdigits byte
        (List.mem_cons_of_mem _ member)) (integral ++ [digit])
      rw [List.append_assoc, List.singleton_append] at hnext
      rw [List.cons_append, scanMantissa,
        if_neg (not_marker_of_isDigit hdigit), if_neg (by simp [hpoint]),
        if_pos hdigit, ← hnext]
      congr 1
      simp [Mantissa.after, length_dropWhile_concat]

theorem scanMantissa_fraction {digits : List UInt8}
    (hdigits : ∀ byte ∈ digits, isDigit byte = true)
    (integral fraction rest : List UInt8) :
    scanMantissa (digits ++ rest) (.after integral (some fraction)) =
      scanMantissa rest (.after integral (some (fraction ++ digits))) := by
  induction digits generalizing fraction with
  | nil => simp
  | cons digit digits ih =>
      have hdigit := hdigits digit List.mem_cons_self
      have hnext := ih (fun byte member => hdigits byte
        (List.mem_cons_of_mem _ member)) (fraction ++ [digit])
      rw [List.append_assoc, List.singleton_append] at hnext
      rw [List.cons_append, scanMantissa,
        if_neg (not_marker_of_isDigit hdigit), if_neg (by simp [Mantissa.after]),
        if_pos hdigit, ← hnext]
      congr 1
      have hcount := length_dropWhile_concat (integral ++ fraction) digit
      rw [List.append_assoc] at hcount
      simp only [Mantissa.after, Option.getD_some, hcount, List.length_append,
        List.length_singleton, Option.isSome_some, if_true, Nat.add_assoc]

/-- What the counting pass accepts. -/
theorem scanMantissa_shape {text : List UInt8} {mantissa : Mantissa}
    (hscan : scanMantissa text mantissa = some (after, rest)) :
    EndsMantissa rest ∧
      ∃ digits, (∀ byte ∈ digits, isDigit byte = true) ∧
        (text = digits ++ rest ∨ mantissa.point = false ∧
          ∃ fraction, (∀ byte ∈ fraction, isDigit byte = true) ∧
            text = digits ++ point :: (fraction ++ rest)) := by
  induction text generalizing mantissa with
  | nil =>
      obtain ⟨-, rfl⟩ := Prod.mk.inj (Option.some.inj hscan)
      exact ⟨by simp [EndsMantissa], [], by simp, .inl rfl⟩
  | cons ch tail ih =>
      rw [scanMantissa] at hscan
      split at hscan
      · rename_i hmarker
        obtain ⟨-, rfl⟩ := Prod.mk.inj (Option.some.inj hscan)
        refine ⟨fun byte hbyte => ?_, [], by simp, .inl rfl⟩
        obtain rfl : ch = byte := Option.some.inj hbyte
        exact hmarker
      · split at hscan
        · rename_i hpoint
          obtain ⟨hends, digits, hdigits, hrest | ⟨hfirst, -⟩⟩ := ih hscan
          · exact ⟨hends, [], by simp, .inr ⟨hpoint.2, digits, hdigits, by
              rw [hpoint.1, hrest, List.nil_append]⟩⟩
          · cases hfirst
        · split at hscan
          · rename_i hdigit
            obtain ⟨hends, digits, hdigits, hrest⟩ := ih hscan
            refine ⟨hends, ch :: digits, ?_, ?_⟩
            · intro byte member
              rcases List.mem_cons.mp member with rfl | member
              · exact hdigit
              · exact hdigits byte member
            · rcases hrest with hrest | ⟨hfirst, fraction, hfraction, hrest⟩
              · exact .inl (by rw [hrest, List.cons_append])
              · exact .inr ⟨hfirst, fraction, hfraction, by
                  rw [hrest, List.cons_append]⟩
          · cases hscan

namespace Literal

variable {literal : Literal}

theorem exponentText_ends (literal : Literal) :
    EndsMantissa literal.exponentText := by
  intro byte hbyte
  unfold exponentText at hbyte
  cases hexponent : literal.exponent with
  | none => simp [hexponent] at hbyte
  | some exponent =>
      rw [hexponent] at hbyte
      obtain rfl : _ = byte := Option.some.inj hbyte
      cases exponent.upper
      · exact .inl rfl
      · exact .inr rfl

theorem scanMantissa_mantissa
    (hdigits : ∀ byte ∈ literal.digits, isDigit byte = true) :
    scanMantissa (literal.mantissa ++ literal.exponentText) ⟨0, 0, 0, false⟩ =
      some (.after literal.integral literal.fraction, literal.exponentText) := by
  have hstart : (⟨0, 0, 0, false⟩ : Mantissa) = .after [] none := rfl
  have hintegral : ∀ byte ∈ literal.integral, isDigit byte = true :=
    fun byte member => hdigits byte (List.mem_append_left _ member)
  have hends := literal.exponentText_ends
  rw [hstart]
  cases hfraction : literal.fraction with
  | none =>
      simp only [mantissa, hfraction, List.append_nil]
      rw [scanMantissa_integral hintegral, List.nil_append,
        scanMantissa_ends _ hends]
  | some fraction =>
      have hbehind : ∀ byte ∈ fraction, isDigit byte = true :=
        fun byte member => hdigits byte (List.mem_append_right _
          (by rw [hfraction]; exact member))
      have hpoint : ∀ rest, scanMantissa (point :: rest)
          (.after literal.integral none) =
            scanMantissa rest (.after literal.integral (some [])) := fun rest => by
        rw [scanMantissa, if_neg (by decide), if_pos ⟨rfl, rfl⟩]
        congr 1
      simp only [mantissa, hfraction]
      rw [List.append_assoc, scanMantissa_integral hintegral, List.nil_append,
        List.cons_append, hpoint, scanMantissa_fraction hbehind,
        List.nil_append, scanMantissa_ends _ hends]

theorem mantissa_head (hvalid : literal.Valid) :
    ∀ byte ∈ (literal.mantissa ++ literal.exponentText).head?,
      byte ≠ plus ∧ byte ≠ minus := by
  intro byte hbyte
  have hdigits := hvalid.mantissa_digits
  unfold mantissa at hbyte
  cases hintegral : literal.integral with
  | nil =>
      cases hfraction : literal.fraction with
      | none =>
          exact absurd (by simp [digits, hintegral, hfraction])
            hvalid.mantissa_nonempty
      | some fraction =>
          simp only [hintegral, hfraction, List.nil_append, List.cons_append,
            List.head?_cons, Option.mem_def, Option.some.injEq] at hbyte
          subst hbyte
          decide
  | cons first rest =>
      simp only [hintegral, List.cons_append, List.head?_cons, Option.mem_def,
        Option.some.injEq] at hbyte
      subst hbyte
      exact not_sign_of_isDigit (hdigits first (by simp [digits, hintegral]))

theorem text_nonempty (hvalid : literal.Valid) : literal.text.length ≠ 0 := by
  have hdigits := List.length_pos_iff.mpr hvalid.mantissa_nonempty
  have hmantissa : literal.digits.length ≤ literal.mantissa.length := by
    unfold digits mantissa
    cases literal.fraction <;> simp
  simp only [text, List.length_append]
  omega

/-- The exponent as `sqli_decimal_parse` reads it. -/
theorem readExponent_text (hvalid : literal.Valid) :
    (if literal.exponentText = [] then .ok 0
      else parseExponent literal.exponentText.tail) =
      if int64Max < literal.exponentMagnitude then
        (.error .outOfRange : Except Status Int)
      else .ok literal.exponentValue := by
  have hdigits := hvalid.exponent_digits
  unfold exponentText exponentMagnitude exponentValue
  cases hexponent : literal.exponent with
  | none => rfl
  | some exponent =>
      obtain ⟨hnonempty, hall⟩ := hdigits exponent hexponent
      simp only [Exponent.text, List.tail_cons, reduceCtorEq, if_false]
      exact parseExponent_text exponent.sign hnonempty hall

/-- What the reader makes of a text of the grammar. -/
theorem readDecimal_text (hvalid : literal.Valid)
    (hlength : literal.text.length ≤ maxText) :
    readDecimal literal.text =
      if maxDigits < literal.significant.length then .error .limitExceeded
      else if int64Max < literal.exponentMagnitude then .error .outOfRange
      else if int32Min ≤ literal.scale ∧ literal.scale ≤ int32Max then
        .ok ⟨literal.sign.negative, literal.significant.length, literal.scale,
          literal.mantissa⟩
      else .error .outOfRange := by
  have hsign := readSign_text literal.sign (mantissa_head hvalid)
  rw [← List.append_assoc] at hsign
  have hdigits : (Mantissa.after literal.integral literal.fraction).digits ≠ 0 :=
    fun hzero => hvalid.mantissa_nonempty (List.eq_nil_of_length_eq_zero hzero)
  have hmantissa : (literal.mantissa ++ literal.exponentText).take
      ((literal.mantissa ++ literal.exponentText).length -
        literal.exponentText.length) = literal.mantissa := by
    rw [List.length_append, Nat.add_sub_cancel, List.take_left]
  simp only [readDecimal]
  rw [if_neg (text_nonempty hvalid), if_neg (Nat.not_lt.mpr hlength)]
  simp only [text, hsign, scanMantissa_mantissa hvalid.mantissa_digits,
    hmantissa, readExponent_text hvalid]
  rw [if_neg hdigits]
  by_cases hlong : maxDigits < literal.significant.length
  · rw [if_pos hlong]
    exact if_pos hlong
  have hcount : ¬ maxDigits < (Mantissa.after literal.integral
      literal.fraction).significantDigits := hlong
  rw [if_neg hlong, if_neg hcount]
  by_cases hexponent : int64Max < literal.exponentMagnitude
  · rw [if_pos hexponent, if_pos hexponent]
  · rw [if_neg hexponent, if_neg hexponent]
    have hscale : literal.scale =
        ((Mantissa.after literal.integral literal.fraction).fractional : Int) -
          literal.exponentValue := rfl
    by_cases hrange : int32Min ≤ literal.scale ∧ literal.scale ≤ int32Max
    · rw [if_pos hrange]
      exact if_neg (by omega)
    · rw [if_neg hrange]
      exact if_pos (by omega)

end Literal

/-- Whatever the reader accepts is a text of the grammar. -/
theorem exists_literal (hread : readDecimal text = .ok reading) :
    ∃ literal : Literal, literal.Valid ∧ literal.text = text := by
  obtain ⟨sign, htext, -⟩ := exists_sign text
  simp only [readDecimal] at hread
  split at hread
  · cases hread
  split at hread
  · cases hread
  cases hscan : scanMantissa (readSign text).2 ⟨0, 0, 0, false⟩ with
  | none => simp [hscan] at hread
  | some scanned =>
      obtain ⟨mantissa, rest⟩ := scanned
      simp only [hscan] at hread
      split at hread
      · cases hread
      rename_i hdigits
      split at hread
      · cases hread
      obtain ⟨hends, integral, hintegral, hbody⟩ := scanMantissa_shape hscan
      have hexponent : ∃ exponent : Option Exponent,
          Literal.exponentText ⟨sign, [], none, exponent⟩ = rest ∧
          ∀ found ∈ exponent, found.digits ≠ [] ∧
            ∀ byte ∈ found.digits, isDigit byte = true := by
        cases rest with
        | nil => exact ⟨none, rfl, by simp⟩
        | cons marker tail =>
            rw [if_neg (List.cons_ne_nil _ _), List.tail_cons] at hread
            cases hparsed : parseExponent tail with
            | error status => simp [hparsed] at hread
            | ok exponent =>
                obtain ⟨exponentSign, digits, rfl, hnonempty, hall⟩ :=
                  exists_exponent hparsed
                refine ⟨some ⟨marker = upperE, exponentSign, digits⟩, ?_, ?_⟩
                · rcases hends marker rfl with rfl | rfl
                  · rfl
                  · rfl
                · rintro found ⟨⟩
                  exact ⟨hnonempty, hall⟩
      obtain ⟨exponent, hrest, hexponentDigits⟩ := hexponent
      obtain ⟨fraction, hfraction, hmantissa⟩ : ∃ fraction : Option (List UInt8),
          (∀ byte ∈ fraction.getD [], isDigit byte = true) ∧
          (readSign text).2 =
            Literal.mantissa ⟨sign, integral, fraction, exponent⟩ ++ rest := by
        rcases hbody with hbody | ⟨-, fraction, hall, hbody⟩
        · exact ⟨none, by simp, by simp [Literal.mantissa, hbody]⟩
        · exact ⟨some fraction, hall, by simp [Literal.mantissa, hbody]⟩
      let literal : Literal := ⟨sign, integral, fraction, exponent⟩
      have hall : ∀ byte ∈ literal.digits, isDigit byte = true := by
        intro byte member
        rcases List.mem_append.mp member with member | member
        · exact hintegral byte member
        · exact hfraction byte member
      have hscanned := Literal.scanMantissa_mantissa hall
      have hrest' : literal.exponentText = rest := hrest
      rw [hrest', ← hmantissa, hscan] at hscanned
      obtain ⟨rfl, -⟩ := Prod.mk.inj (Option.some.inj hscanned)
      refine ⟨literal, ⟨hall, ?_, hexponentDigits⟩, ?_⟩
      · intro hempty
        exact hdigits (congrArg List.length hempty)
      · rw [htext, hmantissa, Literal.text, hrest', List.append_assoc]

end Libsqli.Decimal
