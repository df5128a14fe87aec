import Libsqli.Decimal.Literal
import Libsqli.Decimal.Storage

namespace Libsqli.Decimal

open Libsqli.Data
open Libsqli.Data.Numeral
open Libsqli.Data.Radix

variable {literal : Literal} {object : Object} {value : Decimal}

/-! The limbs that the filling pass leaves. -/

/-- The digits of a mantissa from its end. -/
def digitValues (chars : List UInt8) : List Nat :=
  (chars.filter (· ≠ point)).map digitValue

theorem fillLoop_eq {significant : Nat} {chars : List UInt8}
    (hchars : ∀ ch ∈ chars, ch = point ∨ isDigit ch = true)
    {front : List Nat} (back : List Nat) {offset : Nat}
    (hfront : ∀ limb ∈ front, limb < limbBase)
    (hvalue : Nat.ofDigits limbBase front < 10 ^ offset)
    (hroom : significant ≤ front.length * limbDigits) :
    ∃ filled, fillLoop significant chars offset (front ++ back) =
        some (filled ++ back) ∧
      filled.length = front.length ∧ (∀ limb ∈ filled, limb < limbBase) ∧
      Nat.ofDigits limbBase filled = Nat.ofDigits limbBase front +
        10 ^ offset *
          Nat.ofDigits 10 ((digitValues chars).take (significant - offset)) := by
  induction chars generalizing front offset with
  | nil => exact ⟨front, rfl, rfl, hfront, by simp [digitValues]⟩
  | cons ch rest ih =>
      have hrest := fun other member =>
        hchars other (List.mem_cons_of_mem ch member)
      rw [fillLoop]
      by_cases hdone : significant ≤ offset
      · rw [if_pos hdone, Nat.sub_eq_zero_of_le hdone, List.take_zero]
        exact ⟨front, rfl, rfl, hfront, by simp⟩
      rw [if_neg hdone]
      by_cases hpoint : ch = point
      · rw [if_pos hpoint]
        obtain ⟨filled, hfill, hlength, hfilled, htotal⟩ :=
          ih hrest hfront hvalue hroom
        exact ⟨filled, hfill, hlength, hfilled, by
          simpa [digitValues, hpoint] using htotal⟩
      rw [if_neg hpoint]
      have hdigit := (hchars ch List.mem_cons_self).resolve_left hpoint
      have hnine := digitValue_lt hdigit
      have hindex : offset / limbDigits < front.length := by
        apply Nat.div_lt_of_lt_mul
        rw [Nat.mul_comm]
        omega
      have hsplit := power_eq_shift offset
      -- The limb holds the digits below this one and nothing else yet.
      have hlow : front.getD (offset / limbDigits) 0 <
          10 ^ (offset % limbDigits) := by
        rw [getD_ofDigits hfront]
        refine lt_of_le_of_lt (Nat.mod_le _ _) (Nat.div_lt_of_lt_mul ?_)
        rwa [← hsplit]
      have hlimb : front.getD (offset / limbDigits) 0 +
          digitValue ch * 10 ^ (offset % limbDigits) < limbBase := by
        have hnext : 10 ^ (offset % limbDigits + 1) ≤ limbBase := by
          rw [limbBase_eq_pow]
          exact Nat.pow_le_pow_right (by decide) (Nat.mod_lt _ (by decide))
        have hstep := Nat.mul_le_mul_right (10 ^ (offset % limbDigits))
          (Nat.le_of_lt_succ hnine)
        rw [pow_succ] at hnext
        omega
      have hset := ofDigits_set_add limbBase hindex
        (digitValue ch * 10 ^ (offset % limbDigits))
      have hamount : digitValue ch * 10 ^ (offset % limbDigits) *
          limbBase ^ (offset / limbDigits) = digitValue ch * 10 ^ offset := by
        rw [hsplit]
        ring
      rw [hamount] at hset
      have hafter : ∀ limb ∈ front.set (offset / limbDigits)
          (front.getD (offset / limbDigits) 0 +
            digitValue ch * 10 ^ (offset % limbDigits)), limb < limbBase := by
        intro limb member
        rcases List.mem_or_eq_of_mem_set member with member | rfl
        · exact hfront limb member
        · exact hlimb
      have hbelow : Nat.ofDigits limbBase (front.set (offset / limbDigits)
          (front.getD (offset / limbDigits) 0 +
            digitValue ch * 10 ^ (offset % limbDigits))) <
              10 ^ (offset + 1) := by
        have hstep := Nat.mul_le_mul_right (10 ^ offset)
          (Nat.le_of_lt_succ hnine)
        rw [hset, pow_succ]
        omega
      obtain ⟨filled, hfill, hlength, hfilled, htotal⟩ :=
        ih hrest hafter hbelow (by rwa [List.length_set])
      have hdigits : (digitValues (ch :: rest)).take (significant - offset) =
          digitValue ch ::
            (digitValues rest).take (significant - (offset + 1)) := by
        rw [show significant - offset = significant - (offset + 1) + 1 by omega]
        simp [digitValues, hpoint]
      have hspace : offset / limbDigits < (front ++ back).length := by
        rw [List.length_append]
        omega
      have hread : (front ++ back).getD (offset / limbDigits) 0 =
          front.getD (offset / limbDigits) 0 := by
        rw [List.getD_append _ _ _ _ hindex]
      refine ⟨filled, ?_, hlength.trans List.length_set, hfilled, ?_⟩
      · rw [Block.store_eq hspace, Option.bind_some, hread,
          List.set_append_left _ _ hindex]
        exact hfill
      · rw [htotal, hset, hdigits, Nat.ofDigits_cons, pow_succ]
        ring

/-! A mantissa as its digits. -/

theorem digitValues_mantissa (hvalid : literal.Valid) :
    digitValues literal.mantissa.reverse =
      (literal.digits.map digitValue).reverse := by
  have hdigits := hvalid.mantissa_digits
  have hkeep : ∀ {text : List UInt8}, (∀ byte ∈ text, isDigit byte = true) →
      text.filter (· ≠ point) = text := by
    intro text htext
    refine List.filter_eq_self.mpr fun byte member => ?_
    have hbyte := htext byte member
    refine decide_eq_true ?_
    rintro rfl
    rw [isDigit_point] at hbyte
    cases hbyte
  have hfilter : literal.mantissa.filter (· ≠ point) = literal.digits := by
    have hintegral := hkeep fun byte member =>
      hdigits byte (List.mem_append_left _ member)
    have hfraction := hkeep fun byte member =>
      hdigits byte (List.mem_append_right _ member)
    unfold Literal.mantissa Literal.digits
    rw [List.filter_append, hintegral]
    cases hpart : literal.fraction with
    | none => simp
    | some fraction =>
        rw [hpart] at hfraction
        simpa using hfraction
  rw [digitValues, List.filter_reverse, hfilter, List.map_reverse]

theorem exists_leading_zeros (literal : Literal) :
    ∃ count, literal.digits =
      List.replicate count zero ++ literal.significant := by
  refine ⟨(literal.digits.takeWhile (· = zero)).length, ?_⟩
  have hzeros : literal.digits.takeWhile (· = zero) =
      List.replicate (literal.digits.takeWhile (· = zero)).length zero :=
    List.eq_replicate_of_mem fun byte member => by
      simpa using List.mem_takeWhile_imp member
  rw [← hzeros, Literal.significant, List.takeWhile_append_dropWhile]

theorem digitsValue_significant (literal : Literal) :
    digitsValue literal.significant = literal.coefficient := by
  obtain ⟨count, hdigits⟩ := exists_leading_zeros literal
  rw [Literal.coefficient, hdigits, digitsValue_replicate_zero]

/-- The last digits that the pass takes are all but the leading zeros. -/
theorem ofDigits_mantissa (hvalid : literal.Valid) :
    Nat.ofDigits 10 ((digitValues literal.mantissa.reverse).take
      literal.significant.length) = literal.coefficient := by
  obtain ⟨count, hdigits⟩ := exists_leading_zeros literal
  rw [digitValues_mantissa hvalid, hdigits, List.map_append,
    List.reverse_append, List.take_left' (by simp), ← digitsValue_significant]
  rfl

theorem coefficient_lt_significant (hvalid : literal.Valid) :
    literal.coefficient < 10 ^ literal.significant.length := by
  have hall : literal.significant.all isDigit = true :=
    List.all_eq_true.mpr fun byte member =>
      hvalid.mantissa_digits byte ((List.dropWhile_suffix _).subset member)
  rw [← digitsValue_significant]
  exact digitsValue_lt hall

theorem isDigit_mantissa (hvalid : literal.Valid) :
    ∀ ch ∈ literal.mantissa.reverse, ch = point ∨ isDigit ch = true := by
  intro ch member
  rw [List.mem_reverse, Literal.mantissa] at member
  have hdigits := hvalid.mantissa_digits
  unfold Literal.digits at hdigits
  cases hfraction : literal.fraction with
  | none =>
      simp only [hfraction, List.append_nil] at member
      exact .inr (hdigits ch (List.mem_append_left _ member))
  | some fraction =>
      simp only [hfraction] at member
      rcases List.mem_append.mp member with member | member
      · exact .inr (hdigits ch (List.mem_append_left _ member))
      rcases List.mem_cons.mp member with rfl | member
      · exact .inl rfl
      · exact .inr (hdigits ch (List.mem_append_right _
          (by rw [hfraction]; exact member)))

namespace Object

/-- The value that a literal stands for, with its own scale. -/
structure ParsedTo (literal : Literal) (after : Decimal) : Prop where
  not_null : after.isNull = false
  coefficient_eq : after.coefficient = literal.coefficient
  scale_eq : after.scale.toInt = literal.scale
  negative_eq : after.negative =
    (literal.coefficient ≠ 0 && literal.sign.negative)

theorem ParsedTo.number_eq {after : Decimal}
    (hparsed : ParsedTo literal after) : after.number = literal.number := by
  have hcoefficient : after.parts.coefficient = literal.coefficient :=
    hparsed.coefficient_eq
  have hscale : after.parts.scale.toInt = literal.scale := hparsed.scale_eq
  have hnegative : after.parts.negative =
    (literal.coefficient ≠ 0 && literal.sign.negative) := hparsed.negative_eq
  rw [number, Parts.number, Literal.number, hcoefficient, hscale, hnegative]
  by_cases hzero : literal.coefficient = 0
  · simp [hzero]
  · simp [hzero]

/-- What the parser can return. -/
inductive ParseOutcome (malloc : Malloc) (object : Object) (text : List UInt8) :
    Status × Object → Prop where
  | parsed (literal : Literal) (result : Object) (after : Decimal)
      (valid : literal.Valid) (range : literal.InRange)
      (spells : literal.text = text)
      (stores : result.Stores after)
      (parsed : ParsedTo literal after) :
      ParseOutcome malloc object text (.ok, result)
  | refused (status : Status) (failed : status ≠ .ok)
      (outside : ∀ literal : Literal, literal.Valid → literal.text = text →
        text.length ≤ maxText → ¬ literal.InRange) :
      ParseOutcome malloc object text (status, object)
  | allocFail (count : Nat) (refused : malloc count = none) :
      ParseOutcome malloc object text (.allocFail, object)

theorem readDecimal_ok (hread : readDecimal text = .ok reading) :
    ∃ literal : Literal, literal.Valid ∧ literal.text = text ∧
      literal.InRange ∧ reading = ⟨literal.sign.negative,
        literal.significant.length, literal.scale, literal.mantissa⟩ := by
  obtain ⟨literal, hvalid, rfl⟩ := exists_literal hread
  have hlength : literal.text.length ≤ maxText := by
    by_contra hlong
    rw [readDecimal, if_neg (Literal.text_nonempty hvalid),
      if_pos (Nat.lt_of_not_le hlong)] at hread
    cases hread
  rw [Literal.readDecimal_text hvalid hlength] at hread
  refine ⟨literal, hvalid, rfl, ?_⟩
  split at hread
  · cases hread
  · rename_i hdigits
    split at hread
    · cases hread
    · rename_i hexponent
      split at hread
      · rename_i hscale
        exact ⟨⟨Nat.le_of_not_lt hdigits, Nat.le_of_not_lt hexponent, hscale.1,
          hscale.2⟩, (Except.ok.inj hread).symm⟩
      · cases hread

theorem readDecimal_error (hread : readDecimal text = .error status)
    (hvalid : literal.Valid) (hspells : literal.text = text)
    (hlength : text.length ≤ maxText) : ¬ literal.InRange := by
  subst hspells
  intro hrange
  rw [Literal.readDecimal_text hvalid hlength,
    if_neg (Nat.not_lt.mpr hrange.digits_le),
    if_neg (Nat.not_lt.mpr hrange.exponent_le),
    if_pos ⟨hrange.scale_min, hrange.scale_max⟩] at hread
  cases hread

theorem exponentLoop_failure {text : List UInt8}
    (hread : exponentLoop text exponent = .error status) : status ≠ .ok := by
  induction text generalizing exponent with
  | nil => cases hread
  | cons ch rest ih =>
      rw [exponentLoop] at hread
      split at hread
      · cases hread
        decide
      · split at hread
        · cases hread
          decide
        · exact ih hread

theorem parseExponent_failure {text : List UInt8}
    (hread : parseExponent text = .error status) : status ≠ .ok := by
  simp only [parseExponent] at hread
  split at hread
  · cases hread
    decide
  · cases hloop : exponentLoop (readSign text).2 0 with
    | error status =>
        simp only [hloop, Except.error.injEq] at hread
        exact hread ▸ exponentLoop_failure hloop
    | ok exponent => simp [hloop] at hread

theorem readDecimal_failure (hread : readDecimal text = .error status) :
    status ≠ .ok := by
  simp only [readDecimal] at hread
  split at hread
  · cases hread
    decide
  split at hread
  · cases hread
    decide
  cases hscan : scanMantissa (readSign text).2 ⟨0, 0, 0, false⟩ with
  | none =>
      simp only [hscan, Except.error.injEq] at hread
      exact hread ▸ by decide
  | some scanned =>
      obtain ⟨mantissa, rest⟩ := scanned
      simp only [hscan] at hread
      split at hread
      · cases hread
        decide
      split at hread
      · cases hread
        decide
      cases hexponent :
          (if rest = [] then .ok 0 else parseExponent rest.tail) with
      | error status =>
          simp only [hexponent, Except.error.injEq] at hread
          subst hread
          split at hexponent
          · cases hexponent
          · exact parseExponent_failure hexponent
      | ok exponent =>
          simp only [hexponent] at hread
          split at hread
          · cases hread
            decide
          · cases hread

theorem parse_outcome (malloc : Malloc) (hstores : object.Stores value)
    (text : List UInt8) :
    ∃ result, parse malloc text false object = some result ∧
      ParseOutcome malloc object text result := by
  simp only [parse, Bool.false_eq_true, if_false]
  cases hread : readDecimal text with
  | error status =>
      exact ⟨_, rfl, .refused status (readDecimal_failure hread)
        fun literal hvalid hspells hlength =>
          readDecimal_error hread hvalid hspells hlength⟩
  | ok reading =>
      obtain ⟨literal, hvalid, hspells, hrange, rfl⟩ := readDecimal_ok hread
      simp only
      rcases reserve_init malloc (limbCount_le hrange.digits_le) with
        ⟨reserved, hreserved, hsized, hspace⟩ | ⟨hreserved, -, hrefused⟩
      · have hzeroed := Block.storeAll_eq (by simpa using hspace :
          (List.replicate (limbCount literal.significant.length) 0).length ≤
            reserved.limbs.length)
        have hnothing : Nat.ofDigits limbBase
            (List.replicate (limbCount literal.significant.length) 0) <
              10 ^ 0 := by
          rw [Nat.ofDigits_replicate_zero]
          decide
        obtain ⟨filled, hfill, hlength, hlimbs, htotal⟩ := fillLoop_eq
          (isDigit_mantissa hvalid)
          (reserved.limbs.drop (List.replicate
            (limbCount literal.significant.length) 0).length)
          (fun limb member => by
            rw [List.eq_of_mem_replicate member]
            decide) hnothing
          (by simpa using le_limbCount literal.significant.length)
        rw [Nat.ofDigits_replicate_zero, Nat.zero_add, pow_zero, Nat.one_mul,
          Nat.sub_zero, ofDigits_mantissa hvalid] at htotal
        rw [List.length_replicate] at hlength
        have hcarries := @Sized.carries reserved
          (limbCount literal.significant.length) filled
          (reserved.limbs.drop (List.replicate
            (limbCount literal.significant.length) 0).length) hsized (by
              rw [List.length_append, hlength, List.length_drop,
                List.length_replicate]
              omega) hlength.symm hlimbs
        rw [htotal] at hcarries
        have hfits : literal.coefficient < 10 ^ maxDigits :=
          lt_of_lt_of_le (coefficient_lt_significant hvalid)
            (Nat.pow_le_pow_right (by decide) hrange.digits_le)
        obtain ⟨after, hnull, hcoefficient, hscale, hnegative, hafter⟩ :=
          hcarries.finish hstores.toSized hfits (Int32.ofInt literal.scale)
            literal.sign.negative
        have hexact : after.scale.toInt = literal.scale := by
          have hmin := hrange.scale_min
          have hmax := hrange.scale_max
          unfold int32Min at hmin
          unfold int32Max at hmax
          rw [hscale]
          exact Int32.toInt_ofInt_of_le (by omega) (by omega)
        rw [hreserved]
        simp only [hzeroed, hfill, Option.bind_eq_bind, Option.bind_some]
        exact ⟨_, rfl, .parsed literal _ after hvalid hrange hspells hafter
          ⟨hnull, hcoefficient, hexact, hnegative⟩⟩
      · rw [hreserved]
        exact ⟨_, rfl, .allocFail _ hrefused⟩

/-- Two literals of one text say the same. -/
theorem ParsedTo.transfer {after : Decimal} {other : Literal}
    (hparsed : ParsedTo literal after) (hvalid : literal.Valid)
    (hrange : literal.InRange) (hother : other.Valid)
    (hotherRange : other.InRange) (hsame : other.text = literal.text)
    (hlength : literal.text.length ≤ maxText) : ParsedTo other after := by
  have hleft := Literal.readDecimal_text hvalid hlength
  have hright := Literal.readDecimal_text hother (hsame ▸ hlength)
  rw [if_neg (Nat.not_lt.mpr hrange.digits_le),
    if_neg (Nat.not_lt.mpr hrange.exponent_le),
    if_pos ⟨hrange.scale_min, hrange.scale_max⟩] at hleft
  rw [if_neg (Nat.not_lt.mpr hotherRange.digits_le),
    if_neg (Nat.not_lt.mpr hotherRange.exponent_le),
    if_pos ⟨hotherRange.scale_min, hotherRange.scale_max⟩, hsame, hleft]
    at hright
  obtain ⟨hnegative, hsignificant, hscale, hmantissa⟩ :=
    Reading.mk.inj (Except.ok.inj hright)
  have hcoefficient : literal.coefficient = other.coefficient := by
    rw [← ofDigits_mantissa hvalid, ← ofDigits_mantissa hother, hmantissa,
      hsignificant]
  exact ⟨hparsed.not_null, hparsed.coefficient_eq.trans hcoefficient,
    hparsed.scale_eq.trans hscale, by
      rw [hparsed.negative_eq, hcoefficient, hnegative]⟩

/-- The parser accepts its grammar, within its ranges, and nothing else. -/
theorem parse_grammar (malloc : Malloc) (text : List UInt8)
    (hmalloc : ∀ count, malloc count ≠ none) (hlength : text.length ≤ maxText)
    (hstores : object.Stores value) :
    ∃ status result, parse malloc text false object = some (status, result) ∧
      (status = .ok ↔ ∃ literal : Literal,
        literal.Valid ∧ literal.text = text ∧ literal.InRange) ∧
      (∀ literal : Literal, literal.Valid → literal.text = text →
        literal.InRange → ∃ after, result.Stores after ∧
          after.isNull = false ∧ after.number = literal.number ∧
          after.scale.toInt = literal.scale) ∧
      (status ≠ .ok → result = object) := by
  obtain ⟨⟨status, result⟩, hresult, houtcome⟩ :=
    parse_outcome malloc hstores text
  refine ⟨status, result, hresult, ?_⟩
  cases houtcome with
  | parsed literal _ after valid range spells stores parsed =>
      refine ⟨iff_of_true rfl ⟨literal, valid, spells, range⟩, ?_,
        fun hfailed => absurd rfl hfailed⟩
      intro other hvalid hspells hrange
      have hother := parsed.transfer valid range hvalid hrange
        (hspells.trans spells.symm) (spells ▸ hlength)
      exact ⟨after, stores, hother.not_null, hother.number_eq, hother.scale_eq⟩
  | refused status failed outside =>
      refine ⟨iff_of_false failed ?_, ?_, fun _ => rfl⟩
      · rintro ⟨literal, hvalid, hspells, hrange⟩
        exact outside literal hvalid hspells hlength hrange
      · intro literal hvalid hspells hrange
        exact absurd hrange (outside literal hvalid hspells hlength)
  | allocFail count refused => exact absurd refused (hmalloc count)

/-- `-12.5e-3`. -/
def smallLiteral : Literal where
  sign := .minus
  integral := [49, 50]
  fraction := some [53]
  exponent := some ⟨false, .minus, [51]⟩

theorem parse_grammar_small :
    ∃ result after, parse (fun count => some
        ⟨List.replicate count 0, List.length_replicate⟩)
        [45, 49, 50, 46, 53, 101, 45, 51] false init = some (.ok, result) ∧
      result.Stores after ∧ after.number = smallLiteral.number ∧
      after.scale.toInt = 4 := by
  have hvalid : smallLiteral.Valid := by
    have hdigits : smallLiteral.digits.all isDigit = true := by decide
    have hexponent : List.all [51] isDigit = true := by decide
    refine ⟨List.all_eq_true.mp hdigits, by decide, ?_⟩
    rintro exponent ⟨⟩
    exact ⟨by decide, List.all_eq_true.mp hexponent⟩
  have hspells : smallLiteral.text = [45, 49, 50, 46, 53, 101, 45, 51] := by
    decide
  have hrange : smallLiteral.InRange := by
    constructor <;> decide
  obtain ⟨status, result, hresult, hok, hparsed, -⟩ := parse_grammar
    (fun count => some ⟨List.replicate count 0, List.length_replicate⟩)
    [45, 49, 50, 46, 53, 101, 45, 51] (fun count hnone => by cases hnone)
    (by decide) init_stores
  obtain ⟨after, hafter, -, hnumber, hscale⟩ :=
    hparsed smallLiteral hvalid hspells hrange
  obtain rfl := hok.mpr ⟨smallLiteral, hvalid, hspells, hrange⟩
  exact ⟨result, after, hresult, hafter, hnumber, hscale⟩

end Object

end Libsqli.Decimal
