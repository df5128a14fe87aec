import Libsqli.Temporal.Text

namespace Libsqli.Temporal

open Libsqli.Data.Ctype
open Libsqli.Data.Numeral

variable {range : TemporalRange} {interval : Bool} {field : Nat}
  {text rest separator digits : List UInt8} {fields out : TemporalFields}

/-! The grammar of qualified text: over the fields of the range, what separates
a field from the one before and its digits. -/

/-- What stands before the digits of a field. -/
def Separates (range : TemporalRange) (interval : Bool) (field : Nat)
    (separator : List UInt8) : Prop :=
  if field = range.first then
    if field = fieldFraction then
      separator = [point] ∨ separator = [zero, point]
    else separator = []
  else separator = [fieldSeparator field false] ∨
    (field = fieldHour ∧ interval = false ∧ separator = [letterT])

/-- How many digits a field has. -/
def Width (range : TemporalRange) (interval : Bool) (field count : Nat) :
    Prop :=
  if field = fieldFraction then count = range.fractionalDigits
  else if interval = true ∧ field = range.first then 1 ≤ count ∧ count ≤ 20
  else if field = fieldYear ∧ interval = false then count = 4
  else count = 2

/-- The fields with the number of a digit string in one of them; a fraction
counts nanoseconds. -/
def TemporalFields.place (fields : TemporalFields) (field : Nat)
    (digits : List UInt8) : TemporalFields :=
  if field = fieldFraction then
    { fields with nanosecond := digitsValue digits * 10 ^ (9 - digits.length) }
  else { fields with
    integral := Function.update fields.integral field (digitsValue digits) }

structure FieldText (range : TemporalRange) (interval : Bool) (field : Nat)
    (separator digits : List UInt8) : Prop where
  separates : Separates range interval field separator
  decimal : ∀ byte ∈ digits, isDigit byte = true
  width : Width range interval field digits.length
  fits : digitsValue digits ≤ uint64Max

/-- The text of some fields, and what they hold once it is read. -/
inductive Denotes (range : TemporalRange) (interval : Bool) :
    List Nat → List UInt8 → TemporalFields → TemporalFields → Prop
  | done {fields : TemporalFields} : Denotes range interval [] [] fields fields
  | field {field : Nat} {remaining : List Nat}
      {separator digits text : List UInt8} {fields out : TemporalFields}
      (piece : FieldText range interval field separator digits)
      (tail : Denotes range interval remaining text (fields.place field digits)
        out) :
      Denotes range interval (field :: remaining)
        (separator ++ digits ++ text) fields out

/-- The optional sign and whether it says negative. -/
def SignText (interval : Bool) (sign : List UInt8) (negative : Bool) : Prop :=
  (sign = [] ∧ negative = false) ∨
    (interval = true ∧ (sign = [plus] ∧ negative = false ∨
      sign = [minus] ∧ negative = true))

/-- A text of the grammar and the fields it stands for. -/
def Spells (range : TemporalRange) (interval : Bool) (text : List UInt8)
    (fields : TemporalFields) : Prop :=
  ∃ sign body negative, text = sign ++ body ∧
    SignText interval sign negative ∧
    Denotes range interval range.fields body
      { blankFields range with negative } fields

/-- The calendar and radix limits of the fields of a range. -/
structure Limits (fields : TemporalFields) (interval : Bool) : Prop where
  within : ∀ field ∈ integralFields, fields.range.first ≤ field →
    field ≤ fields.range.last →
    ¬ (interval = true ∧ field = fields.range.first) →
    fieldMinimum interval field ≤ fields.integral field ∧
      fields.integral field ≤ fieldMaximum interval field
  day_exists : interval = false → fields.integral fieldMonth ≠ 0 →
    fields.integral fieldDay ≠ 0 →
    fields.integral fieldDay ≤
      monthDays (fields.integral fieldMonth) (fields.integral fieldYear)

/-! Numbers. -/

theorem guard_iff {byte : UInt8} (hbyte : isDigit byte = true) (value : Nat) :
    (uint64Max - digitValue byte) / 10 < value ↔
      uint64Max < value * 10 + digitValue byte := by
  have hdigit := digitValue_lt hbyte
  have hmax : 10 ≤ uint64Max := by decide
  rw [Nat.div_lt_iff_lt_mul (by omega)]
  omega

/-- The scanner takes the whole run of digits, within the bounds it was given. -/
theorem readDigits_ok_iff (hcount : count ≤ maximum)
    (hvalue : value ≤ uint64Max) :
    readDigits maximum count value text = .ok (last, total, rest) ↔
      ∃ digits, text = digits ++ rest ∧
        (∀ byte ∈ digits, isDigit byte = true) ∧ NoDigit rest ∧
        last = count + digits.length ∧ last ≤ maximum ∧
        total = value * 10 ^ digits.length + digitsValue digits ∧
        total ≤ uint64Max := by
  induction text generalizing count value with
  | nil =>
      simp only [readDigits, Except.ok.injEq, Prod.mk.injEq]
      constructor
      · rintro ⟨rfl, rfl, rfl⟩
        exact ⟨[], rfl, by simp, by simp, rfl, hcount, by simp, hvalue⟩
      · rintro ⟨digits, htext, -, -, hlast, -, htotal, -⟩
        obtain ⟨rfl, rfl⟩ := List.append_eq_nil_iff.mp htext.symm
        simp [hlast, htotal]
  | cons byte text ih =>
      rw [readDigits]
      by_cases hbyte : isDigit byte = true
      · rw [if_pos hbyte]
        have hguard := guard_iff hbyte value
        constructor
        · intro hread
          by_cases hlarge : (uint64Max - digitValue byte) / 10 < value
          · rw [if_pos hlarge] at hread
            cases hread
          rw [if_neg hlarge] at hread
          by_cases hfull : count = maximum
          · rw [if_pos hfull] at hread
            cases hread
          rw [if_neg hfull, ih (by omega) (by omega)] at hread
          obtain ⟨digits, rfl, hdigits, hrest, rfl, hlast, rfl, htotal⟩ := hread
          refine ⟨byte :: digits, rfl, ?_, hrest, ?_, hlast, ?_, htotal⟩
          · simpa [hbyte] using hdigits
          · simp only [List.length_cons]
            omega
          · rw [digitsValue_cons, List.length_cons, pow_succ]
            ring
        · rintro ⟨digits, htext, hdigits, hrest, rfl, hlast, rfl, htotal⟩
          cases digits with
          | nil =>
              rw [List.nil_append] at htext
              rw [← htext, noDigit_cons] at hrest
              simp [hbyte] at hrest
          | cons first digits =>
              obtain ⟨rfl, rfl⟩ := List.cons_eq_cons.mp htext
              rw [digitsValue_cons, List.length_cons] at htotal
              rw [List.length_cons] at hlast
              have hpower : 1 ≤ 10 ^ digits.length := Nat.one_le_pow' ..
              have hsum : value * 10 ^ (digits.length + 1) +
                  (digitValue byte * 10 ^ digits.length + digitsValue digits) =
                  (value * 10 + digitValue byte) * 10 ^ digits.length +
                    digitsValue digits := by
                rw [pow_succ]
                ring
              have hstep : value * 10 + digitValue byte ≤ uint64Max := by
                have := Nat.le_mul_of_pos_right
                  (value * 10 + digitValue byte) hpower
                omega
              rw [if_neg (by omega), if_neg (by omega), ih (by omega) hstep]
              refine ⟨digits, rfl, fun other member =>
                hdigits other (List.mem_cons_of_mem _ member), hrest, ?_, ?_,
                ?_, ?_⟩
              · simp only [List.length_cons]
                omega
              · simpa using hlast
              · rw [digitsValue_cons, List.length_cons, hsum]
              · rw [digitsValue_cons, List.length_cons]
                exact htotal
      · rw [if_neg hbyte]
        simp only [Except.ok.injEq, Prod.mk.injEq]
        constructor
        · rintro ⟨rfl, rfl, rfl⟩
          refine ⟨[], rfl, by simp, ?_, rfl, hcount, by simp, hvalue⟩
          simpa using hbyte
        · rintro ⟨digits, htext, hdigits, -, hlast, -, htotal, -⟩
          cases digits with
          | nil =>
              refine ⟨by simpa using hlast.symm, by simpa using htotal.symm,
                htext⟩
          | cons first digits =>
              obtain ⟨rfl, -⟩ := List.cons_eq_cons.mp htext
              exact absurd (hdigits byte List.mem_cons_self) hbyte

theorem readNumber_ok_iff :
    readNumber minimum maximum text = .ok (value, rest) ↔
      ∃ digits, text = digits ++ rest ∧
        (∀ byte ∈ digits, isDigit byte = true) ∧ NoDigit rest ∧
        minimum ≤ digits.length ∧ digits.length ≤ maximum ∧
        value = digitsValue digits ∧ value ≤ uint64Max := by
  have hspec : ∀ last total rest,
      readDigits maximum 0 0 text = .ok (last, total, rest) ↔ _ :=
    fun last total rest => readDigits_ok_iff (Nat.zero_le _) (Nat.zero_le _)
  constructor
  · intro hread
    unfold readNumber at hread
    cases hdigits : readDigits maximum 0 0 text with
    | error status => simp [hdigits] at hread
    | ok result =>
        obtain ⟨last, total, remaining⟩ := result
        simp only [hdigits] at hread
        obtain ⟨digits, htext, hall, hrest, hlast, hmax, htotal, hle⟩ :=
          (hspec _ _ _).mp hdigits
        by_cases hshort : last < minimum
        · rw [if_pos hshort] at hread
          cases hread
        · rw [if_neg hshort] at hread
          cases hread
          exact ⟨digits, htext, hall, hrest, by omega, by omega,
            by simpa using htotal, hle⟩
  · rintro ⟨digits, htext, hall, hrest, hmin, hmax, hvalue, hle⟩
    have hdigits := (hspec digits.length value rest).mpr ⟨digits, htext, hall,
      hrest, by simp, hmax, by simpa using hvalue, hle⟩
    rw [readNumber, hdigits]
    simp only [if_neg (Nat.not_lt.mpr hmin)]

/-! One field. -/

theorem skipZero_of_ne (hfield : ¬ (field = fieldFraction ∧
    field = range.first)) : skipZero range field text = text := by
  rw [skipZero, if_neg (fun hskip => hfield ⟨hskip.1, hskip.2.1⟩)]

theorem readSeparator_fraction (hfirst : range.first = fieldFraction) :
    readSeparator range interval fieldFraction text = .ok rest ↔
      text = point :: rest ∨ text = zero :: point :: rest := by
  rw [readSeparator, if_pos (.inr rfl)]
  have hpoint : ∀ actual : UInt8,
      (actual ≠ fieldSeparator fieldFraction false ∧
        ¬ (fieldFraction = fieldHour ∧ !interval ∧ actual = letterT)) ↔
      actual ≠ point := by
    intro actual
    simp [fieldSeparator]
  cases text with
  | nil => simp [skipZero]
  | cons byte text =>
      by_cases hzero : byte = zero
      · subst hzero
        have hskip : skipZero range fieldFraction (zero :: text) = text := by
          simp [skipZero, hfirst]
        rw [hskip]
        cases text with
        | nil => simp [show zero ≠ point by decide]
        | cons actual text =>
            simp only [hpoint]
            by_cases hactual : actual = point <;>
              simp [hactual, show zero ≠ point by decide]
      · have hskip : skipZero range fieldFraction (byte :: text) =
            byte :: text := by
          rw [skipZero, if_neg (by simp [hzero])]
        rw [hskip]
        simp only [hpoint]
        by_cases hactual : byte = point <;>
          simp [hactual, hzero, show point ≠ zero by decide]

theorem readSeparator_ok_iff :
    readSeparator range interval field text = .ok rest ↔
      ∃ separator, Separates range interval field separator ∧
        text = separator ++ rest := by
  by_cases hfirst : field = range.first
  · by_cases hfraction : field = fieldFraction
    · subst hfraction
      rw [readSeparator_fraction hfirst.symm]
      simp only [Separates, if_pos hfirst, if_true]
      constructor
      · rintro (rfl | rfl)
        · exact ⟨[point], .inl rfl, rfl⟩
        · exact ⟨[zero, point], .inr rfl, rfl⟩
      · rintro ⟨separator, rfl | rfl, rfl⟩
        · exact .inl rfl
        · exact .inr rfl
    · subst hfirst
      rw [readSeparator, if_neg (by simp [hfraction]),
        skipZero_of_ne (fun hskip => hfraction hskip.1)]
      simp [Separates, hfraction]
  · rw [readSeparator, if_pos (.inl hfirst),
      skipZero_of_ne (fun hskip => hfirst hskip.2)]
    simp only [Separates, if_neg hfirst]
    cases text with
    | nil =>
        constructor
        · simp
        · rintro ⟨separator, rfl | ⟨-, -, rfl⟩, hempty⟩ <;> simp at hempty
    | cons actual text =>
        constructor
        · intro hread
          by_cases hactual : actual = fieldSeparator field false
          · simp only [hactual, ne_eq, not_true_eq_false, false_and, if_false,
              Except.ok.injEq] at hread
            exact ⟨[fieldSeparator field false], .inl rfl, by simp [hactual,
              hread]⟩
          · by_cases hletter : field = fieldHour ∧ !interval ∧ actual = letterT
            · simp only [hletter, not_true_eq_false, and_false, if_false,
                Except.ok.injEq, and_self] at hread
              exact ⟨[letterT], .inr ⟨hletter.1, by simpa using hletter.2.1,
                rfl⟩, by simp [hletter.2.2, hread]⟩
            · simp only [if_pos (And.intro hactual hletter), reduceCtorEq]
                at hread
        · rintro ⟨separator, rfl | ⟨hhour, hinterval, rfl⟩, htext⟩
          · obtain ⟨rfl, rfl⟩ := List.cons_eq_cons.mp htext
            simp
          · obtain ⟨rfl, rfl⟩ := List.cons_eq_cons.mp htext
            simp [hhour, hinterval]

theorem width_iff (count : Nat) :
    Width range interval field count ↔
      (fieldDigits range interval field).1 ≤ count ∧
        count ≤ (fieldDigits range interval field).2 := by
  unfold Width fieldDigits
  by_cases hfraction : field = fieldFraction
  · simp only [hfraction, if_true]
    omega
  · rw [if_neg hfraction, if_neg hfraction]
    by_cases hleading : interval = true ∧ field = range.first
    · rw [if_pos hleading, if_pos hleading]
      rfl
    · rw [if_neg hleading, if_neg hleading]
      cases interval <;> by_cases hyear : field = fieldYear <;>
        simp [hyear, calendarYearDigits, calendarFieldDigits] <;> omega

theorem Width.fraction (hwidth : Width range interval fieldFraction count) :
    count = range.fractionalDigits := by
  simpa [Width] using hwidth

/-- No fraction that has its width is too large to store. -/
theorem storeField_place (piece : FieldText fields.range interval field separator
    digits) (hprecision : fields.range.fractionalDigits ≤ 9) :
    storeField field (digitsValue digits) fields =
      .ok (fields.place field digits) := by
  unfold storeField TemporalFields.place
  by_cases hfraction : field = fieldFraction
  · subst hfraction
    have hlt := digitsValue_lt (List.all_eq_true.mpr piece.decimal)
    have hpower : 10 ^ digits.length ≤ nanosecondsPerSecond :=
      Nat.pow_le_pow_right (by decide) (piece.width.fraction ▸ hprecision)
    rw [if_pos rfl, if_pos rfl, if_neg (by omega), piece.width.fraction]
  · rw [if_neg hfraction, if_neg hfraction]

@[simp] theorem place_range (fields : TemporalFields) (field : Nat)
    (digits : List UInt8) : (fields.place field digits).range = fields.range := by
  unfold TemporalFields.place
  split <;> rfl

@[simp] theorem place_isNull (fields : TemporalFields) (field : Nat)
    (digits : List UInt8) :
    (fields.place field digits).isNull = fields.isNull := by
  unfold TemporalFields.place
  split <;> rfl

@[simp] theorem place_negative (fields : TemporalFields) (field : Nat)
    (digits : List UInt8) :
    (fields.place field digits).negative = fields.negative := by
  unfold TemporalFields.place
  split <;> rfl

theorem parseField_ok_iff (hprecision : fields.range.fractionalDigits ≤ 9) :
    parseField interval field fields text = .ok (out, rest) ↔
      ∃ separator digits, text = separator ++ digits ++ rest ∧
        FieldText fields.range interval field separator digits ∧
        NoDigit rest ∧ out = fields.place field digits := by
  constructor
  · intro hparse
    unfold parseField at hparse
    cases hseparator : readSeparator fields.range interval field text with
    | error status => simp [hseparator] at hparse
    | ok behind =>
        simp only [hseparator] at hparse
        cases hnumber : readNumber (fieldDigits fields.range interval field).1
            (fieldDigits fields.range interval field).2 behind with
        | error status => simp [hnumber] at hparse
        | ok result =>
            obtain ⟨magnitude, remaining⟩ := result
            obtain ⟨separator, hseparates, rfl⟩ :=
              readSeparator_ok_iff.mp hseparator
            obtain ⟨digits, rfl, hdigits, hrest, hmin, hmax, rfl, hfits⟩ :=
              readNumber_ok_iff.mp hnumber
            have piece : FieldText fields.range interval field separator
                digits :=
              ⟨hseparates, hdigits, (width_iff _).mpr ⟨hmin, hmax⟩, hfits⟩
            simp only [hnumber, storeField_place piece hprecision,
              Except.ok.injEq, Prod.mk.injEq] at hparse
            obtain ⟨rfl, rfl⟩ := hparse
            exact ⟨separator, digits, by simp, piece, hrest, rfl⟩
  · rintro ⟨separator, digits, rfl, piece, hrest, rfl⟩
    obtain ⟨hmin, hmax⟩ := (width_iff _).mp piece.width
    have hseparator : readSeparator fields.range interval field
        (separator ++ digits ++ rest) = .ok (digits ++ rest) :=
      readSeparator_ok_iff.mpr ⟨separator, piece.separates, by simp⟩
    have hnumber : readNumber (fieldDigits fields.range interval field).1
        (fieldDigits fields.range interval field).2 (digits ++ rest) =
          .ok (digitsValue digits, rest) :=
      readNumber_ok_iff.mpr ⟨digits, rfl, piece.decimal, hrest, hmin, hmax,
        rfl, piece.fits⟩
    simp only [parseField, hseparator, hnumber,
      storeField_place piece hprecision]

end Libsqli.Temporal
