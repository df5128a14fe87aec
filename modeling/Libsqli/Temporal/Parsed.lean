import Libsqli.Temporal.Grammar

namespace Libsqli.Temporal

open Libsqli.Data.Ctype
open Libsqli.Data.Numeral

variable {range : TemporalRange} {interval : Bool} {field : Nat}
  {text rest separator digits : List UInt8} {fields out : TemporalFields}
  {remaining : List Nat}

/-! What the text of some fields leaves alone, and what it fills in. -/

theorem TemporalRange.mem_fields :
    field ∈ range.fields ↔ range.first ≤ field ∧ field ≤ range.last := by
  rw [TemporalRange.fields, List.mem_range'_1]
  omega

/-- A range with its limits in plain view. -/
structure TemporalRange.Known (range : TemporalRange) (interval : Bool) :
    Prop where
  first_pos : fieldYear ≤ range.first
  ordered : range.first ≤ range.last
  last_le : range.last ≤ fieldFraction
  classes : interval = true → range.first ≤ fieldMonth →
    range.last ≤ fieldMonth
  precision : if range.last = fieldFraction then
    1 ≤ range.fractionalDigits ∧ range.fractionalDigits ≤ 9
    else range.fractionalDigits = 0

theorem validateRange_ok_iff :
    validateRange range interval false = .ok ↔ range.Known interval := by
  constructor
  · intro hok
    unfold validateRange at hok
    split at hok
    · cases hok
    split at hok
    · cases hok
    rename_i hbounds
    split at hok
    · cases hok
    rename_i hclasses
    refine ⟨by omega, by omega, by omega, fun hinterval hfirst => ?_, ?_⟩
    · by_contra hlast
      exact hclasses ⟨hinterval, hfirst, by omega⟩
    · split at hok
      · split at hok
        · cases hok
        · rename_i hlast hdigits
          rw [if_pos hlast]
          omega
      · rename_i hlast
        rw [if_neg hlast]
        by_contra hdigits
        rw [if_pos hdigits] at hok
        cases hok
  · rintro ⟨hfirst, hordered, hlast, hclasses, hprecision⟩
    unfold validateRange
    simp only [fieldUnknown, fieldYear, fieldFraction, fieldMonth] at *
    rw [if_neg (by omega), if_neg (by omega),
      if_neg (by rintro ⟨hinterval, hmonth, hbeyond⟩
                 have := hclasses hinterval hmonth
                 omega)]
    by_cases hfraction : range.last = 7
    · rw [if_pos hfraction] at hprecision
      rw [if_pos hfraction, if_neg (by omega)]
    · rw [if_neg hfraction] at hprecision
      rw [if_neg hfraction, if_neg (by simp [hprecision])]

theorem TemporalRange.Known.precision_le (hknown : range.Known interval) :
    range.fractionalDigits ≤ 9 := by
  have := hknown.precision
  split at this <;> omega

theorem TemporalRange.Known.fields_eq (hknown : range.Known interval) :
    range.fields = range.first ::
      List.range' (range.first + 1) (range.last - range.first) := by
  have hordered := hknown.ordered
  rw [TemporalRange.fields, show range.last + 1 - range.first =
    range.last - range.first + 1 by omega, List.range'_succ]

theorem place_integral_of_ne {other : Nat}
    (hother : other ≠ field ∨ field = fieldFraction) :
    (fields.place field digits).integral other = fields.integral other := by
  unfold TemporalFields.place
  split
  · rfl
  · rename_i hfraction
    exact Function.update_of_ne (hother.resolve_right hfraction) _ _

theorem place_integral_self (hfield : field ≠ fieldFraction) :
    (fields.place field digits).integral field = digitsValue digits := by
  rw [TemporalFields.place, if_neg hfield]
  exact Function.update_self ..

theorem place_nanosecond_of_ne (hfield : field ≠ fieldFraction) :
    (fields.place field digits).nanosecond = fields.nanosecond := by
  rw [TemporalFields.place, if_neg hfield]

theorem place_nanosecond :
    (fields.place fieldFraction digits).nanosecond =
      digitsValue digits * 10 ^ (9 - digits.length) := rfl

namespace Denotes

theorem shape (hdenotes : Denotes range interval remaining text fields out) :
    out.range = fields.range ∧ out.isNull = fields.isNull ∧
      out.negative = fields.negative := by
  induction hdenotes with
  | done => exact ⟨rfl, rfl, rfl⟩
  | field piece tail ih => simpa using ih

theorem integral_kept
    (hdenotes : Denotes range interval remaining text fields out)
    (hfield : field ∉ remaining ∨ field = fieldFraction) :
    out.integral field = fields.integral field := by
  induction hdenotes with
  | done => rfl
  | field piece tail ih =>
      rw [List.mem_cons, not_or] at hfield
      rw [ih (hfield.imp_left And.right)]
      apply place_integral_of_ne
      rcases hfield with ⟨hne, -⟩ | rfl
      · exact .inl hne
      · exact (eq_or_ne _ _).symm.imp id Eq.symm

theorem nanosecond_kept
    (hdenotes : Denotes range interval remaining text fields out)
    (hfield : fieldFraction ∉ remaining) :
    out.nanosecond = fields.nanosecond := by
  induction hdenotes with
  | done => rfl
  | field piece tail ih =>
      rw [List.mem_cons, not_or] at hfield
      rw [ih hfield.2, place_nanosecond_of_ne (Ne.symm hfield.1)]

/-- A fraction that is read is one of its precision. -/
theorem nanosecond_exact
    (hdenotes : Denotes range interval remaining text fields out)
    (hfield : fieldFraction ∈ remaining)
    (hprecision : range.fractionalDigits ≤ 9) :
    out.nanosecond < nanosecondsPerSecond ∧
      out.nanosecond % 10 ^ (9 - range.fractionalDigits) = 0 := by
  induction hdenotes with
  | done => simp at hfield
  | @field field remaining separator digits text fields out piece tail ih =>
      by_cases hlater : fieldFraction ∈ remaining
      · exact ih hlater
      · obtain rfl : fieldFraction = field :=
          (List.mem_cons.mp hfield).resolve_right hlater
        have hlength := piece.width.fraction
        have hlt := digitsValue_lt (List.all_eq_true.mpr piece.decimal)
        rw [tail.nanosecond_kept hlater, place_nanosecond, hlength]
        refine ⟨?_, Nat.mul_mod_left _ _⟩
        calc
          _ < 10 ^ range.fractionalDigits * 10 ^ (9 - range.fractionalDigits) :=
            Nat.mul_lt_mul_of_pos_right (hlength ▸ hlt) (by positivity)
          _ = nanosecondsPerSecond := by
            rw [← pow_add, Nat.add_sub_cancel' hprecision]
            rfl

theorem uint64 (hdenotes : Denotes range interval remaining text fields out)
    (hfields : ∀ field, fields.integral field ≤ uint64Max) :
    ∀ field, out.integral field ≤ uint64Max := by
  induction hdenotes with
  | done => exact hfields
  | @field field remaining separator digits text fields out piece tail ih =>
      apply ih
      intro other
      by_cases hother : other ≠ field ∨ field = fieldFraction
      · rw [place_integral_of_ne hother]
        exact hfields other
      · rw [not_or, not_not] at hother
        rw [hother.1, place_integral_self hother.2]
        exact piece.fits

/-- Behind the first field every text starts with a separator. -/
theorem noDigit (hdenotes : Denotes range interval remaining text fields out)
    (hfirst : range.first ∉ remaining) : NoDigit text := by
  cases hdenotes with
  | done => exact noDigit_nil
  | @field field remaining separator digits text fields out piece tail =>
      rw [List.mem_cons, not_or] at hfirst
      have hseparates := piece.separates
      rw [Separates, if_neg (Ne.symm hfirst.1)] at hseparates
      rcases hseparates with rfl | ⟨-, -, rfl⟩
      · rw [List.append_assoc, List.singleton_append, noDigit_cons]
        unfold fieldSeparator
        split <;> decide
      · rw [List.append_assoc, List.singleton_append, noDigit_cons]
        decide

/-- The text of the first field starts with a digit or a point, not a sign. -/
theorem unsigned
    (hdenotes : Denotes range interval (range.first :: remaining) text fields
      out) :
    ∃ byte rest, text = byte :: rest ∧ byte ≠ plus ∧ byte ≠ minus := by
  cases hdenotes with
  | @field field remaining separator digits text fields out piece tail =>
      have hseparates := piece.separates
      rw [Separates, if_pos rfl] at hseparates
      by_cases hfraction : range.first = fieldFraction
      · rw [if_pos hfraction] at hseparates
        rcases hseparates with rfl | rfl
        · exact ⟨point, _, rfl, by decide, by decide⟩
        · exact ⟨zero, _, rfl, by decide, by decide⟩
      · rw [if_neg hfraction] at hseparates
        subst hseparates
        have hpositive : digits ≠ [] := by
          have hwidth := piece.width
          rintro rfl
          simp only [Width, if_neg hfraction, List.length_nil] at hwidth
          split at hwidth
          · omega
          · split at hwidth <;> omega
        obtain ⟨byte, digits, rfl⟩ := List.exists_cons_of_ne_nil hpositive
        have hbyte := piece.decimal byte List.mem_cons_self
        refine ⟨byte, digits ++ text, rfl, ?_, ne_minus_of_isDigit hbyte⟩
        rintro rfl
        exact absurd hbyte (by decide)

end Denotes

/-! The parser accepts the grammar. -/

theorem parseEach_ok_iff (hrange : fields.range = range)
    (hprecision : range.fractionalDigits ≤ 9)
    (hfirst : range.first ∉ remaining.tail) :
    parseEach interval remaining fields text = .ok (out, []) ↔
      Denotes range interval remaining text fields out := by
  induction remaining generalizing fields text with
  | nil =>
      simp only [parseEach, Except.ok.injEq, Prod.mk.injEq]
      constructor
      · rintro ⟨rfl, rfl⟩
        exact .done
      · rintro ⟨⟩
        exact ⟨rfl, rfl⟩
  | cons field remaining ih =>
      have htail : range.first ∉ remaining.tail := fun member =>
        hfirst (List.mem_of_mem_tail member)
      have hplaced : ∀ digits, (fields.place field digits).range = range :=
        fun digits => by rw [place_range, hrange]
      constructor
      · intro hparse
        rw [parseEach] at hparse
        cases hfield : parseField interval field fields text with
        | error status => simp [hfield] at hparse
        | ok result =>
            obtain ⟨next, rest⟩ := result
            obtain ⟨separator, digits, rfl, piece, -, rfl⟩ :=
              (parseField_ok_iff (hrange ▸ hprecision)).mp hfield
            simp only [hfield] at hparse
            exact .field (hrange ▸ piece) ((ih (hplaced digits) htail).mp hparse)
      · rintro ⟨⟩
        rename_i separator digits text piece tail
        have hfield : parseField interval field fields
            (separator ++ digits ++ text) =
              .ok (fields.place field digits, text) :=
          (parseField_ok_iff (hrange ▸ hprecision)).mpr
            ⟨separator, digits, rfl, hrange ▸ piece, tail.noDigit hfirst, rfl⟩
        rw [parseEach, hfield]
        exact (ih (hplaced digits) htail).mpr tail

theorem readSign_ok_iff {sign body : List UInt8} {negative : Bool}
    (hsign : SignText interval sign negative)
    (hbody : interval = true → sign = [] →
      ∃ byte rest, body = byte :: rest ∧ byte ≠ plus ∧ byte ≠ minus) :
    readSign interval (sign ++ body) = (negative, body) := by
  rcases hsign with ⟨rfl, rfl⟩ | ⟨rfl, ⟨rfl, rfl⟩ | ⟨rfl, rfl⟩⟩
  · cases hinterval : interval with
    | true =>
        obtain ⟨byte, rest, rfl, hplus, hminus⟩ := hbody hinterval rfl
        simp [readSign, hplus, hminus]
    | false => cases body <;> simp [readSign]
  · rfl
  · rfl

theorem readSign_spec (interval : Bool) (text : List UInt8) :
    ∃ sign, SignText interval sign (readSign interval text).1 ∧
      text = sign ++ (readSign interval text).2 := by
  cases text with
  | nil => exact ⟨[], .inl ⟨rfl, rfl⟩, rfl⟩
  | cons byte rest =>
      rw [readSign]
      split
      · rename_i hsign
        obtain ⟨hinterval, rfl | rfl⟩ := hsign
        · exact ⟨[plus], .inr ⟨hinterval, .inl ⟨rfl, rfl⟩⟩, rfl⟩
        · exact ⟨[minus], .inr ⟨hinterval, .inr ⟨rfl, rfl⟩⟩, rfl⟩
      · exact ⟨[], .inl ⟨rfl, rfl⟩, rfl⟩

theorem TemporalRange.first_not_mem_tail (range : TemporalRange) :
    range.first ∉ range.fields.tail := by
  rw [TemporalRange.fields, List.tail_range']
  intro member
  have := (List.mem_range'_1.mp member).1
  omega

/-- The fields that a text of the grammar stands for hold nothing else. -/
structure Spelled (range : TemporalRange) (fields : TemporalFields) : Prop where
  range_eq : fields.range = range
  present : fields.isNull = false
  outside : ∀ field, field ∉ range.fields ∨ field = fieldFraction →
    fields.integral field = 0
  no_fraction : range.last ≠ fieldFraction → fields.nanosecond = 0
  fraction : range.last = fieldFraction →
    fields.nanosecond < nanosecondsPerSecond ∧
      fields.nanosecond % 10 ^ (9 - range.fractionalDigits) = 0

theorem Spells.spelled (hspells : Spells range interval text fields)
    (hknown : range.Known interval) : Spelled range fields := by
  obtain ⟨sign, body, negative, -, -, hdenotes⟩ := hspells
  obtain ⟨hrange, hnull, -⟩ := hdenotes.shape
  have hordered := hknown.ordered
  have hlast := hknown.last_le
  refine ⟨hrange, hnull, fun field hfield => ?_, fun hfraction => ?_,
    fun hfraction => ?_⟩
  · exact hdenotes.integral_kept hfield
  · refine hdenotes.nanosecond_kept fun member => ?_
    have := (TemporalRange.mem_fields.mp member).2
    omega
  · exact hdenotes.nanosecond_exact (TemporalRange.mem_fields.mpr (by omega))
      hknown.precision_le

/-- Validation adds the limits and nothing else. -/
theorem validateFields_spelled (hknown : range.Known interval)
    (hspelled : Spelled range fields) :
    validateFields fields interval = .ok ↔ Limits fields interval := by
  obtain ⟨hrange, hnull, houtside, hwhole, hfraction⟩ := hspelled
  rw [validateFields_ok_iff hnull]
  subst hrange
  constructor
  · intro hvalid
    refine ⟨fun field member hfirst hlast hleading => ?_,
      fun hcalendar hmonth hday => ?_⟩
    · have hfield := hvalid.fields_ok field member
      rw [validateField, if_neg (by omega), if_neg hleading] at hfield
      by_contra hlimits
      rw [if_pos (by omega)] at hfield
      cases hfield
    · have hdays := hvalid.day_ok
      by_contra hlarge
      rw [validateDay, if_pos ⟨by simpa using hcalendar, hmonth, hday,
        by omega⟩] at hdays
      cases hdays
  · intro hlimits
    refine ⟨validateRange_ok_iff.mpr hknown, fun field member => ?_, ?_, ?_⟩
    · unfold validateField
      by_cases hfield : field < fields.range.first ∨ fields.range.last < field
      · have hzero := houtside field (.inl fun member => by
          have := TemporalRange.mem_fields.mp member
          omega)
        rw [if_pos hfield, if_neg (by simp [hzero])]
      · rw [if_neg hfield]
        by_cases hleading : interval = true ∧ field = fields.range.first
        · rw [if_pos hleading]
        · have := hlimits.within field member (by omega) (by omega) hleading
          rw [if_neg hleading, if_neg (by omega)]
    · unfold validateDay
      rw [if_neg]
      rintro ⟨hcalendar, hmonth, hday, hlarge⟩
      have := hlimits.day_exists (by simpa using hcalendar) hmonth hday
      omega
    · unfold validateNanosecond
      by_cases hlast : fields.range.last = fieldFraction
      · obtain ⟨hlt, hexact⟩ := hfraction hlast
        rw [if_neg (by simp [hlast]), if_neg (by omega), if_neg (by omega)]
      · rw [if_pos hlast, if_pos (hwhole hlast)]

/-- What the parser accepts: a text of the grammar, within the limits. -/
theorem parseFields_ok_iff (hknown : range.Known interval) :
    parseFields range text interval = .ok fields ↔
      text.length ≤ temporalMaxText ∧ Spells range interval text fields ∧
        Limits fields interval := by
  have hfirst := range.first_not_mem_tail
  have hread : ∀ negative body out, parseEach interval range.fields
      { blankFields range with negative } body = .ok (out, []) ↔
        Denotes range interval range.fields body
          { blankFields range with negative } out :=
    fun negative body out =>
      parseEach_ok_iff rfl hknown.precision_le hfirst
  constructor
  · intro hparse
    unfold parseFields at hparse
    split at hparse
    · cases hparse
    split at hparse
    · cases hparse
    rename_i hlength
    cases heach : parseEach interval range.fields
        { blankFields range with negative := (readSign interval text).1 }
        (readSign interval text).2 with
    | error status => simp [heach] at hparse
    | ok result =>
        obtain ⟨out, rest⟩ := result
        simp only [heach] at hparse
        split at hparse
        · cases hparse
        rename_i hrest
        rw [not_not] at hrest
        subst hrest
        obtain ⟨sign, hsign, htext⟩ := readSign_spec interval text
        have hspells : Spells range interval text out :=
          ⟨sign, _, _, htext, hsign, (hread _ _ _).mp heach⟩
        cases hvalid : validateFields out interval <;>
          simp only [hvalid, Except.ok.injEq, reduceCtorEq] at hparse
        subst hparse
        exact ⟨by omega, hspells,
          (validateFields_spelled hknown (hspells.spelled hknown)).mp hvalid⟩
  · rintro ⟨hlength, hspells, hlimits⟩
    have hvalid := (validateFields_spelled hknown
      (hspells.spelled hknown)).mpr hlimits
    obtain ⟨sign, body, negative, rfl, hsign, hdenotes⟩ := hspells
    have hunsigned := (hknown.fields_eq ▸ hdenotes).unsigned
    have hsigned := readSign_ok_iff hsign fun _ _ => hunsigned
    have hnonempty : sign ++ body ≠ [] := by
      obtain ⟨byte, rest, rfl, -⟩ := hunsigned
      simp
    rw [parseFields, if_neg (by simp [validateRange_ok_iff.mpr hknown,
      hnonempty]), if_neg (by omega), hsigned]
    simp only [(hread _ _ _).mpr hdenotes, hvalid, ne_eq, not_true_eq_false,
      if_false]

/-! No error is a success. -/

theorem readDigits_error (maximum count value : Nat) (text : List UInt8) :
    readDigits maximum count value text ≠ .error .ok := by
  induction text generalizing count value with
  | nil => simp [readDigits]
  | cons byte text ih =>
      rw [readDigits]
      split
      · split
        · simp
        · split
          · simp
          · exact ih _ _
      · simp

theorem readNumber_error (minimum maximum : Nat) (text : List UInt8) :
    readNumber minimum maximum text ≠ .error .ok := by
  have hdigits := readDigits_error maximum 0 0 text
  unfold readNumber
  split
  · rename_i status hstatus
    rw [hstatus] at hdigits
    simpa using hdigits
  · split <;> simp

theorem readSeparator_error (range : TemporalRange) (interval : Bool)
    (field : Nat) (text : List UInt8) :
    readSeparator range interval field text ≠ .error .ok := by
  unfold readSeparator
  split
  · split
    · simp
    · split <;> simp
  · simp

theorem parseField_error (interval : Bool) (field : Nat)
    (fields : TemporalFields) (text : List UInt8) :
    parseField interval field fields text ≠ .error .ok := by
  have hseparator := readSeparator_error fields.range interval field text
  unfold parseField
  split
  · rename_i status hstatus
    rw [hstatus] at hseparator
    simpa using hseparator
  · rename_i rest _
    have hnumber := readNumber_error
      (fieldDigits fields.range interval field).1
      (fieldDigits fields.range interval field).2 rest
    split
    · rename_i status hstatus
      rw [hstatus] at hnumber
      simpa using hnumber
    · unfold storeField
      split
      · rename_i status hstatus
        split at hstatus
        · split at hstatus
          · cases hstatus
            simp
          · cases hstatus
        · cases hstatus
      · simp

theorem parseEach_error (interval : Bool) (remaining : List Nat)
    (fields : TemporalFields) (text : List UInt8) :
    parseEach interval remaining fields text ≠ .error .ok := by
  induction remaining generalizing fields text with
  | nil => simp [parseEach]
  | cons field remaining ih =>
      have hfield := parseField_error interval field fields text
      rw [parseEach]
      split
      · rename_i status hstatus
        rw [hstatus] at hfield
        simpa using hfield
      · exact ih _ _

theorem parseFields_error (range : TemporalRange) (text : List UInt8)
    (interval : Bool) : parseFields range text interval ≠ .error .ok := by
  have heach := parseEach_error interval range.fields
    { blankFields range with negative := (readSign interval text).1 }
    (readSign interval text).2
  unfold parseFields
  split
  · simp
  split
  · simp
  split
  · rename_i status hstatus
    rw [hstatus] at heach
    simpa using heach
  · split
    · simp
    · split
      · simp
      · rename_i hfailure
        simpa using hfailure

end Libsqli.Temporal
