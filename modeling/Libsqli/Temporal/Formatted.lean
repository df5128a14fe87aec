import Libsqli.Temporal.ParseGrammar

namespace Libsqli

namespace Temporal

open Libsqli.Data.Numeral

variable {range : TemporalRange} {interval : Bool} {field : Nat}
  {writer : List UInt8} {fields acc : TemporalFields} {remaining : List Nat}

/-! What the formatter writes for each field. -/

def TemporalFields.separator (fields : TemporalFields) (interval : Bool)
    (field : Nat) : List UInt8 :=
  if field ≠ fields.range.first ∨ field = fieldFraction then
    [fieldSeparator field (separatorIso fields.range interval)]
  else []

def TemporalFields.digits (fields : TemporalFields) (interval : Bool)
    (field : Nat) : List UInt8 :=
  printPadded (formatWidth fields.range interval field)
    (fields.magnitude field)

def TemporalFields.body (fields : TemporalFields) (interval : Bool)
    (remaining : List Nat) : List UInt8 :=
  remaining.flatMap fun field =>
    fields.separator interval field ++ fields.digits interval field

def TemporalFields.text (fields : TemporalFields) (interval : Bool) :
    List UInt8 :=
  (if fields.negative then [minus] else []) ++
    fields.body interval fields.range.fields

theorem writeCharacter_ok (hroom : writer.length < temporalMaxText) :
    writeCharacter writer byte = .ok (writer ++ [byte]) := by
  rw [writeCharacter, if_neg (Nat.not_le.mpr hroom)]

theorem writeNumber_ok
    (hroom : writer.length + (printPadded width value).length ≤
      temporalMaxText) :
    writeNumber writer value width =
      .ok (writer ++ printPadded width value) := by
  rw [writeNumber, if_neg (by omega)]

theorem formatField_ok
    (hroom : writer.length + (fields.separator interval field).length +
      (fields.digits interval field).length ≤ temporalMaxText) :
    formatField interval fields field writer =
      .ok (writer ++ (fields.separator interval field ++
        fields.digits interval field)) := by
  unfold formatField
  unfold TemporalFields.separator TemporalFields.digits at hroom ⊢
  split
  · rename_i hbehind
    rw [if_pos hbehind, List.length_singleton] at hroom
    rw [writeCharacter_ok (by omega)]
    simp only
    rw [writeNumber_ok (by rw [List.length_append, List.length_singleton]
                           exact hroom), List.append_assoc]
  · rename_i hfirst
    rw [if_neg hfirst, List.length_nil, Nat.add_zero] at hroom
    rw [writeNumber_ok hroom, List.nil_append]

/-- The writer takes every field that it has room for. -/
theorem formatEach_ok
    (hroom : writer.length + (fields.body interval remaining).length ≤
      temporalMaxText) :
    formatEach interval fields remaining writer =
      .ok (writer ++ fields.body interval remaining) := by
  induction remaining generalizing writer with
  | nil => simp [formatEach, TemporalFields.body]
  | cons field remaining ih =>
      have hbody : fields.body interval (field :: remaining) =
          (fields.separator interval field ++ fields.digits interval field) ++
            fields.body interval remaining := rfl
      rw [hbody] at hroom ⊢
      simp only [List.length_append] at hroom
      rw [formatEach, formatField_ok (by omega)]
      simp only
      rw [ih (by simp only [List.length_append]; omega), List.append_assoc]

theorem formatFields_ok
    (hroom : (fields.text interval).length ≤ temporalMaxText) :
    formatFields fields interval = .ok (fields.text interval) := by
  unfold formatFields
  unfold TemporalFields.text at hroom ⊢
  cases hnegative : fields.negative with
  | true =>
      rw [hnegative, if_pos rfl, List.length_append] at hroom
      rw [if_pos rfl, if_pos rfl, writeCharacter_ok (by decide)]
      simp only
      rw [List.nil_append, formatEach_ok hroom]
  | false =>
      rw [hnegative, if_neg (by decide), List.nil_append] at hroom
      rw [if_neg (by decide), if_neg (by decide),
        formatEach_ok (by simpa using hroom)]

/-! Each field is written with the width that the grammar asks for. -/

namespace Parsed

theorem magnitude_lt (hparsed : Parsed range interval fields)
    (hfield : field ∈ range.fields)
    (hshort : field = fieldFraction ∨
      ¬ (interval = true ∧ field = range.first)) :
    fields.magnitude field < 10 ^ formatWidth range interval field := by
  have hbounds := TemporalRange.mem_fields.mp hfield
  have hrange := hparsed.spelled.range_eq
  have hlow := hparsed.known.first_pos
  have hhigh := hparsed.known.last_le
  unfold TemporalFields.magnitude formatWidth
  by_cases hfraction : field = fieldFraction
  · have hprecision := hparsed.known.precision_le
    have hlt := (hparsed.spelled.fraction (by omega)).1
    rw [if_pos hfraction, if_pos hfraction, hrange,
      Nat.div_lt_iff_lt_mul (by positivity), ← pow_add,
      Nat.add_sub_cancel' hprecision]
    exact hlt
  · have hleading := hshort.resolve_left hfraction
    have hmember : field ∈ integralFields := by
      simp only [integralFields, List.mem_cons, List.not_mem_nil, or_false,
        fieldYear, fieldMonth, fieldDay, fieldHour, fieldMinute, fieldSecond,
        fieldFraction] at *
      omega
    have hyear : interval = true → field ≠ fieldYear := fun hinterval hyear =>
      hleading ⟨hinterval, by omega⟩
    have hmaximum := hparsed.checked.bounded hmember
      (by rw [hrange]; omega) (by rwa [hrange])
    rw [if_neg hfraction, if_neg hfraction, if_neg hleading]
    refine lt_of_le_of_lt hmaximum ?_
    cases interval with
    | false =>
        have hall : ∀ field ∈ integralFields, fieldMaximum false field <
            10 ^ if (!false) = true ∧ field = fieldYear then calendarYearDigits
              else calendarFieldDigits := by decide
        exact hall field hmember
    | true =>
        have hall : ∀ field ∈ integralFields, field ≠ fieldYear →
            fieldMaximum true field <
              10 ^ if (!true) = true ∧ field = fieldYear then
                calendarYearDigits else calendarFieldDigits := by decide
        exact hall field hmember (hyear rfl)

/-- Twenty digits hold every 64-bit field. -/
theorem leading_length_le (hparsed : Parsed range interval fields)
    (hinteger : field ≠ fieldFraction) :
    (printDigits (fields.magnitude field)).length ≤ 20 := by
  have hfits := hparsed.uint64 field
  have hmax : uint64Max < 10 ^ 20 := by decide
  rw [TemporalFields.magnitude, if_neg hinteger]
  exact length_printDigits_le (by decide) (by omega)

theorem formatWidth_pos (hknown : range.Known interval)
    (hfield : field ∈ range.fields) : 0 < formatWidth range interval field := by
  have hbounds := TemporalRange.mem_fields.mp hfield
  have hprecision := hknown.precision
  have hlast := hknown.last_le
  unfold formatWidth
  split
  · rw [if_pos (by omega)] at hprecision
    exact hprecision.1
  · split
    · decide
    · split <;> decide

theorem length_digits (hparsed : Parsed range interval fields)
    (hfield : field ∈ range.fields)
    (hshort : field = fieldFraction ∨
      ¬ (interval = true ∧ field = range.first)) :
    (fields.digits interval field).length =
      formatWidth range interval field := by
  rw [TemporalFields.digits, hparsed.spelled.range_eq,
    length_printPadded_of_lt (formatWidth_pos hparsed.known hfield)
      (hparsed.magnitude_lt hfield hshort)]

theorem length_leading_digits (hparsed : Parsed range interval fields)
    (hinteger : field ≠ fieldFraction)
    (hleading : interval = true ∧ field = range.first) :
    1 ≤ (fields.digits interval field).length ∧
      (fields.digits interval field).length ≤ 20 := by
  have hlength := hparsed.leading_length_le hinteger
  have hpositive := length_printDigits_pos (fields.magnitude field)
  have hwidth : formatWidth range interval field = 1 := by
    rw [formatWidth, if_neg hinteger, if_pos hleading]
  rw [TemporalFields.digits, hparsed.spelled.range_eq, length_printPadded,
    hwidth]
  omega

theorem width (hparsed : Parsed range interval fields)
    (hfield : field ∈ range.fields) :
    Width range interval field (fields.digits interval field).length := by
  by_cases hfraction : field = fieldFraction
  · rw [hparsed.length_digits hfield (.inl hfraction)]
    simp [Width, formatWidth, hfraction]
  · by_cases hleading : interval = true ∧ field = range.first
    · rw [Width, if_neg hfraction, if_pos hleading]
      exact hparsed.length_leading_digits hfraction hleading
    · rw [hparsed.length_digits hfield (.inr hleading), Width, formatWidth,
        if_neg hfraction, if_neg hfraction, if_neg hleading, if_neg hleading]
      cases interval <;> by_cases hyear : field = fieldYear <;>
        simp [hyear, calendarYearDigits, calendarFieldDigits]

theorem digits_fit (hparsed : Parsed range interval fields)
    (hfield : field ∈ range.fields) :
    digitsValue (fields.digits interval field) ≤ uint64Max := by
  rw [TemporalFields.digits, digitsValue_printPadded]
  by_cases hfraction : field = fieldFraction
  · have hlt := hparsed.magnitude_lt hfield (.inl hfraction)
    have hprecision := hparsed.known.precision_le
    rw [formatWidth, if_pos hfraction] at hlt
    have hpower : 10 ^ range.fractionalDigits ≤ 10 ^ 9 :=
      Nat.pow_le_pow_right (by decide) hprecision
    have hmax : 10 ^ 9 ≤ uint64Max := by decide
    omega
  · rw [TemporalFields.magnitude, if_neg hfraction]
    exact hparsed.uint64 field

theorem separates (hparsed : Parsed range interval fields) :
    Separates range interval field (fields.separator interval field) := by
  unfold Separates TemporalFields.separator
  rw [hparsed.spelled.range_eq]
  by_cases hfirst : field = range.first
  · subst hfirst
    rw [if_pos rfl]
    by_cases hfraction : range.first = fieldFraction
    · rw [if_pos hfraction, if_pos (.inr hfraction), hfraction]
      exact .inl rfl
    · rw [if_neg hfraction, if_neg (by simp [hfraction])]
  · rw [if_neg hfirst, if_pos (.inl hfirst)]
    by_cases hhour : field = fieldHour ∧ separatorIso range interval = true
    · obtain ⟨rfl, hiso⟩ := hhour
      rw [hiso]
      simp only [separatorIso, Bool.and_eq_true, Bool.not_eq_true'] at hiso
      exact .inr ⟨rfl, hiso.1, rfl⟩
    · refine .inl ?_
      unfold fieldSeparator
      split <;> simp_all

theorem fieldText (hparsed : Parsed range interval fields)
    (hfield : field ∈ range.fields) :
    FieldText range interval field (fields.separator interval field)
      (fields.digits interval field) where
  separates := hparsed.separates
  decimal := isDigit_printPadded _ _
  width := hparsed.width hfield
  fits := hparsed.digits_fit hfield

/-! The text denotes the fields it was written from. -/

/-- What has been read so far: everything but the fields that remain. -/
structure Agrees (remaining : List Nat) (acc fields : TemporalFields) :
    Prop where
  range_eq : acc.range = fields.range
  negative_eq : acc.negative = fields.negative
  isNull_eq : acc.isNull = fields.isNull
  integral_eq : ∀ field, field ∉ remaining ∨ field = fieldFraction →
    acc.integral field = fields.integral field
  nanosecond_eq : fieldFraction ∉ remaining →
    acc.nanosecond = fields.nanosecond

theorem agrees_nil (hagrees : Agrees [] acc fields) : acc = fields := by
  obtain ⟨hrange, hnegative, hnull, hintegral, hnanosecond⟩ := hagrees
  have htable : acc.integral = fields.integral :=
    funext fun field => hintegral field (.inl List.not_mem_nil)
  have hfraction := hnanosecond List.not_mem_nil
  cases acc
  cases fields
  simp_all

theorem agrees_place (hparsed : Parsed range interval fields)
    (hfield : field ∈ range.fields)
    (hagrees : Agrees (field :: remaining) acc fields) :
    Agrees remaining (acc.place field (fields.digits interval field))
      fields := by
  refine ⟨by simpa using hagrees.range_eq, by simpa using hagrees.negative_eq,
    by simpa using hagrees.isNull_eq, fun other hother => ?_, fun hlast => ?_⟩
  · by_cases hkept : other ≠ field ∨ field = fieldFraction
    · rw [place_integral_of_ne hkept]
      apply hagrees.integral_eq
      rcases hother with hother | hother
      · by_cases hsame : other = field
        · exact .inr (hsame.trans (hkept.resolve_left (not_not.mpr hsame)))
        · exact .inl (by simp [hsame, hother])
      · exact .inr hother
    · rw [not_or, not_not] at hkept
      obtain ⟨rfl, hinteger⟩ := hkept
      rw [place_integral_self hinteger, TemporalFields.digits,
        digitsValue_printPadded, TemporalFields.magnitude, if_neg hinteger]
  · by_cases hfraction : field = fieldFraction
    · subst hfraction
      have hbounds := TemporalRange.mem_fields.mp hfield
      have hexact := (hparsed.spelled.fraction (by
        have := hparsed.known.last_le
        omega)).2
      rw [place_nanosecond, (hparsed.width hfield).fraction,
        TemporalFields.digits, digitsValue_printPadded,
        TemporalFields.magnitude, if_pos rfl, hparsed.spelled.range_eq,
        Nat.div_mul_cancel (Nat.dvd_of_mod_eq_zero hexact)]
    · rw [place_nanosecond_of_ne hfraction]
      exact hagrees.nanosecond_eq (by simp [Ne.symm hfraction, hlast])

theorem denotes (hparsed : Parsed range interval fields)
    (hremaining : ∀ field ∈ remaining, field ∈ range.fields)
    (hagrees : Agrees remaining acc fields) :
    Denotes range interval remaining (fields.body interval remaining) acc
      fields := by
  induction remaining generalizing acc with
  | nil =>
      rw [agrees_nil hagrees]
      exact .done
  | cons field remaining ih =>
      have hfield := hremaining field List.mem_cons_self
      exact .field (hparsed.fieldText hfield)
        (ih (fun other member =>
          hremaining other (List.mem_cons_of_mem _ member))
          (hparsed.agrees_place hfield hagrees))

theorem spells (hparsed : Parsed range interval fields) :
    Spells range interval (fields.text interval) fields := by
  refine ⟨_, _, fields.negative, rfl, ?_, ?_⟩
  · cases hnegative : fields.negative with
    | false => exact .inl ⟨by simp, rfl⟩
    | true =>
        cases interval with
        | false => simp [hparsed.unsigned rfl] at hnegative
        | true => exact .inr ⟨rfl, .inr ⟨by simp, rfl⟩⟩
  · rw [hparsed.spelled.range_eq]
    refine hparsed.denotes (fun _ member => member)
      ⟨hparsed.spelled.range_eq.symm, rfl, hparsed.spelled.present.symm,
        fun field hfield => (hparsed.spelled.outside field hfield).symm,
        fun hnone => ?_⟩
    refine (hparsed.spelled.no_fraction fun hlast => hnone ?_).symm
    have := hparsed.known.ordered
    exact TemporalRange.mem_fields.mpr (by omega)

/-! The text fits the writer. -/

/-- Characters of a field behind the first and of its separator. -/
def pieceBound (field : Nat) : Nat := if field = fieldFraction then 10 else 5

theorem length_separator_le (fields : TemporalFields) (interval : Bool)
    (field : Nat) : (fields.separator interval field).length ≤ 1 := by
  unfold TemporalFields.separator
  split <;> simp

theorem piece_length_le (hparsed : Parsed range interval fields)
    (hfield : field ∈ range.fields)
    (hshort : field = fieldFraction ∨
      ¬ (interval = true ∧ field = range.first)) :
    (fields.separator interval field ++ fields.digits interval field).length ≤
      pieceBound field := by
  have hseparator := length_separator_le fields interval field
  have hprecision := hparsed.known.precision_le
  rw [List.length_append, hparsed.length_digits hfield hshort]
  unfold formatWidth pieceBound
  split
  · omega
  · split
    · omega
    · split
      · simp only [calendarYearDigits]
        omega
      · simp only [calendarFieldDigits]
        omega

theorem first_length_le (hparsed : Parsed range interval fields)
    (hfield : range.first ∈ range.fields) :
    (fields.separator interval range.first ++
      fields.digits interval range.first).length ≤ 20 := by
  by_cases hleading : range.first = fieldFraction ∨ ¬ interval = true
  · have hpiece := hparsed.piece_length_le hfield
      (hleading.imp_right fun hcalendar hboth => hcalendar hboth.1)
    have hbound : pieceBound range.first ≤ 10 := by
      unfold pieceBound
      split <;> omega
    omega
  · rw [not_or, not_not] at hleading
    have hdigits := hparsed.length_leading_digits hleading.1
      ⟨hleading.2, rfl⟩
    have hnone : fields.separator interval range.first = [] := by
      rw [TemporalFields.separator, hparsed.spelled.range_eq,
        if_neg (by simp [hleading.1])]
    rw [hnone, List.nil_append]
    exact hdigits.2

theorem body_length_le (hpieces : ∀ field ∈ remaining,
    (fields.separator interval field ++ fields.digits interval field).length ≤
      pieceBound field) :
    (fields.body interval remaining).length ≤
      (remaining.map pieceBound).sum := by
  induction remaining with
  | nil => exact Nat.le_refl _
  | cons field remaining ih =>
      have hhead := hpieces field List.mem_cons_self
      have htail := ih fun other member =>
        hpieces other (List.mem_cons_of_mem _ member)
      rw [TemporalFields.body, List.flatMap_cons, List.length_append,
        List.map_cons, List.sum_cons]
      exact Nat.add_le_add hhead htail

theorem tail_bound (hknown : range.Known interval) :
    ((List.range' (range.first + 1) (range.last - range.first)).map
      pieceBound).sum ≤ 35 := by
  have hall : ∀ first ∈ List.range' 1 7, ∀ last ∈ List.range' 1 7,
      ((List.range' (first + 1) (last - first)).map pieceBound).sum ≤ 35 := by
    decide
  have hfirst := hknown.first_pos
  have hordered := hknown.ordered
  have hlast := hknown.last_le
  simp only [fieldYear, fieldFraction] at hfirst hlast
  exact hall _ (List.mem_range'_1.mpr (by omega)) _
    (List.mem_range'_1.mpr (by omega))

/-- A sign, a leading field of up to twenty digits and at most six others. -/
theorem text_length_le (hparsed : Parsed range interval fields) :
    (fields.text interval).length ≤ 56 := by
  have hordered := hparsed.known.ordered
  have htail : (fields.body interval
      (List.range' (range.first + 1) (range.last - range.first))).length ≤
        35 := by
    refine (body_length_le fun field member => ?_).trans
      (tail_bound hparsed.known)
    have hbehind := (List.mem_range'_1.mp member).1
    have hbefore := (List.mem_range'_1.mp member).2
    exact hparsed.piece_length_le (TemporalRange.mem_fields.mpr (by omega))
      (.inr fun hleading => by omega)
  have hfirst := hparsed.first_length_le
    (TemporalRange.mem_fields.mpr (by omega))
  have hsign : (if fields.negative then [minus] else []).length ≤ 1 := by
    split <;> simp
  have hbody : (fields.body interval range.fields).length ≤ 55 := by
    rw [hparsed.known.fields_eq, TemporalFields.body, List.flatMap_cons,
      List.length_append]
    exact Nat.add_le_add hfirst htail
  rw [TemporalFields.text, List.length_append, hparsed.spelled.range_eq]
  omega

theorem writes (hparsed : Parsed range interval fields) :
    Writes range interval (fields.text interval) fields where
  length_le := hparsed.text_length_le.trans (by decide)
  spells := hparsed.spells
  limits := (validateFields_spelled hparsed.known hparsed.spelled).mp
    hparsed.valid

theorem formatFields_eq (hparsed : Parsed range interval fields) :
    formatFields fields interval = .ok (fields.text interval) :=
  formatFields_ok (hparsed.text_length_le.trans (by decide))

/-- Formatting delivers the text, whatever the buffer has room for. -/
theorem formatValue_eq (hparsed : Parsed range interval fields)
    (out : FormatOutputs) :
    formatValue fields interval false out =
      out.deliver (fields.text interval).length (fields.text interval) := by
  rw [formatValue, hparsed.valid]
  simp only [hparsed.spelled.present, hparsed.formatFields_eq,
    Bool.false_eq_true, false_and, if_false]

end Parsed

end Temporal

end Libsqli
