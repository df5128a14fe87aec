import Libsqli.Temporal.Parsing

namespace Libsqli

namespace Temporal

open Libsqli.Data.Ctype
open Libsqli.Data.Numeral

/-! Complete timestamps: the digits of every field from the year on. -/

structure Timestamp where
  year : List UInt8
  month : List UInt8
  day : List UInt8
  hour : List UInt8
  minute : List UInt8
  second : List UInt8
  fraction : List UInt8

namespace Timestamp

/-- `YYYY-MM-DD`, a separator, `hh:mm:ss` and an optional fraction. -/
def text (separator : UInt8) (stamp : Timestamp) : List UInt8 :=
  stamp.year ++ minus :: stamp.month ++ minus :: stamp.day ++
    separator :: stamp.hour ++ colon :: stamp.minute ++ colon :: stamp.second ++
    if stamp.fraction = [] then [] else point :: stamp.fraction

theorem text_nested (separator : UInt8) {stamp : Timestamp}
    (hfraction : stamp.fraction ≠ []) :
    stamp.text separator = stamp.year ++ minus :: (stamp.month ++ minus ::
      (stamp.day ++ separator :: (stamp.hour ++ colon :: (stamp.minute ++
        colon :: (stamp.second ++ point :: stamp.fraction))))) := by
  rw [text, if_neg hfraction]
  simp only [List.append_assoc, List.cons_append]

structure Wellformed (stamp : Timestamp) : Prop where
  decimal : ∀ digits ∈ [stamp.year, stamp.month, stamp.day, stamp.hour,
    stamp.minute, stamp.second, stamp.fraction],
      ∀ byte ∈ digits, isDigit byte = true
  year_length : stamp.year.length = 4
  month_length : stamp.month.length = 2
  day_length : stamp.day.length = 2
  hour_length : stamp.hour.length = 2
  minute_length : stamp.minute.length = 2
  second_length : stamp.second.length = 2
  fraction_length : stamp.fraction.length ≤ 9

def range (stamp : Timestamp) : TemporalRange :=
  if stamp.fraction = [] then ⟨fieldYear, fieldSecond, 0⟩
  else ⟨fieldYear, fieldFraction, stamp.fraction.length⟩

def fields (stamp : Timestamp) : TemporalFields where
  range := stamp.range
  integral := fieldTable (digitsValue stamp.year) (digitsValue stamp.month)
    (digitsValue stamp.day) (digitsValue stamp.hour)
    (digitsValue stamp.minute) (digitsValue stamp.second)
  nanosecond := digitsValue stamp.fraction * 10 ^ (9 - stamp.fraction.length)
  negative := false
  isNull := false

end Timestamp

variable {range : TemporalRange} {interval : Bool} {field : Nat}
  {remaining : List Nat} {text separator digits : List UInt8}
  {fields out : TemporalFields}

theorem denotes_nil_iff :
    Denotes range interval [] text fields out ↔ text = [] ∧ out = fields := by
  constructor
  · rintro ⟨⟩
    exact ⟨rfl, rfl⟩
  · rintro ⟨rfl, rfl⟩
    exact .done

theorem denotes_cons_iff :
    Denotes range interval (field :: remaining) text fields out ↔
      ∃ separator digits tail, text = separator ++ digits ++ tail ∧
        FieldText range interval field separator digits ∧
        Denotes range interval remaining tail (fields.place field digits)
          out := by
  constructor
  · rintro ⟨⟩
    rename_i separator digits tail piece rest
    exact ⟨separator, digits, tail, rfl, piece, rest⟩
  · rintro ⟨separator, digits, tail, rfl, piece, rest⟩
    exact .field piece rest

theorem digitsValue_fits (hdigits : ∀ byte ∈ digits, isDigit byte = true)
    (hlength : digits.length ≤ 19) : digitsValue digits ≤ uint64Max := by
  have hlt := digitsValue_lt (List.all_eq_true.mpr hdigits)
  have hpower : 10 ^ digits.length ≤ 10 ^ 19 :=
    Nat.pow_le_pow_right (by decide) hlength
  have hmax : 10 ^ 19 ≤ uint64Max := by decide
  omega

/-- Pieces of a fixed width are told by their separator, digits and length. -/
theorem fieldText_iff_of_width (count : Nat) (hcount : count ≤ 19)
    (hwidth : Width range interval field digits.length ↔
      digits.length = count) :
    FieldText range interval field separator digits ↔
      Separates range interval field separator ∧
        (∀ byte ∈ digits, isDigit byte = true) ∧ digits.length = count := by
  constructor
  · rintro ⟨hseparates, hdigits, hlength, -⟩
    exact ⟨hseparates, hdigits, hwidth.mp hlength⟩
  · rintro ⟨hseparates, hdigits, hlength⟩
    exact ⟨hseparates, hdigits, hwidth.mpr hlength,
      digitsValue_fits hdigits (by omega)⟩

theorem fieldText_plain_iff (hfirst : field ≠ range.first)
    (hyear : field ≠ fieldYear) (hfraction : field ≠ fieldFraction)
    (hhour : field ≠ fieldHour) :
    FieldText range interval field separator digits ↔
      separator = [fieldSeparator field false] ∧
        (∀ byte ∈ digits, isDigit byte = true) ∧ digits.length = 2 := by
  rw [fieldText_iff_of_width 2 (by decide)
    (by simp [Width, hfirst, hyear, hfraction])]
  simp [Separates, hfirst, hhour]

theorem fieldText_hour_iff (hfirst : fieldHour ≠ range.first) :
    FieldText range false fieldHour separator digits ↔
      (separator = [space] ∨ separator = [letterT]) ∧
        (∀ byte ∈ digits, isDigit byte = true) ∧ digits.length = 2 := by
  rw [fieldText_iff_of_width 2 (by decide) (by simp [Width])]
  simp [Separates, hfirst, fieldSeparator]

theorem fieldText_year_iff (hfirst : range.first = fieldYear) :
    FieldText range false fieldYear separator digits ↔
      separator = [] ∧ (∀ byte ∈ digits, isDigit byte = true) ∧
        digits.length = 4 := by
  rw [fieldText_iff_of_width 4 (by decide) (by simp [Width])]
  simp [Separates, hfirst]

theorem fieldText_fraction_iff (hfirst : fieldFraction ≠ range.first)
    (hprecision : range.fractionalDigits ≤ 9) :
    FieldText range interval fieldFraction separator digits ↔
      separator = [point] ∧ (∀ byte ∈ digits, isDigit byte = true) ∧
        digits.length = range.fractionalDigits := by
  rw [fieldText_iff_of_width range.fractionalDigits (by omega)
    (by simp [Width])]
  simp [Separates, hfirst, fieldSeparator]

/-! What the grammar spells from the year on are timestamps. -/

theorem placed_fields (range : TemporalRange)
    (year month day hour minute second : List UInt8) :
    (((((({ blankFields range with negative := false } : TemporalFields).place
      1 year).place 2 month).place 3 day).place 4 hour).place 5 minute).place
        6 second =
      { blankFields range with
        integral := fieldTable (digitsValue year) (digitsValue month)
          (digitsValue day) (digitsValue hour) (digitsValue minute)
          (digitsValue second) } := by
  simp only [TemporalFields.place, fieldFraction, blankFields,
    TemporalFields.mk.injEq, true_and, and_true, reduceIte, Nat.reduceEqDiff]
  funext field
  rcases field with _ | _ | _ | _ | _ | _ | _ | field <;> rfl

/-- The fields up to the seconds, with what is read behind them. -/
theorem denotes_seconds_iff (hfirst : range.first = fieldYear) :
    Denotes range false (1 :: 2 :: 3 :: 4 :: 5 :: 6 :: remaining) text
      { blankFields range with negative := false } out ↔
      ∃ (stamp : Timestamp) (separator : UInt8) (tail : List UInt8),
        stamp.Wellformed ∧ stamp.fraction = [] ∧
        (separator = space ∨ separator = letterT) ∧
        text = stamp.text separator ++ tail ∧
        Denotes range false remaining tail
          { blankFields range with integral := stamp.fields.integral } out := by
  have hplain : ∀ field ∉ [fieldYear, fieldHour, fieldFraction],
      ∀ {separator digits}, FieldText range false field separator digits ↔
        separator = [fieldSeparator field false] ∧
          (∀ byte ∈ digits, isDigit byte = true) ∧ digits.length = 2 := by
    intro field hfield separator digits
    simp only [List.mem_cons, List.not_mem_nil, or_false, not_or] at hfield
    exact fieldText_plain_iff (hfirst ▸ hfield.1) hfield.1 hfield.2.2
      hfield.2.1
  have hhours : fieldHour ≠ range.first := by
    rw [hfirst]
    decide
  simp only [denotes_cons_iff]
  constructor
  · rintro ⟨_, year, _, rfl, hyear, _, month, _, rfl, hmonth, _, day, _, rfl,
      hday, mark, hour, _, rfl, htext, _, minute, _, rfl, hminute, _, second,
      tail, rfl, hsecond, htail⟩
    obtain ⟨rfl, hyear, hyears⟩ := (fieldText_year_iff hfirst).mp hyear
    obtain ⟨rfl, hmonth, hmonths⟩ := (hplain 2 (by decide)).mp hmonth
    obtain ⟨rfl, hday, hdays⟩ := (hplain 3 (by decide)).mp hday
    obtain ⟨hseparator, hhour, hhours⟩ := (fieldText_hour_iff hhours).mp htext
    obtain ⟨rfl, hminute, hminutes⟩ := (hplain 5 (by decide)).mp hminute
    obtain ⟨rfl, hsecond, hseconds⟩ := (hplain 6 (by decide)).mp hsecond
    obtain ⟨separator, rfl, hletter⟩ : ∃ separator, mark = [separator] ∧
        (separator = space ∨ separator = letterT) := by
      rcases hseparator with rfl | rfl
      · exact ⟨space, rfl, .inl rfl⟩
      · exact ⟨letterT, rfl, .inr rfl⟩
    refine ⟨⟨year, month, day, hour, minute, second, []⟩, separator, tail,
      ⟨?_, hyears, hmonths, hdays, hhours, hminutes, hseconds, by simp⟩, rfl,
      hletter, ?_, ?_⟩
    · simp only [List.forall_mem_cons]
      exact ⟨hyear, hmonth, hday, hhour, hminute, hsecond, by simp, by simp⟩
    · simp [Timestamp.text, fieldSeparator, List.append_assoc]
    · rw [placed_fields] at htail
      exact htail
  · rintro ⟨stamp, separator, tail, hwellformed, hfraction, hletter, rfl, htail⟩
    have hdecimal := hwellformed.decimal
    simp only [List.forall_mem_cons] at hdecimal
    obtain ⟨hyear, hmonth, hday, hhour, hminute, hsecond, -, -⟩ := hdecimal
    refine ⟨[], stamp.year, _, ?_, (fieldText_year_iff hfirst).mpr
        ⟨rfl, hyear, hwellformed.year_length⟩,
      [minus], stamp.month, _, rfl, (hplain 2 (by decide)).mpr
        ⟨rfl, hmonth, hwellformed.month_length⟩,
      [minus], stamp.day, _, rfl, (hplain 3 (by decide)).mpr
        ⟨rfl, hday, hwellformed.day_length⟩,
      [separator], stamp.hour, _, rfl, (fieldText_hour_iff hhours).mpr
        ⟨by simpa using hletter, hhour, hwellformed.hour_length⟩,
      [colon], stamp.minute, _, rfl, (hplain 5 (by decide)).mpr
        ⟨rfl, hminute, hwellformed.minute_length⟩,
      [colon], stamp.second, tail, rfl, (hplain 6 (by decide)).mpr
        ⟨rfl, hsecond, hwellformed.second_length⟩, ?_⟩
    · simp [Timestamp.text, hfraction, List.append_assoc]
    · rw [placed_fields]
      exact htail

theorem spells_calendar_iff :
    Spells range false text fields ↔
      Denotes range false range.fields text
        { blankFields range with negative := false } fields := by
  constructor
  · rintro ⟨sign, body, negative, rfl, ⟨rfl, rfl⟩ | ⟨hinterval, -⟩, hdenotes⟩
    · exact hdenotes
    · cases hinterval
  · exact fun hdenotes => ⟨[], text, false, rfl, .inl ⟨rfl, rfl⟩, hdenotes⟩

/-- The ranges of complete timestamps. -/
def TimestampRange (range : TemporalRange) : Prop :=
  range = ⟨fieldYear, fieldSecond, 0⟩ ∨
    ∃ precision, 1 ≤ precision ∧ precision ≤ 9 ∧
      range = ⟨fieldYear, fieldFraction, precision⟩

theorem Timestamp.fields_second {stamp : Timestamp}
    (hfraction : stamp.fraction = []) :
    { blankFields stamp.range with integral := stamp.fields.integral } =
      stamp.fields := by
  simp [Timestamp.fields, blankFields, hfraction]

theorem spells_timestamp_iff (hrange : TimestampRange range) :
    Spells range false text fields ↔
      ∃ (stamp : Timestamp) (separator : UInt8), stamp.Wellformed ∧
        stamp.range = range ∧ (separator = space ∨ separator = letterT) ∧
        text = stamp.text separator ∧ fields = stamp.fields := by
  rw [spells_calendar_iff]
  rcases hrange with rfl | ⟨precision, hpositive, hprecision, rfl⟩
  · rw [show (TemporalRange.mk fieldYear fieldSecond 0).fields =
      1 :: 2 :: 3 :: 4 :: 5 :: 6 :: [] from rfl, denotes_seconds_iff rfl]
    simp only [denotes_nil_iff]
    constructor
    · rintro ⟨stamp, separator, _, hwellformed, hfraction, hletter, rfl, rfl,
        rfl⟩
      have hstamp : stamp.range = ⟨fieldYear, fieldSecond, 0⟩ := by
        rw [Timestamp.range, if_pos hfraction]
      refine ⟨stamp, separator, hwellformed, hstamp, hletter, by simp, ?_⟩
      rw [← hstamp, Timestamp.fields_second hfraction]
    · rintro ⟨stamp, separator, hwellformed, hstamp, hletter, rfl, rfl⟩
      have hfraction : stamp.fraction = [] := by
        by_contra hsome
        rw [Timestamp.range, if_neg hsome] at hstamp
        cases hstamp
      refine ⟨stamp, separator, [], hwellformed, hfraction, hletter, by simp,
        rfl, ?_⟩
      rw [← hstamp, Timestamp.fields_second hfraction]
  · rw [show (TemporalRange.mk fieldYear fieldFraction precision).fields =
      1 :: 2 :: 3 :: 4 :: 5 :: 6 :: [fieldFraction] from rfl,
      denotes_seconds_iff rfl]
    have hbehind : fieldFraction ≠ fieldYear := by decide
    simp only [denotes_cons_iff, denotes_nil_iff]
    constructor
    · rintro ⟨stamp, separator, _, hwellformed, hfraction, hletter, rfl, _,
        digits, _, rfl, hpiece, rfl, rfl⟩
      obtain ⟨rfl, hdigits, hlength⟩ :=
        (fieldText_fraction_iff hbehind hprecision).mp hpiece
      have hdecimal := hwellformed.decimal
      simp only [List.forall_mem_cons] at hdecimal
      obtain ⟨hyear, hmonth, hday, hhour, hminute, hsecond, -, -⟩ := hdecimal
      have hsome : digits ≠ [] := by
        rintro rfl
        simp only [List.length_nil] at hlength
        omega
      refine ⟨{ stamp with fraction := digits }, separator,
        { hwellformed with
          decimal := ?_
          fraction_length := hlength.trans_le hprecision }, ?_, hletter, ?_, ?_⟩
      · simp only [List.forall_mem_cons]
        exact ⟨hyear, hmonth, hday, hhour, hminute, hsecond, hdigits, by simp⟩
      · simp [Timestamp.range, hsome, hlength]
      · simp [Timestamp.text, hfraction, hsome, List.append_assoc]
      · simp [TemporalFields.place, Timestamp.fields, Timestamp.range, hsome,
          hlength, blankFields]
    · rintro ⟨stamp, separator, hwellformed, hstamp, hletter, rfl, rfl⟩
      have hsome : stamp.fraction ≠ [] := by
        intro hnone
        rw [Timestamp.range, if_pos hnone] at hstamp
        cases hstamp
      have hlength : stamp.fraction.length = precision := by
        rw [Timestamp.range, if_neg hsome] at hstamp
        exact congrArg TemporalRange.fractionalDigits hstamp
      have hdecimal := hwellformed.decimal
      simp only [List.forall_mem_cons] at hdecimal
      obtain ⟨hyear, hmonth, hday, hhour, hminute, hsecond, hdigits, -⟩ :=
        hdecimal
      refine ⟨{ stamp with fraction := [] }, separator, point :: stamp.fraction,
        { hwellformed with
          decimal := ?_
          fraction_length := by simp }, rfl, hletter, ?_, [point],
        stamp.fraction, [], by simp, ?_, rfl, ?_⟩
      · simp only [List.forall_mem_cons]
        exact ⟨hyear, hmonth, hday, hhour, hminute, hsecond, by simp, by simp⟩
      · simp [Timestamp.text, hsome, List.append_assoc]
      · exact (fieldText_fraction_iff hbehind hprecision).mpr
          ⟨rfl, hdigits, hlength⟩
      · simp [TemporalFields.place, Timestamp.fields, Timestamp.range, hsome,
          hlength, blankFields]

theorem TimestampRange.known (hrange : TimestampRange range) :
    range.Known false := by
  rcases hrange with rfl | ⟨precision, hpositive, hprecision, rfl⟩
  · exact ⟨by decide, by decide, by decide, by simp, by decide⟩
  · have hends : fieldYear ≤ fieldFraction := by decide
    refine ⟨Nat.le_refl _, hends, Nat.le_refl _, by simp, ?_⟩
    rw [if_pos rfl]
    exact ⟨hpositive, hprecision⟩

theorem Timestamp.Wellformed.timestampRange {stamp : Timestamp}
    (hwellformed : stamp.Wellformed) : TimestampRange stamp.range := by
  unfold Timestamp.range
  by_cases hnone : stamp.fraction = []
  · rw [if_pos hnone]
    exact .inl rfl
  · rw [if_neg hnone]
    exact .inr ⟨_, List.length_pos_of_ne_nil hnone,
      hwellformed.fraction_length, rfl⟩

/-! The layout that the ISO parser looks at. -/

theorem getD_behind (front rest : List UInt8) (byte : UInt8) {index : Nat}
    (hindex : front.length = index) :
    (front ++ byte :: rest).getD index 0 = byte := by
  subst hindex
  simp [List.getD_eq_getElem?_getD]

namespace Timestamp.Wellformed

variable {stamp : Timestamp}

theorem length_text (hwellformed : stamp.Wellformed) (separator : UInt8) :
    (stamp.text separator).length = if stamp.fraction = [] then 19
      else 20 + stamp.fraction.length := by
  simp only [Timestamp.text, List.length_append, List.length_cons,
    hwellformed.year_length, hwellformed.month_length, hwellformed.day_length,
    hwellformed.hour_length, hwellformed.minute_length,
    hwellformed.second_length]
  split
  · rfl
  · simp only [List.length_cons]
    omega

theorem separator_at (hwellformed : stamp.Wellformed) (separator : UInt8) :
    (stamp.text separator).getD calendarDateLength 0 = separator := by
  have htext : stamp.text separator =
      (stamp.year ++ minus :: stamp.month ++ minus :: stamp.day) ++
        separator :: (stamp.hour ++ colon :: stamp.minute ++
          colon :: stamp.second ++
          if stamp.fraction = [] then [] else point :: stamp.fraction) := by
    simp [Timestamp.text, List.append_assoc]
  rw [htext]
  apply getD_behind
  simp [hwellformed.year_length, hwellformed.month_length,
    hwellformed.day_length, calendarDateLength]

theorem point_at (hwellformed : stamp.Wellformed) (separator : UInt8)
    (hsome : stamp.fraction ≠ []) :
    (stamp.text separator).getD timestampSecondLength 0 = point := by
  rw [Timestamp.text, if_neg hsome]
  apply getD_behind
  simp [hwellformed.year_length, hwellformed.month_length,
    hwellformed.day_length, hwellformed.hour_length,
    hwellformed.minute_length, hwellformed.second_length,
    timestampSecondLength]

end Timestamp.Wellformed

end Temporal

namespace Datetime

open Temporal
open Libsqli.Data.Numeral

variable {stamp : Timestamp} {text : List UInt8}

/-- The ISO parser finds the range of a timestamp and parses under it. -/
theorem parseIso_text (hwellformed : stamp.Wellformed) (value : Datetime) :
    value.parseIso (stamp.text letterT) false =
      value.parse (some stamp.range) (stamp.text letterT) false := by
  have hlength := hwellformed.length_text letterT
  have hbound := hwellformed.fraction_length
  have hletter := hwellformed.separator_at letterT
  have hseconds : timestampSecondLength = 19 := rfl
  have hoffset : timestampFractionOffset = 20 := rfl
  have hnine : nanosecondDigits = 9 := rfl
  have hmaximum : temporalMaxText = 64 := rfl
  unfold parseIso Timestamp.range
  by_cases hnone : stamp.fraction = []
  · rw [if_pos hnone] at hlength ⊢
    rw [if_neg (by decide), if_neg (by omega), if_neg (by omega),
      if_neg (not_not.mpr hletter), if_neg (by omega)]
  · have hpoint := hwellformed.point_at letterT hnone
    have hpositive := List.length_pos_of_ne_nil hnone
    rw [if_neg hnone] at hlength ⊢
    have hlayout : ¬ ((stamp.text letterT).length ≤ timestampFractionOffset ∨
        nanosecondDigits <
          (stamp.text letterT).length - timestampFractionOffset ∨
        (stamp.text letterT).getD timestampSecondLength 0 ≠ point) := by
      rintro (hshort | hlong | hother)
      · omega
      · omega
      · exact hother hpoint
    rw [if_neg (by decide), if_neg (by omega), if_neg (by omega),
      if_neg (not_not.mpr hletter), if_pos (by omega),
      if_neg hlayout, hlength, hoffset, Nat.add_sub_cancel_left]

/-- A text that the ISO parser accepts was parsed under the range of a
timestamp, with its letter in place. -/
theorem parseIso_range {value : Datetime}
    (hok : (value.parseIso text false).1 = .ok) :
    ∃ range, TimestampRange range ∧
      text.getD calendarDateLength 0 = letterT ∧
      value.parseIso text false = value.parse (some range) text false := by
  unfold parseIso at hok ⊢
  rw [if_neg (by decide)] at hok ⊢
  split at hok
  · cases hok
  rename_i hshort
  split at hok
  · cases hok
  rename_i hlong
  split at hok
  · cases hok
  rename_i hletter
  rw [not_not] at hletter
  rw [if_neg hshort, if_neg hlong, if_neg (by simpa using hletter)]
  split at hok
  · rename_i hfraction
    rw [if_pos hfraction]
    split at hok
    · cases hok
    · rename_i hlayout
      rw [if_neg hlayout]
      simp only [timestampSecondLength, timestampFractionOffset,
        nanosecondDigits, not_or] at hlayout hfraction ⊢
      exact ⟨_, .inr ⟨_, by omega, by omega, rfl⟩, hletter, rfl⟩
  · rename_i hfraction
    rw [if_neg hfraction]
    exact ⟨_, .inl rfl, hletter, rfl⟩

end Datetime

end Libsqli
