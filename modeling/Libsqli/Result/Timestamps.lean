import Libsqli.Bind.EpochBinds
import Libsqli.Data.Scan
import Libsqli.Result.StringsAgree

namespace Libsqli.Result

open Layout
open Libsqli.Data.Ctype
open Libsqli.Data.Numeral
open Libsqli.Data.Scan

/-! `sqli_result_get_timestamp` and the epoch getters. -/

/-- `%d-%d-%d %d:%d:%d.%d` -/
def timestampFormat : List Directive :=
  [.number, .literal minus, .number, .literal minus, .number, .blank,
    .number, .literal colon, .number, .literal colon,
    .number, .literal point, .number]

/-- The output before anything is read. -/
def noTimestamp : Bind.Timestamp := ⟨true, 0, 0, 0, 0, 0, 0, 0⟩

/-- The digits behind the first point, counted up to six. -/
def countedDigits (text : List UInt8) : Nat :=
  min 6 ((text.dropWhile (· != point)).tail.takeWhile isDigit).length

/-- The multiplication is one of `int`s. -/
def scaledFraction (text : List UInt8) (frac : Int) : Option Int32 :=
  if point ∉ text then some 0
  else if FitsInt (frac * 10 ^ (6 - countedDigits text)) then
    some (Int32.ofInt (frac * 10 ^ (6 - countedDigits text)))
  else none

/-- The branch for character columns, `none` where C leaves the outcome open. -/
def textTimestamp (text : List UInt8) : Option (Status × Bind.Timestamp) :=
  match scan timestampFormat text with
  | none => none
  | some (year :: month :: day :: rest) =>
      let read : Bind.Timestamp :=
        { isNull := false
          year := Int32.ofInt year
          month := Int32.ofInt month
          day := Int32.ofInt day
          hour := Int32.ofInt (rest.getD 0 0)
          minute := Int32.ofInt (rest.getD 1 0)
          second := Int32.ofInt (rest.getD 2 0)
          microsecond := 0 }
      match rest[3]? with
      | none => some (.ok, read)
      | some frac => (scaledFraction text frac).map fun microsecond =>
          (.ok, { read with microsecond := microsecond })
  | some _ => some (.err, noTimestamp)

/-- The fields of a DATETIME; those before its range are completed. -/
def datetimeTimestamp (parts : Temporal.DatetimeParts) : Bind.Timestamp :=
  if parts.isNull then noTimestamp
  else
    { isNull := false
      year := if parts.range.first ≤ Temporal.fieldYear then parts.year
        else 1970
      month := if parts.range.first ≤ Temporal.fieldMonth ∧
          Temporal.fieldMonth ≤ parts.range.last then
        Int32.ofNat parts.month.toNat else 1
      day := if parts.range.first ≤ Temporal.fieldDay ∧
          Temporal.fieldDay ≤ parts.range.last then
        Int32.ofNat parts.day.toNat else 1
      hour := Int32.ofNat parts.hour.toNat
      minute := Int32.ofNat parts.minute.toNat
      second := Int32.ofNat parts.second.toNat
      microsecond := Int32.ofNat (parts.nanosecond.toNat / 1000) }

def dateTimestamp (date : Temporal.Date) : Bind.Timestamp :=
  { noTimestamp with
    isNull := date.isNull
    year := date.year
    month := Int32.ofNat date.month.toNat
    day := Int32.ofNat date.day.toNat }

/-- `sqli_result_get_timestamp` -/
def getTimestamp (calloc buffers : Bool) (base : Nat) (setting : Setting)
    (services : Services) (options : TextOptions) (result : Result)
    (index : Nat) (out : Bind.Timestamp) :
    Option ((Status × Bind.Timestamp) × Result) :=
  match result.columns[index]? with
  | none => some ((.invalidState, out), result)
  | some column =>
      if result.view.currentRow < 0 ∨ result.view.tuple.getD [] = [] then
        some ((.invalidState, noTimestamp), result)
      else
        let checked := isNullInternal calloc base result index
        let flagged := { checked.2 with lastWasNull := checked.1 }
        if checked.1 then some ((.ok, noTimestamp), flagged)
        else if column.type = typeDate then
          match getDate setting flagged index .null with
          | (.ok, date) => some ((.ok, dateTimestamp date), flagged)
          | (status, _) => some ((status, noTimestamp), flagged)
        else if column.type = typeDatetime then
          match getDatetime setting flagged index .create with
          | (.ok, value) => some ((.ok, datetimeTimestamp value.parts), flagged)
          | (status, _) => some ((status, noTimestamp), flagged)
        else if isStringyType column.type then
          let text :=
            getText calloc buffers base setting services options flagged index
          if cString text.1 = [] then some ((.ok, noTimestamp), text.2)
          else (textTimestamp (cString text.1)).map fun read => (read, text.2)
        else some ((.err, noTimestamp), flagged)

/-- `sqli_result_get_epoch_ms`; its output is zero unless it succeeds. -/
def getEpochMs (calloc buffers : Bool) (base : Nat) (setting : Setting)
    (services : Services) (options : TextOptions) (result : Result)
    (index : Nat) : Option ((Status × Int) × Result) :=
  (getTimestamp calloc buffers base setting services options result index
    noTimestamp).map fun returned =>
      ((returned.1.1, if returned.1.1 = .ok then returned.1.2.toEpochMs else 0),
        returned.2)

variable {result : Result} {setting : Setting} {services : Services}
  {options : TextOptions} {tuple bytes : List UInt8} {located : List Located}
  {index base pad : Nat} {column : Column} {calloc buffers : Bool}
  {stamp : Temporal.Timestamp} {rest : List UInt8}

/-! The text of a timestamp. -/

/-- `YYYY-MM-DD hh:mm:ss.F` with any number of digits in `F`. -/
structure Written (stamp : Temporal.Timestamp) : Prop where
  decimal : ∀ digits ∈ [stamp.year, stamp.month, stamp.day, stamp.hour,
    stamp.minute, stamp.second, stamp.fraction], digits.all isDigit = true
  year_length : stamp.year.length = 4
  month_length : stamp.month.length = 2
  day_length : stamp.day.length = 2
  hour_length : stamp.hour.length = 2
  minute_length : stamp.minute.length = 2
  second_length : stamp.second.length = 2
  fraction_some : stamp.fraction ≠ []

/-- A field of a few digits, as the format reads it. -/
theorem scan_field {format : List Directive} {digits : List UInt8}
    (hdigits : digits.all isDigit = true) (hlength : digits.length = 2 ∨
      digits.length = 4) (hends : Ends rest) :
    scan (.number :: format) (digits ++ rest) =
      (scan format rest).map ((digitsValue digits : Int) :: ·) := by
  have hvalue := digitsValue_lt hdigits
  have hpower : 10 ^ digits.length ≤ 10000 := by
    rcases hlength with hlength | hlength <;> rw [hlength] <;> decide
  have hsome : digits ≠ [] := by
    rintro rfl
    simp at hlength
  rw [scan_number hdigits hsome hends, if_pos]
  unfold FitsInt
  omega

theorem ends_mark {byte : UInt8} (hbyte : isDigit byte = false) :
    Ends (byte :: rest) := by
  intro next hnext
  cases hnext
  exact hbyte

theorem scan_written (hwritten : Written stamp) (hends : Ends rest) :
    scan timestampFormat (stamp.text space ++ rest) =
      if FitsInt (digitsValue stamp.fraction) then
        some [(digitsValue stamp.year : Int), digitsValue stamp.month,
          digitsValue stamp.day, digitsValue stamp.hour,
          digitsValue stamp.minute, digitsValue stamp.second,
          digitsValue stamp.fraction]
      else none := by
  obtain ⟨hdecimal, hyear, hmonth, hday, hhour, hminute, hsecond, hsome⟩ :=
    hwritten
  simp only [List.forall_mem_cons, List.not_mem_nil, false_imp_iff,
    implies_true, and_true] at hdecimal
  obtain ⟨dyear, dmonth, dday, dhour, dminute, dsecond, dfraction⟩ := hdecimal
  have hblank : ∀ byte, (stamp.hour ++ colon :: (stamp.minute ++
      colon :: (stamp.second ++ point ::
        (stamp.fraction ++ rest)))).head? = some byte →
      isSpace byte = false := by
    intro byte hbyte
    have hhead : stamp.hour ≠ [] := by
      intro hempty
      rw [hempty] at hhour
      cases hhour
    obtain ⟨first, others, hcons⟩ := List.exists_cons_of_ne_nil hhead
    rw [hcons, List.cons_append, List.head?_cons] at hbyte
    rw [hcons, List.all_cons, Bool.and_eq_true] at dhour
    cases hbyte
    exact (isDigit_plain dhour.1).2.2
  rw [Temporal.Timestamp.text_nested _ hsome]
  simp only [List.append_assoc, List.cons_append]
  rw [timestampFormat, scan_field dyear (.inr hyear) (ends_mark (by decide)),
    scan_literal, scan_field dmonth (.inl hmonth) (ends_mark (by decide)),
    scan_literal, scan_field dday (.inl hday) (ends_mark (by decide)),
    scan_blank hblank (by decide),
    scan_field dhour (.inl hhour) (ends_mark (by decide)), scan_literal,
    scan_field dminute (.inl hminute) (ends_mark (by decide)), scan_literal,
    scan_field dsecond (.inl hsecond) (ends_mark (by decide)), scan_literal,
    scan_number dfraction hsome hends]
  split <;> rfl

/-- What stands before the fraction of a text. -/
def Written.front (stamp : Temporal.Timestamp) : List UInt8 :=
  stamp.year ++ minus :: (stamp.month ++ minus :: (stamp.day ++
    space :: (stamp.hour ++ colon :: (stamp.minute ++
      colon :: stamp.second))))

theorem Written.text_eq (hwritten : Written stamp) :
    stamp.text space =
      Written.front stamp ++ point :: stamp.fraction := by
  rw [Temporal.Timestamp.text_nested _ hwritten.fraction_some, Written.front]
  simp only [List.append_assoc, List.cons_append]

theorem Written.length_front (hwritten : Written stamp) :
    (Written.front stamp).length = 19 := by
  simp only [Written.front, List.length_append, List.length_cons,
    hwritten.year_length, hwritten.month_length, hwritten.day_length,
    hwritten.hour_length, hwritten.minute_length, hwritten.second_length]

/-- The characters of a text are digits and four marks. -/
theorem Written.front_bytes (hwritten : Written stamp) {byte : UInt8}
    (hbyte : byte ∈ Written.front stamp) :
    isDigit byte = true ∨ byte = minus ∨ byte = space ∨
      byte = colon := by
  have hdigit : ∀ digits ∈ [stamp.year, stamp.month, stamp.day, stamp.hour,
      stamp.minute, stamp.second, stamp.fraction], byte ∈ digits →
      isDigit byte = true := fun digits hdigits hmember =>
    List.all_eq_true.mp (hwritten.decimal digits hdigits) byte hmember
  simp only [Written.front, List.mem_append, List.mem_cons] at hbyte
  rcases hbyte with hyear | hmark | hmonth | hmark | hday | hmark | hhour |
    hmark | hminute | hmark | hsecond
  · exact .inl (hdigit _ (by simp) hyear)
  · exact .inr (.inl hmark)
  · exact .inl (hdigit _ (by simp) hmonth)
  · exact .inr (.inl hmark)
  · exact .inl (hdigit _ (by simp) hday)
  · exact .inr (.inr (.inl hmark))
  · exact .inl (hdigit _ (by simp) hhour)
  · exact .inr (.inr (.inr hmark))
  · exact .inl (hdigit _ (by simp) hminute)
  · exact .inr (.inr (.inr hmark))
  · exact .inl (hdigit _ (by simp) hsecond)

theorem countedDigits_written (hwritten : Written stamp) (hends : Ends rest) :
    countedDigits (stamp.text space ++ rest) =
      min 6 stamp.fraction.length := by
  have hfront : ∀ byte ∈ Written.front stamp, (byte != point) = true := by
    intro byte hbyte
    rw [bne_iff_ne]
    rintro rfl
    rcases hwritten.front_bytes hbyte with hdigit | hmark | hmark | hmark
    · exact absurd hdigit (by decide)
    · exact absurd hmark (by decide)
    · exact absurd hmark (by decide)
    · exact absurd hmark (by decide)
  have hfraction := hwritten.decimal stamp.fraction (by simp)
  rw [countedDigits, hwritten.text_eq, List.append_assoc,
    List.dropWhile_append_of_pos hfront, List.cons_append,
    List.dropWhile_cons_of_neg (by simp), List.tail_cons,
    (takeWhile_digits hfraction hends).1]

/-- The timestamp with the digits of a text and a number of microseconds. -/
def writtenFields (stamp : Temporal.Timestamp) (microsecond : Nat) :
    Bind.Timestamp where
  isNull := false
  year := Int32.ofInt (digitsValue stamp.year)
  month := Int32.ofInt (digitsValue stamp.month)
  day := Int32.ofInt (digitsValue stamp.day)
  hour := Int32.ofInt (digitsValue stamp.hour)
  minute := Int32.ofInt (digitsValue stamp.minute)
  second := Int32.ofInt (digitsValue stamp.second)
  microsecond := Int32.ofInt microsecond

/-- How the text branch reads a timestamp: the whole fraction as one `int`, times
a power of ten for the digits that are missing. -/
theorem textTimestamp_written (hwritten : Written stamp) (hends : Ends rest) :
    textTimestamp (stamp.text space ++ rest) =
      if FitsInt (digitsValue stamp.fraction) ∧
          FitsInt (digitsValue stamp.fraction *
            10 ^ (6 - min 6 stamp.fraction.length) : Nat) then
        some (.ok, writtenFields stamp (digitsValue stamp.fraction *
          10 ^ (6 - min 6 stamp.fraction.length)))
      else none := by
  have hpoint : point ∈ stamp.text space ++ rest := by
    rw [hwritten.text_eq]
    simp
  unfold textTimestamp
  rw [scan_written hwritten hends]
  by_cases hfits : FitsInt (digitsValue stamp.fraction)
  · rw [if_pos hfits]
    dsimp only [List.getElem?_cons_succ, List.getElem?_cons_zero,
      List.getD_cons_zero, List.getD_cons_succ]
    rw [scaledFraction, if_neg (not_not.mpr hpoint),
      countedDigits_written hwritten hends]
    push_cast
    by_cases hscaled : FitsInt ((digitsValue stamp.fraction : Int) *
        10 ^ (6 - min 6 stamp.fraction.length))
    · rw [if_pos hscaled, if_pos ⟨hfits, hscaled⟩]
      simp [writtenFields]
    · rw [if_neg hscaled, if_neg fun h => hscaled h.2]
      rfl
  · rw [if_neg hfits, if_neg fun h => hfits h.1]

/-! The digits of the fraction. -/

/-- The microseconds of a fraction: its first six digits, filled up with zeros. -/
def sixDigits (fraction : List UInt8) : Nat :=
  digitsValue (fraction.take 6) * 10 ^ (6 - (fraction.take 6).length)

theorem sixDigits_lt {fraction : List UInt8}
    (hdigits : fraction.all isDigit = true) : sixDigits fraction < 1000000 := by
  have hfirst : (fraction.take 6).all isDigit = true := by
    rw [List.all_eq_true] at hdigits ⊢
    exact fun byte hbyte => hdigits byte (List.mem_of_mem_take hbyte)
  have hlength : (fraction.take 6).length ≤ 6 := List.length_take_le _ _
  calc
    sixDigits fraction <
        10 ^ (fraction.take 6).length * 10 ^ (6 - (fraction.take 6).length) :=
      Nat.mul_lt_mul_of_pos_right (digitsValue_lt hfirst) (by positivity)
    _ = 1000000 := by
      rw [← pow_add, Nat.add_sub_cancel' hlength]
      rfl

theorem sixDigits_short {fraction : List UInt8} (hlength : fraction.length ≤ 6) :
    digitsValue fraction * 10 ^ (6 - min 6 fraction.length) =
      sixDigits fraction := by
  rw [sixDigits, List.take_of_length_le hlength, Nat.min_eq_right hlength]

theorem digitsValue_eq_zero_iff {digits : List UInt8}
    (hdigits : digits.all isDigit = true) :
    digitsValue digits = 0 ↔ ∀ byte ∈ digits, byte = zero := by
  rw [digitsValue, Data.Radix.ofBigEndian_eq_zero_iff (by decide)]
  have hzero : ∀ code : Fin 256, isDigit (UInt8.ofFin code) = true →
      digitValue (UInt8.ofFin code) = 0 → UInt8.ofFin code = zero := by
    decide +kernel
  constructor
  · intro hvalues byte hbyte
    exact hzero byte.toFin (List.all_eq_true.mp hdigits byte hbyte)
      (hvalues _ (List.mem_map_of_mem hbyte))
  · intro hzeros digit hdigit
    obtain ⟨byte, hbyte, rfl⟩ := List.mem_map.mp hdigit
    rw [hzeros byte hbyte]
    rfl

/-- Of more than six digits the whole number is that of the first six only if it
is zero. -/
theorem sixDigits_long {fraction : List UInt8}
    (hdigits : fraction.all isDigit = true) (hlength : 6 < fraction.length) :
    digitsValue fraction = sixDigits fraction ↔
      ∀ byte ∈ fraction, byte = zero := by
  have hsplit := digitsValue_append (fraction.take 6) (fraction.drop 6)
  have hfirst : (fraction.take 6).length = 6 := by
    rw [List.length_take]
    omega
  have hpower : 10 ≤ 10 ^ (fraction.drop 6).length := by
    rw [List.length_drop]
    exact Nat.le_self_pow (by omega) 10
  rw [List.take_append_drop] at hsplit
  rw [← digitsValue_eq_zero_iff hdigits, sixDigits, hfirst, Nat.sub_self,
    pow_zero, Nat.mul_one, hsplit]
  constructor
  · intro hsame
    have hgrow := Nat.mul_le_mul_left (digitsValue (fraction.take 6)) hpower
    omega
  · intro hnone
    have hnothing := Nat.eq_zero_of_add_eq_zero hnone
    have hzero : digitsValue (fraction.take 6) = 0 :=
      (Nat.mul_eq_zero.mp hnothing.1).resolve_right (by omega)
    omega

theorem fitsInt_of_lt {value : Nat} (hvalue : value < 1000000) :
    FitsInt value := by
  unfold FitsInt
  omega

/-- The branch reads the microseconds of a fraction of at most six digits, or of
zeros alone. -/
theorem textTimestamp_keeps_iff (hwritten : Written stamp) (hends : Ends rest) :
    textTimestamp (stamp.text space ++ rest) =
        some (.ok, writtenFields stamp (sixDigits stamp.fraction)) ↔
      stamp.fraction.length ≤ 6 ∨ ∀ byte ∈ stamp.fraction, byte = zero := by
  have hdigits := hwritten.decimal stamp.fraction (by simp)
  have hlt := sixDigits_lt hdigits
  rw [textTimestamp_written hwritten hends]
  by_cases hshort : stamp.fraction.length ≤ 6
  · have hscaled := sixDigits_short hshort
    have hsmall : digitsValue stamp.fraction ≤ sixDigits stamp.fraction := by
      rw [← hscaled]
      exact Nat.le_mul_of_pos_right _ (by positivity)
    refine iff_of_true ?_ (.inl hshort)
    rw [if_pos ⟨fitsInt_of_lt (by omega), by
      rw [hscaled]; exact fitsInt_of_lt hlt⟩, hscaled]
  · have hlong : 6 < stamp.fraction.length := by omega
    rw [or_iff_right hshort, ← sixDigits_long hdigits hlong,
      Nat.min_eq_left (by omega), Nat.sub_self, pow_zero, Nat.mul_one]
    constructor
    · intro hread
      split at hread
      · next hfits =>
        have hmicrosecond := congrArg
          (fun read : Status × Bind.Timestamp => read.2.microsecond.toInt)
          (Option.some.inj hread)
        simp only [writtenFields] at hmicrosecond
        obtain ⟨⟨hlower, hupper⟩, -⟩ := hfits
        rw [Temporal.toInt_ofInt_of_range (by omega) (by omega),
          Temporal.toInt_ofInt_of_range (by omega) (by omega)] at hmicrosecond
        exact Int.ofNat_inj.mp hmicrosecond
      · cases hread
    · intro hsame
      rw [hsame, if_pos ⟨fitsInt_of_lt hlt, fitsInt_of_lt hlt⟩]

/-! A column that holds the text. -/

/-- Where the decoder succeeds on ASCII it leaves it alone. -/
def TextOptions.KeepsAscii (options : TextOptions) : Prop :=
  ∀ decoder, options.decoder = some decoder → ∀ text converted,
    (∀ byte ∈ text, byte < 128) → decoder text = some converted →
    converted = text

theorem toUtf8_ascii {text : List UInt8} (hascii : options.KeepsAscii)
    (htext : ∀ byte ∈ text, byte < 128) : toUtf8 options text = text := by
  unfold toUtf8
  cases hdecoder : options.decoder with
  | none => rfl
  | some decoder =>
      simp only [decoderConvert]
      cases houtput : decoder text with
      | none => rfl
      | some output =>
          rw [hascii decoder hdecoder text output htext houtput]
          by_cases hfits : text.length < utf8Size
          · rw [Option.filter_some_pos (by simpa using hfits)]
            rfl
          · rw [Option.filter_some_neg (by simpa using hfits)]
            rfl

/-- The digits of the fraction that fit in the buffer of a column. -/
def cutFraction (stamp : Temporal.Timestamp) : Temporal.Timestamp :=
  { stamp with fraction := stamp.fraction.take 4075 }

theorem Written.cut (hwritten : Written stamp) :
    Written (cutFraction stamp) := by
  have hfraction : (stamp.fraction.take 4075).all isDigit = true := by
    have hdigits := hwritten.decimal stamp.fraction (by simp)
    rw [List.all_eq_true] at hdigits ⊢
    exact fun byte hbyte => hdigits byte (List.mem_of_mem_take hbyte)
  refine ⟨fun digits hmember => ?_, hwritten.year_length,
    hwritten.month_length, hwritten.day_length, hwritten.hour_length,
    hwritten.minute_length, hwritten.second_length, fun hempty => ?_⟩
  · simp only [cutFraction, List.mem_cons, List.not_mem_nil, or_false]
      at hmember
    rcases hmember with rfl | rfl | rfl | rfl | rfl | rfl | rfl
    · exact hwritten.decimal stamp.year (by simp)
    · exact hwritten.decimal stamp.month (by simp)
    · exact hwritten.decimal stamp.day (by simp)
    · exact hwritten.decimal stamp.hour (by simp)
    · exact hwritten.decimal stamp.minute (by simp)
    · exact hwritten.decimal stamp.second (by simp)
    · exact hfraction
  · rcases List.take_eq_nil_iff.mp hempty with hzero | hnone
    · cases hzero
    · exact hwritten.fraction_some hnone

theorem take_written (hwritten : Written stamp) (pad : Nat) :
    ∃ spaces, (stamp.text space ++ List.replicate pad 32).take
        (stringSize - 1) =
      (cutFraction stamp).text space ++
        List.replicate spaces 32 := by
  have hfront := hwritten.length_front
  have hcut : (stamp.text space).take (stringSize - 1) =
      (cutFraction stamp).text space := by
    rw [hwritten.text_eq, hwritten.cut.text_eq, List.take_append, hfront,
      List.take_of_length_le (by rw [hfront]; decide)]
    rfl
  rw [List.take_append, hcut, List.take_replicate]
  exact ⟨_, rfl⟩

theorem rdropWhile_spaces (text : List UInt8) (spaces : Nat) :
    trimSpaces (text ++ List.replicate spaces 32) = trimSpaces text := by
  induction spaces with
  | zero => simp
  | succ spaces ih =>
      rw [List.replicate_succ', ← List.append_assoc, trimSpaces,
        List.rdropWhile_concat_pos _ _ _ (by decide)]
      exact ih

theorem trimSpaces_written (hwritten : Written stamp) :
    trimSpaces (stamp.text space) = stamp.text space := by
  obtain ⟨digits, last, hfraction⟩ :=
    (List.eq_nil_or_concat stamp.fraction).resolve_left hwritten.fraction_some
  have hlast : isDigit last = true :=
    List.all_eq_true.mp (hwritten.decimal stamp.fraction (by simp)) last
      (by simp [hfraction])
  have hspace : (last == 32) = false := by
    rw [beq_eq_false_iff_ne]
    rintro rfl
    exact absurd hlast (by decide)
  rw [hwritten.text_eq, hfraction, List.concat_eq_append, ← List.cons_append,
    ← List.append_assoc, trimSpaces,
    List.rdropWhile_concat_neg _ _ _ (by simp [hspace])]

/-- Digits and marks are characters of ASCII other than NUL. -/
theorem Written.bytes_plain (hwritten : Written stamp) (spaces : Nat)
    {byte : UInt8} (hbyte : byte ∈ stamp.text space ++
      List.replicate spaces 32) : byte < 128 ∧ byte ≠ 0 := by
  have hdigit : ∀ code : Fin 256, isDigit (UInt8.ofFin code) = true →
      UInt8.ofFin code < 128 ∧ UInt8.ofFin code ≠ 0 := by
    decide +kernel
  rw [hwritten.text_eq, List.append_assoc] at hbyte
  rcases List.mem_append.mp hbyte with hfront | hrest
  · rcases hwritten.front_bytes hfront with hnumber | rfl | rfl | rfl
    · exact hdigit byte.toFin hnumber
    · decide
    · decide
    · decide
  · rw [List.cons_append] at hrest
    rcases List.mem_cons.mp hrest with rfl | hrest
    · decide
    · rcases List.mem_append.mp hrest with hfraction | hspaces
      · exact hdigit byte.toFin (List.all_eq_true.mp
          (hwritten.decimal stamp.fraction (by simp)) byte hfraction)
      · rw [List.eq_of_mem_replicate hspaces]
        decide

theorem dataText_written (hwritten : Written stamp)
    (hascii : options.KeepsAscii) (hstringy : isStringyType column.type = true)
    (pad : Nat) :
    ∃ spaces, cString (dataText options column
        (stamp.text space ++ List.replicate pad 32)) =
      (cutFraction stamp).text space ++
        List.replicate spaces 32 := by
  obtain ⟨spaces, htake⟩ := take_written hwritten pad
  have hplain : ∀ spaces, cString (toUtf8 options
      ((cutFraction stamp).text space ++
        List.replicate spaces 32)) =
      (cutFraction stamp).text space ++
        List.replicate spaces 32 := by
    intro spaces
    rw [toUtf8_ascii hascii fun byte hbyte =>
      (hwritten.cut.bytes_plain spaces hbyte).1]
    refine List.takeWhile_eq_self_iff.mpr fun byte hbyte => ?_
    rw [bne_iff_ne]
    exact (hwritten.cut.bytes_plain spaces hbyte).2
  rw [dataText, htake]
  by_cases htrim : options.trimTrailingSpaces = true
  · refine ⟨0, ?_⟩
    rw [if_pos ⟨htrim, hstringy⟩, rdropWhile_spaces,
      trimSpaces_written hwritten.cut]
    simpa using hplain 0
  · refine ⟨spaces, ?_⟩
    rw [if_neg fun h => htrim h.1]
    exact hplain spaces

/-- A text that does not start with NUL is not NULL. -/
theorem nullData_text {type byte : UInt8} {bytes : List UInt8}
    (hstringy : isStringyType type = true) (hbyte : byte ≠ 0) :
    nullData type (byte :: bytes) = false := by
  have hlone : ((byte :: bytes) == [0]) = false := by
    rw [beq_eq_false_iff_ne]
    intro hsame
    exact hbyte (List.cons.inj hsame).1
  unfold nullData
  rw [if_neg (by simp [hbyte])]
  rcases stringy_types hstringy with rfl | rfl | rfl | rfl | rfl <;>
    simp +decide [hlone]

theorem nullAt_text (hshown : RowShown setting result tuple located)
    {byte : UInt8} {others : List UInt8}
    (hspan : currentSpan setting result index = .ok (column, byte :: others))
    (hstringy : isStringyType column.type = true) (hbyte : byte ≠ 0) :
    result.nullAt index = false := by
  obtain ⟨start, span, hread, hnull, hlength⟩ := columnRead hshown
    (currentSpan_entry hspan).1
  have hdata : byte :: others = dataOf tuple span :=
    congrArg Prod.snd (Except.ok.inj (hspan.symm.trans hread))
  rw [← hdata] at hlength
  rw [hnull, spanIsNull, if_neg (by rw [← hlength]; simp)]
  change nullData _ (dataOf tuple span) = false
  rw [← hdata]
  exact nullData_text hstringy hbyte

/-- What the text branch returns for a column that is not NULL. -/
theorem getTimestamp_text (hshown : RowShown setting result tuple located)
    {byte : UInt8} {others : List UInt8}
    (hspan : currentSpan setting result index = .ok (column, byte :: others))
    (hstringy : isStringyType column.type = true) (hbyte : byte ≠ 0)
    (out : Bind.Timestamp) :
    getTimestamp calloc buffers base setting services options result index
        out =
      if buffers = false ∨
          cString (dataText options column (byte :: others)) = [] then
        some ((.ok, noTimestamp), { result with lastWasNull := false })
      else
        (textTimestamp (cString (dataText options column
          (byte :: others)))).map
            fun read => (read, { result with lastWasNull := false }) := by
  obtain ⟨hcolumn, -⟩ := currentSpan_entry hspan
  have hnull := nullAt_text hshown hspan hstringy hbyte
  have hopen := hshown.opened hcolumn
  obtain ⟨hdecimal, hdatetime, hinterval, hdate, hlob⟩ :=
    stringy_plain hstringy
  have hrow := hshown.flagged false
  have hspan' : currentSpan setting { result with lastWasNull := false } index =
      .ok (column, byte :: others) := hspan
  have hnull' : Result.nullAt { result with lastWasNull := false } index =
      false := hnull
  have htext : getText calloc buffers base setting services options
      { result with lastWasNull := false } index =
      (if buffers = false then [] else dataText options column
        (byte :: others), { result with lastWasNull := false }) := by
    cases buffers with
    | true =>
        rw [getText_stringy hrow hspan' hstringy hnull',
          if_neg (List.cons_ne_nil _ _), if_neg Bool.true_eq_false_eq_False]
    | false =>
        rw [getText, readString_shown hrow hspan', hnull',
          if_neg Bool.false_ne_true,
          if_pos (.inr rfl), if_pos rfl]
  unfold getTimestamp
  rw [hcolumn]
  dsimp only
  rw [if_neg hopen, hshown.isNullInternal_eq hcolumn calloc base, hnull]
  dsimp only
  rw [if_neg Bool.false_ne_true, if_neg hdate, if_neg hdatetime, if_pos hstringy, htext]
  cases buffers with
  | true => simp only [Bool.true_eq_false, if_false, false_or]
  | false => rfl

/-! Timestamps in texts. -/

/-- A text is read as the timestamp it spells, and the count of milliseconds is
that of the timestamp. -/
structure KeepsFraction (stamp : Temporal.Timestamp)
    (timestamp : Option ((Status × Bind.Timestamp) × Result))
    (milliseconds : Option ((Status × Int) × Result)) : Prop where
  timestamp : ∃ after, timestamp =
    some ((.ok, writtenFields stamp (sixDigits stamp.fraction)), after)
  range : sixDigits stamp.fraction ≤ 999999
  milliseconds : ∃ after, milliseconds =
    some ((.ok, (writtenFields stamp (sixDigits stamp.fraction)).toEpochMs),
      after)

theorem ends_spaces (spaces : Nat) : Ends (List.replicate spaces 32) := by
  intro byte hbyte
  rw [List.eq_of_mem_replicate (List.mem_of_head? hbyte)]
  decide

theorem sixDigits_cut (stamp : Temporal.Timestamp) :
    sixDigits (cutFraction stamp).fraction = sixDigits stamp.fraction := by
  simp only [cutFraction, sixDigits, List.take_take]
  rfl

/-- The read of a column that holds a timestamp and perhaps spaces behind it. -/
theorem getTimestamp_written (hshown : RowShown setting result tuple located)
    (hwritten : Written stamp) (hstringy : isStringyType column.type = true)
    (hascii : options.KeepsAscii)
    (hspan : currentSpan setting result index = .ok (column,
      stamp.text space ++ List.replicate pad 32)) :
    ∃ spaces, ∀ out,
      getTimestamp calloc buffers base setting services options result index
          out =
        if buffers = false then
          some ((.ok, noTimestamp), { result with lastWasNull := false })
        else
          (textTimestamp ((cutFraction stamp).text space ++
            List.replicate spaces 32)).map
              fun read => (read, { result with lastWasNull := false }) := by
  obtain ⟨spaces, hdata⟩ := @dataText_written options column stamp hwritten
    hascii hstringy pad
  have hsome : stamp.text space ++ List.replicate pad 32 ≠ [] := by
    rw [hwritten.text_eq]
    simp
  have hplain := fun byte => @Written.bytes_plain stamp hwritten pad byte
  obtain ⟨byte, others, hcons⟩ := List.exists_cons_of_ne_nil hsome
  rw [hcons] at hspan hdata hplain
  have htext : (cutFraction stamp).text space ++
      List.replicate spaces 32 ≠ [] := by
    rw [hwritten.cut.text_eq]
    simp
  refine ⟨spaces, fun out => ?_⟩
  rw [getTimestamp_text hshown hspan hstringy
    (hplain byte List.mem_cons_self).2, hdata]
  exact if_congr (or_iff_left htext) rfl rfl

/-- On a fetched row a text timestamp keeps its fraction, exactly if the string
getter has its buffers and the fraction has at most six digits, or only zeros among
those that fit in the buffer. -/
theorem timestamps_keepFraction_iff
    (hshown : RowShown setting result tuple located)
    (hwritten : Written stamp) (hstringy : isStringyType column.type = true)
    (hascii : options.KeepsAscii)
    (hspan : currentSpan setting result index = .ok (column,
      stamp.text space ++ List.replicate pad 32))
    (calloc buffers : Bool) (base : Nat) (services : Services)
    (out : Bind.Timestamp) :
    KeepsFraction stamp
        (getTimestamp calloc buffers base setting services options result index
          out)
        (getEpochMs calloc buffers base setting services options result
          index) ↔
      buffers = true ∧ (stamp.fraction.length ≤ 6 ∨
        ∀ byte ∈ stamp.fraction.take 4075, byte = zero) := by
  obtain ⟨spaces, hread⟩ := @getTimestamp_written result setting services
    options tuple located index base pad column calloc buffers stamp hshown
    hwritten hstringy hascii hspan
  have hkeeps := textTimestamp_keeps_iff hwritten.cut (ends_spaces spaces)
  have hshort : (cutFraction stamp).fraction.length ≤ 6 ↔
      stamp.fraction.length ≤ 6 := by
    simp only [cutFraction, List.length_take]
    omega
  rw [sixDigits_cut, hshort] at hkeeps
  rw [getEpochMs, hread, hread]
  cases buffers with
  | false =>
      refine iff_of_false (fun hkept => ?_) (fun h => nomatch h.1)
      obtain ⟨after, htimestamp⟩ := hkept.timestamp
      have hnull := congrArg (fun returned => returned.1.2.isNull)
        (Option.some.inj htimestamp)
      cases hnull
  | true =>
      rw [if_neg nofun, and_iff_right rfl]
      refine Iff.trans ?_ hkeeps
      constructor
      · intro hkept
        obtain ⟨after, htimestamp⟩ := hkept.timestamp
        obtain ⟨returned, hreturned, hsame⟩ :=
          Option.map_eq_some_iff.mp htimestamp
        rw [hreturned, (Prod.mk.inj hsame).1]
        rfl
      · intro htext
        rw [htext]
        have hlt := sixDigits_lt (hwritten.decimal stamp.fraction (by simp))
        exact ⟨⟨_, rfl⟩, by omega, ⟨_, rfl⟩⟩

/-- `2024-01-02 03:04:05` and a fraction. -/
def secondOf2024 (fraction : List UInt8) : Temporal.Timestamp :=
  ⟨[50, 48, 50, 52], [48, 49], [48, 50], [48, 51], [48, 52], [48, 53],
    fraction⟩

def tenth : Result :=
  { twoIntegers with
    columns := [⟨typeChar, 21⟩]
    rows := ⟨[(secondOf2024 [53]).text space], by decide⟩ }

def sevenDigits : Result :=
  { twoIntegers with
    columns := [⟨typeChar, 27⟩]
    rows := ⟨[(secondOf2024 [49, 50, 51, 52, 53, 54, 55]).text space],
      by decide⟩ }

theorem secondOf2024_written {fraction : List UInt8}
    (hdigits : fraction.all isDigit = true) (hsome : fraction ≠ []) :
    Written (secondOf2024 fraction) := by
  refine ⟨fun digits hmember => ?_, rfl, rfl, rfl, rfl, rfl, rfl, hsome⟩
  simp only [secondOf2024, List.mem_cons, List.not_mem_nil, or_false] at hmember
  rcases hmember with rfl | rfl | rfl | rfl | rfl | rfl | rfl
  all_goals first | exact hdigits | decide

theorem plainTexts_keepsAscii : plainTexts.KeepsAscii := nofun

theorem tenth_shown : RowShown unowned (fetched tenth)
    ((secondOf2024 [53]).text space) [⟨0, 21, false⟩] :=
  ⟨⟨rfl, rfl, rfl, by decide, rfl, rfl, rfl⟩, rfl, rfl⟩

theorem timestamps_keepFraction_tenth :
    KeepsFraction (secondOf2024 [53])
      (getTimestamp true true 0 unowned noServices plainTexts (fetched tenth) 0
        noTimestamp)
      (getEpochMs true true 0 unowned noServices plainTexts (fetched tenth)
        0) :=
  (@timestamps_keepFraction_iff _ unowned plainTexts _ _ 0 0 ⟨typeChar, 21⟩ _
    tenth_shown (secondOf2024_written (by decide) (by decide)) (by decide)
    plainTexts_keepsAscii rfl true true 0 noServices noTimestamp).mpr
      ⟨rfl, .inl (by decide)⟩

/-- `.1234567` is read as 1234567 microseconds. -/
theorem timestamps_sevenDigits :
    (fetch unowned sevenDigits).1 = .ok ∧
      ¬ KeepsFraction (secondOf2024 [49, 50, 51, 52, 53, 54, 55])
        (getTimestamp true true 0 unowned noServices plainTexts
          (fetched sevenDigits) 0 noTimestamp)
        (getEpochMs true true 0 unowned noServices plainTexts
          (fetched sevenDigits) 0) := by
  refine ⟨rfl, fun hkept => ?_⟩
  obtain ⟨after, htimestamp⟩ := hkept.timestamp
  have hread : (getTimestamp true true 0 unowned noServices plainTexts
      (fetched sevenDigits) 0 noTimestamp).map
        (fun returned => returned.1.2.microsecond) = some 1234567 := by
    decide +kernel
  rw [htimestamp, Option.map_some] at hread
  have hwrong : Int32.ofInt (sixDigits [49, 50, 51, 52, 53, 54, 55]) =
      1234567 := Option.some.inj hread
  exact absurd hwrong (by decide)

end Libsqli.Result
