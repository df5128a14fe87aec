import Libsqli.Result.Sizes
import Libsqli.Result.Strings

namespace Libsqli.Result

open Layout
open Libsqli.Data.Numeral

/-! The two string getters on a fetched row. -/

variable {result : Result} {setting : Setting} {services : Services}
  {options : TextOptions} {tuple bytes : List UInt8} {located : List Located}
  {index base capacity : Nat} {column : Column} {calloc buffers : Bool}
  {buffer out : Buffer}

/-! Texts of temporal values. -/

theorem scratchText_formats {format : FormatOutputs → Status × FormatOutputs}
    {text : List UInt8} (hformats : Formats format text)
    (hroom : text.length + 1 ≤ capacity) :
    scratchText capacity format = .ok (some text) := by
  have hstored := hformats.stores (List.replicate capacity 0) 0 false
    (by rwa [List.length_replicate])
  unfold scratchText
  rw [hstored]
  simp [FormatOutputs.overwrite]

theorem scratchText_null {format : FormatOutputs → Status × FormatOutputs}
    (hnull : ∀ out, format out = (.ok, out.nullOutputs)) :
    scratchText capacity format = .ok none := by
  unfold scratchText
  rw [hnull]
  rfl

/-- The text of a DATETIME or INTERVAL, `none` for NULL. -/
def fieldsText (fields : Temporal.TemporalFields) (interval : Bool) :
    Option (List UInt8) :=
  if fields.isNull then none else some (fields.text interval)

theorem scratchText_datetime (value : Datetime) (hroom : 57 ≤ capacity) :
    scratchText capacity value.format =
      .ok (fieldsText value.parts.fields false) := by
  have hsound := (Temporal.datetime_sound value).2
  unfold fieldsText
  cases hnull : value.parts.fields.isNull with
  | true => exact scratchText_null (hsound.1 hnull)
  | false =>
      have hlength := (Temporal.datetime_parsed value hnull).text_length_le
      exact scratchText_formats
        (Temporal.datetime_roundTrip value value hnull).1 (by omega)

theorem scratchText_interval (value : Interval) (hroom : 57 ≤ capacity) :
    scratchText capacity value.format =
      .ok (fieldsText value.parts.fields true) := by
  have hsound := (Temporal.interval_sound value).2
  unfold fieldsText
  cases hnull : value.parts.fields.isNull with
  | true => exact scratchText_null (hsound.1 hnull)
  | false =>
      have hlength := (Temporal.interval_parsed value hnull).text_length_le
      exact scratchText_formats
        (Temporal.interval_roundTrip value value hnull).1 (by omega)

theorem fieldsText_datetime_le {value : Datetime} {text : List UInt8}
    (htext : fieldsText value.parts.fields false = some text) :
    text.length ≤ 56 := by
  unfold fieldsText at htext
  split at htext
  · cases htext
  · next hnull =>
    cases htext
    exact (Temporal.datetime_parsed value
      (Bool.not_eq_true _ ▸ hnull)).text_length_le

theorem fieldsText_interval_le {value : Interval} {text : List UInt8}
    (htext : fieldsText value.parts.fields true = some text) :
    text.length ≤ 56 := by
  unfold fieldsText at htext
  split at htext
  · cases htext
  · next hnull =>
    cases htext
    exact (Temporal.interval_parsed value
      (Bool.not_eq_true _ ▸ hnull)).text_length_le

/-- No separator of an interval is a letter. -/
theorem interval_text_plain (fields : Temporal.TemporalFields) :
    84 ∉ fields.text true := by
  have hdigit : isDigit 84 = false := by decide
  have hseparator : ∀ field, Temporal.fieldSeparator field false ≠ 84 := by
    intro field
    unfold Temporal.fieldSeparator
    split <;> decide
  intro hletter
  rcases List.mem_append.mp hletter with hsign | hbody
  · split at hsign
    · exact absurd (List.mem_singleton.mp hsign) (by decide)
    · cases hsign
  · obtain ⟨field, -, hpiece⟩ := List.mem_flatMap.mp hbody
    rcases List.mem_append.mp hpiece with hmark | hnumber
    · unfold Temporal.TemporalFields.separator at hmark
      split at hmark
      · exact hseparator field (List.mem_singleton.mp hmark).symm
      · cases hmark
    · rw [isDigit_printPadded _ _ _ hnumber] at hdigit
      cases hdigit

theorem replaceSeparator_plain {text : List UInt8} (hplain : 84 ∉ text) :
    replaceSeparator text = text := by
  have hnone : text.idxOf? 84 = none := List.idxOf?_eq_none_iff.mpr hplain
  rw [replaceSeparator, hnone]

theorem length_replaceSeparator (text : List UInt8) :
    (replaceSeparator text).length = text.length := by
  unfold replaceSeparator
  split
  · rfl
  · exact List.length_set

/-! What `sqli_result_get_string` returns where `sqli_result_get_string_len` has a
value. -/

/-- The types whose texts are compared. -/
def comparedType (type : UInt8) : Bool :=
  isStringyType type || type ∈ [typeDatetime, typeInterval]

/-- A decoder makes at most three octets of one. -/
def TextOptions.GrowsWithin (options : TextOptions) : Prop :=
  ∀ decoder, options.decoder = some decoder → ∀ text converted,
    decoder text = some converted → converted.length ≤ 3 * text.length

theorem toUtf8_of_conversion {malloc : Nat → Bool} {raw converted : List UInt8}
    (hgrows : options.GrowsWithin) (hsmall : raw.length < stringSize)
    (hconverted : resultStringConversion malloc options raw = .ok converted) :
    toUtf8 options raw = converted := by
  have hroom : 3 * raw.length < utf8Size := by
    simp only [stringSize] at hsmall
    simp only [utf8Size]
    omega
  unfold resultStringConversion at hconverted
  split at hconverted
  · cases hconverted
  · split at hconverted
    · cases hconverted
    · unfold toUtf8
      cases hdecoder : options.decoder with
      | none =>
          split at hconverted
          · next hempty =>
            cases hconverted
            exact hempty
          · rw [hdecoder] at hconverted
            exact Except.ok.inj hconverted
      | some decoder =>
          have hlength := hgrows decoder hdecoder raw
          simp only [decoderConvert]
          cases houtput : decoder raw with
          | none =>
              split at hconverted
              · next hempty =>
                cases hconverted
                exact hempty
              · rw [hdecoder] at hconverted
                simp only [decoderConvert, houtput, Option.filter_none]
                  at hconverted
                cases hconverted
          | some output =>
              have hle := hlength output houtput
              have hfits : output.length < utf8Size := by omega
              rw [Option.filter_some_pos (by simpa using hfits),
                Option.getD_some]
              split at hconverted
              · next hempty =>
                cases hconverted
                rw [hempty, List.length_nil] at hle
                exact List.eq_nil_of_length_eq_zero (by omega)
              · rw [hdecoder] at hconverted
                simp only [decoderConvert, houtput] at hconverted
                rw [Option.filter_some_pos (by
                  simp only [decide_eq_true_eq]
                  omega)] at hconverted
                exact Except.ok.inj hconverted

theorem length_trimSpaces_le (text : List UInt8) :
    (trimSpaces text).length ≤ text.length :=
  (List.rdropWhile_prefix _ _).length_le

theorem compared_bytes_ne_nil (hshown : RowShown setting result tuple located)
    (hspan : currentSpan setting result index = .ok (column, bytes))
    (htemporal : column.type ∈ [typeDatetime, typeInterval])
    (hvalue : result.nullAt index = false) : bytes ≠ [] := by
  obtain ⟨start, span, hread, hnull, hlength⟩ := columnRead hshown
    (currentSpan_entry hspan).1
  cases hspan.symm.trans hread
  intro hempty
  have hsentinel : (!isStringyType column.type &&
      (isTwoBytePrefixed column.type ||
        allZeroIsNullSentinel column.type)) = true := by
    rcases List.mem_cons.mp htemporal with htype | htype
    · rw [htype]
      decide
    · rw [List.mem_singleton.mp htype]
      decide
  rw [hempty, List.length_nil] at hlength
  rw [hnull, spanIsNull, if_pos hlength.symm, hsentinel, Bool.or_true]
    at hvalue
  cases hvalue

theorem stringy_types {type : UInt8} (hstringy : isStringyType type = true) :
    type = typeChar ∨ type = typeNchar ∨ type = typeVarchar ∨
      type = typeNvchar ∨ type = typeLvarchar := by
  simpa [isStringyType] using hstringy

theorem stringy_plain {type : UInt8} (hstringy : isStringyType type = true) :
    decimalType type = false ∧ type ≠ typeDatetime ∧ type ≠ typeInterval ∧
      type ≠ typeDate ∧ type ∉ [typeByte, typeText] := by
  rcases stringy_types hstringy with rfl | rfl | rfl | rfl | rfl <;> decide

/-- What is converted of a character column. -/
def trimmed (options : TextOptions) (bytes : List UInt8) : List UInt8 :=
  if options.trimTrailingSpaces then trimSpaces bytes else bytes

theorem length_trimmed_le (options : TextOptions) (bytes : List UInt8) :
    (trimmed options bytes).length ≤ bytes.length := by
  unfold trimmed
  split
  · exact length_trimSpaces_le bytes
  · exact Nat.le_refl _

theorem columnText_stringy (hstringy : isStringyType column.type = true) :
    columnText setting (services.withTexts options) result index column bytes =
      (resultStringConversion services.malloc options
        (trimmed options bytes)).map some := by
  obtain ⟨hdecimal, hdatetime, hinterval, hdate, hlob⟩ :=
    stringy_plain hstringy
  unfold columnText
  rw [if_neg (by rw [hdecimal]; nofun), if_neg hdatetime, if_neg hinterval,
    if_neg hdate, if_neg hlob, if_neg (by rw [hstringy]; nofun)]
  rfl

theorem dataText_stringy (hstringy : isStringyType column.type = true)
    (hsmall : bytes.length < stringSize) :
    dataText options column bytes = toUtf8 options (trimmed options bytes) := by
  have hcopied : bytes.take (stringSize - 1) = bytes :=
    List.take_of_length_le (by omega)
  rw [dataText, hcopied, trimmed]
  simp only [hstringy, and_true]

theorem resultStringConversion_nil {malloc : Nat → Bool}
    {converted : List UInt8}
    (hconverted : resultStringConversion malloc options [] = .ok converted) :
    converted = [] := by
  unfold resultStringConversion at hconverted
  split at hconverted
  · cases hconverted
  · split at hconverted
    · cases hconverted
    · exact (Except.ok.inj hconverted).symm

/-- A text of a character column, with that of `sqli_result_get_string_len`. -/
theorem getText_stringy (hshown : RowShown setting result tuple located)
    (hspan : currentSpan setting result index = .ok (column, bytes))
    (hstringy : isStringyType column.type = true)
    (hnull : result.nullAt index = false) :
    getText calloc true base setting services options result index =
      (if bytes = [] then [] else dataText options column bytes,
        { result with lastWasNull := false }) := by
  obtain ⟨hdecimal, hdatetime, hinterval, hdate, hlob⟩ :=
    stringy_plain hstringy
  rw [getText, readString_shown hshown hspan, hnull, if_neg nofun]
  by_cases hempty : bytes = []
  · rw [if_pos (.inl hempty), if_pos hempty]
  · rw [if_neg (by simp [hempty]), if_neg hempty, if_neg hlob,
      if_neg (by rw [hdecimal]; nofun), if_neg hdatetime, if_neg hinterval]

theorem getText_of_conversion
    (hshown : RowShown setting result tuple located)
    (hspan : currentSpan setting result index = .ok (column, bytes))
    (hstringy : isStringyType column.type = true)
    (hnull : result.nullAt index = false) (hgrows : options.GrowsWithin)
    (hsmall : bytes.length < stringSize) {value : Option (List UInt8)}
    (hvalue : columnText setting (services.withTexts options) result index
      column bytes = .ok value) :
    getText calloc true base setting services options result index =
      (value.getD [], { result with lastWasNull := value.isNone }) := by
  rw [columnText_stringy hstringy] at hvalue
  cases hconverted : resultStringConversion services.malloc options
      (trimmed options bytes) with
  | error status =>
      rw [hconverted] at hvalue
      cases hvalue
  | ok converted =>
      rw [hconverted] at hvalue
      cases hvalue
      rw [getText_stringy hshown hspan hstringy hnull]
      by_cases hempty : bytes = []
      · have htrimmed : trimmed options bytes = [] := by
          have hlength := length_trimmed_le options bytes
          rw [hempty, List.length_nil] at hlength
          rw [hempty]
          exact List.eq_nil_of_length_eq_zero (by omega)
        rw [htrimmed] at hconverted
        rw [if_pos hempty, resultStringConversion_nil hconverted]
        rfl
      · have hlength := length_trimmed_le options bytes
        rw [if_neg hempty, dataText_stringy hstringy hsmall,
          toUtf8_of_conversion hgrows (by omega) hconverted]
        rfl

/-! Temporal columns. -/

theorem copiedText_temporal {value : Option (List UInt8)}
    (hsmall : ∀ text, value = some text → text.length < stringSize) :
    copiedText (temporalString (.ok value)
        { result with lastWasNull := false }) =
      (value.getD [], { result with lastWasNull := value.isNone }) := by
  cases value with
  | none => rfl
  | some text =>
      have hlength := hsmall text rfl
      simp only [temporalString, copiedText, Option.getD_some]
      rw [List.take_of_length_le (by omega)]
      rfl

theorem datetimeText_eq :
    (fun value : Datetime => scratchText Temporal.temporalMaxText value.format) =
      fun value => scratchText scalarTextCapacity value.format := by
  funext value
  rw [scratchText_datetime value (by decide),
    scratchText_datetime value (by decide)]

theorem intervalText_eq :
    (fun value : Interval => scratchText Temporal.temporalMaxText value.format) =
      fun value => scratchText scalarTextCapacity value.format := by
  funext value
  rw [scratchText_interval value (by decide),
    scratchText_interval value (by decide)]

theorem formatted_text {α : Type} {read : Status × α}
    {format : α → Except Status (Option (List UInt8))} {text : List UInt8}
    (htext : formatted read format = .ok (some text)) :
    ∃ value, format value = .ok (some text) := by
  obtain ⟨status, value⟩ := read
  cases status with
  | ok => exact ⟨value, htext⟩
  | _ => cases htext

theorem mapped_text {value : Except Status (Option (List UInt8))}
    {text : List UInt8}
    (htext : value.map (·.map replaceSeparator) = .ok (some text)) :
    ∃ before, value = .ok (some before) ∧ text = replaceSeparator before := by
  cases value with
  | error status => cases htext
  | ok value =>
      cases value with
      | none => cases htext
      | some before =>
          exact ⟨before, rfl, (Option.some.inj (Except.ok.inj htext)).symm⟩

theorem getText_datetime (hshown : RowShown setting result tuple located)
    (hspan : currentSpan setting result index = .ok (column, bytes))
    (htype : column.type = typeDatetime)
    (hnull : result.nullAt index = false) {value : Option (List UInt8)}
    (hvalue : columnText setting (services.withTexts options) result index
      column bytes = .ok value) :
    getText calloc true base setting services options result index =
      (value.getD [], { result with lastWasNull := value.isNone }) := by
  have hbytes := compared_bytes_ne_nil hshown hspan
    (List.mem_cons.mpr (.inl htype)) hnull
  have hdecimal : decimalType column.type = false := by
    rw [htype]
    decide
  have hlob : column.type ∉ [typeByte, typeText] := by
    rw [htype]
    decide
  have hformatted : (formatted (getDatetime setting result index .create)
      fun value => scratchText scalarTextCapacity value.format).map
        (·.map replaceSeparator) = .ok value := by
    rw [columnText, if_neg (by rw [hdecimal]; nofun), if_pos htype] at hvalue
    exact hvalue
  have hsmall : ∀ text, value = some text → text.length < stringSize := by
    rintro text rfl
    obtain ⟨before, hbefore, rfl⟩ := mapped_text hformatted
    obtain ⟨datetime, hdatetime⟩ := formatted_text hbefore
    rw [scratchText_datetime datetime (by decide)] at hdatetime
    have hlength := fieldsText_datetime_le (Except.ok.inj hdatetime)
    rw [length_replaceSeparator, stringSize]
    omega
  have hstring : getDatetimeString setting { result with lastWasNull := false }
      index = temporalString (.ok value)
        { result with lastWasNull := false } := by
    rw [getDatetimeString, datetimeText_eq, ← hformatted]
    rfl
  rw [getText, readString_shown hshown hspan, hnull, if_neg nofun,
    if_neg (by simp [hbytes]), if_neg hlob, if_neg (by rw [hdecimal]; nofun),
    if_pos htype, hstring]
  exact copiedText_temporal hsmall

/-- The separator that `sqli_result_get_string_len` looks for is in no interval. -/
theorem intervalText_plain (read : Status × Interval) :
    (formatted read fun value => scratchText scalarTextCapacity
        value.format).map (·.map replaceSeparator) =
      formatted read fun value => scratchText scalarTextCapacity
        value.format := by
  obtain ⟨status, value⟩ := read
  cases status with
  | ok =>
      simp only [formatted]
      rw [scratchText_interval value (by decide)]
      unfold fieldsText
      split
      · rfl
      · exact congrArg (fun text => Except.ok (some text))
          (replaceSeparator_plain (interval_text_plain value.parts.fields))
  | _ => rfl

theorem getText_interval (hshown : RowShown setting result tuple located)
    (hspan : currentSpan setting result index = .ok (column, bytes))
    (htype : column.type = typeInterval)
    (hnull : result.nullAt index = false) {value : Option (List UInt8)}
    (hvalue : columnText setting (services.withTexts options) result index
      column bytes = .ok value) :
    getText calloc true base setting services options result index =
      (value.getD [], { result with lastWasNull := value.isNone }) := by
  have hbytes := compared_bytes_ne_nil hshown hspan
    (List.mem_cons.mpr (.inr (List.mem_singleton.mpr htype))) hnull
  have hdecimal : decimalType column.type = false := by
    rw [htype]
    decide
  have hlob : column.type ∉ [typeByte, typeText] := by
    rw [htype]
    decide
  have hdatetime : column.type ≠ typeDatetime := by
    rw [htype]
    decide
  have hformatted : (formatted (getInterval setting result index .create)
      fun value => scratchText scalarTextCapacity value.format) =
        .ok value := by
    rw [columnText, if_neg (by rw [hdecimal]; nofun), if_neg hdatetime,
      if_pos htype] at hvalue
    exact (intervalText_plain _).symm.trans hvalue
  have hsmall : ∀ text, value = some text → text.length < stringSize := by
    rintro text rfl
    obtain ⟨interval, hinterval⟩ := formatted_text hformatted
    rw [scratchText_interval interval (by decide)] at hinterval
    have hlength := fieldsText_interval_le (Except.ok.inj hinterval)
    rw [stringSize]
    omega
  have hstring : getIntervalString setting { result with lastWasNull := false }
      index = temporalString (.ok value)
        { result with lastWasNull := false } := by
    rw [getIntervalString, intervalText_eq, ← hformatted]
    rfl
  rw [getText, readString_shown hshown hspan, hnull, if_neg nofun,
    if_neg (by simp [hbytes]), if_neg hlob, if_neg (by rw [hdecimal]; nofun),
    if_neg hdatetime, if_pos htype, hstring]
  exact copiedText_temporal hsmall

/-- With its buffers, `sqli_result_get_string` returns what the other getter has
for the column. -/
theorem getText_of_value (hshown : RowShown setting result tuple located)
    (hspan : currentSpan setting result index = .ok (column, bytes))
    (hcompared : comparedType column.type = true)
    (hgrows : options.GrowsWithin) (hsmall : bytes.length < stringSize)
    {value : Option (List UInt8)}
    (hvalue : stringValue setting (services.withTexts options) result index =
      .ok value) :
    getText calloc true base setting services options result index =
      (value.getD [], { result with lastWasNull := value.isNone }) := by
  unfold stringValue at hvalue
  rw [hspan] at hvalue
  dsimp only at hvalue
  cases hnull : result.nullAt index with
  | true =>
      rw [hnull, if_pos rfl] at hvalue
      cases hvalue
      rw [getText, readString_shown hshown hspan, hnull, if_pos rfl]
      rfl
  | false =>
      rw [hnull, if_neg nofun] at hvalue
      have htypes : isStringyType column.type = true ∨
          column.type = typeDatetime ∨ column.type = typeInterval := by
        simpa [comparedType] using hcompared
      rcases htypes with hstringy | hdatetime | hinterval
      · exact getText_of_conversion hshown hspan hstringy hnull hgrows hsmall
          hvalue
      · exact getText_datetime hshown hspan hdatetime hnull hvalue
      · exact getText_interval hshown hspan hinterval hnull hvalue

/-! Reads of other columns. -/

theorem temporalString_kept (text : Except Status (Option (List UInt8)))
    (result : Result) : ∃ flag, (temporalString text result).2 =
      { result with lastWasNull := flag } := by
  rcases text with status | value | value
  · exact ⟨result.lastWasNull, rfl⟩
  · exact ⟨true, rfl⟩
  · exact ⟨false, rfl⟩

/-- A read of any column changes nothing but `last_was_null`. -/
theorem getText_kept (hshown : RowShown setting result tuple located) :
    ∃ flag, (getText calloc buffers base setting services options result
      index).2 = { result with lastWasNull := flag } := by
  cases hcolumn : result.columns[index]? with
  | none =>
      refine ⟨result.lastWasNull, ?_⟩
      rw [getText, readString, hcolumn]
  | some column =>
      obtain ⟨span, -, hspan⟩ := hshown.currentSpan hcolumn
      rw [getText, readString_shown hshown hspan]
      split
      · exact ⟨true, rfl⟩
      · split
        · exact ⟨false, rfl⟩
        · split
          · exact ⟨false, rfl⟩
          · split
            · next hdecimal =>
              have htext := @getDecimalString_eq
                { result with lastWasNull := false } setting tuple _ located
                index base column calloc (fun _ _ => []) (hshown.flagged false)
                hspan hdecimal
              rw [copiedText, htext]
              exact ⟨_, rfl⟩
            · split
              · exact temporalString_kept _ { result with lastWasNull := false }
              · split
                · exact temporalString_kept _
                    { result with lastWasNull := false }
                · exact ⟨false, rfl⟩

/-- The result after reads of columns, each with its buffers or without. -/
def afterReads (calloc : Bool) (base : Nat) (setting : Setting)
    (services : Services) (options : TextOptions) (reads : List (Nat × Bool))
    (result : Result) : Result :=
  reads.foldl (fun result read =>
    (getText calloc read.2 base setting services options result read.1).2) result

theorem afterReads_kept (reads : List (Nat × Bool))
    (hshown : RowShown setting result tuple located) :
    ∃ flag, afterReads calloc base setting services options reads result =
      { result with lastWasNull := flag } := by
  induction reads generalizing result with
  | nil => exact ⟨result.lastWasNull, rfl⟩
  | cons read reads ih =>
      obtain ⟨first, hfirst⟩ := @getText_kept result setting services options
        tuple located read.1 base calloc read.2 hshown
      obtain ⟨flag, hflag⟩ := ih (hshown.flagged first)
      refine ⟨flag, ?_⟩
      change afterReads calloc base setting services options reads
        (getText calloc read.2 base setting services options result
          read.1).2 = _
      rw [hfirst]
      exact hflag

/-! The text in the caller's buffer. -/

/-- The same text up to its first NUL, and the same NULL state. -/
structure SameString (out : Buffer) (text : List UInt8 × Result) : Prop where
  null : out.isNull = text.2.lastWasNull
  nothing : out.isNull = true → cString text.1 = []
  same : out.isNull = false → ∀ stored, out.out = some stored →
    cString stored = cString text.1

theorem cString_terminated (text rest : List UInt8) :
    cString (text ++ 0 :: rest) = cString text := by
  unfold cString
  induction text with
  | nil => rfl
  | cons byte text ih =>
      rw [List.cons_append, List.takeWhile_cons, List.takeWhile_cons, ih]

theorem sameString_copied {value : Option (List UInt8)}
    {text : List UInt8 × Result}
    (hcopied : (copied true (.ok value) buffer).1 = .ok)
    (htext : text.1 = value.getD [])
    (hnull : text.2.lastWasNull = value.isNone) :
    SameString (copied true (.ok value) buffer).2 text := by
  have hcontract := copied_contract true
    (fun herror => nomatch herror : Except.ok value ≠ .error Status.ok)
  cases hcontract with
  | fails status hstatus herror unchanged =>
      rw [unchanged] at hcopied
      exact absurd hcopied hstatus
  | tooLong content hvalue hlong unchanged =>
      rw [unchanged] at hcopied
      cases hcopied
  | null hvalue unwritten =>
      cases hvalue
      rw [unwritten]
      refine ⟨hnull.symm, fun _ => ?_, nofun⟩
      rw [htext]
      rfl
  | given content hvalue query stored tooSmall =>
      cases hvalue
      obtain ⟨room, required, isNull⟩ := buffer
      cases room with
      | none =>
          rw [query]
          exact ⟨hnull.symm, nofun, fun _ stored hstored => nomatch hstored⟩
      | some old =>
          by_cases hroom : (content ++ terminatorOf true).length ≤ old.length
          · rw [stored old required isNull hroom]
            refine ⟨hnull.symm, nofun, fun _ stored hstored => ?_⟩
            cases hstored
            rw [htext, List.append_assoc]
            exact cString_terminated content _
          · rw [tooSmall old required isNull (by omega)] at hcopied
            cases hcopied

theorem resultStringConversion_ne_ok {malloc : Nat → Bool} {raw : List UInt8} :
    resultStringConversion malloc options raw ≠ .error .ok := by
  unfold resultStringConversion
  split
  · nofun
  · split
    · nofun
    · split
      · nofun
      · split
        · nofun
        · split <;> nofun

/-- A failure on a column of the compared types is one. -/
theorem stringValue_compared_ne_ok
    (hspan : currentSpan setting result index = .ok (column, bytes))
    (hcompared : comparedType column.type = true) :
    stringValue setting (services.withTexts options) result index ≠
      .error .ok := by
  unfold stringValue
  rw [hspan]
  dsimp only
  split
  · nofun
  · have htypes : isStringyType column.type = true ∨
        column.type = typeDatetime ∨ column.type = typeInterval := by
      simpa [comparedType] using hcompared
    rcases htypes with hstringy | hdatetime | hinterval
    · rw [columnText_stringy hstringy]
      exact map_ne_ok resultStringConversion_ne_ok
    · rw [columnText, if_neg (by rw [hdatetime]; decide), if_pos hdatetime]
      refine map_ne_ok (formatted_ne_ok fun value => ?_)
      change scratchText scalarTextCapacity value.format ≠ _
      rw [scratchText_datetime value (by decide)]
      nofun
    · rw [columnText, if_neg (by rw [hinterval]; decide),
        if_neg (by rw [hinterval]; decide), if_pos hinterval]
      refine map_ne_ok (formatted_ne_ok fun value => ?_)
      change scratchText scalarTextCapacity value.format ≠ _
      rw [scratchText_interval value (by decide)]
      nofun

/-- After any reads of the row a text that `sqli_result_get_string_len` returns is
also what `sqli_result_get_string` returns; without its buffers that one returns
the empty text. -/
theorem strings_agree (hshown : RowShown setting result tuple located)
    (hcolumn : result.columns[index]? = some column)
    (hcompared : comparedType column.type = true)
    (hsmall : ∀ bytes, currentSpan setting result index = .ok (column, bytes) →
      bytes.length ≤ 4095)
    (hgrows : options.GrowsWithin) (calloc : Bool) (base : Nat)
    (services : Services) (reads : List (Nat × Bool)) (buffer : Buffer)
    (hlen : (getStringLen setting (services.withTexts options)
      (afterReads calloc base setting services options reads result) index
      buffer).1 = .ok) :
    SameString (getStringLen setting (services.withTexts options)
        (afterReads calloc base setting services options reads result) index
        buffer).2
      (getText calloc true base setting services options
        (afterReads calloc base setting services options reads result)
        index) ∧
    (getText calloc false base setting services options
      (afterReads calloc base setting services options reads result)
      index).1 = [] := by
  obtain ⟨flag, hflag⟩ := @afterReads_kept result setting services options
    tuple located base calloc reads hshown
  rw [hflag] at hlen ⊢
  have hrow := hshown.flagged flag
  obtain ⟨span, -, hspan⟩ := hrow.currentSpan hcolumn
  rw [getStringLen_copied] at hlen ⊢
  constructor
  · cases hvalue : stringValue setting (services.withTexts options)
        { result with lastWasNull := flag } index with
    | error status =>
        rw [hvalue] at hlen
        have hfailed : status = .ok := hlen
        rw [hfailed] at hvalue
        exact absurd hvalue (stringValue_compared_ne_ok hspan hcompared)
    | ok value =>
        rw [hvalue] at hlen
        have hbytes := hsmall _ hspan
        have htext := @getText_of_value { result with lastWasNull := flag }
          setting services options tuple _ located index base column calloc hrow
          hspan hcompared hgrows (Nat.lt_succ_of_le hbytes) value hvalue
        exact sameString_copied hlen (congrArg Prod.fst htext)
          (congrArg (fun text => text.2.lastWasNull) htext)
  · rw [getText, readString_shown hrow hspan]
    split
    · rfl
    · rw [if_pos (.inr rfl)]

def plainTexts : TextOptions := ⟨true, none⟩

theorem plainTexts_growsWithin : plainTexts.GrowsWithin := nofun

/-- `hello`, read by both getters after two reads of the same column. -/
theorem strings_agree_hello :
    getText true true 0 unowned noServices plainTexts
        (afterReads true 0 unowned noServices plainTexts
          [(0, true), (1, false)] secondText) 0 =
      ([104, 101, 108, 108, 111], secondText) ∧
    SameString
      (getStringLen unowned (noServices.withTexts plainTexts)
        (afterReads true 0 unowned noServices plainTexts
          [(0, true), (1, false)] secondText) 0 eightOctets).2
      (getText true true 0 unowned noServices plainTexts
        (afterReads true 0 unowned noServices plainTexts
          [(0, true), (1, false)] secondText) 0) := by
  refine ⟨rfl, (strings_agree secondText_shown
    (rfl : secondText.columns[0]? = some ⟨typeChar, 5⟩) (by decide) ?_
    plainTexts_growsWithin true 0 noServices [(0, true), (1, false)]
    eightOctets rfl).1⟩
  intro bytes hspan
  cases (rfl : currentSpan unowned secondText 0 =
    .ok (⟨typeChar, 5⟩, [104, 101, 108, 108, 111])).symm.trans hspan
  decide

/-- Without memory for its buffers `sqli_result_get_string` has no text. -/
theorem strings_differ_unbuffered :
    getStringLen unowned (noServices.withTexts plainTexts) secondText 0
        eightOctets =
      (.ok, ⟨some [104, 101, 108, 108, 111, 0, 0, 0], 6, false⟩) ∧
    ¬ SameString
      (getStringLen unowned (noServices.withTexts plainTexts) secondText 0
        eightOctets).2
      (getText true false 0 unowned noServices plainTexts secondText 0) := by
  refine ⟨rfl, fun hsame => ?_⟩
  have htext := hsame.same rfl [104, 101, 108, 108, 111, 0, 0, 0] rfl
  exact absurd htext (by decide)

end Libsqli.Result
