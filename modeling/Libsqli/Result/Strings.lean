import Libsqli.Result.DecimalGetters
import Libsqli.Temporal.Objects

namespace Libsqli.Result

open Layout

/-! `sqli_result_get_string` for every type, and the conversion of character
sets. -/

/-- An open descriptor of `iconv`: what it makes of a text, if it can. -/
abbrev Decoder := List UInt8 → Option (List UInt8)

/-- `sqli_charset_decoder_convert`: the output and a terminator must fit. -/
def decoderConvert (decoder : Decoder) (input : List UInt8) (capacity : Nat) :
    Option (List UInt8) :=
  (decoder input).filter fun output => output.length < capacity

/-- The settings of a connection that concern texts. `decoder` is there once the
locales were looked at and a conversion between them could be opened. -/
structure TextOptions where
  trimTrailingSpaces : Bool
  decoder : Option Decoder

def sizeMax : Nat := 2 ^ 64 - 1

/-- `result_string_conversion` -/
def resultStringConversion (malloc : Nat → Bool) (options : TextOptions)
    (raw : List UInt8) : Except Status (List UInt8) :=
  if (sizeMax - 1) / 4 < raw.length then .error .limitExceeded
  else if malloc (raw.length * 4 + 1) = false then .error .allocFail
  else if raw = [] then .ok []
  else
    match options.decoder with
    | none => .ok raw
    | some decoder =>
        match decoderConvert decoder raw (raw.length * 4 + 1) with
        | none => .error .protoError
        | some converted => .ok converted

/-- The text that a formatter leaves in a buffer of its caller, `none` for NULL. -/
def scratchText (capacity : Nat)
    (format : FormatOutputs → Status × FormatOutputs) :
    Except Status (Option (List UInt8)) :=
  match format ⟨some (List.replicate capacity 0), 0, false⟩ with
  | (.ok, out) =>
      if out.isNull then .ok none
      else .ok (some ((out.buffer.getD []).take (out.required - 1)))
  | (status, _) => .error status

def scalarTextCapacity : Nat := 256

/-- The services of `sqli_result_get_string_len` that are modelled. -/
def Services.withTexts (services : Services) (options : TextOptions) :
    Services :=
  { services with
    formatDatetime := fun value => scratchText scalarTextCapacity value.format
    formatInterval := fun value => scratchText scalarTextCapacity value.format
    convert := resultStringConversion services.malloc options
    trimTrailingSpaces := options.trimTrailingSpaces }

/-- The end of the temporal string getters; `last_was_null` is set where the
formatter succeeds. -/
def temporalString (text : Except Status (Option (List UInt8)))
    (result : Result) : List UInt8 × Result :=
  match text with
  | .error _ => ([], result)
  | .ok none => ([], { result with lastWasNull := true })
  | .ok (some text) => (text, { result with lastWasNull := false })

/-- `sqli_result_get_datetime_string` -/
def getDatetimeString (setting : Setting) (result : Result) (index : Nat) :
    List UInt8 × Result :=
  temporalString ((formatted (getDatetime setting result index .create)
    fun value => scratchText Temporal.temporalMaxText value.format).map
      (·.map replaceSeparator)) result

/-- `sqli_result_get_interval_string` -/
def getIntervalString (setting : Setting) (result : Result) (index : Nat) :
    List UInt8 × Result :=
  temporalString (formatted (getInterval setting result index .create)
    fun value => scratchText Temporal.temporalMaxText value.format) result

def utf8Size : Nat := 12288

/-- A text that cannot be converted stays as it was received. -/
def toUtf8 (options : TextOptions) (raw : List UInt8) : List UInt8 :=
  match options.decoder with
  | none => raw
  | some decoder => (decoderConvert decoder raw utf8Size).getD raw

/-- The text of a LOB, of which only TEXT is converted. -/
def lobText (services : Services) (options : TextOptions) (index : Nat)
    (column : Column) : List UInt8 :=
  match services.materialize index with
  | .error _ => []
  | .ok lob =>
      if lob = [] then []
      else if column.type = typeText then
        toUtf8 options (lob.take (stringSize - 1))
      else lob.take (stringSize - 1)

/-- The text of the types that have no branch of their own. -/
def dataText (options : TextOptions) (column : Column) (data : List UInt8) :
    List UInt8 :=
  toUtf8 options
    (if options.trimTrailingSpaces ∧ isStringyType column.type then
      trimSpaces (data.take (stringSize - 1))
    else data.take (stringSize - 1))

/-- The common start of `sqli_result_get_string`: the row cache, the NULL flag
and the buffers of the columns. -/
def readString (calloc buffers : Bool) (result : Result) (index : Nat)
    (read : Column → List UInt8 → Result → List UInt8 × Result) :
    List UInt8 × Result :=
  match result.columns[index]? with
  | none => ([], result)
  | some column =>
      if result.view.currentRow < 0 ∨ result.view.tuple.getD [] = [] then
        ([], result)
      else
        let cached := withCache calloc result
        if hasCache cached = false then ([], cached)
        else
          let flagged :=
            { cached with lastWasNull := cached.nullAt index }
          if cached.nullAt index then ([], flagged)
          else match currentValue flagged index with
            | .error _ => ([], flagged)
            | .ok data =>
                if data = [] ∨ buffers = false then ([], flagged)
                else read column data flagged

/-- What is copied into the buffer of the column. -/
def copiedText (text : List UInt8 × Result) : List UInt8 × Result :=
  (text.1.take (stringSize - 1), text.2)

/-- `sqli_result_get_string` -/
def getText (calloc buffers : Bool) (base : Nat) (setting : Setting)
    (services : Services) (options : TextOptions) (result : Result)
    (index : Nat) : List UInt8 × Result :=
  readString calloc buffers result index fun column data flagged =>
    if column.type ∈ [typeByte, typeText] then
      (lobText services options index column, flagged)
    else if decimalType column.type then
      copiedText (getDecimalString calloc base (fun _ _ => []) flagged index)
    else if column.type = typeDatetime then
      copiedText (getDatetimeString setting flagged index)
    else if column.type = typeInterval then
      copiedText (getIntervalString setting flagged index)
    else (dataText options column data, flagged)

/-- What a C string holds: up to the first NUL. -/
def cString (text : List UInt8) : List UInt8 := text.takeWhile (· != 0)

variable {result : Result} {setting : Setting} {services : Services}
  {options : TextOptions} {tuple bytes : List UInt8} {located : List Located}
  {index base : Nat} {column : Column} {calloc buffers : Bool}

/-- The reader of a fetched row. -/
theorem readString_shown (hshown : RowShown setting result tuple located)
    (hspan : currentSpan setting result index = .ok (column, bytes))
    (read : Column → List UInt8 → Result → List UInt8 × Result) :
    readString calloc buffers result index read =
      if result.nullAt index then ([], { result with lastWasNull := true })
      else if bytes = [] ∨ buffers = false then
        ([], { result with lastWasNull := false })
      else read column bytes { result with lastWasNull := false } := by
  obtain ⟨hcolumn, hvalue⟩ := currentSpan_entry hspan
  have hcache := hshown.hasCache_eq
  have hopen := hshown.opened hcolumn
  have hcached : withCache calloc result = result := if_pos hcache
  unfold readString
  rw [hcolumn]
  dsimp only
  rw [if_neg hopen, hcached, if_neg (by rw [hcache]; nofun)]
  cases hnull : result.nullAt index with
  | true => rfl
  | false =>
      have hsame : currentValue { result with lastWasNull := false } index =
          .ok bytes := hvalue
      rw [if_neg nofun, hsame]
      rfl

end Libsqli.Result
