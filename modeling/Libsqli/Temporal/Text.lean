import Libsqli.Data.Ctype
import Libsqli.Data.Digits
import Libsqli.Formatting
import Libsqli.Temporal.Date

namespace Libsqli.Temporal

open Libsqli.Data.Ctype
open Libsqli.Data.Numeral

def temporalMaxText : Nat := 64
def calendarYearDigits : Nat := 4
def calendarFieldDigits : Nat := 2
def uint64DecimalDigits : Nat := 20
def calendarDateLength : Nat := 10
def timestampSecondLength : Nat := 19
def timestampFractionOffset : Nat := 20
def nanosecondDigits : Nat := 9
def uint64Max : Nat := 2 ^ 64 - 1

def letterT : UInt8 := 84

/-! Parsing.  What remains of the text stands for the reader's position. -/

/-- The loop of `read_number`: the digits seen and their value. -/
def readDigits (maximum : Nat) :
    Nat → Nat → List UInt8 → Except Status (Nat × Nat × List UInt8)
  | count, value, [] => .ok (count, value, [])
  | count, value, byte :: rest =>
      if isDigit byte then
        if (uint64Max - digitValue byte) / 10 < value then .error .outOfRange
        else if count = maximum then .error .invalidArgument
        else readDigits maximum (count + 1) (value * 10 + digitValue byte) rest
      else .ok (count, value, byte :: rest)

/-- `read_number` -/
def readNumber (minimum maximum : Nat) (text : List UInt8) :
    Except Status (Nat × List UInt8) :=
  match readDigits maximum 0 0 text with
  | .error status => .error status
  | .ok (count, value, rest) =>
      if count < minimum then .error .invalidArgument else .ok (value, rest)

/-- `field_separator` -/
def fieldSeparator (field : Nat) (iso : Bool) : UInt8 :=
  match field with
  | 2 | 3 => minus
  | 4 => if iso then letterT else space
  | 5 | 6 => colon
  | _ => point

/-- The optional sign of an interval. -/
def readSign (interval : Bool) : List UInt8 → Bool × List UInt8
  | byte :: rest =>
      if interval ∧ (byte = plus ∨ byte = minus) then (byte = minus, rest)
      else (false, byte :: rest)
  | [] => (false, [])

/-- The zero that may stand before a fraction-only point. -/
def skipZero (range : TemporalRange) (field : Nat) (text : List UInt8) :
    List UInt8 :=
  if field = fieldFraction ∧ field = range.first ∧ text.head? = some zero then
    text.tail
  else text

/-- What stands before the digits of a field. -/
def readSeparator (range : TemporalRange) (interval : Bool) (field : Nat)
    (text : List UInt8) : Except Status (List UInt8) :=
  if field ≠ range.first ∨ field = fieldFraction then
    match skipZero range field text with
    | [] => .error .invalidArgument
    | actual :: rest =>
        if actual ≠ fieldSeparator field false ∧
            ¬ (field = fieldHour ∧ !interval ∧ actual = letterT) then
          .error .invalidArgument
        else .ok rest
  else .ok (skipZero range field text)

/-- The least and the greatest number of digits of a field. -/
def fieldDigits (range : TemporalRange) (interval : Bool) (field : Nat) :
    Nat × Nat :=
  if field = fieldFraction then
    (range.fractionalDigits, range.fractionalDigits)
  else if interval ∧ field = range.first then (1, uint64DecimalDigits)
  else if field = fieldYear ∧ !interval then
    (calendarYearDigits, calendarYearDigits)
  else (calendarFieldDigits, calendarFieldDigits)

/-- `fraction_factors` scale a fraction to nanoseconds. -/
def storeField (field magnitude : Nat) (fields : TemporalFields) :
    Except Status TemporalFields :=
  if field = fieldFraction then
    if nanosecondsPerSecond ≤ magnitude then .error .outOfRange
    else .ok { fields with
      nanosecond := magnitude * 10 ^ (9 - fields.range.fractionalDigits) }
  else .ok { fields with
    integral := Function.update fields.integral field magnitude }

/-- One round of the loop of `parse_fields`. -/
def parseField (interval : Bool) (field : Nat) (fields : TemporalFields)
    (text : List UInt8) : Except Status (TemporalFields × List UInt8) :=
  match readSeparator fields.range interval field text with
  | .error status => .error status
  | .ok rest =>
      match readNumber (fieldDigits fields.range interval field).1
          (fieldDigits fields.range interval field).2 rest with
      | .error status => .error status
      | .ok (magnitude, rest) =>
          match storeField field magnitude fields with
          | .error status => .error status
          | .ok fields => .ok (fields, rest)

def parseEach (interval : Bool) : List Nat → TemporalFields → List UInt8 →
    Except Status (TemporalFields × List UInt8)
  | [], fields, text => .ok (fields, text)
  | field :: rest, fields, text =>
      match parseField interval field fields text with
      | .error status => .error status
      | .ok (fields, text) => parseEach interval rest fields text

/-- The fields of a range, the fraction included. -/
def TemporalRange.fields (range : TemporalRange) : List Nat :=
  List.range' range.first (range.last + 1 - range.first)

/-- Fields that hold only their range. -/
def blankFields (range : TemporalRange) : TemporalFields :=
  ⟨range, fun _ => 0, 0, false, false⟩

/-- `parse_fields`, which every caller enters with blank fields. -/
def parseFields (range : TemporalRange) (text : List UInt8)
    (interval : Bool) : Except Status TemporalFields :=
  if validateRange range interval false ≠ .ok ∨ text = [] then
    .error .invalidArgument
  else if temporalMaxText < text.length then .error .limitExceeded
  else
    match parseEach interval range.fields
        { blankFields range with negative := (readSign interval text).1 }
        (readSign interval text).2 with
    | .error status => .error status
    | .ok (fields, rest) =>
        if rest ≠ [] then .error .invalidArgument
        else
          match validateFields fields interval with
          | .ok => .ok fields
          | failure => .error failure

/-- `datetime_parts`, called once the fields have been validated. -/
def TemporalFields.datetimeParts (fields : TemporalFields) :
    DatetimeParts where
  range := fields.range
  year := Int32.ofNat (fields.integral fieldYear)
  month := UInt8.ofNat (fields.integral fieldMonth)
  day := UInt8.ofNat (fields.integral fieldDay)
  hour := UInt8.ofNat (fields.integral fieldHour)
  minute := UInt8.ofNat (fields.integral fieldMinute)
  second := UInt8.ofNat (fields.integral fieldSecond)
  nanosecond := UInt32.ofNat fields.nanosecond
  isNull := fields.isNull

/-- The parts that `sqli_interval_parse` hands to `sqli_interval_set_parts`. -/
def TemporalFields.intervalParts (fields : TemporalFields) :
    IntervalParts where
  range := fields.range
  years := UInt64.ofNat (fields.integral fieldYear)
  months := UInt64.ofNat (fields.integral fieldMonth)
  days := UInt64.ofNat (fields.integral fieldDay)
  hours := UInt64.ofNat (fields.integral fieldHour)
  minutes := UInt64.ofNat (fields.integral fieldMinute)
  seconds := UInt64.ofNat (fields.integral fieldSecond)
  nanosecond := UInt32.ofNat fields.nanosecond
  negative := fields.negative
  isNull := false

/-- `sqli_date_parse` -/
def Date.parse (text : List UInt8) (isNull : Bool) (value : Date) :
    Status × Date :=
  if isNull then (.ok, .null)
  else if text.length ≠ calendarDateLength then (.invalidArgument, value)
  else
    match parseFields ⟨fieldYear, fieldDay, 0⟩ text false with
    | .error status => (status, value)
    | .ok fields => (.ok, ⟨Int32.ofNat (fields.integral fieldYear),
        UInt8.ofNat (fields.integral fieldMonth),
        UInt8.ofNat (fields.integral fieldDay), false⟩)

/-! Formatting. -/

/-- `write_character` -/
def writeCharacter (writer : List UInt8) (byte : UInt8) :
    Except Status (List UInt8) :=
  if temporalMaxText ≤ writer.length then .error .limitExceeded
  else .ok (writer ++ [byte])

/-- `write_number` -/
def writeNumber (writer : List UInt8) (value width : Nat) :
    Except Status (List UInt8) :=
  if temporalMaxText - writer.length < (printPadded width value).length then
    .error .limitExceeded
  else .ok (writer ++ printPadded width value)

/-- `complete_timestamp` -/
def completeTimestamp (range : TemporalRange) : Bool :=
  range.first == fieldYear && fieldSecond ≤ range.last

def separatorIso (range : TemporalRange) (interval : Bool) : Bool :=
  !interval && completeTimestamp range

/-- The width that `format_fields` pads a field to. -/
def formatWidth (range : TemporalRange) (interval : Bool) (field : Nat) : Nat :=
  if field = fieldFraction then range.fractionalDigits
  else if interval ∧ field = range.first then 1
  else if !interval ∧ field = fieldYear then calendarYearDigits
  else calendarFieldDigits

def TemporalFields.magnitude (fields : TemporalFields) (field : Nat) : Nat :=
  if field = fieldFraction then
    fields.nanosecond / 10 ^ (9 - fields.range.fractionalDigits)
  else fields.integral field

/-- One round of the loop of `format_fields`. -/
def formatField (interval : Bool) (fields : TemporalFields) (field : Nat)
    (writer : List UInt8) : Except Status (List UInt8) :=
  if field ≠ fields.range.first ∨ field = fieldFraction then
    match writeCharacter writer
        (fieldSeparator field (separatorIso fields.range interval)) with
    | .error status => .error status
    | .ok writer => writeNumber writer (fields.magnitude field)
        (formatWidth fields.range interval field)
  else writeNumber writer (fields.magnitude field)
    (formatWidth fields.range interval field)

def formatEach (interval : Bool) (fields : TemporalFields) :
    List Nat → List UInt8 → Except Status (List UInt8)
  | [], writer => .ok writer
  | field :: rest, writer =>
      match formatField interval fields field writer with
      | .error status => .error status
      | .ok writer => formatEach interval fields rest writer

/-- `format_fields`; its result is what the writer holds before the
terminator. -/
def formatFields (fields : TemporalFields) (interval : Bool) :
    Except Status (List UInt8) :=
  if fields.negative then
    match writeCharacter [] minus with
    | .error status => .error status
    | .ok writer => formatEach interval fields fields.range.fields writer
  else formatEach interval fields fields.range.fields []

/-- `format_value` -/
def formatValue (fields : TemporalFields) (interval iso : Bool)
    (out : FormatOutputs) : Status × FormatOutputs :=
  match validateFields fields interval with
  | .ok =>
      if fields.isNull then (.ok, out.nullOutputs)
      else if iso ∧ !completeTimestamp fields.range then (.invalidState, out)
      else
        match formatFields fields interval with
        | .error status => (status, out)
        | .ok text => out.deliver text.length text
  | failure => (failure, out)

/-- The fields that `sqli_date_format` fills in. -/
def Date.fields (date : Date) : TemporalFields where
  range := ⟨fieldYear, fieldDay, 0⟩
  integral :=
    if date.isNull then fun _ => 0
    else fieldTable date.year.toNatClampNeg date.month.toNat date.day.toNat
      0 0 0
  nanosecond := 0
  negative := false
  isNull := date.isNull

/-- `sqli_date_format` -/
def Date.format (date : Date) (out : FormatOutputs) : Status × FormatOutputs :=
  match date.validate with
  | .ok => formatValue date.fields false false out
  | failure => (failure, out)

end Libsqli.Temporal
