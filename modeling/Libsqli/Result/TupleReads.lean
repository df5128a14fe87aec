import Libsqli.Data.Memory
import Libsqli.Result.Getters

namespace Libsqli.TupleReads

open Libsqli.Data.Bytes
open Libsqli.Data.Memory
open Libsqli.Layout (Column Located Span isCharType charWidth declaredWidth
  lobDescriptorLength packedWidth fixedWidthForType isTwoBytePrefixed
  allZeroIsNullSentinel isStringyType typeDecimal typeMoney typeDatetime
  typeInterval typeByte typeText typeBool typeDboolean typeLvarchar typeBlob
  typeClob typeVarchar typeNvchar typeChar typeNchar typeDate typeSmallint
  typeInt typeSerial typeBigint typeBigserial typeInt8 typeSerial8 typeSmfloat
  typeFloat)

/-! Row decoding with each octet read where the source reads it.  Only the guards
of the source stand before a read, and its subtractions wrap. -/

/-- Subtraction of `size_t`. -/
def sizeSub (minuend subtrahend : Nat) : Nat :=
  (minuend + 2 ^ 64 - subtrahend) % 2 ^ 64

def readNumber (start width : Nat) : Reads UInt8 Nat := do
  let bytes ← readMany start width
  pure (natOfBytes bytes)

def plainSpan (length base width : Nat) : Except Status Span :=
  if 0 < width ∧ width ≤ sizeSub length base then .ok ⟨base, width, width⟩
  else .error .protoError

def payloadSpan (length base header payload : Nat) : Except Status Span :=
  if payload ≤ sizeSub length (base + header) then
    .ok ⟨base + header, payload, header + payload⟩
  else .error .protoError

/-- The length octet is read without a check of its own. -/
def prefixedByOne (length base : Nat) : Reads UInt8 (Except Status Span) := do
  let payload ← readNumber base 1
  pure (payloadSpan length base 1 payload)

def prefixedByTwo (length base : Nat) : Reads UInt8 (Except Status Span) :=
  if 2 ≤ sizeSub length base then do
    let payload ← readNumber base 2
    pure (payloadSpan length base 2 payload)
  else pure (.error .protoError)

def opaqueSpan (length base : Nat) : Reads UInt8 (Except Status Span) :=
  if 5 ≤ sizeSub length base then do
    let marker ← read base
    let payload ← readNumber (base + 1) 4
    if marker ≠ 0 ∧ payload = 0 then pure (.ok ⟨base + 5, 0, 5⟩)
    else if marker = 0 ∧ payload ≤ sizeSub length (base + 5) then
      pure (.ok ⟨base + 5, payload, 5 + payload⟩)
    else prefixedByTwo length base
  else prefixedByTwo length base

def shortChar (length base width : Nat) : Reads UInt8 (Option Span) :=
  if 1 ≤ sizeSub length base ∧ 0 < width then do
    let payload ← readNumber base 1
    pure (if 0 < payload ∧ payload < 32 ∧ 1 + payload = width ∧
        payload ≤ sizeSub length (base + 1) then
      some ⟨base + 1, payload, width⟩ else none)
  else pure none

/-- The branches behind that of a short CHAR. -/
def locateLong (column : Column) (base length : Nat) :
    Reads UInt8 (Except Status Span) :=
  if column.type ∈ [typeDecimal, typeMoney, typeDatetime, typeInterval] then
    pure (plainSpan length base (packedWidth column))
  else if column.type ∈ [typeByte, typeText] then
    pure (plainSpan length base (lobDescriptorLength column))
  else if column.type ∈
      [typeBool, typeDboolean, typeLvarchar, typeBlob, typeClob] then
    opaqueSpan length base
  else if 0 < declaredWidth column then
    pure (plainSpan length base (declaredWidth column))
  else if column.type ∈ [typeVarchar, typeNvchar, typeChar, typeNchar] ∨
      ¬ isTwoBytePrefixed column.type then
    prefixedByOne length base
  else prefixedByTwo length base

def locate (column : Column) (base length : Nat) :
    Reads UInt8 (Except Status Span) :=
  if length ≤ base then pure (.error .protoError)
  else if isCharType column.type then do
    let short ← shortChar length base (declaredWidth column)
    match short with
    | some span => pure (.ok span)
    | none => locateLong column base length
  else locateLong column base length

/-- `sqli_tuple_locate_column`, with the caller's three outputs. -/
def tupleLocateColumn (column : Column) (base length : Nat) (out : Span) :
    Reads UInt8 (Status × Span) := do
  let found ← locate column base length
  pure (match found with
    | .ok span => (.ok, span)
    | .error status => (status, out))

/-- The branch of `sqli_result_prepare_row_cache` that the column's type takes. -/
def columnSpan (column : Column) (offset length : Nat) :
    Reads UInt8 (Except Status Span) :=
  if length ≤ offset then pure (.error .protoError)
  else if isCharType column.type then
    if 0 < charWidth column ∧ charWidth column ≤ sizeSub length offset then
      pure (.ok ⟨offset, charWidth column, charWidth column⟩)
    else if offset + 1 < length then prefixedByOne length offset
    else pure (.error .protoError)
  else if column.type ∈ [typeByte, typeText] then
    pure (plainSpan length offset (lobDescriptorLength column))
  else if column.type ∈ [typeBool, typeLvarchar, typeBlob, typeClob] then
    locate column offset length
  else if 0 < fixedWidthForType column.type then
    pure (plainSpan length offset (fixedWidthForType column.type))
  else if column.type ∈ [typeDecimal, typeMoney, typeDatetime, typeInterval] then
    if 0 < packedWidth column ∧
        packedWidth column ≤ sizeSub length offset then
      pure (.ok ⟨offset, packedWidth column, packedWidth column⟩)
    else locate column offset length
  else if column.type ∈ [typeVarchar, typeNvchar] ∨
      ¬ isTwoBytePrefixed column.type then
    prefixedByOne length offset
  else prefixedByTwo length offset

/-- A NULL form of exactly these octets. -/
def isExactly (start length : Nat) (expected : List UInt8) :
    Reads UInt8 Bool :=
  if length = expected.length then agreesFrom start expected else pure false

/-- The NULL forms behind that of CHAR and NCHAR. -/
def nullForm (type : UInt8) (start length : Nat) : Reads UInt8 Bool :=
  if type = typeDate then
    if 4 ≤ length then do
      let days ← readMany start 4
      pure (days == [0x80, 0, 0, 0])
    else pure false
  else if type = typeSmallint then isExactly start length [0x80, 0]
  else if type ∈ [typeInt, typeSerial] then
    isExactly start length [0x80, 0, 0, 0]
  else if type ∈ [typeBigint, typeBigserial] then
    isExactly start length [0x80, 0, 0, 0, 0, 0, 0, 0]
  else if type ∈ [typeInt8, typeSerial8] then
    if 2 ≤ length then agreesFrom start [0, 0] else pure false
  else if type = typeSmfloat then
    isExactly start length (List.replicate 4 0xFF)
  else if type = typeFloat then
    isExactly start length (List.replicate 8 0xFF)
  else if type ∈ [typeVarchar, typeNvchar] then isExactly start length [0]
  else if type ∈ [typeByte, typeText] then
    if 40 ≤ length then do
      let flags ← read (start + 39)
      pure (flags &&& 1 != 0)
    else pure false
  else if allZeroIsNullSentinel type then
    agreesFrom start (List.replicate length 0)
  else pure false

def nullData (type : UInt8) (start length : Nat) : Reads UInt8 Bool :=
  if isCharType type then do
    let first ← read start
    if first = 0 then agreesFrom (start + 1) (List.replicate (length - 1) 0x20)
    else nullForm type start length
  else nullForm type start length

def emptyIsNull (type : UInt8) : Bool :=
  type ∈ [typeBool, typeDboolean] ||
    (!isStringyType type &&
      (isTwoBytePrefixed type || allZeroIsNullSentinel type))

def spanIsNull (type : UInt8) (offset : Nat) (span : Span) :
    Reads UInt8 Bool :=
  if span.length = 0 then
    if type ∈ [typeLvarchar, typeBool, typeDboolean] ∧ 5 ≤ span.width then do
      let marker ← read offset
      pure (marker != 0 || emptyIsNull type)
    else pure (emptyIsNull type)
  else nullData type span.start span.length

/-- What the loop has stored when it ends: `col_start_pos` of the columns it has
begun and the entries of those it has finished. -/
structure Written where
  positions : List Nat
  entries : List Located

/-- The loop of `sqli_result_prepare_row_cache`. -/
def locateRow (length : Nat) : Nat → List Column →
    Reads UInt8 (Status × Written)
  | _, [] => pure (.ok, ⟨[], []⟩)
  | offset, column :: columns =>
      if 0xFFFFFFFF < offset then pure (.limitExceeded, ⟨[], []⟩)
      else do
        let found ← columnSpan column offset length
        match found with
        | .error status => pure (status, ⟨[offset], []⟩)
        | .ok span =>
            if span.width = 0 ∨ length < span.start ∨
                sizeSub length span.start < span.length then
              pure (.protoError, ⟨[offset], []⟩)
            else do
              let isNull ← spanIsNull column.type offset span
              let rest ← locateRow length (offset + span.width) columns
              pure (rest.1, ⟨offset :: rest.2.positions,
                ⟨span.start, span.length, isNull⟩ :: rest.2.entries⟩)

/-- What a call leaves: the result and `col_start_pos` of its columns. -/
structure RowCache where
  status : Status
  result : Result
  positions : List Nat

/-- `sqli_result_prepare_row_cache` -/
def prepareRowCache (calloc : Bool) (result : Result) (positions : List Nat) :
    Reads UInt8 RowCache :=
  let closed := result.withView { result.view with cacheRow := -1 }
  match result.view.tuple with
  | none => pure ⟨.invalidState, closed, positions⟩
  | some tuple =>
      if result.columns = [] ∨ result.view.currentRow < 0 then
        pure ⟨.invalidState, closed, positions⟩
      else if result.located = none ∧ calloc = false then
        pure ⟨.allocFail, closed, positions⟩
      else do
        let before := result.located.getD result.emptyLocated
        let run ← locateRow tuple.length 0 result.columns
        let after := closed.withLocated
          (run.2.entries ++ before.drop run.2.entries.length)
        pure ⟨run.1,
          if run.1 = .ok then after.withView result.view.cached else after,
          run.2.positions ++ positions.drop run.2.positions.length⟩

end Libsqli.TupleReads
