import Libsqli.Data.Numeral
import Libsqli.Result.Chunks

namespace Libsqli.Result

open Libsqli.Data.Numeral
open Libsqli.Decimal (floatingScale)
open Layout

/-! `sqli_result_get_decimal_string`. -/

/-- `sqli_base100_complement`: from the last octet; the minuend is 100 up to the
first octet that is not zero. -/
def base100Complement (digits : List UInt8) : List UInt8 :=
  (digits.foldr (fun byte state =>
    if byte ≠ 0 ∨ state.2 ≠ 100 then ((state.2 - byte) :: state.1, 99)
    else (byte :: state.1, state.2)) (([] : List UInt8), (100 : UInt8))).1

structure Base100Parts where
  groups : List UInt8
  fracDigits : Int
  negative : Bool

/-- `sqli_base100_decode_parts` -/
def base100DecodeParts (raw : List UInt8) : Option Base100Parts :=
  match raw with
  | [] | [_] => none
  | header :: bytes =>
      let negative := header &&& 0x80 == 0
      let expon : Int :=
        ((if negative then header ^^^ 0x7F else header) &&& 0x7F).toNat - 64
      let groups := if negative then base100Complement bytes else bytes
      some ⟨groups, bytes.length * 2 - expon * 2, negative⟩

/-- The digits after the point, before a floating value loses its zeros. -/
def shownScale (rawScale : Nat) (fracDigits : Int) : Nat :=
  if rawScale = floatingScale then
    if fracDigits < 0 then 0 else if 30 < fracDigits then 30
    else fracDigits.toNat
  else if 30 < rawScale then 6 else rawScale

def groupDigits (group : UInt8) : List UInt8 :=
  [zero + group / 10, zero + group % 10]

/-- A digit of the array, zero outside it. -/
def digitAt (digits : List UInt8) (src : Int) : UInt8 :=
  if 0 ≤ src then digits.getD src.toNat zero else zero

/-- The loop that strips trailing zeros after the point. -/
def strippedScale (digits : List UInt8) (decPos : Int) : Nat → Nat
  | 0 => 0
  | scale + 1 =>
      if digitAt digits (decPos + scale) ≠ zero then scale + 1
      else strippedScale digits decPos scale

/-- The loop over `int_start`; the last digit stays. -/
def skipZeros : List UInt8 → List UInt8
  | [] => []
  | [digit] => [digit]
  | digit :: next :: rest =>
      if digit = zero then skipZeros (next :: rest) else digit :: next :: rest

def integralText (digits : List UInt8) (decPos : Int) : List UInt8 :=
  if digits.take decPos.toNat = [] then [zero]
  else skipZeros (digits.take decPos.toNat)

def fractionText (digits : List UInt8) (decPos : Int) (scale : Nat) :
    List UInt8 :=
  (List.range scale).map fun (j : Nat) => digitAt digits (decPos + j)

/-- The text of a value; it fits the buffers, which hold more than the digits of
63 groups. -/
def partsText (rawScale : Nat) (parts : Base100Parts) : List UInt8 :=
  let digits := parts.groups.flatMap groupDigits
  let decPos : Int := digits.length - max parts.fracDigits 0
  let shown := shownScale rawScale parts.fracDigits
  let scale :=
    if rawScale = floatingScale then strippedScale digits decPos shown else shown
  let isZero := parts.groups.all (· == 0)
  numeral (parts.negative && !isZero) (integralText digits decPos)
    (fractionText digits decPos scale)

def rawSize : Nat := 64

def decimalText (rawScale : Nat) (raw : List UInt8) : List UInt8 :=
  match base100DecodeParts (raw.take rawSize) with
  | none => []
  | some parts =>
      if parts.groups.any (99 < ·) then [] else partsText rawScale parts

def hasCache (result : Result) : Bool :=
  result.view.cacheRow == result.view.currentRow && result.located.isSome

/-- The result once its row cache is there, if it can be made. -/
def withCache (calloc : Bool) (result : Result) : Result :=
  if hasCache result then result else (prepareRowCache calloc result).2

/-- `sqli_extract_current_value` behind its cache. -/
def currentValue (result : Result) (index : Nat) : Except Status (List UInt8) :=
  match result.view.tuple, result.located.bind (·[index]?) with
  | some tuple, some entry =>
      if tuple.length < entry.start ∨
          tuple.length - entry.start < entry.length then .error .protoError
      else .ok ((tuple.drop entry.start).take entry.length)
  | _, _ => .error .invalidState

/-- `sqli_result_get_decimal_string`; `otherText` is what the string getter makes
of the other types. -/
def getDecimalString (calloc : Bool) (base : Nat)
    (otherText : Result → Nat → List UInt8) (result : Result) (index : Nat) :
    List UInt8 × Result :=
  match result.columns[index]? with
  | none => ([], result)
  | some column =>
      if result.view.currentRow < 0 ∨ result.view.tuple.getD [] = [] then
        ([], result)
      else
        let checked := isNullInternal calloc base result index
        let flagged := { checked.2 with lastWasNull := checked.1 }
        if checked.1 then ([], flagged)
        else if decimalType column.type = false then
          (otherText flagged index, flagged)
        else
          let extracted := withCache calloc flagged
          if hasCache extracted = false then ([], extracted)
          else match currentValue extracted index with
            | .error _ => ([], extracted)
            | .ok raw =>
                (decimalText (column.encodedLength &&& 0xFF).toNat raw, extracted)

def stringSize : Nat := 4096

/-- `sqli_result_get_string` up to the types that are neither DECIMAL nor MONEY;
`buffers` says whether its column buffers can be had. -/
def getString (calloc buffers : Bool) (base : Nat)
    (otherText : Result → Nat → List UInt8) (result : Result) (index : Nat) :
    List UInt8 × Result :=
  match result.columns[index]? with
  | none => ([], result)
  | some column =>
      if result.view.currentRow < 0 ∨ result.view.tuple.getD [] = [] then
        ([], result)
      else
        let cached := withCache calloc result
        if hasCache cached = false then ([], cached)
        else
          let flagged :=
            { cached with lastWasNull := cached.nullAt index }
          if cached.nullAt index then ([], flagged)
          else match currentValue flagged index with
            | .error _ => ([], flagged)
            | .ok data =>
                if data = [] ∨ buffers = false then ([], flagged)
                else if decimalType column.type = false then
                  (otherText flagged index, flagged)
                else
                  let text :=
                    getDecimalString calloc base otherText flagged index
                  (text.1.take (stringSize - 1), text.2)

end Libsqli.Result
