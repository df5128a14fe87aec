import Libsqli.Base100
import Libsqli.Decimal.Coefficient
import Mathlib.Data.FinEnum

namespace Libsqli.Decimal

open Libsqli.Base100

def floatingScale : Nat := 255

def maxPrecision : Nat := 32

def maxCoefficientGroups : Nat := 16

def coefficientLimbs : Nat := 4

/-- `struct decimal_wire_type` -/
structure WireType where
  precision : Nat
  scale : Nat
  width : Nat
  deriving DecidableEq, Repr

/-- `decode_type` -/
def decodeType (descriptor : UInt16) : Except Status WireType :=
  let precision := descriptor.toNat >>> 8
  let scale := descriptor.toNat &&& 0xff
  if precision = 0 ∨ maxPrecision < precision ∨
      (scale ≠ floatingScale ∧ precision < scale) then
    .error .protoError
  else
    .ok ⟨precision, scale, (precision + (scale &&& 1) + 3) / 2⟩

/-! Encoding. -/

/-- The precision checks that open `encode_coefficient`. -/
def checkTarget (parts : Parts) (type : WireType) : Except Status Unit :=
  let digits := coefficientDigits parts.limbs
  let zeros := trailingZeros parts.limbs
  if type.scale = floatingScale then
    if type.precision < digits - zeros then .error .outOfRange else .ok ()
  else
    let reduction : Int := parts.scale.toInt - type.scale
    if (zeros : Int) < reduction then .error .inexact
    else if (type.precision : Int) < digits - reduction then .error .outOfRange
    else .ok ()

/-- Digits before the decimal point, counted in pairs; C division truncates. -/
def wireExponent (integralDigits : Int) : Int :=
  if 0 ≤ integralDigits then (integralDigits + 1) / 2
  else -(-integralDigits / 2)

/-- One round of the loop that adds a decimal digit into its pair. -/
def addDigit (padding : Nat) (digitAt : Nat → Nat) (groups : List Nat)
    (index : Nat) : List Nat :=
  let position := index + padding
  let digit := digitAt index
  groups.modify (position / 2)
    (· + if position % 2 = 0 then digit * 10 else digit)

def fillGroups (padding significant : Nat) (digitAt : Nat → Nat)
    (count : Nat) : List Nat :=
  (List.range significant).foldl (addDigit padding digitAt)
    (List.replicate count 0)

/-- `encode_coefficient` -/
def encodeCoefficient (parts : Parts) (type : WireType) :
    Except Status (List UInt8) :=
  let digits := coefficientDigits parts.limbs
  let zeros := trailingZeros parts.limbs
  let significant := digits - zeros
  match checkTarget parts type with
  | .error status => .error status
  | .ok () =>
      let integralDigits : Int := digits - parts.scale.toInt
      let exponent := wireExponent integralDigits
      if exponent < exponentMin ∨ exponentMax < exponent then .error .outOfRange
      else
        let padding := (exponent * 2 - integralDigits).toNat
        let groups := (padding + significant + 1) / 2
        if maxCoefficientGroups < groups ∨ type.width - 1 < groups then
          .error .outOfRange
        else
          let filled := fillGroups padding significant
            (fun index => coefficientDigit parts.limbs (digits - 1 - index))
            (type.width - 1)
          .ok (encodeHeader parts.negative exponent ::
            groupBytes (codeGroups parts.negative filled))

/-- The bytes that fill the zeroed `encoded` buffer. -/
def encodeParts (parts : Parts) (type : WireType) :
    Except Status (List UInt8) :=
  if parts.isNull then .ok (List.replicate type.width 0)
  else if parts.limbs.length = 0 then
    .ok (positiveFlag :: List.replicate (type.width - 1) 0)
  else encodeCoefficient parts type

/-- `sqli_decimal_encode_wire`; the result is what it stores in `bytes`. -/
def encodeWire (value : Decimal) (descriptor : UInt16) (capacity : Nat) :
    Except Status (List UInt8) :=
  match decodeType descriptor with
  | .error status => .error status
  | .ok type =>
      match encodeParts value.parts type with
      | .error status => .error status
      | .ok encoded =>
          if capacity < type.width then .error .bufferTooSmall
          else .ok encoded

/-! Decoding. -/

/-- `while (count != 0 && groups[count - 1] == 0) count--;` -/
def stripGroups (groups : List Nat) : List Nat := groups.rdropWhile (· = 0)

/-- `drop_last_zero` as a number of digits. -/
def dropLastZero (groups : List Nat) : Nat :=
  if groups.getLastD 0 % 10 = 0 then 1 else 0

def firstDigit (groups : List Nat) : Nat :=
  if groups.headD 0 < 10 then 1 else 0

def groupDigit (groups : List Nat) (index : Nat) : Nat :=
  if index % 2 = 0 then groups.getD (index / 2) 0 / 10
  else groups.getD (index / 2) 0 % 10

/-- The two `append_digit` loops: the digits of the groups, then the zeros
that bring a fixed-scale value to its target scale. -/
def digitLimbs (groups : List Nat) (first digits extraZeros : Nat) :
    List Nat :=
  let limbs := (List.range digits).foldl
    (fun limbs index => appendDigit limbs (groupDigit groups (first + index)))
    (List.replicate coefficientLimbs 0)
  (List.range extraZeros).foldl (fun limbs _ => appendDigit limbs 0) limbs

/-- Scale of the decoded value and the zeros it needs, when it fits. -/
def targetScale (type : WireType) (digits : Nat) (scale : Int) :
    Option (Nat × Int) :=
  if type.precision < digits then none
  else if type.scale = floatingScale then some (0, scale)
  else
    let extraZeros : Int := type.scale - scale
    if extraZeros < 0 ∨ type.precision - digits < extraZeros.toNat then none
    else some (extraZeros.toNat, type.scale)

/-- `decode_coefficient` -/
def decodeCoefficient (malloc : Nat → Bool) (header : UInt8)
    (received : List Nat) (type : WireType) (out : Decimal) :
    Status × Decimal :=
  if ∃ group ∈ received, radix ≤ group then (.protoError, out)
  else
    let negative := headerNegative header
    let groups := stripGroups (plainGroups header received)
    let count := groups.length
    if count = 0 then
      if header ≠ positiveFlag then (.protoError, out)
      else setI64 malloc 0
        (if type.scale = floatingScale then 0 else Int32.ofNat type.scale) out
    else if maxCoefficientGroups < count ∨ groups.headD 0 = 0 then
      (.protoError, out)
    else
      let exponent := headerExponent header
      let digits := count * 2 - dropLastZero groups - firstDigit groups
      let scale : Int := count * 2 - exponent * 2 - dropLastZero groups
      match targetScale type digits scale with
      | none => (.protoError, out)
      | some (extraZeros, scale) =>
          setParts malloc
            { limbs := digitLimbs groups (firstDigit groups) digits extraZeros
              scale := Int32.ofInt scale
              negative
              isNull := false } out

/-- `sqli_decimal_decode_wire` -/
def decodeWire (malloc : Nat → Bool) (bytes : List UInt8)
    (descriptor : UInt16) (out : Decimal) : Status × Decimal :=
  match decodeType descriptor with
  | .error status => (status, out)
  | .ok type =>
      if bytes.length ≠ type.width then (.protoError, out)
      else if ∀ byte ∈ bytes, byte = 0 then setNull out
      else
        decodeCoefficient malloc (bytes.headD 0) (byteGroups bytes.tail) type out

/-! `sqli_decimal_to_i64`. -/

/-- `decimal_digit`, counted from the most significant digit. -/
def decimalDigit (value : Decimal) (position : Nat) : Nat :=
  if decimalDigits value.parts.limbs ≤ position then 0
  else coefficientDigit value.parts.limbs
    (decimalDigits value.parts.limbs - position - 1)

def wholeDigits (value : Decimal) : Int :=
  decimalDigits value.parts.limbs - value.scale.toInt

def fractionDigitsZero (value : Decimal) : Bool :=
  (List.range' value.wholeDigits.toNat
    (decimalDigits value.parts.limbs - value.wholeDigits.toNat)).all
      fun position => value.decimalDigit position == 0

/-- The limit of the magnitude: one more below zero. -/
def i64Limit (negative : Bool) : Nat :=
  9223372036854775807 + if negative then 1 else 0

/-- The loop that accumulates the magnitude, digit by digit. -/
def accumulate (limit : Nat) : List Nat → Nat → Option Nat
  | [], magnitude => some magnitude
  | digit :: digits, magnitude =>
      if (limit - digit) / 10 < magnitude then none
      else accumulate limit digits (magnitude * 10 + digit)

/-- `sqli_decimal_to_i64` -/
def toI64 (value : Decimal) : Except Status Int :=
  if value.isNull then .error .nullValue
  else if value.parts.limbs = [] then .ok 0
  else if value.wholeDigits ≤ 0 then .error .inexact
  else if 0 < value.scale ∧ value.fractionDigitsZero = false then
    .error .inexact
  else if 19 < value.wholeDigits then .error .outOfRange
  else
    match accumulate (i64Limit value.negative)
        ((List.range value.wholeDigits.toNat).map value.decimalDigit) 0 with
    | none => .error .outOfRange
    | some magnitude =>
        .ok (if value.negative then -magnitude else magnitude)

end Libsqli.Decimal
