import Libsqli.Data.Ctype
import Libsqli.Data.Digits
import Libsqli.Decimal.Object

namespace Libsqli.Decimal

open Libsqli.Data
open Libsqli.Data.Ctype
open Libsqli.Data.Numeral

def maxText : Nat := maxDigits + 32

def int64Max : Nat := 9223372036854775807

def int32Min : Int := -2147483648

def int32Max : Int := 2147483647

def lowerE : UInt8 := 101
def upperE : UInt8 := 69

/-! Parsing.  What remains of the text stands for the reader's position. -/

/-- The optional sign of a number or an exponent. -/
def readSign : List UInt8 → Bool × List UInt8
  | [] => (false, [])
  | ch :: rest =>
      if ch = plus ∨ ch = minus then (ch = minus, rest) else (false, ch :: rest)

/-- The digit loop of `parse_exponent`. -/
def exponentLoop : List UInt8 → Nat → Except Status Nat
  | [], exponent => .ok exponent
  | ch :: rest, exponent =>
      if ¬ isDigit ch then .error .invalidArgument
      else if (int64Max - digitValue ch) / 10 < exponent then .error .outOfRange
      else exponentLoop rest (exponent * 10 + digitValue ch)

/-- `parse_exponent` -/
def parseExponent (text : List UInt8) : Except Status Int :=
  let sign := readSign text
  if sign.2 = [] then .error .invalidArgument
  else
    match exponentLoop sign.2 0 with
    | .error status => .error status
    | .ok exponent => .ok (if sign.1 then -exponent else exponent)

/-- What the counting pass over the mantissa finds. -/
structure Mantissa where
  digits : Nat
  fractional : Nat
  significantDigits : Nat
  point : Bool
  deriving DecidableEq, Repr

/-- The counting pass, up to the exponent or the end. -/
def scanMantissa :
    List UInt8 → Mantissa → Option (Mantissa × List UInt8)
  | [], mantissa => some (mantissa, [])
  | ch :: rest, mantissa =>
      if ch = lowerE ∨ ch = upperE then some (mantissa, ch :: rest)
      else if ch = point ∧ mantissa.point = false then
        scanMantissa rest { mantissa with point := true }
      else if isDigit ch then
        scanMantissa rest { mantissa with
          digits := mantissa.digits + 1
          significantDigits :=
            if ch ≠ zero ∨ mantissa.significantDigits ≠ 0 then
              mantissa.significantDigits + 1
            else mantissa.significantDigits
          fractional :=
            if mantissa.point then mantissa.fractional + 1
            else mantissa.fractional }
      else none

/-- What `sqli_decimal_parse` knows before it reserves limbs. -/
structure Reading where
  negative : Bool
  significantDigits : Nat
  scale : Int
  mantissa : List UInt8
  deriving DecidableEq, Repr

def readDecimal (text : List UInt8) : Except Status Reading :=
  if text.length = 0 then .error .invalidArgument
  else if maxText < text.length then .error .limitExceeded
  else
    let sign := readSign text
    match scanMantissa sign.2 ⟨0, 0, 0, false⟩ with
    | none => .error .invalidArgument
    | some (mantissa, rest) =>
        if mantissa.digits = 0 then .error .invalidArgument
        else if maxDigits < mantissa.significantDigits then .error .limitExceeded
        else
          match if rest = [] then .ok 0 else parseExponent rest.tail with
          | .error status => .error status
          | .ok exponent =>
              if exponent < mantissa.fractional - int32Max ∨
                  mantissa.fractional - int32Min < exponent then
                .error .outOfRange
              else
                .ok
                  { negative := sign.1
                    significantDigits := mantissa.significantDigits
                    scale := mantissa.fractional - exponent
                    mantissa := sign.2.take (sign.2.length - rest.length) }

/-- The pass that fills the limbs, over the mantissa from its end. -/
def fillLoop (significantDigits : Nat) :
    List UInt8 → Nat → List Nat → Option (List Nat)
  | [], _, block => some block
  | ch :: rest, offset, block =>
      if significantDigits ≤ offset then some block
      else if ch = point then fillLoop significantDigits rest offset block
      else
        (Block.store block (offset / limbDigits)
          (block.getD (offset / limbDigits) 0 +
            digitValue ch * 10 ^ (offset % limbDigits))).bind
          (fillLoop significantDigits rest (offset + 1))

/-- `sqli_decimal_parse` -/
def Object.parse (malloc : Malloc) (text : List UInt8) (isNull : Bool)
    (object : Object) : Option (Status × Object) :=
  if isNull then some object.setNull
  else
    match readDecimal text with
    | .error status => some (status, object)
    | .ok reading =>
        let count := limbCount reading.significantDigits
        match Object.reserve malloc Object.init count with
        | (.ok, reserved) => do
            let zeroed ← Block.storeAll reserved.limbs (List.replicate count 0)
            let block ← fillLoop reading.significantDigits
              reading.mantissa.reverse 0 zeroed
            pure (.ok, object.move (Object.trim { reserved.setLimbs block with
              used := count
              scale := Int32.ofInt reading.scale
              negative := reading.negative
              isNull := false }))
        | (failure, _) => some (failure, object)

end Libsqli.Decimal
