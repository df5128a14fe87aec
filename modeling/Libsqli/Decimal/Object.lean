import Libsqli.Data.Block
import Libsqli.Decimal.Codec

namespace Libsqli.Decimal

open Libsqli.Data

/-- Memory as `malloc` hands it out: a block of the size asked for, of any
content, or nothing. -/
abbrev Malloc :=
  (count : Nat) → Option { block : List Nat // block.length = count }

/-- The limbs that so many digits take. -/
def limbCount (digits : Nat) : Nat := (digits + limbDigits - 1) / limbDigits

/-- `struct sqli_decimal`; without a heap block `limbs` points to
`inline_limbs`. -/
structure Object where
  inlineLimbs : List Nat
  heapLimbs : Option (List Nat)
  used : Nat
  capacity : Nat
  scale : Int32
  negative : Bool
  isNull : Bool
  deriving DecidableEq, Repr

namespace Object

/-- `decimal_init` -/
def init : Object where
  inlineLimbs := List.replicate Decimal.inlineLimbs 0
  heapLimbs := none
  used := 0
  capacity := Decimal.inlineLimbs
  scale := 0
  negative := false
  isNull := true

/-- What `limbs` points to. -/
def limbs (object : Object) : List Nat :=
  object.heapLimbs.getD object.inlineLimbs

def setLimbs (object : Object) (block : List Nat) : Object :=
  match object.heapLimbs with
  | none => { object with inlineLimbs := block }
  | some _ => { object with heapLimbs := some block }

/-- `sqli_decimal_get_parts` -/
def parts (object : Object) : Parts :=
  ⟨object.limbs.take object.used, object.scale, object.negative, object.isNull⟩

/-- `decimal_digits` -/
def digits (object : Object) : Nat :=
  decimalDigits (object.limbs.take object.used)

/-- `decimal_reserve` -/
def reserve (malloc : Malloc) (object : Object) (count : Nat) :
    Status × Object :=
  if maxLimbs < count then (.limitExceeded, object)
  else if count ≤ object.capacity then (.ok, object)
  else
    match malloc count with
    | none => (.allocFail, object)
    | some block =>
        (.ok, { object with
          heapLimbs := some (object.limbs.take object.used ++
            block.val.drop object.used)
          capacity := count })

/-- `decimal_move` -/
def move (destination source : Object) : Object :=
  match source.heapLimbs with
  | none =>
      { source with
        capacity := Decimal.inlineLimbs }
  | some block =>
      { source with
        inlineLimbs := destination.inlineLimbs
        heapLimbs := some block }

/-- The loop of `decimal_trim`, from the limb below `used` on. -/
def trimmedCount (limbs : List Nat) : Nat → Nat
  | 0 => 0
  | used + 1 =>
      if limbs.getD used 0 = 0 then trimmedCount limbs used else used + 1

/-- `decimal_trim` -/
def trim (object : Object) : Object :=
  let used := trimmedCount object.limbs object.used
  { object with
    used
    negative := if used = 0 then false else object.negative }

/-- `sqli_decimal_set_null` -/
def setNull (object : Object) : Status × Object :=
  (.ok, { object with isNull := true, used := 0, scale := 0, negative := false })

/-- `sqli_decimal_set_parts`; without a result a write left its array. -/
def setParts (malloc : Malloc) (parts : Parts) (object : Object) :
    Option (Status × Object) :=
  if parts.isNull then some object.setNull
  else if maxLimbs < parts.limbs.length then some (.limitExceeded, object)
  else if ¬ ∀ limb ∈ parts.limbs, limb < limbBase then
    some (.invalidArgument, object)
  else
    let count := trimmedCount parts.limbs parts.limbs.length
    match reserve malloc init count with
    | (.ok, reserved) =>
        (Block.storeAll reserved.limbs (parts.limbs.take count)).map
          fun block =>
            let temporary :=
              { reserved.setLimbs block with
                used := count
                scale := parts.scale
                negative := count ≠ 0 && parts.negative
                isNull := false }
            if maxDigits < temporary.digits then (.limitExceeded, object)
            else (.ok, object.move temporary)
    | (failure, _) => some (failure, object)

/-- `sqli_decimal_set_i64` -/
def setI64 (malloc : Malloc) (coefficient : Int64) (scale : Int32)
    (object : Object) : Option (Status × Object) :=
  object.setParts malloc
    { limbs := Nat.digits limbBase coefficient.toInt.natAbs
      scale
      negative := coefficient < 0
      isNull := false }

/-- `sqli_decimal_copy` between distinct objects. -/
def copy (malloc : Malloc) (source destination : Object) :
    Option (Status × Object) :=
  destination.setParts malloc source.parts

end Object

end Libsqli.Decimal
