import Libsqli.Data.Radix
import Libsqli.Status
import Mathlib.Data.Rat.Defs
import Mathlib.Algebra.Order.Ring.Rat

namespace Libsqli

open Libsqli.Data.Radix

namespace Decimal

def limbBase : Nat := 1000000000

def limbDigits : Nat := 9

def maxDigits : Nat := 1000000

def inlineLimbs : Nat := 4

def maxLimbs : Nat := (maxDigits + limbDigits - 1) / limbDigits

/-- `sqli_decimal_parts_t`; limbs stand least significant first. -/
structure Parts where
  limbs : List Nat
  scale : Int32
  negative : Bool
  isNull : Bool
  deriving DecidableEq, Repr

/-- The `do … while (top != 0)` loop over the top limb. -/
def limbLength (limb : Nat) : Nat :=
  if limb / 10 = 0 then 1 else limbLength (limb / 10) + 1

/-- Digits of a coefficient with at least one limb. -/
def coefficientDigits (limbs : List Nat) : Nat :=
  (limbs.length - 1) * limbDigits + limbLength (limbs.getLastD 0)

def decimalDigits (limbs : List Nat) : Nat :=
  if limbs = [] then 1 else coefficientDigits limbs

/-- What every mutator of a decimal object leaves behind. -/
structure Parts.Wellformed (parts : Parts) : Prop where
  limbs_lt : ∀ limb ∈ parts.limbs, limb < limbBase
  trimmed : parts.limbs.getLast? ≠ some 0
  digits_le : decimalDigits parts.limbs ≤ maxDigits
  zero_nonnegative : parts.limbs = [] → parts.negative = false
  null_cleared : parts.isNull = true → parts.limbs = [] ∧ parts.scale = 0

end Decimal

/-- `struct sqli_decimal`, less the storage of its limbs. -/
structure Decimal where
  parts : Decimal.Parts
  wellformed : parts.Wellformed

namespace Decimal

instance : DecidableEq Decimal := fun left right =>
  decidable_of_iff (left.parts = right.parts)
    (by cases left; cases right; simp)

abbrev isNull (value : Decimal) : Bool := value.parts.isNull

abbrev negative (value : Decimal) : Bool := value.parts.negative

abbrev scale (value : Decimal) : Int32 := value.parts.scale

def Parts.coefficient (parts : Parts) : Nat :=
  Nat.ofDigits limbBase parts.limbs

/-- `sign * coefficient * 10^(-scale)`, the number a decimal stands for. -/
def Parts.number (parts : Parts) : ℚ :=
  (if parts.negative then -1 else 1) * parts.coefficient *
    (10 : ℚ) ^ (-parts.scale.toInt)

abbrev number (value : Decimal) : ℚ := value.parts.number

/-! Trimming leading zero limbs. -/

def trimLimbs (limbs : List Nat) : List Nat := limbs.rdropWhile (· = 0)

@[simp] theorem trimLimbs_nil : trimLimbs [] = [] := rfl

@[simp] theorem trimLimbs_concat_zero (front : List Nat) :
    trimLimbs (front ++ [0]) = trimLimbs front :=
  List.rdropWhile_concat_pos _ _ _ (by simp)

theorem trimLimbs_concat_nonzero (front : List Nat) (hlast : last ≠ 0) :
    trimLimbs (front ++ [last]) = front ++ [last] :=
  List.rdropWhile_concat_neg _ _ _ (by simpa using hlast)

theorem trimLimbs_isPrefix (limbs : List Nat) : trimLimbs limbs <+: limbs :=
  List.rdropWhile_prefix _ limbs

theorem getLast?_trimLimbs (limbs : List Nat) :
    (trimLimbs limbs).getLast? ≠ some 0 := by
  induction limbs using List.reverseRecOn with
  | nil => simp
  | append_singleton front last ih =>
      by_cases hlast : last = 0
      · subst last
        simpa using ih
      · rw [trimLimbs_concat_nonzero front hlast]
        simpa using hlast

theorem ofDigits_trimLimbs (base : Nat) (limbs : List Nat) :
    Nat.ofDigits base (trimLimbs limbs) = Nat.ofDigits base limbs := by
  induction limbs using List.reverseRecOn with
  | nil => rfl
  | append_singleton front last ih =>
      by_cases hlast : last = 0
      · subst last
        simpa [Nat.ofDigits_append] using ih
      · rw [trimLimbs_concat_nonzero front hlast]

/-! Mutators.  Each takes the object it writes and returns it with the status;
`malloc` says which allocations succeed. -/

def nullParts : Parts := ⟨[], 0, false, true⟩

def null : Decimal where
  parts := nullParts
  wellformed := by
    constructor <;> simp [nullParts, decimalDigits, maxDigits]

/-- `sqli_decimal_set_null` -/
def setNull (_value : Decimal) : Status × Decimal := (.ok, null)

def trimmedParts (parts : Parts) : Parts where
  limbs := trimLimbs parts.limbs
  scale := parts.scale
  negative := trimLimbs parts.limbs ≠ [] && parts.negative
  isNull := false

theorem trimmedParts_wellformed {parts : Parts}
    (hlimbs : ∀ limb ∈ parts.limbs, limb < limbBase)
    (hdigits : decimalDigits (trimmedParts parts).limbs ≤ maxDigits) :
    (trimmedParts parts).Wellformed where
  limbs_lt := fun limb member =>
    hlimbs limb ((trimLimbs_isPrefix parts.limbs).subset member)
  trimmed := getLast?_trimLimbs parts.limbs
  digits_le := hdigits
  zero_nonnegative := by
    intro hempty
    simp [show trimLimbs parts.limbs = [] from hempty, trimmedParts]
  null_cleared := by simp [trimmedParts]

def reserve (malloc : Nat → Bool) (count : Nat) : Status :=
  if maxLimbs < count then .limitExceeded
  else if count ≤ inlineLimbs then .ok
  else if malloc (count * 4) then .ok
  else .allocFail

/-- `sqli_decimal_set_parts` -/
def setParts (malloc : Nat → Bool) (parts : Parts) (value : Decimal) :
    Status × Decimal :=
  if parts.isNull then setNull value
  else if maxLimbs < parts.limbs.length then (.limitExceeded, value)
  else if hlimbs : ∀ limb ∈ parts.limbs, limb < limbBase then
    match reserve malloc (trimmedParts parts).limbs.length with
    | .ok =>
        if hdigits : decimalDigits (trimmedParts parts).limbs ≤ maxDigits then
          (.ok, ⟨trimmedParts parts, trimmedParts_wellformed hlimbs hdigits⟩)
        else (.limitExceeded, value)
    | failure => (failure, value)
  else (.invalidArgument, value)

/-- `sqli_decimal_set_i64` -/
def setI64 (malloc : Nat → Bool) (coefficient : Int64) (scale : Int32)
    (value : Decimal) : Status × Decimal :=
  setParts malloc
    { limbs := Nat.digits limbBase coefficient.toInt.natAbs
      scale
      negative := coefficient < 0
      isNull := false } value

theorem setParts_inline {parts : Parts} (hnull : parts.isNull = false)
    (hlength : parts.limbs.length ≤ inlineLimbs)
    (hlimbs : ∀ limb ∈ parts.limbs, limb < limbBase)
    (hdigits : decimalDigits (trimmedParts parts).limbs ≤ maxDigits) :
    setParts malloc parts value =
      (.ok, ⟨trimmedParts parts, trimmedParts_wellformed hlimbs hdigits⟩) := by
  have hmax : ¬ maxLimbs < parts.limbs.length := by
    have : inlineLimbs ≤ maxLimbs := by decide
    omega
  have hcount : (trimmedParts parts).limbs.length ≤ inlineLimbs :=
    le_trans (trimLimbs_isPrefix parts.limbs).length_le hlength
  have hreserve : reserve malloc (trimmedParts parts).limbs.length = .ok := by
    have : ¬ maxLimbs < (trimmedParts parts).limbs.length := by
      have : inlineLimbs ≤ maxLimbs := by decide
      omega
    rw [reserve, if_neg this, if_pos hcount]
  rw [setParts, if_neg (by simp [hnull]), if_neg hmax, dif_pos hlimbs, hreserve]
  simp only [dif_pos hdigits]

end Decimal

end Libsqli
