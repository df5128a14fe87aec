import Libsqli.Decimal.Value
import Mathlib.Tactic.Positivity

namespace Libsqli.Decimal

open Libsqli.Data.Radix

/-! Decimal digits of a coefficient stored in base-`10^9` limbs. -/

theorem limbBase_eq_pow : limbBase = 10 ^ limbDigits := by
  norm_num [limbBase, limbDigits]

theorem limbBase_pow (count : Nat) :
    limbBase ^ count = 10 ^ (count * limbDigits) := by
  rw [limbBase_eq_pow, ← pow_mul, Nat.mul_comm]

/-- A power of ten as whole limbs and a part of one. -/
theorem power_eq_shift (power : Nat) :
    10 ^ power = limbBase ^ (power / limbDigits) * 10 ^ (power % limbDigits) := by
  rw [limbBase_pow, ← pow_add, Nat.div_add_mod']

/-- The `while (limb % 10 == 0)` loop, entered with a nonzero limb only. -/
def limbTrailingZeros (limb : Nat) : Nat :=
  if limb ≠ 0 ∧ limb % 10 = 0 then limbTrailingZeros (limb / 10) + 1 else 0
decreasing_by omega

def trailingZeros : List Nat → Nat
  | [] => 0
  | limb :: rest =>
      if limb = 0 then limbDigits + trailingZeros rest
      else limbTrailingZeros limb

/-- `coefficient_digit`; the source looks `10^(position % 9)` up in a table. -/
def coefficientDigit (limbs : List Nat) (position : Nat) : Nat :=
  limbs.getD (position / limbDigits) 0 / 10 ^ (position % limbDigits) % 10

/-- `append_digit`: multiply by ten and add, dropping the carry out of the
last limb. -/
def appendDigit : List Nat → Nat → List Nat
  | [], _ => []
  | limb :: rest, carry =>
      (limb * 10 + carry) % limbBase ::
        appendDigit rest ((limb * 10 + carry) / limbBase)

theorem limbLength_eq (hlimb : 0 < limb) :
    limbLength limb = (Nat.digits 10 limb).length := by
  induction limb using Nat.strongRecOn with
  | ind limb ih =>
      rw [limbLength, Nat.digits_def' (by omega) hlimb, List.length_cons]
      split
      · rename_i hzero
        simp [hzero]
      · rename_i hnonzero
        rw [ih (limb / 10) (by omega) (by omega)]

theorem coefficient_concat (front : List Nat) (top : Nat) :
    Nat.ofDigits limbBase (front ++ [top]) =
      Nat.ofDigits limbBase front + 10 ^ (front.length * limbDigits) * top := by
  rw [Nat.ofDigits_append, Nat.ofDigits_singleton, limbBase_pow]

theorem ofDigits_limbs_lt {limbs : List Nat}
    (hlimbs : ∀ limb ∈ limbs, limb < limbBase) :
    Nat.ofDigits limbBase limbs < 10 ^ (limbs.length * limbDigits) := by
  rw [← limbBase_pow]
  exact Nat.ofDigits_lt_base_pow_length (by decide) hlimbs

theorem exists_top_limb {limbs : List Nat} (hne : limbs ≠ [])
    (htrimmed : limbs.getLast? ≠ some 0) :
    ∃ front top, limbs = front ++ [top] ∧ 0 < top := by
  refine ⟨limbs.dropLast, limbs.getLast hne,
    (List.dropLast_append_getLast hne).symm, ?_⟩
  rw [List.getLast?_eq_some_getLast hne] at htrimmed
  exact Nat.pos_of_ne_zero fun hzero => htrimmed (congrArg some hzero)

theorem coefficientDigits_eq {limbs : List Nat} (hne : limbs ≠ [])
    (htrimmed : limbs.getLast? ≠ some 0)
    (hlimbs : ∀ limb ∈ limbs, limb < limbBase) :
    coefficientDigits limbs =
      (Nat.digits 10 (Nat.ofDigits limbBase limbs)).length := by
  obtain ⟨front, top, rfl, htop⟩ := exists_top_limb hne htrimmed
  have hfront := ofDigits_limbs_lt fun limb member =>
    hlimbs limb (List.mem_append_left [top] member)
  have hcount : 0 < (Nat.digits 10 top).length := by
    rw [← limbLength_eq htop, limbLength]
    split <;> omega
  have hlower : 10 ^ ((Nat.digits 10 top).length - 1) ≤ top :=
    (Nat.lt_digits_length_iff (by omega) top).mp (by omega)
  have hupper : top < 10 ^ (Nat.digits 10 top).length :=
    Nat.lt_base_pow_length_digits (by omega)
  have hdigits : coefficientDigits (front ++ [top]) =
      front.length * limbDigits + ((Nat.digits 10 top).length - 1) + 1 := by
    simp only [coefficientDigits, List.length_append, List.length_singleton,
      List.getLastD_concat, limbLength_eq htop, Nat.add_sub_cancel]
    omega
  rw [hdigits, coefficient_concat]
  symm
  apply digitCount_unique (by omega)
  · rw [pow_add]
    exact le_trans (Nat.mul_le_mul_left _ hlower) (Nat.le_add_left _ _)
  · rw [Nat.add_assoc, Nat.sub_add_cancel hcount, pow_add]
    calc
      _ < 10 ^ (front.length * limbDigits) +
          10 ^ (front.length * limbDigits) * top :=
        Nat.add_lt_add_right hfront _
      _ = 10 ^ (front.length * limbDigits) * (top + 1) := by ring
      _ ≤ _ := Nat.mul_le_mul_left _ hupper

theorem coefficient_pos {limbs : List Nat} (hne : limbs ≠ [])
    (htrimmed : limbs.getLast? ≠ some 0) :
    0 < Nat.ofDigits limbBase limbs := by
  obtain ⟨front, top, rfl, htop⟩ := exists_top_limb hne htrimmed
  rw [coefficient_concat]
  positivity

theorem limbTrailingZeros_spec (hlimb : limb ≠ 0) :
    ∃ rest, limb = rest * 10 ^ limbTrailingZeros limb ∧ rest % 10 ≠ 0 := by
  induction limb using Nat.strongRecOn with
  | ind limb ih =>
      rw [limbTrailingZeros]
      split
      · rename_i hzero
        obtain ⟨rest, hrest, hdigit⟩ := ih (limb / 10) (by omega) (by omega)
        refine ⟨rest, ?_, hdigit⟩
        rw [pow_succ, ← Nat.mul_assoc, ← hrest]
        omega
      · exact ⟨limb, by simp, by omega⟩

theorem limbTrailingZeros_lt (hlimb : limb ≠ 0) (hbound : limb < limbBase) :
    limbTrailingZeros limb < limbDigits := by
  obtain ⟨rest, hrest, hdigit⟩ := limbTrailingZeros_spec hlimb
  have hpositive : 0 < rest := by omega
  have hle : 10 ^ limbTrailingZeros limb ≤ limb := by
    conv => rhs; rw [hrest]
    exact Nat.le_mul_of_pos_left _ hpositive
  rw [limbBase_eq_pow] at hbound
  exact (Nat.pow_lt_pow_iff_right (by omega)).mp (lt_of_le_of_lt hle hbound)

theorem trailingZeros_spec {limbs : List Nat}
    (hlimbs : ∀ limb ∈ limbs, limb < limbBase)
    (hpositive : 0 < Nat.ofDigits limbBase limbs) :
    ∃ rest, Nat.ofDigits limbBase limbs = rest * 10 ^ trailingZeros limbs ∧
      rest % 10 ≠ 0 := by
  induction limbs with
  | nil => simp at hpositive
  | cons limb tail ih =>
      have htail : ∀ other ∈ tail, other < limbBase :=
        fun other member => hlimbs other (List.mem_cons_of_mem _ member)
      rw [Nat.ofDigits_cons, trailingZeros]
      rw [Nat.ofDigits_cons] at hpositive
      split
      · rename_i hzero
        subst limb
        have hrest : 0 < Nat.ofDigits limbBase tail := by
          rw [Nat.zero_add] at hpositive
          exact Nat.pos_of_mul_pos_left hpositive
        obtain ⟨rest, hvalue, hdigit⟩ := ih htail hrest
        refine ⟨rest, ?_, hdigit⟩
        rw [hvalue, limbBase_eq_pow, pow_add]
        ring
      · rename_i hnonzero
        -- The lower limb keeps its own zeros: `10^9` is a multiple of ten
        -- times that power, so the higher limbs cannot disturb the digit.
        obtain ⟨rest, hvalue, hdigit⟩ := limbTrailingZeros_spec hnonzero
        have hlt := limbTrailingZeros_lt hnonzero
          (hlimbs limb List.mem_cons_self)
        have hpower : limbBase = 10 ^ (limbDigits - limbTrailingZeros limb - 1) *
            10 * 10 ^ limbTrailingZeros limb := by
          rw [limbBase_eq_pow, ← pow_succ, ← pow_add]
          congr 1
          omega
        refine ⟨rest + 10 ^ (limbDigits - limbTrailingZeros limb - 1) *
          Nat.ofDigits limbBase tail * 10, ?_, ?_⟩
        · rw [Nat.add_mul]
          congr 1
          calc
            limbBase * Nat.ofDigits limbBase tail =
                (10 ^ (limbDigits - limbTrailingZeros limb - 1) * 10 *
                  10 ^ limbTrailingZeros limb) *
                    Nat.ofDigits limbBase tail := by rw [← hpower]
            _ = _ := by ring
        · rw [Nat.add_mul_mod_self_right]
          exact hdigit

theorem coefficientDigit_eq {limbs : List Nat}
    (hlimbs : ∀ limb ∈ limbs, limb < limbBase) (position : Nat) :
    coefficientDigit limbs position =
      Nat.ofDigits limbBase limbs / 10 ^ position % 10 := by
  have hlimb := getD_ofDigits hlimbs (position / limbDigits)
  have hrest : position % limbDigits < limbDigits :=
    Nat.mod_lt _ (by decide)
  have hsplit : limbBase = 10 ^ (position % limbDigits) *
      (10 * 10 ^ (limbDigits - position % limbDigits - 1)) := by
    rw [limbBase_eq_pow, ← pow_succ', ← pow_add]
    congr 1
    omega
  rw [coefficientDigit, hlimb, power_eq_shift position,
    ← Nat.div_div_eq_div_mul]
  conv => lhs; rw [hsplit]
  rw [Nat.mod_mul_right_div_self, Nat.mod_mul_right_mod]
  rw [← hsplit]

@[simp] theorem length_appendDigit (limbs : List Nat) (carry : Nat) :
    (appendDigit limbs carry).length = limbs.length := by
  induction limbs generalizing carry with
  | nil => rfl
  | cons limb rest ih => simp [appendDigit, ih]

theorem appendDigit_lt (limbs : List Nat) (carry : Nat) :
    ∀ limb ∈ appendDigit limbs carry, limb < limbBase := by
  induction limbs generalizing carry with
  | nil => simp [appendDigit]
  | cons limb rest ih =>
      intro other member
      rcases List.mem_cons.mp member with rfl | member
      · exact Nat.mod_lt _ (by decide)
      · exact ih _ other member

theorem ofDigits_appendDigit (limbs : List Nat) (carry : Nat) :
    Nat.ofDigits limbBase (appendDigit limbs carry) =
      (Nat.ofDigits limbBase limbs * 10 + carry) % limbBase ^ limbs.length := by
  induction limbs generalizing carry with
  | nil => simp [appendDigit, Nat.mod_one]
  | cons limb rest ih =>
      rw [appendDigit, Nat.ofDigits_cons, Nat.ofDigits_cons, ih,
        List.length_cons, pow_succ', Nat.mod_mul]
      have hsum : (limb + limbBase * Nat.ofDigits limbBase rest) * 10 + carry =
          limb * 10 + carry +
            limbBase * (Nat.ofDigits limbBase rest * 10) := by ring
      rw [hsum, Nat.add_mul_mod_self_left,
        Nat.add_mul_div_left _ _ (by decide : 0 < limbBase),
        Nat.add_comm (Nat.ofDigits limbBase rest * 10)]

end Libsqli.Decimal
