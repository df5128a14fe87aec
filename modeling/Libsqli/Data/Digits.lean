import Libsqli.Data.Numeral

namespace Libsqli.Data.Numeral

open Libsqli.Data.Radix

variable {text left right rest other : List UInt8} {value width digit : Nat}

/-! Printing a number: the digits come off the low end. -/

def digitByte (digit : Nat) : UInt8 := UInt8.ofNat (zero.toNat + digit)

def printDigits (value : Nat) : List UInt8 :=
  if value / 10 = 0 then [digitByte (value % 10)]
  else printDigits (value / 10) ++ [digitByte (value % 10)]

/-- The digits of a number behind as many zeros as a width asks for. -/
def printPadded (width value : Nat) : List UInt8 :=
  List.replicate (width - (printDigits value).length) zero ++ printDigits value

theorem toNat_digitByte (hdigit : digit < 10) :
    (digitByte digit).toNat = 48 + digit := by
  rw [digitByte, UInt8.toNat_ofNat_of_lt'
    (by simp only [zero, UInt8.size]; simp; omega)]
  rfl

theorem isDigit_digitByte (hdigit : digit < 10) :
    isDigit (digitByte digit) = true := by
  have hbyte := toNat_digitByte hdigit
  simp only [isDigit, Bool.and_eq_true, decide_eq_true_eq,
    UInt8.le_iff_toNat_le, hbyte, zero, nine]
  simp
  omega

@[simp] theorem digitValue_digitByte (hdigit : digit < 10) :
    digitValue (digitByte digit) = digit := by
  rw [digitValue, toNat_digitByte hdigit]
  simp [zero]

theorem isDigit_printDigits (value : Nat) :
    ∀ byte ∈ printDigits value, isDigit byte = true := by
  induction value using Nat.strongRecOn with
  | ind value ih =>
      have hlast := isDigit_digitByte (Nat.mod_lt value (by decide : 0 < 10))
      rw [printDigits]
      split
      · simpa using hlast
      · intro byte member
        rcases List.mem_append.mp member with member | member
        · exact ih (value / 10) (by omega) byte member
        · rw [List.mem_singleton.mp member]
          exact hlast

theorem digitsValue_printDigits (value : Nat) :
    digitsValue (printDigits value) = value := by
  induction value using Nat.strongRecOn with
  | ind value ih =>
      have hlast := digitValue_digitByte (Nat.mod_lt value (by decide : 0 < 10))
      rw [printDigits]
      split
      · rw [digitsValue, List.map_singleton, hlast, ofBigEndian_singleton]
        omega
      · rw [digitsValue_concat, ih (value / 10) (by omega), hlast]
        omega

theorem length_printDigits_pos (value : Nat) :
    0 < (printDigits value).length := by
  rw [printDigits]
  split <;> simp

theorem length_printDigits_le (hwidth : 0 < width)
    (hvalue : value < 10 ^ width) : (printDigits value).length ≤ width := by
  induction width generalizing value with
  | zero => omega
  | succ width ih =>
      rw [printDigits]
      split
      · simp
      · rename_i hmore
        have hwidth : 0 < width := by
          by_contra hnone
          obtain rfl : width = 0 := by omega
          omega
        have hlength := ih hwidth
          (Nat.div_lt_of_lt_mul (by rwa [pow_succ, Nat.mul_comm] at hvalue))
        simp only [List.length_append, List.length_singleton]
        omega

theorem isDigit_printPadded (width value : Nat) :
    ∀ byte ∈ printPadded width value, isDigit byte = true := by
  intro byte member
  rcases List.mem_append.mp member with member | member
  · rw [(List.mem_replicate.mp member).2]
    decide
  · exact isDigit_printDigits value byte member

theorem digitsValue_replicate_zero (count : Nat) (text : List UInt8) :
    digitsValue (List.replicate count zero ++ text) = digitsValue text := by
  induction count with
  | zero => rfl
  | succ count ih =>
      rw [List.replicate_succ, List.cons_append, digitsValue_zero_cons, ih]

@[simp] theorem digitsValue_printPadded (width value : Nat) :
    digitsValue (printPadded width value) = value := by
  rw [printPadded, digitsValue_replicate_zero, digitsValue_printDigits]

theorem length_printPadded (width value : Nat) :
    (printPadded width value).length =
      max width (printDigits value).length := by
  rw [printPadded, List.length_append, List.length_replicate]
  omega

theorem length_printPadded_of_lt (hwidth : 0 < width)
    (hvalue : value < 10 ^ width) :
    (printPadded width value).length = width := by
  rw [length_printPadded, Nat.max_eq_left (length_printDigits_le hwidth hvalue)]

/-! A run of digits ends where no digit follows. -/

def NoDigit (text : List UInt8) : Prop :=
  ∀ byte ∈ text.head?, isDigit byte = false

@[simp] theorem noDigit_nil : NoDigit [] := by simp [NoDigit]

@[simp] theorem noDigit_cons (byte : UInt8) (text : List UInt8) :
    NoDigit (byte :: text) ↔ isDigit byte = false := by
  simp [NoDigit]

theorem digitsValue_cons (byte : UInt8) (text : List UInt8) :
    digitsValue (byte :: text) =
      digitValue byte * 10 ^ text.length + digitsValue text := by
  rw [digitsValue, List.map_cons, ofBigEndian_cons, List.length_map,
    ← digitsValue]

end Libsqli.Data.Numeral
