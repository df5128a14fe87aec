import Libsqli.Data.Ctype

namespace Libsqli.Data.Scan

open Libsqli.Data.Ctype
open Libsqli.Data.Numeral

/-! Reading numbers under a format, as `sscanf` does. -/

/-- `%d`, white space, or a character that has to be there. -/
inductive Directive where
  | number
  | blank
  | literal (byte : UInt8)
  deriving DecidableEq, Repr

def skipSpaces (text : List UInt8) : List UInt8 := text.dropWhile isSpace

/-- At least one digit. -/
def readUnsigned (text : List UInt8) : Option (Nat × List UInt8) :=
  if text.takeWhile isDigit = [] then none
  else some (digitsValue (text.takeWhile isDigit), text.dropWhile isDigit)

/-- An optional sign and digits. -/
def readSigned (text : List UInt8) : Option (Int × List UInt8) :=
  if text.head? = some minus then
    (readUnsigned text.tail).map fun (value, rest) => (-(value : Int), rest)
  else if text.head? = some plus then
    (readUnsigned text.tail).map fun (value, rest) => ((value : Int), rest)
  else (readUnsigned text).map fun (value, rest) => ((value : Int), rest)

/-- An `int` holds the value. -/
def FitsInt (value : Int) : Prop := -2147483648 ≤ value ∧ value ≤ 2147483647

instance (value : Int) : Decidable (FitsInt value) :=
  inferInstanceAs (Decidable (_ ∧ _))

/-- The numbers stored before the text fails the format. There is no result
where one of them is no `int`: C leaves that undefined. -/
def scan : List Directive → List UInt8 → Option (List Int)
  | [], _ => some []
  | .blank :: format, text => scan format (skipSpaces text)
  | .literal byte :: format, text =>
      if text.head? = some byte then scan format text.tail else some []
  | .number :: format, text =>
      match readSigned (skipSpaces text) with
      | none => some []
      | some (value, rest) =>
          if FitsInt value then (scan format rest).map (value :: ·) else none

variable {format : List Directive} {digits rest : List UInt8} {byte : UInt8}

/-- A text does not go on with a digit. -/
def Ends (rest : List UInt8) : Prop :=
  ∀ byte, rest.head? = some byte → isDigit byte = false

theorem takeWhile_digits (hdigits : digits.all isDigit = true)
    (hends : Ends rest) :
    (digits ++ rest).takeWhile isDigit = digits ∧
      (digits ++ rest).dropWhile isDigit = rest := by
  rw [List.all_eq_true] at hdigits
  rw [List.takeWhile_append_of_pos hdigits,
    List.dropWhile_append_of_pos hdigits]
  cases rest with
  | nil => simp
  | cons byte rest => simp [hends byte rfl]

theorem readUnsigned_digits (hdigits : digits.all isDigit = true)
    (hsome : digits ≠ []) (hends : Ends rest) :
    readUnsigned (digits ++ rest) = some (digitsValue digits, rest) := by
  obtain ⟨htake, hdrop⟩ := takeWhile_digits hdigits hends
  rw [readUnsigned, htake, hdrop, if_neg hsome]

/-- A digit is neither a sign nor white space. -/
theorem isDigit_plain (hdigit : isDigit byte = true) :
    byte ≠ minus ∧ byte ≠ plus ∧ isSpace byte = false := by
  have hall : ∀ code : Fin 256, isDigit (UInt8.ofFin code) = true →
      UInt8.ofFin code ≠ minus ∧ UInt8.ofFin code ≠ plus ∧
        isSpace (UInt8.ofFin code) = false := by
    decide +kernel
  exact hall byte.toFin hdigit

theorem readSigned_digits (hdigits : digits.all isDigit = true)
    (hsome : digits ≠ []) (hends : Ends rest) :
    readSigned (skipSpaces (digits ++ rest)) =
      some ((digitsValue digits : Int), rest) := by
  have hread := readUnsigned_digits hdigits hsome hends
  obtain ⟨first, others, rfl⟩ := List.exists_cons_of_ne_nil hsome
  rw [List.all_cons, Bool.and_eq_true] at hdigits
  obtain ⟨hminus, hplus, hspace⟩ := isDigit_plain hdigits.1
  have hskip : skipSpaces (first :: others ++ rest) =
      first :: others ++ rest := by
    simp [skipSpaces, hspace]
  rw [hskip, readSigned, hread, if_neg (by simpa using hminus),
    if_neg (by simpa using hplus)]
  rfl

theorem scan_number (hdigits : digits.all isDigit = true)
    (hsome : digits ≠ []) (hends : Ends rest) :
    scan (.number :: format) (digits ++ rest) =
      if FitsInt (digitsValue digits) then
        (scan format rest).map ((digitsValue digits : Int) :: ·)
      else none := by
  rw [scan, readSigned_digits hdigits hsome hends]

theorem scan_literal :
    scan (.literal byte :: format) (byte :: rest) = scan format rest := by
  rw [scan, List.head?_cons, if_pos rfl, List.tail_cons]

/-- One space in the text for white space in the format. -/
theorem scan_blank (hrest : ∀ byte, rest.head? = some byte →
    isSpace byte = false) (hbyte : isSpace byte = true) :
    scan (.blank :: format) (byte :: rest) = scan format rest := by
  have hskip : skipSpaces (byte :: rest) = rest := by
    cases rest with
    | nil => simp [skipSpaces, hbyte]
    | cons next rest => simp [skipSpaces, hbyte, hrest next rfl]
  rw [scan, hskip]

end Libsqli.Data.Scan
