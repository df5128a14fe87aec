import Libsqli.Uri.Decode
import Mathlib.Data.List.DropRight

namespace Libsqli.Sqlicon

open Libsqli.Data.Ctype
open Libsqli.Uri (held)

/-! `sqlicon_exit_code` and the inline functions of `sqlicon.h` on texts. A
text stands for the C string that holds it. -/

inductive ExitCode where
  | ok
  | sqlError
  | connectionError
  | misuse
  | profileExists
  | profileNotFound
  | profileDecryptFail
  deriving DecidableEq

def backslash : UInt8 := 92
def semicolon : UInt8 := 59
def comma : UInt8 := 44
def dot : UInt8 := 46

def isSpaceChar (c : UInt8) : Bool := c == 32 || c == 9 || c == 13 || c == 10

def skipSpacesStr (s : List UInt8) : List UInt8 := s.dropWhile isSpaceChar

def stripTrailing (s : List UInt8) : List UInt8 := s.rdropWhile isSpaceChar

/-- `trim_span` of the whole of a text. -/
def trimSpan (s : List UInt8) : List UInt8 :=
  (s.dropWhile isSpaceChar).rdropWhile isSpaceChar

def discardLeadingWhitespace (buf : List UInt8) : List UInt8 :=
  buf.dropWhile isSpaceChar

variable {buf : List UInt8}

@[simp] theorem discardLeadingWhitespace_nil :
    discardLeadingWhitespace [] = [] := rfl

@[simp] theorem discardLeadingWhitespace_discard (buf : List UInt8) :
    discardLeadingWhitespace (discardLeadingWhitespace buf) =
      discardLeadingWhitespace buf :=
  List.dropWhile_idempotent isSpaceChar buf

theorem discardLeadingWhitespace_append
    (hbuf : discardLeadingWhitespace buf ≠ []) (later : List UInt8) :
    discardLeadingWhitespace (buf ++ later) =
      discardLeadingWhitespace buf ++ later := by
  rw [discardLeadingWhitespace] at hbuf
  rw [discardLeadingWhitespace, discardLeadingWhitespace, List.dropWhile_append]
  simp [hbuf]

/-- White space in front of a text goes before what follows the text does. -/
theorem discardLeadingWhitespace_discard_append (buf later : List UInt8) :
    discardLeadingWhitespace (discardLeadingWhitespace buf ++ later) =
      discardLeadingWhitespace (buf ++ later) := by
  simp only [discardLeadingWhitespace]
  by_cases hnil : buf.dropWhile isSpaceChar = []
  · simp [List.dropWhile_append, hnil]
  · have hbuf : discardLeadingWhitespace
        (discardLeadingWhitespace buf) ≠ [] := by
      rw [discardLeadingWhitespace_discard]
      exact hnil
    have hfirst := discardLeadingWhitespace_append hbuf later
    have hsecond := discardLeadingWhitespace_append hnil later
    rw [discardLeadingWhitespace_discard] at hfirst
    exact hfirst.trans hsecond.symm

theorem length_discardLeadingWhitespace_le (buf : List UInt8) :
    (discardLeadingWhitespace buf).length ≤ buf.length :=
  (List.dropWhile_suffix isSpaceChar).length_le

theorem trimSpan_discard (s : List UInt8) :
    trimSpan (discardLeadingWhitespace s) = trimSpan s := by
  rw [trimSpan, trimSpan, discardLeadingWhitespace, List.dropWhile_idempotent]

end Libsqli.Sqlicon
