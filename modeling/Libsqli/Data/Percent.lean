import Libsqli.Data.Ctype
import Mathlib.Tactic.Common

namespace Libsqli.Data.Percent

open Libsqli.Data.Ctype
open Libsqli.Data.Numeral (isDigit)

/-! Percent encoding, with a plus sign for a space. -/

def percent : UInt8 := 37

def isXDigit (byte : UInt8) : Bool :=
  isDigit byte || (65 ≤ byte && byte ≤ 70) || (97 ≤ byte && byte ≤ 102)

def hexValue (byte : UInt8) : UInt8 :=
  if isDigit byte then byte - 48
  else if byte ≤ 70 then byte - 55
  else byte - 87

/-- One byte that is not part of an escape. -/
def plain (byte : UInt8) : UInt8 := if byte = plus then space else byte

/-- The next decoded byte and what is left of the text. -/
def step (byte : UInt8) (rest : List UInt8) : UInt8 × List UInt8 :=
  match rest with
  | high :: low :: tail =>
      if byte = percent ∧ isXDigit high ∧ isXDigit low then
        (hexValue high * 16 + hexValue low, tail)
      else (plain byte, rest)
  | _ => (plain byte, rest)

theorem length_step_le (byte : UInt8) (rest : List UInt8) :
    (step byte rest).2.length ≤ rest.length := by
  unfold step
  split
  · split
    · simp only [List.length_cons]
      omega
    · exact Nat.le_refl _
  · exact Nat.le_refl _

def decode : List UInt8 → List UInt8
  | [] => []
  | byte :: rest => (step byte rest).1 :: decode (step byte rest).2
termination_by text => text.length
decreasing_by exact Nat.lt_succ_of_le (length_step_le byte rest)

theorem decode_cons (byte : UInt8) (rest : List UInt8) :
    decode (byte :: rest) = (step byte rest).1 :: decode (step byte rest).2 := by
  rw [decode]

theorem length_decode_le (text : List UInt8) :
    (decode text).length ≤ text.length := by
  fun_induction decode text with
  | case1 => exact Nat.le_refl _
  | case2 byte rest ih =>
      have hstep := length_step_le byte rest
      simp only [List.length_cons]
      omega

/-! Texts that decoding leaves as they are. -/

/-- Neither a plus sign nor an escape occurs. -/
structure Unescaped (text : List UInt8) : Prop where
  plus : plus ∉ text
  escape : ∀ high low, isXDigit high → isXDigit low →
    ¬ [percent, high, low] <:+: text

/-- An escape stands at the front. -/
def Opens (text : List UInt8) : Prop :=
  ∃ high low, isXDigit high = true ∧ isXDigit low = true ∧
    [percent, high, low] <+: text

theorem step_opens {byte : UInt8} {rest : List UInt8}
    (hopens : Opens (byte :: rest)) :
    (step byte rest).2.length < rest.length := by
  obtain ⟨high, low, hhigh, hlow, tail, htail⟩ := hopens
  cases htail
  have hstep : step percent (high :: low :: tail) =
      (hexValue high * 16 + hexValue low, tail) := by
    rw [step, if_pos ⟨rfl, hhigh, hlow⟩]
  change (step percent (high :: low :: tail)).2.length < _
  rw [hstep]
  exact Nat.lt_add_of_pos_right (Nat.zero_lt_succ 1)

theorem step_plain {byte : UInt8} {rest : List UInt8}
    (hplain : ¬ Opens (byte :: rest)) : step byte rest = (plain byte, rest) := by
  unfold step
  split
  · next high low tail =>
    rw [if_neg]
    rintro ⟨rfl, hhigh, hlow⟩
    exact hplain ⟨high, low, hhigh, hlow, tail, rfl⟩
  · rfl

theorem unescaped_cons {byte : UInt8} {rest : List UInt8} :
    Unescaped (byte :: rest) ↔
      byte ≠ plus ∧ ¬ Opens (byte :: rest) ∧ Unescaped rest := by
  constructor
  · intro h
    refine ⟨fun hbyte => h.plus (hbyte ▸ List.mem_cons_self), ?_, ?_⟩
    · rintro ⟨high, low, hhigh, hlow, hprefix⟩
      exact h.escape high low hhigh hlow hprefix.isInfix
    · exact ⟨fun hmem => h.plus (List.mem_cons_of_mem _ hmem),
        fun high low hhigh hlow hinfix => h.escape high low hhigh hlow
          (List.infix_cons hinfix)⟩
  · rintro ⟨hbyte, hopens, hrest⟩
    refine ⟨?_, fun high low hhigh hlow hinfix => ?_⟩
    · intro hmem
      rcases List.mem_cons.mp hmem with hhead | htail
      · exact hbyte hhead.symm
      · exact hrest.plus htail
    · rcases List.infix_cons_iff.mp hinfix with hprefix | hinfix
      · exact hopens ⟨high, low, hhigh, hlow, hprefix⟩
      · exact hrest.escape high low hhigh hlow hinfix

theorem plain_eq_iff {byte : UInt8} : plain byte = byte ↔ byte ≠ plus := by
  constructor
  · rintro hplain rfl
    exact absurd hplain (by decide)
  · intro hbyte
    rw [plain, if_neg hbyte]

theorem decode_eq_self_iff (text : List UInt8) :
    decode text = text ↔ Unescaped text := by
  induction text with
  | nil =>
      rw [decode]
      exact ⟨fun _ => ⟨List.not_mem_nil, fun _ _ _ _ h =>
        absurd (List.eq_nil_of_infix_nil h) (List.cons_ne_nil _ _)⟩,
        fun _ => rfl⟩
  | cons byte rest ih =>
      rw [decode_cons, unescaped_cons]
      by_cases hopens : Opens (byte :: rest)
      · have hshort : decode (step byte rest).2 ≠ rest := fun h => by
          have hstep := step_opens hopens
          have hdecode := length_decode_le (step byte rest).2
          rw [h] at hdecode
          omega
        exact ⟨fun h => absurd (List.cons.inj h).2 hshort,
          fun h => absurd hopens h.2.1⟩
      · rw [step_plain hopens, List.cons.injEq, plain_eq_iff, ih]
        exact ⟨fun h => ⟨h.1, hopens, h.2⟩, fun h => ⟨h.1, h.2.2⟩⟩

/-! Encoders may keep any bytes but these two, and write digits in either
case. -/

structure Encoding where
  keeps : UInt8 → Bool
  upper : Bool
  escapes_percent : keeps percent = false
  escapes_plus : keeps plus = false

def hexDigit (upper : Bool) (value : UInt8) : UInt8 :=
  if value < 10 then 48 + value
  else if upper then 55 + value
  else 87 + value

namespace Encoding

variable (encoding : Encoding)

def encodeByte (byte : UInt8) : List UInt8 :=
  if encoding.keeps byte then [byte]
  else [percent, hexDigit encoding.upper (byte / 16),
    hexDigit encoding.upper (byte % 16)]

def encode (text : List UInt8) : List UInt8 := text.flatMap encoding.encodeByte

theorem hexDigit_spec (upper : Bool) (byte : UInt8) :
    isXDigit (hexDigit upper (byte / 16)) = true ∧
      isXDigit (hexDigit upper (byte % 16)) = true ∧
      hexValue (hexDigit upper (byte / 16)) * 16 +
        hexValue (hexDigit upper (byte % 16)) = byte := by
  have hall : ∀ upper : Bool, ∀ code : Fin 256,
      isXDigit (hexDigit upper (UInt8.ofFin code / 16)) = true ∧
      isXDigit (hexDigit upper (UInt8.ofFin code % 16)) = true ∧
      hexValue (hexDigit upper (UInt8.ofFin code / 16)) * 16 +
        hexValue (hexDigit upper (UInt8.ofFin code % 16)) =
          UInt8.ofFin code := by
    decide +kernel
  exact hall upper byte.toFin

theorem step_kept {byte : UInt8} (hkept : encoding.keeps byte = true)
    (rest : List UInt8) : step byte rest = (byte, rest) := by
  have hpercent : byte ≠ percent := fun h => by
    rw [h, encoding.escapes_percent] at hkept
    cases hkept
  have hplus : byte ≠ plus := fun h => by
    rw [h, encoding.escapes_plus] at hkept
    cases hkept
  unfold step plain
  split
  · rw [if_neg fun h => hpercent h.1, if_neg hplus]
  · rw [if_neg hplus]

theorem decode_encodeByte (byte : UInt8) (rest : List UInt8) :
    decode (encoding.encodeByte byte ++ rest) = byte :: decode rest := by
  unfold encodeByte
  split
  · next hkept =>
    rw [List.singleton_append, decode_cons, encoding.step_kept hkept]
  · obtain ⟨hhigh, hlow, hvalue⟩ := hexDigit_spec encoding.upper byte
    have hstep : step percent
        (hexDigit encoding.upper (byte / 16) ::
          hexDigit encoding.upper (byte % 16) :: rest) = (byte, rest) := by
      rw [step, if_pos ⟨rfl, hhigh, hlow⟩, hvalue]
    rw [List.cons_append, decode_cons, List.cons_append, List.cons_append,
      List.nil_append, hstep]

theorem decode_encode (text : List UInt8) :
    decode (encoding.encode text) = text := by
  induction text with
  | nil => rw [encode, List.flatMap_nil, decode]
  | cons byte text ih =>
      rw [encode, List.flatMap_cons, decode_encodeByte]
      exact congrArg (byte :: ·) ih

end Encoding

end Libsqli.Data.Percent
