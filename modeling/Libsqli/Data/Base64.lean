import Libsqli.Data.Filling
import Mathlib.Data.FinEnum
import Mathlib.Data.List.GetD
import Mathlib.Data.List.Nodup

namespace Libsqli.Data.Base64

open Libsqli.Data.Filling

/-! Base64 without padding, over any alphabet. -/

/-- The six-bit groups of some octets. -/
def sextets : List UInt8 → List Nat
  | first :: second :: third :: rest =>
      first.toNat >>> 2 ::
        ((first.toNat &&& 3) <<< 4 ||| second.toNat >>> 4) ::
        ((second.toNat &&& 15) <<< 2 ||| third.toNat >>> 6) ::
        (third.toNat &&& 63) :: sextets rest
  | [first, second] =>
      [first.toNat >>> 2, (first.toNat &&& 3) <<< 4 ||| second.toNat >>> 4,
        (second.toNat &&& 15) <<< 2]
  | [first] => [first.toNat >>> 2, (first.toNat &&& 3) <<< 4]
  | [] => []

/-- The octets of some groups; the bits that are left over are dropped. -/
def octets : List Nat → List UInt8
  | first :: second :: third :: fourth :: rest =>
      .ofNat (first * 4 + second / 16) ::
        .ofNat (second % 16 * 16 + third / 4) ::
        .ofNat (third % 4 * 64 + fourth) :: octets rest
  | [first, second, third] =>
      [.ofNat (first * 4 + second / 16), .ofNat (second % 16 * 16 + third / 4)]
  | [first, second] => [.ofNat (first * 4 + second / 16)]
  | _ => []

variable {alphabet : List UInt8} {source : List UInt8}

def encode (alphabet source : List UInt8) : List UInt8 :=
  (sextets source).map fun value => alphabet.getD value 0

def decode (alphabet text : List UInt8) : Option (List UInt8) :=
  if ∀ char ∈ text, char ∈ alphabet then
    some (octets (text.map alphabet.idxOf))
  else none

/-! A group in terms of quotients and remainders. -/

theorem shifted_or {high low : Nat} (width : Nat) (hlow : low < 2 ^ width) :
    high <<< width ||| low = high * 2 ^ width + low := by
  rw [Nat.shiftLeft_eq, Nat.mul_comm, Nat.two_pow_add_eq_or_of_lt hlow]

theorem sextet_first (first : UInt8) : first.toNat >>> 2 = first.toNat / 4 :=
  Nat.shiftRight_eq_div_pow _ 2

theorem sextet_second (first second : UInt8) :
    (first.toNat &&& 3) <<< 4 ||| second.toNat >>> 4 =
      first.toNat % 4 * 16 + second.toNat / 16 := by
  have hsecond := second.toNat_lt
  rw [Nat.shiftRight_eq_div_pow, shifted_or 4 (by omega)]
  exact congrArg (· * 16 + _) (Nat.and_two_pow_sub_one_eq_mod first.toNat 2)

theorem sextet_third (second third : UInt8) :
    (second.toNat &&& 15) <<< 2 ||| third.toNat >>> 6 =
      second.toNat % 16 * 4 + third.toNat / 64 := by
  have hthird := third.toNat_lt
  rw [Nat.shiftRight_eq_div_pow, shifted_or 2 (by omega)]
  exact congrArg (· * 4 + _) (Nat.and_two_pow_sub_one_eq_mod second.toNat 4)

theorem sextet_fourth (third : UInt8) : third.toNat &&& 63 = third.toNat % 64 :=
  Nat.and_two_pow_sub_one_eq_mod third.toNat 6

theorem sextet_last (first : UInt8) :
    (first.toNat &&& 3) <<< 4 = first.toNat % 4 * 16 := by
  rw [Nat.shiftLeft_eq]
  exact congrArg (· * 16) (Nat.and_two_pow_sub_one_eq_mod first.toNat 2)

theorem sextet_lastSecond (second : UInt8) :
    (second.toNat &&& 15) <<< 2 = second.toNat % 16 * 4 := by
  rw [Nat.shiftLeft_eq]
  exact congrArg (· * 4) (Nat.and_two_pow_sub_one_eq_mod second.toNat 4)

theorem ofNat_eq {value : Nat} {octet : UInt8} (hvalue : value = octet.toNat) :
    UInt8.ofNat value = octet := by
  rw [hvalue]
  exact UInt8.ofNat_toNat

theorem sextets_lt (source : List UInt8) : ∀ value ∈ sextets source, value < 64 := by
  fun_induction sextets source with
  | case1 first second third rest ih =>
      have hfirst := first.toNat_lt
      have hsecond := second.toNat_lt
      have hthird := third.toNat_lt
      simp only [sextet_first, sextet_second, sextet_third, sextet_fourth,
        List.forall_mem_cons]
      exact ⟨by omega, by omega, by omega, by omega, ih⟩
  | case2 first second =>
      have hfirst := first.toNat_lt
      have hsecond := second.toNat_lt
      simp only [sextet_first, sextet_second, sextet_lastSecond,
        List.forall_mem_cons]
      exact ⟨by omega, by omega, by omega, by simp⟩
  | case3 first =>
      have hfirst := first.toNat_lt
      simp only [sextet_first, sextet_last, List.forall_mem_cons]
      exact ⟨by omega, by omega, by simp⟩
  | case4 => simp

theorem octets_sextets (source : List UInt8) : octets (sextets source) = source := by
  fun_induction sextets source with
  | case1 first second third rest ih =>
      have hsecond := second.toNat_lt
      have hthird := third.toNat_lt
      rw [sextet_first, sextet_second, sextet_third, sextet_fourth, octets, ih,
        @ofNat_eq _ first (by omega),
        @ofNat_eq _ second (by omega),
        @ofNat_eq _ third (by omega)]
  | case2 first second =>
      have hsecond := second.toNat_lt
      rw [sextet_first, sextet_second, sextet_lastSecond, octets,
        @ofNat_eq _ first (by omega),
        @ofNat_eq _ second (by omega)]
  | case3 first =>
      rw [sextet_first, sextet_last, octets,
        @ofNat_eq _ first (by omega)]
  | case4 => rfl

/-! The alphabet. -/

structure Symbols (alphabet : List UInt8) : Prop where
  nodup : alphabet.Nodup
  length : alphabet.length = 64

theorem Symbols.mem (hsymbols : Symbols alphabet) {value : Nat}
    (hvalue : value < 64) : alphabet.getD value 0 ∈ alphabet := by
  rw [List.getD_eq_getElem _ _ (by rw [hsymbols.length]; exact hvalue)]
  exact List.getElem_mem _

theorem Symbols.idxOf (hsymbols : Symbols alphabet) {value : Nat}
    (hvalue : value < 64) : alphabet.idxOf (alphabet.getD value 0) = value := by
  rw [List.getD_eq_getElem _ _ (by rw [hsymbols.length]; exact hvalue)]
  exact hsymbols.nodup.idxOf_getElem _ _

theorem mem_encode (hsymbols : Symbols alphabet) (source : List UInt8) :
    ∀ char ∈ encode alphabet source, char ∈ alphabet := by
  intro char hmember
  obtain ⟨value, hvalue, rfl⟩ := List.mem_map.mp hmember
  exact hsymbols.mem (sextets_lt source value hvalue)

theorem decode_encode (hsymbols : Symbols alphabet) (source : List UInt8) :
    decode alphabet (encode alphabet source) = some source := by
  have hvalues : (encode alphabet source).map alphabet.idxOf =
      sextets source := by
    rw [encode, List.map_map]
    refine (List.map_congr_left fun value hvalue => ?_).trans (List.map_id _)
    exact hsymbols.idxOf (sextets_lt source value hvalue)
  rw [decode, if_pos (mem_encode hsymbols source), hvalues, octets_sextets]

end Libsqli.Data.Base64
