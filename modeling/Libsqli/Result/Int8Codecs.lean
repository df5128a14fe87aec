import Libsqli.Receive.Message
import Libsqli.Result.Integers
import Libsqli.Sblob.ReaderCalls

namespace Libsqli.Result

open Libsqli.Data.Bytes
open Libsqli.Decimal (InInt64)
open Libsqli.Data.Radix (ofBigEndian_cons)
open Libsqli.Receive
open Libsqli.Sblob
open Layout

/-! `sqli_decode_ifx_int8`, which shifts the octets into words. -/

def shiftedSign (buf10 : List UInt8) : Int16 :=
  ((buf10.getD 0 0).toUInt16 <<< 8 ||| (buf10.getD 1 0).toUInt16).toInt16

def shiftedWord (buf10 : List UInt8) (index : Nat) : UInt32 :=
  (buf10.getD index 0).toUInt32 <<< 24 |||
    (buf10.getD (index + 1) 0).toUInt32 <<< 16 |||
    (buf10.getD (index + 2) 0).toUInt32 <<< 8 |||
    (buf10.getD (index + 3) 0).toUInt32

def shiftedInt8 (buf10 : List UInt8) : Int8Value :=
  ⟨shiftedSign buf10, shiftedWord buf10 2, shiftedWord buf10 6⟩

/-- `sqli_decode_ifx_int8`: the number, and whether it is NULL. -/
def decodeIfxInt8 (buf10 : Option (List UInt8)) : Int × Bool :=
  match buf10 with
  | none => (0, true)
  | some bytes =>
      match (shiftedInt8 bytes).decode with
      | none => (0, true)
      | some value => (value, false)

/-! The words are those of the other decoder. -/

theorem or_octets {first second third last : Nat} (hfirst : first < 256)
    (hsecond : second < 256) (hthird : third < 256) (hlast : last < 256) :
    first <<< 24 % 2 ^ 32 ||| second <<< 16 % 2 ^ 32 |||
        third <<< 8 % 2 ^ 32 ||| last =
      first * 256 ^ 3 + (second * 256 ^ 2 + (third * 256 + last)) := by
  have hshift : ∀ value count, value < 256 → count ≤ 24 →
      value <<< count % 2 ^ 32 = value <<< count := by
    intro value count hvalue hcount
    have hpower : 2 ^ count ≤ 2 ^ 24 := Nat.pow_le_pow_right (by decide) hcount
    have hmul : value * 2 ^ count ≤ 255 * 2 ^ 24 :=
      Nat.mul_le_mul (by omega) hpower
    rw [Nat.shiftLeft_eq, Nat.mod_eq_of_lt (by omega)]
  rw [hshift _ _ hfirst (by decide), hshift _ _ hsecond (by decide),
    hshift _ _ hthird (by decide), Nat.or_assoc, Nat.or_assoc,
    ← Nat.shiftLeft_add_eq_or_of_lt (by omega : last < 2 ^ 8),
    ← Nat.shiftLeft_add_eq_or_of_lt
      (by rw [Nat.shiftLeft_eq]; omega : third <<< 8 + last < 2 ^ 16),
    ← Nat.shiftLeft_add_eq_or_of_lt
      (by simp only [Nat.shiftLeft_eq]; omega :
        second <<< 16 + (third <<< 8 + last) < 2 ^ 24)]
  simp only [Nat.shiftLeft_eq]
  norm_num

theorem natOfBytes_four (first second third last : UInt8) :
    natOfBytes [first, second, third, last] =
      first.toNat * 256 ^ 3 +
        (second.toNat * 256 ^ 2 + (third.toNat * 256 + last.toNat)) := by
  simp [natOfBytes, ofBigEndian_cons]

theorem exists_four {word : List UInt8} (hlength : word.length = 4) :
    ∃ first second third last, word = [first, second, third, last] := by
  match word, hlength with
  | [first, second, third, last], _ => exact ⟨first, second, third, last, rfl⟩

theorem toNat_shiftedWord (front rest : List UInt8) {word : List UInt8}
    (hlength : word.length = 4) :
    (shiftedWord (front ++ (word ++ rest)) front.length).toNat =
      natOfBytes word := by
  obtain ⟨first, second, third, last, rfl⟩ := exists_four hlength
  have hget : ∀ index,
      (front ++ ([first, second, third, last] ++ rest)).getD
        (front.length + index) 0 =
        ([first, second, third, last] ++ rest).getD index 0 := by
    intro index
    rw [List.getD_append_right _ _ _ _ (by omega), Nat.add_sub_cancel_left]
  have hfirst := hget 0
  rw [Nat.add_zero] at hfirst
  rw [shiftedWord, hfirst, hget, hget, hget, natOfBytes_four,
    ← or_octets first.toNat_lt second.toNat_lt third.toNat_lt last.toNat_lt]
  rfl

theorem shiftedSign_eq {sign : Nat} (hsign : sign = 1 ∨ sign = 0xFFFF)
    (rest : List UInt8) :
    shiftedSign (bigEndian 2 sign ++ rest) = if sign = 1 then 1 else -1 := by
  rcases hsign with rfl | rfl
  · rw [show bigEndian 2 1 = [0, 1] by decide, if_pos rfl]
    exact (by decide : shiftedSign [0, 1] = 1)
  · rw [show bigEndian 2 0xFFFF = [255, 255] by decide, if_neg (by decide)]
    exact (by decide : shiftedSign [255, 255] = -1)

theorem shiftedInt8_eq {sign low high : Nat}
    (hsign : sign = 1 ∨ sign = 0xFFFF) (hlow : low < 2 ^ 32)
    (hhigh : high < 2 ^ 32) :
    shiftedInt8 (bigEndian 2 sign ++ bigEndian 4 low ++ bigEndian 4 high) =
      ⟨if sign = 1 then 1 else -1, UInt32.ofNat low, UInt32.ofNat high⟩ := by
  have hlowWord : shiftedWord
      (bigEndian 2 sign ++ bigEndian 4 low ++ bigEndian 4 high) 2 =
        UInt32.ofNat low := by
    have hword := toNat_shiftedWord (bigEndian 2 sign) (bigEndian 4 high)
      (length_bigEndian 4 low)
    rw [length_bigEndian, natOfBytes_bigEndian_of_lt (by omega),
      ← List.append_assoc] at hword
    have hvalue := congrArg UInt32.ofNat hword
    rwa [UInt32.ofNat_toNat] at hvalue
  have hhighWord : shiftedWord
      (bigEndian 2 sign ++ bigEndian 4 low ++ bigEndian 4 high) 6 =
        UInt32.ofNat high := by
    have hword := toNat_shiftedWord
      (bigEndian 2 sign ++ bigEndian 4 low) [] (length_bigEndian 4 high)
    rw [List.length_append, length_bigEndian, length_bigEndian,
      natOfBytes_bigEndian_of_lt (by omega), List.append_nil] at hword
    have hvalue := congrArg UInt32.ofNat hword
    rwa [UInt32.ofNat_toNat] at hvalue
  have hsignWord := shiftedSign_eq hsign (bigEndian 4 low ++ bigEndian 4 high)
  rw [← List.append_assoc] at hsignWord
  rw [shiftedInt8, hlowWord, hhighWord, hsignWord]

/-! Both decoders on what the first one accepts. -/

theorem decodeInteger_int8 (htype : type ∈ [typeInt8, typeSerial8])
    (bytes : List UInt8) : decodeInteger type bytes = decodeInt8 bytes := by
  rw [decodeInteger, if_neg (not_boolean_of_int8 htype), if_pos htype]

/-- What an accepted payload is made of. -/
theorem decodeInt8_ok {bytes : List UInt8} {value : Int}
    (haccepted : decodeInt8 bytes = .ok value) :
    ∃ sign low high, (sign = 1 ∨ sign = 0xFFFF) ∧ low < 2 ^ 32 ∧
      high < 2 ^ 32 ∧
      bytes = bigEndian 2 sign ++ bigEndian 4 low ++ bigEndian 4 high ∧
      InInt64 value ∧
      value = if sign = 1 then ((low + 2 ^ 32 * high : Nat) : Int)
        else -((low + 2 ^ 32 * high : Nat) : Int) := by
  by_cases hlength : bytes.length = 10
  · obtain ⟨low, high, hlow, hhigh, hbytes⟩ := exists_int8_parts hlength
    refine ⟨natOfBytes (bytes.take 2), low, high, ?_, hlow, hhigh, hbytes, ?_⟩
    · unfold decodeInt8 at haccepted
      split at haccepted
      · cases haccepted
      · split at haccepted
        · exact .inl ‹_›
        · split at haccepted
          · exact .inr ‹_›
          · cases haccepted
    · have hsignFits : natOfBytes (bytes.take 2) < 2 ^ 16 := by
        have hlt := natOfBytes_lt (bytes.take 2)
        rw [List.length_take, hlength] at hlt
        exact hlt
      obtain ⟨-, hmagnitude⟩ := int8_parts hsignFits hlow hhigh
      rw [← hbytes] at hmagnitude
      rw [decodeInt8, if_neg (not_not.mpr hlength), hmagnitude] at haccepted
      unfold InInt64
      split at haccepted
      · next hsign =>
        split at haccepted
        · cases haccepted
        · cases haccepted
          rw [if_pos hsign]
          omega
      · next hsign =>
        split at haccepted
        · split at haccepted
          · cases haccepted
          · cases haccepted
            rw [if_neg hsign]
            omega
        · cases haccepted
  · rw [decodeInt8, if_pos hlength] at haccepted
    cases haccepted

theorem decode_int8_parts {sign low high : Nat} {value : Int}
    (hlow : low < 2 ^ 32) (hhigh : high < 2 ^ 32) (hvalue : InInt64 value)
    (hparts : value = if sign = 1 then ((low + 2 ^ 32 * high : Nat) : Int)
      else -((low + 2 ^ 32 * high : Nat) : Int)) :
    Int8Value.decode
      ⟨if sign = 1 then 1 else -1, UInt32.ofNat low, UInt32.ofNat high⟩ =
        some value := by
  have hlowNat : (UInt32.ofNat low).toNat = low :=
    UInt32.toNat_ofNat_of_lt' hlow
  have hhighNat : (UInt32.ofNat high).toNat = high :=
    UInt32.toNat_ofNat_of_lt' hhigh
  unfold InInt64 at hvalue
  simp only [Int8Value.decode, hlowNat, hhighNat]
  by_cases hsign : sign = 1
  · rw [if_pos hsign] at hparts ⊢
    rw [if_neg (by decide), if_neg (by decide), if_neg (by omega)]
    congr 1
    omega
  · rw [if_neg hsign] at hparts ⊢
    rw [if_neg (by decide), if_pos (by decide)]
    congr 1
    split <;> omega

theorem shiftedInt8_decode {bytes : List UInt8} {value : Int}
    (haccepted : decodeInt8 bytes = .ok value) :
    (shiftedInt8 bytes).decode = some value := by
  obtain ⟨sign, low, high, hsign, hlow, hhigh, rfl, hrange, hvalue⟩ :=
    decodeInt8_ok haccepted
  rw [shiftedInt8_eq hsign hlow hhigh]
  exact decode_int8_parts hlow hhigh hrange hvalue

/-! The encoder of a seek. -/

/-- The ten octets of the offset in the request of `sqli_sblob_read_seek`. -/
def offsetOctets (lofd : Int) (offset : Int64) (nbytes : Nat) : List UInt8 :=
  ((readSeekRequest lofd offset nbytes).drop 12).take 10

theorem offsetOctets_eq (lofd : Int) (offset : Int64) (nbytes : Nat) :
    offsetOctets lofd offset nbytes =
      bigEndian 2 (if offset.toInt < 0 then 0xFFFF else 1) ++
        bigEndian 4 (magnitude offset.toInt % 2 ^ 32) ++
        bigEndian 4 (magnitude offset.toInt / 2 ^ 32) := by
  have hheader : (readHeader 1 lofd nbytes).length = 12 := by
    simp [readHeader]
  rw [offsetOctets, readSeekRequest, List.drop_append, hheader,
    List.drop_eq_nil_of_le (Nat.le_of_eq hheader), List.nil_append,
    Nat.sub_self, List.drop_zero, seekBytes]
  simp only [← List.append_assoc]
  rw [List.append_assoc, List.take_append_of_le_length (by simp)]
  exact List.take_of_length_le (by simp)

theorem magnitude_spec (offset : Int64) :
    magnitude offset.toInt < 2 ^ 64 ∧
      offset.toInt = if offset.toInt < 0 then
        -(magnitude offset.toInt : Int) else magnitude offset.toInt := by
  have hlow := offset.le_toInt
  have hhigh := offset.toInt_lt
  unfold magnitude
  split <;> constructor <;> omega

theorem decodeInt8_offsetOctets (lofd : Int) (offset : Int64) (nbytes : Nat) :
    decodeInt8 (offsetOctets lofd offset nbytes) = .ok offset.toInt := by
  obtain ⟨hfits, hvalue⟩ := magnitude_spec offset
  have hlow := offset.le_toInt
  have hhigh := offset.toInt_lt
  have hsignFits : (if offset.toInt < 0 then 0xFFFF else 1) < 2 ^ 16 := by
    split <;> decide
  have hlowFits : magnitude offset.toInt % 2 ^ 32 < 2 ^ 32 :=
    Nat.mod_lt _ (by decide)
  have hhighFits : magnitude offset.toInt / 2 ^ 32 < 2 ^ 32 := by omega
  obtain ⟨hsign, hmagnitude⟩ := int8_parts hsignFits hlowFits hhighFits
  rw [Nat.mod_add_div] at hmagnitude
  rw [offsetOctets_eq, decodeInt8, if_neg (not_not.mpr (length_int8 _ _ _)),
    hsign, hmagnitude]
  by_cases hnegative : offset.toInt < 0
  · rw [if_pos hnegative] at hvalue
    rw [if_pos hnegative, if_neg (by decide), if_pos rfl, if_neg (by omega),
      ← hvalue]
  · rw [if_neg hnegative] at hvalue
    rw [if_neg hnegative, if_pos rfl, if_neg (by omega), ← hvalue]

theorem int8_codecs_agree (htype : type ∈ [typeInt8, typeSerial8]) :
    (∀ lofd offset nbytes,
      decodeInteger type (offsetOctets lofd offset nbytes) =
        .ok offset.toInt) ∧
      ∀ bytes value, decodeInteger type bytes = .ok value →
        decodeIfxInt8 (some bytes) = (value, false) ∧
        ∀ result, receiveInsertdone (shiftedInt8 bytes) result =
          { result with
            generatedSerial8 := value, hasGeneratedSerial8 := true } := by
  refine ⟨fun lofd offset nbytes => ?_, fun bytes value haccepted => ?_⟩
  · rw [decodeInteger_int8 htype]
    exact decodeInt8_offsetOctets lofd offset nbytes
  · rw [decodeInteger_int8 htype] at haccepted
    have hdecode := shiftedInt8_decode haccepted
    refine ⟨?_, fun result => ?_⟩
    · simp only [decodeIfxInt8, hdecode]
    · simp only [receiveInsertdone, hdecode]

theorem int8_codecs_agree_least :
    decodeInteger typeInt8 (offsetOctets 3 Int64.minValue 8) =
        .ok (-9223372036854775808) ∧
      decodeIfxInt8 (some (offsetOctets 3 Int64.minValue 8)) =
        (-9223372036854775808, false) := by
  have hagree := int8_codecs_agree
    (by decide : typeInt8 ∈ [typeInt8, typeSerial8])
  have hread := hagree.1 3 Int64.minValue 8
  exact ⟨hread, (hagree.2 _ _ hread).1⟩

end Libsqli.Result
