import Libsqli.Decimal.Integral
import Libsqli.Result.DecimalGetters
import Mathlib.Data.Nat.Bitwise

namespace Libsqli.Result

open Libsqli.Data.Bytes
open Libsqli.Decimal
open Layout

/-! What the octets of a column denote as a number. -/

/-- Two's complement: the first bit counts negatively. -/
def twosComplement (bytes : List UInt8) : Int :=
  natOfBytes bytes -
    if 128 ≤ (bytes.headD 0).toNat then 256 ^ bytes.length else 0

def wordTypes : List UInt8 :=
  [typeSmallint, typeInt, typeSerial, typeBigint, typeBigserial]

def falseOctets : List UInt8 := [0, 48, 102, 70, 110, 78]

def trueOctets : List UInt8 := [1, 0xFF, 49, 116, 84, 121, 89]

inductive IntegerBytes (type : UInt8) : List UInt8 → Int → Prop
  | no (htype : type ∈ [typeBool, typeDboolean])
      (hbyte : byte ∈ falseOctets) : IntegerBytes type [byte] 0
  | yes (htype : type ∈ [typeBool, typeDboolean])
      (hbyte : byte ∈ trueOctets) : IntegerBytes type [byte] 1
  | positive (htype : type ∈ [typeInt8, typeSerial8])
      (hlow : low < 2 ^ 32) (hhigh : high < 2 ^ 32) :
      IntegerBytes type
        (bigEndian 2 1 ++ bigEndian 4 low ++ bigEndian 4 high)
        (low + 2 ^ 32 * high : Nat)
  | negative (htype : type ∈ [typeInt8, typeSerial8])
      (hlow : low < 2 ^ 32) (hhigh : high < 2 ^ 32) :
      IntegerBytes type
        (bigEndian 2 0xFFFF ++ bigEndian 4 low ++ bigEndian 4 high)
        (-(low + 2 ^ 32 * high : Nat))
  | word (htype : type ∈ wordTypes)
      (hlength : bytes.length = integerWidth type) :
      IntegerBytes type bytes (twosComplement bytes)

/-- The number of a column that is not NULL. -/
inductive WireNumber (column : Column) (bytes : List UInt8) : ℚ → Prop
  | integer (hwhole : IntegerBytes column.type bytes whole) :
      WireNumber column bytes whole
  | decimal (hdecimal : decimalType column.type = true)
      (hdescriptor : column.encodedLength.toNat ≤ 0xFFFF)
      (htype : decodeType column.encodedLength.toUInt16 = .ok type)
      (hrepresents : Represents type bytes value)
      (hvalue : value.isNull = false) :
      WireNumber column bytes value.number

/-- The NULL of each type. -/
def CarriesNull (type : UInt8) (bytes : List UInt8) : Prop :=
  if type = typeSmallint then bytes = [0x80, 0]
  else if type ∈ [typeInt, typeSerial] then bytes = [0x80, 0, 0, 0]
  else if type ∈ [typeBigint, typeBigserial] then
    bytes = [0x80, 0, 0, 0, 0, 0, 0, 0]
  else if type ∈ [typeInt8, typeSerial8] then bytes.take 2 = [0, 0]
  else if type ∈ [typeBool, typeDboolean] then bytes = []
  else AllZero bytes

variable {type byte : UInt8} {bytes : List UInt8} {whole : Int}

theorem mem_integerTypes (htype : integerType type = true) :
    type = typeSmallint ∨ type = typeInt ∨ type = typeSerial ∨
      type = typeBigint ∨ type = typeBigserial ∨ type = typeInt8 ∨
      type = typeSerial8 ∨ type = typeBool ∨ type = typeDboolean := by
  simpa [integerType] using htype

theorem spanIsNull_iff {tuple : List UInt8} {offset : Nat} {span : Span}
    (haccepted : integerType type = true ∨ decimalType type = true)
    (hinside : (dataOf tuple span).length = span.length) :
    spanIsNull type offset span tuple = true ↔
      CarriesNull type (dataOf tuple span) := by
  have hempty : span.length = 0 ↔ dataOf tuple span = [] := by
    rw [← hinside, List.length_eq_zero_iff]
  unfold spanIsNull
  rw [show (tuple.drop span.start).take span.length = dataOf tuple span from
    rfl]
  simp only [hempty]
  generalize dataOf tuple span = bytes
  rcases haccepted with hinteger | hdecimal
  · rcases mem_integerTypes hinteger with rfl | rfl | rfl | rfl | rfl | rfl |
      rfl | rfl | rfl <;>
      by_cases hbytes : bytes = [] <;>
      simp +decide [hbytes, nullData, CarriesNull]
  · have htype : type = typeDecimal ∨ type = typeMoney := by
      simpa [decimalType] using hdecimal
    rcases htype with rfl | rfl <;>
      by_cases hbytes : bytes = [] <;>
      simp +decide [hbytes, nullData, CarriesNull, AllZero]

/-! The 64-bit words of the source. -/

/-- `unsigned_be` -/
def unsignedBe (bytes : List UInt8) : UInt64 :=
  bytes.foldl (fun value byte => (value <<< 8) ||| byte.toUInt64) 0

/-- `value |= UINT64_MAX << (length * 8)` where the first bit is set. -/
def extendSign (bytes : List UInt8) (value : UInt64) : UInt64 :=
  if bytes.length < 8 ∧ bytes.headD 0 &&& 0x80 ≠ 0 then
    value ||| ((-1 : UInt64) <<< UInt64.ofNat (bytes.length * 8))
  else value

/-- The way from `uint64_t` to `int64_t` that does not overflow. -/
def signedWord (value : UInt64) : Int :=
  if value.toNat ≤ 9223372036854775807 then value.toNat
  else -1 - (18446744073709551615 - value.toNat : Nat)

theorem natOfBytes_cons (byte : UInt8) (bytes : List UInt8) :
    natOfBytes (byte :: bytes) =
      byte.toNat * 256 ^ bytes.length + natOfBytes bytes := by
  rw [natOfBytes, List.map_cons, Data.Radix.ofBigEndian_cons, List.length_map]
  rfl

theorem natOfBytes_concat (bytes : List UInt8) (byte : UInt8) :
    natOfBytes (bytes ++ [byte]) = natOfBytes bytes * 256 + byte.toNat := by
  rw [natOfBytes, List.map_append, List.map_singleton,
    Data.Radix.ofBigEndian_concat]
  rfl

theorem toNat_unsignedBe (hlength : bytes.length ≤ 8) :
    (unsignedBe bytes).toNat = natOfBytes bytes := by
  induction bytes using List.reverseRecOn with
  | nil => rfl
  | append_singleton bytes byte ih =>
      rw [List.length_append, List.length_singleton] at hlength
      have hfront := ih (by omega)
      have hlt := natOfBytes_lt bytes
      have hpower : 256 ^ bytes.length ≤ 256 ^ 7 :=
        Nat.pow_le_pow_right (by decide) (by omega)
      have hbyte := byte.toNat_lt
      have hstep : unsignedBe (bytes ++ [byte]) =
          (unsignedBe bytes <<< 8) ||| byte.toUInt64 := by
        rw [unsignedBe, List.foldl_append]
        rfl
      rw [hstep, UInt64.toNat_or, UInt64.toNat_shiftLeft, hfront,
        UInt8.toNat_toUInt64, natOfBytes_concat]
      have hshift : natOfBytes bytes <<< ((8 : UInt64).toNat % 64) % 2 ^ 64 =
          natOfBytes bytes <<< 8 := by
        rw [show (8 : UInt64).toNat % 64 = 8 from rfl, Nat.shiftLeft_eq,
          Nat.mod_eq_of_lt (by omega)]
      rw [hshift, ← Nat.shiftLeft_add_eq_or_of_lt (by omega),
        Nat.shiftLeft_eq]

/-- The first octet says on which side of the middle a number lies. -/
theorem natOfBytes_half (byte : UInt8) (bytes : List UInt8) :
    128 ≤ byte.toNat ↔
      128 * 256 ^ bytes.length ≤ natOfBytes (byte :: bytes) := by
  rw [natOfBytes_cons]
  have hrest := natOfBytes_lt bytes
  constructor
  · intro hhigh
    exact (Nat.mul_le_mul_right _ hhigh).trans (Nat.le_add_right _ _)
  · intro hle
    by_contra hlow
    have hmul := Nat.mul_le_mul_right (256 ^ bytes.length)
      (show byte.toNat ≤ 127 by omega)
    omega

theorem headD_half (hne : bytes ≠ []) :
    128 ≤ (bytes.headD 0).toNat ↔
      128 * 256 ^ (bytes.length - 1) ≤ natOfBytes bytes := by
  cases bytes with
  | nil => exact absurd rfl hne
  | cons byte bytes => exact natOfBytes_half byte bytes

theorem pow_length_split (hne : bytes ≠ []) :
    256 ^ bytes.length = 256 * 256 ^ (bytes.length - 1) := by
  rw [← pow_succ', Nat.sub_add_cancel (List.length_pos_iff.mpr hne)]

theorem bmod_twosComplement (hne : bytes ≠ []) :
    (natOfBytes bytes : Int).bmod (2 ^ (8 * bytes.length)) =
      twosComplement bytes := by
  cases bytes with
  | nil => exact absurd rfl hne
  | cons byte bytes =>
      have hlt := natOfBytes_lt (byte :: bytes)
      have hhalf := natOfBytes_half byte bytes
      have hsize : (2 : Nat) ^ (8 * (byte :: bytes).length) =
          256 * 256 ^ bytes.length := by
        rw [List.length_cons, pow_mul, pow_succ]
        ring
      rw [List.length_cons, pow_succ, Nat.mul_comm] at hlt
      rw [twosComplement, hsize, Int.bmod_def, List.headD_cons,
        List.length_cons, pow_succ]
      push_cast
      rw [Int.emod_eq_of_lt (by omega) (by exact_mod_cast hlt)]
      have hcast : ((256 ^ bytes.length : Nat) : Int) = 256 ^ bytes.length := by
        push_cast
        rfl
      split <;> split <;> omega

theorem highBit_iff (byte : UInt8) :
    byte &&& 0x80 ≠ 0 ↔ 128 ≤ byte.toNat := by
  have hlt := byte.toNat_lt
  have hmask : byte.toNat &&& 128 = 2 ^ 7 * (byte.toNat.testBit 7).toNat := by
    rw [Nat.and_comm]
    exact Nat.two_pow_and _ 7
  rw [ne_eq, ← UInt8.toNat_inj, UInt8.toNat_and,
    show (0x80 : UInt8).toNat = 128 from rfl,
    show (0 : UInt8).toNat = 0 from rfl, hmask, Nat.testBit_eq_decide_div_mod_eq]
  by_cases hhigh : byte.toNat / 2 ^ 7 % 2 = 1
  · simp only [hhigh, decide_true, Bool.toNat_true]
    omega
  · simp only [hhigh, decide_false, Bool.toNat_false]
    omega

/-- The mask sets every bit above the octets that were read. -/
theorem toNat_extended (hne : bytes ≠ []) (hlength : bytes.length < 8)
    {value : UInt64} (hvalue : value.toNat < 256 ^ bytes.length) :
    (value ||| ((-1 : UInt64) <<< UInt64.ofNat (bytes.length * 8))).toNat =
      value.toNat + (2 ^ 64 - 256 ^ bytes.length) := by
  have hpos := List.length_pos_iff.mpr hne
  generalize bytes.length = count at *
  rw [UInt64.toNat_or, Nat.or_comm]
  have hmask : ((-1 : UInt64) <<< UInt64.ofNat (count * 8)).toNat =
      (2 ^ (64 - 8 * count) - 1) <<< (8 * count) := by
    interval_cases count <;> rfl
  have hpower : 256 ^ count = 2 ^ (8 * count) := by
    rw [pow_mul]
    rfl
  rw [hmask, ← Nat.shiftLeft_add_eq_or_of_lt (hpower ▸ hvalue),
    Nat.add_comm]
  congr 1
  interval_cases count <;> rfl

theorem signedWord_extendSign (hne : bytes ≠ []) (hlength : bytes.length ≤ 8) :
    signedWord (extendSign bytes (unsignedBe bytes)) =
      twosComplement bytes := by
  have hread := toNat_unsignedBe hlength
  have hlt := natOfBytes_lt bytes
  have hhalf := headD_half hne
  have hsplit := pow_length_split hne
  have hpower : 256 ^ (bytes.length - 1) ≤ 256 ^ 7 :=
    Nat.pow_le_pow_right (by decide) (by omega)
  have hcast : ((256 ^ bytes.length : Nat) : Int) = 256 ^ bytes.length := by
    push_cast
    rfl
  unfold extendSign twosComplement
  simp only [highBit_iff]
  by_cases hhigh : 128 ≤ (bytes.headD 0).toNat
  · have hlarge := hhalf.mp hhigh
    rw [if_pos hhigh]
    by_cases hshort : bytes.length < 8
    · have hextended := toNat_extended hne hshort (hread.symm ▸ hlt)
      rw [hread] at hextended
      have hpower : 256 ^ bytes.length ≤ 256 ^ 7 :=
        Nat.pow_le_pow_right (by decide) (by omega)
      rw [if_pos ⟨hshort, hhigh⟩, signedWord, hextended, if_neg (by omega)]
      omega
    · have hwhole : bytes.length = 8 := by omega
      rw [if_neg (by omega), signedWord, hread]
      rw [hwhole] at hlt hlarge ⊢
      rw [if_neg (by omega)]
      omega
  · have hsmall : ¬ 128 * 256 ^ (bytes.length - 1) ≤ natOfBytes bytes :=
      fun hle => hhigh (hhalf.mpr hle)
    rw [if_neg fun h => hhigh h.2, if_neg hhigh, signedWord, hread,
      if_pos (by omega)]
    omega

/-! `decode_integer` on the octets of a number. -/

theorem word_nonempty (hlength : bytes.length = integerWidth type) :
    bytes ≠ [] ∧ integerWidth type ≤ 8 := by
  have hwidth : 0 < integerWidth type ∧ integerWidth type ≤ 8 := by
    unfold integerWidth
    split
    · decide
    · split <;> decide
  refine ⟨?_, hwidth.2⟩
  rw [← List.length_pos_iff]
  omega

theorem not_boolean_of_int8 (htype : type ∈ [typeInt8, typeSerial8]) :
    type ∉ [typeBool, typeDboolean] := by
  revert htype
  simp only [List.mem_cons, List.not_mem_nil, or_false]
  rintro (rfl | rfl) <;> decide

theorem decodeInteger_word (htype : type ∈ wordTypes)
    (hlength : bytes.length = integerWidth type) :
    decodeInteger type bytes =
      .ok (signedWord (extendSign bytes (unsignedBe bytes))) := by
  obtain ⟨hne, hwidth⟩ := word_nonempty hlength
  have hbool : type ∉ [typeBool, typeDboolean] := by
    revert htype
    simp only [wordTypes, List.mem_cons, List.not_mem_nil, or_false]
    rintro (rfl | rfl | rfl | rfl | rfl) <;> decide
  have hint8 : type ∉ [typeInt8, typeSerial8] := by
    revert htype
    simp only [wordTypes, List.mem_cons, List.not_mem_nil, or_false]
    rintro (rfl | rfl | rfl | rfl | rfl) <;> decide
  rw [decodeInteger, if_neg hbool, if_neg hint8, if_neg (not_not.mpr hlength),
    bmod_twosComplement hne, signedWord_extendSign hne (by omega)]

theorem twosComplement_range (hne : bytes ≠ []) (hlength : bytes.length ≤ 8) :
    InInt64 (twosComplement bytes) := by
  have hhalf := headD_half hne
  have hlt := natOfBytes_lt bytes
  have hsplit := pow_length_split hne
  have hpower : 256 ^ (bytes.length - 1) ≤ 256 ^ 7 :=
    Nat.pow_le_pow_right (by decide) (by omega)
  have hcast : ((256 ^ bytes.length : Nat) : Int) = 256 ^ bytes.length := by
    push_cast
    rfl
  unfold twosComplement InInt64
  split <;> omega

theorem length_int8 (sign low high : Nat) :
    (bigEndian 2 sign ++ bigEndian 4 low ++ bigEndian 4 high).length = 10 := by
  simp

theorem int8_parts {sign low high : Nat} (hsign : sign < 2 ^ 16)
    (hlow : low < 2 ^ 32) (hhigh : high < 2 ^ 32) :
    natOfBytes ((bigEndian 2 sign ++ bigEndian 4 low ++
        bigEndian 4 high).take 2) = sign ∧
      int8Magnitude (bigEndian 2 sign ++ bigEndian 4 low ++
        bigEndian 4 high) = low + 2 ^ 32 * high := by
  have htake : (bigEndian 2 sign ++ bigEndian 4 low ++
      bigEndian 4 high).take 2 = bigEndian 2 sign := by
    rw [List.append_assoc, List.take_append_of_le_length (by simp)]
    exact List.take_of_length_le (by simp)
  have hmiddle : ((bigEndian 2 sign ++ bigEndian 4 low ++
      bigEndian 4 high).drop 2).take 4 = bigEndian 4 low := by
    rw [List.append_assoc, List.drop_append_of_le_length (by simp),
      List.drop_of_length_le (by simp), List.nil_append,
      List.take_append_of_le_length (by simp)]
    exact List.take_of_length_le (by simp)
  have hlast : ((bigEndian 2 sign ++ bigEndian 4 low ++
      bigEndian 4 high).drop 6).take 4 = bigEndian 4 high := by
    rw [List.drop_append_of_le_length (by simp),
      List.drop_of_length_le (by simp), List.nil_append]
    exact List.take_of_length_le (by simp)
  rw [htake, int8Magnitude, hmiddle, hlast,
    natOfBytes_bigEndian_of_lt (by omega),
    natOfBytes_bigEndian_of_lt (by omega),
    natOfBytes_bigEndian_of_lt (by omega)]
  exact ⟨rfl, rfl⟩

theorem exists_int8_parts (hlength : bytes.length = 10) :
    ∃ low high, low < 2 ^ 32 ∧ high < 2 ^ 32 ∧
      bytes = bigEndian 2 (natOfBytes (bytes.take 2)) ++ bigEndian 4 low ++
        bigEndian 4 high := by
  have hpiece : ∀ piece : List UInt8, ∀ width, piece.length = width →
      bigEndian width (natOfBytes piece) = piece ∧
        natOfBytes piece < 256 ^ width := by
    rintro piece width rfl
    exact ⟨bigEndian_natOfBytes piece, natOfBytes_lt piece⟩
  obtain ⟨hsign, -⟩ := hpiece (bytes.take 2) 2 (by simp [hlength])
  obtain ⟨hlow, hlowFits⟩ := hpiece ((bytes.drop 2).take 4) 4
    (by simp [hlength])
  obtain ⟨hhigh, hhighFits⟩ := hpiece (bytes.drop 6) 4 (by simp [hlength])
  refine ⟨_, _, hlowFits, hhighFits, ?_⟩
  rw [hsign, hlow, hhigh, List.append_assoc,
    show bytes.drop 6 = (bytes.drop 2).drop 4 by rw [List.drop_drop],
    List.take_append_drop, List.take_append_drop]

/-- The decoder on octets that denote an integer. -/
theorem decodeInteger_denotes (hwhole : IntegerBytes type bytes whole) :
    decodeInteger type bytes =
      if InInt64 whole then .ok whole else .error .outOfRange := by
  cases hwhole with
  | no htype hbyte =>
      rw [decodeInteger, if_pos htype, decodeBoolean, if_neg (by simp),
        if_pos (by simpa [falseOctets] using hbyte)]
      rfl
  | @yes byte htype hbyte =>
      have hother : byte ∉ falseOctets := by
        revert hbyte
        simp only [trueOctets, List.mem_cons, List.not_mem_nil, or_false]
        rintro (rfl | rfl | rfl | rfl | rfl | rfl | rfl) <;> decide
      rw [decodeInteger, if_pos htype, decodeBoolean, if_neg (by simp),
        if_neg (by simpa [falseOctets] using hother),
        if_pos (by simpa [trueOctets] using hbyte)]
      rfl
  | @positive low high htype hlow hhigh =>
      obtain ⟨hsign, hmagnitude⟩ := @int8_parts 1 _ _ (by decide) hlow hhigh
      rw [decodeInteger, if_neg (not_boolean_of_int8 htype), if_pos htype,
        decodeInt8,
        if_neg (not_not.mpr (length_int8 _ _ _)), if_pos hsign, hmagnitude]
      by_cases hlimit : 9223372036854775807 < low + 2 ^ 32 * high
      · rw [if_pos hlimit, if_neg (by unfold InInt64; omega)]
      · rw [if_neg hlimit, if_pos (by unfold InInt64; omega)]
  | @negative low high htype hlow hhigh =>
      obtain ⟨hsign, hmagnitude⟩ :=
        @int8_parts 0xFFFF _ _ (by decide) hlow hhigh
      rw [decodeInteger, if_neg (not_boolean_of_int8 htype), if_pos htype,
        decodeInt8,
        if_neg (not_not.mpr (length_int8 _ _ _)), if_neg (by omega),
        if_pos hsign, hmagnitude]
      by_cases hlimit : 9223372036854775808 < low + 2 ^ 32 * high
      · rw [if_pos hlimit, if_neg (by unfold InInt64; omega)]
      · rw [if_neg hlimit, if_pos (by unfold InInt64; omega)]
  | word htype hlength =>
      obtain ⟨hne, hwidth⟩ := word_nonempty hlength
      rw [decodeInteger_word htype hlength,
        signedWord_extendSign hne (by omega),
        if_pos (twosComplement_range hne (by omega))]

theorem decodeInteger_malformed (htype : integerType type = true)
    (hnone : ¬ ∃ whole, IntegerBytes type bytes whole) :
    decodeInteger type bytes = .error .protoError := by
  unfold decodeInteger
  by_cases hbool : type ∈ [typeBool, typeDboolean]
  · rw [if_pos hbool, decodeBoolean]
    by_cases hlength : bytes.length = 1
    · obtain ⟨byte, rfl⟩ := List.length_eq_one_iff.mp hlength
      have hfalse : ¬ byte ∈ [0, 48, 102, 70, 110, 78] := fun h =>
        hnone ⟨_, .no hbool h⟩
      have htrue : ¬ byte ∈ [1, 0xFF, 49, 116, 84, 121, 89] := fun h =>
        hnone ⟨_, .yes hbool h⟩
      rw [if_neg (not_not.mpr hlength), List.headD_cons, if_neg hfalse,
        if_neg htrue]
      rfl
    · rw [if_pos hlength]
      rfl
  · rw [if_neg hbool]
    by_cases hint8 : type ∈ [typeInt8, typeSerial8]
    · rw [if_pos hint8, decodeInt8]
      by_cases hlength : bytes.length = 10
      · obtain ⟨low, high, hlow, hhigh, hparts⟩ := exists_int8_parts hlength
        have hone : natOfBytes (bytes.take 2) ≠ 1 := by
          intro hsign
          rw [hsign] at hparts
          rw [hparts] at hnone
          exact hnone ⟨_, .positive hint8 hlow hhigh⟩
        have hminus : natOfBytes (bytes.take 2) ≠ 0xFFFF := by
          intro hsign
          rw [hsign] at hparts
          rw [hparts] at hnone
          exact hnone ⟨_, .negative hint8 hlow hhigh⟩
        rw [if_neg (not_not.mpr hlength), if_neg hone, if_neg hminus]
      · rw [if_pos hlength]
    · have hword : type ∈ wordTypes := by
        rcases mem_integerTypes htype with rfl | rfl | rfl | rfl | rfl | rfl |
          rfl | rfl | rfl <;> first | decide | exact absurd (by decide) hint8 |
            exact absurd (by decide) hbool
      rw [if_neg hint8, if_pos fun hlength => hnone ⟨_, .word hword hlength⟩]

/-! The number of a DECIMAL or MONEY column. -/

variable {result : Result} {setting : Setting} {services : Services}
  {tuple : List UInt8} {located : List Located} {index : Nat}
  {column : Column} {value : Decimal}

theorem toI64_number (hvalue : value.isNull = false)
    (hnumber : value.number = whole) :
    value.toI64 =
      if InInt64 whole then .ok whole else .error .outOfRange := by
  have hintegral := (integral_iff value).mpr ⟨whole, hnumber⟩
  have hwhole : value.wholeNumber = whole :=
    Int.cast_inj.mp ((number_eq_wholeNumber hintegral).symm.trans hnumber)
  have hrange := value.inInt64_wholeNumber
  rw [hwhole] at hrange
  rw [toI64_eq hvalue, if_neg (not_not.mpr hintegral), hwhole]
  by_cases hfits : InInt64 whole
  · rw [if_pos hfits, if_neg (Nat.not_lt.mpr (hrange.mp hfits))]
  · rw [if_neg hfits,
      if_pos (Nat.lt_of_not_le fun hle => hfits (hrange.mpr hle))]

theorem toI64_fraction (hvalue : value.isNull = false)
    (hnumber : ∀ whole : Int, value.number ≠ whole) :
    value.toI64 = .error .inexact := by
  rw [toI64_eq hvalue, if_pos fun hintegral => ?_]
  obtain ⟨whole, hwhole⟩ := (integral_iff value).mp hintegral
  exact hnumber whole hwhole

theorem IntegerBytes.integerType (hwhole : IntegerBytes type bytes whole) :
    integerType type = true := by
  cases hwhole with
  | no htype | yes htype | positive htype | negative htype =>
      simp only [List.mem_cons, List.not_mem_nil, or_false] at htype
      rcases htype with rfl | rfl <;> decide
  | word htype =>
      simp only [wordTypes, List.mem_cons, List.not_mem_nil, or_false] at htype
      rcases htype with rfl | rfl | rfl | rfl | rfl <;> decide

theorem not_integerType (hdecimal : decimalType type = true) :
    integerType type = false := by
  have htype : type = typeDecimal ∨ type = typeMoney := by
    simpa [decimalType] using hdecimal
  rcases htype with rfl | rfl <;> rfl

/-- What `sqli_result_get_decimal` makes of the octets. -/
theorem getDecimal_eq (malloc : Nat → Bool) (out : Decimal)
    (hspan : currentSpan setting result index = .ok (column, bytes))
    (hdecimal : decimalType column.type = true) :
    getDecimal setting malloc result index out =
      if 0xFFFF < column.encodedLength.toNat then (.protoError, out)
      else decodeWire malloc bytes column.encodedLength.toUInt16 out := by
  unfold getDecimal readColumn
  rw [hspan]
  dsimp only
  rw [if_neg (by rw [hdecimal]; nofun)]

theorem getDecimal_number (malloc : Nat → Bool) (out : Decimal)
    (hspan : currentSpan setting result index = .ok (column, bytes))
    (hdecimal : decimalType column.type = true) {number : ℚ}
    (hnumber : WireNumber column bytes number) :
    ∃ decoded, getDecimal setting malloc result index out = (.ok, decoded) ∧
      decoded.isNull = false ∧ decoded.number = number := by
  rw [getDecimal_eq malloc out hspan hdecimal]
  cases hnumber with
  | integer hwhole =>
      have hinteger := hwhole.integerType
      rw [not_integerType hdecimal] at hinteger
      cases hinteger
  | decimal _ hdescriptor htype hrepresents hvalue =>
      obtain ⟨decoded, hdecode, hnull, hnumber, -⟩ :=
        decodeWire_of_represents malloc out htype hrepresents
      rw [if_neg (Nat.not_lt.mpr hdescriptor)]
      exact ⟨decoded, hdecode, hnull.trans hvalue, hnumber⟩

theorem getDecimal_malformed (malloc : Nat → Bool) (out : Decimal)
    (hspan : currentSpan setting result index = .ok (column, bytes))
    (hdecimal : decimalType column.type = true) (hnonzero : ¬ AllZero bytes)
    (hnone : ¬ ∃ number, WireNumber column bytes number) :
    (getDecimal setting malloc result index out).1 = .protoError := by
  rw [getDecimal_eq malloc out hspan hdecimal]
  by_cases hdescriptor : 0xFFFF < column.encodedLength.toNat
  · rw [if_pos hdescriptor]
  · rw [if_neg hdescriptor]
    refine (decodeWire_status _ _ _ _).resolve_left fun hok => hnone ?_
    obtain ⟨type, htype, -, hrepresents⟩ := decodeWire_represents
      (Prod.ext hok rfl : decodeWire malloc bytes
        column.encodedLength.toUInt16 out = (.ok, _))
    have hnull := represents_allZero (decodeType_valid htype) hrepresents
    exact ⟨_, .decimal hdecimal (Nat.le_of_not_lt hdescriptor) htype
      hrepresents (Bool.eq_false_iff.mpr fun h => hnonzero (hnull.mp h))⟩

/-! The integer getters. -/

def ReadAsInteger (type : UInt8) : Prop :=
  integerType type = true ∨ decimalType type = true

/-- What an integer getter returns for the octets of a column, for the range of
integers that it can hold. -/
structure ReadsInteger (fits : Int → Prop) (column : Column)
    (bytes : List UInt8) (createDecimal : Bool) (out : Cell Int)
    (returned : Status × Cell Int) : Prop where
  mismatch : ¬ ReadAsInteger column.type → returned = (.typeMismatch, out)
  null : ReadAsInteger column.type → CarriesNull column.type bytes →
    returned = (.ok, out.setNull)
  null_iff : returned.1 = .ok ∧ returned.2.isNull = true ↔
    ReadAsInteger column.type ∧ CarriesNull column.type bytes
  exact : ¬ CarriesNull column.type bytes →
    (decimalType column.type = true → createDecimal = true) →
    ∀ whole : Int, WireNumber column bytes whole → fits whole →
      returned = (.ok, ⟨whole, false⟩)
  outOfRange : ¬ CarriesNull column.type bytes →
    (decimalType column.type = true → createDecimal = true) →
    ∀ whole : Int, WireNumber column bytes whole → ¬ fits whole →
      returned = (.outOfRange, out)
  inexact : ¬ CarriesNull column.type bytes →
    (decimalType column.type = true → createDecimal = true) →
    ∀ number, WireNumber column bytes number →
      (∀ whole : Int, number ≠ whole) → returned = (.inexact, out)
  malformed : ReadAsInteger column.type → ¬ CarriesNull column.type bytes →
    (decimalType column.type = true → createDecimal = true) →
    (¬ ∃ number, WireNumber column bytes number) →
      returned = (.protoError, out)
  unavailable : decimalType column.type = true →
    ¬ CarriesNull column.type bytes → createDecimal = false →
      returned = (.allocFail, out)
  failed : returned.1 ≠ .ok → returned.2 = out

/-- The conversion of a column that is not NULL. -/
def columnInteger (setting : Setting) (services : Services) (result : Result)
    (index : Nat) (column : Column) (bytes : List UInt8) : Except Status Int :=
  if decimalType column.type then decimalInteger setting services result index
  else decodeInteger column.type bytes

/-- The conversion, as far as the octets determine it. -/
structure Converts (column : Column) (bytes : List UInt8)
    (converted : Except Status Int) : Prop where
  integer : ∀ whole : Int, WireNumber column bytes whole →
    converted = if InInt64 whole then .ok whole else .error .outOfRange
  fraction : ∀ number, WireNumber column bytes number →
    (∀ whole : Int, number ≠ whole) → converted = .error .inexact
  malformed : (¬ ∃ number, WireNumber column bytes number) →
    converted = .error .protoError

theorem carriesNull_decimal (hdecimal : decimalType type = true) :
    CarriesNull type bytes ↔ AllZero bytes := by
  have htype : type = typeDecimal ∨ type = typeMoney := by
    simpa [decimalType] using hdecimal
  rcases htype with rfl | rfl <;> simp +decide [CarriesNull]

theorem decimalInteger_converts
    (hspan : currentSpan setting result index = .ok (column, bytes))
    (hdecimal : decimalType column.type = true)
    (hvalue : ¬ CarriesNull column.type bytes)
    (hcreate : services.createDecimal = true) :
    Converts column bytes (decimalInteger setting services result index) := by
  rw [carriesNull_decimal hdecimal] at hvalue
  rw [decimalInteger, if_neg (by simp [hcreate])]
  constructor
  · intro whole hwhole
    obtain ⟨decoded, hget, hsome, hnumber⟩ := getDecimal_number
      services.malloc .null hspan hdecimal hwhole
    rw [hget]
    exact toI64_number hsome hnumber
  · intro number hnumber hfraction
    obtain ⟨decoded, hget, hsome, hsame⟩ := getDecimal_number
      services.malloc .null hspan hdecimal hnumber
    rw [hget]
    exact toI64_fraction hsome (hsame ▸ hfraction)
  · intro hnone
    have hrefused := getDecimal_malformed services.malloc .null hspan hdecimal
      hvalue hnone
    generalize getDecimal setting services.malloc result index .null = got at *
    obtain ⟨status, decoded⟩ := got
    cases hrefused
    rfl

theorem decodeInteger_converts (hinteger : integerType column.type = true) :
    Converts column bytes (decodeInteger column.type bytes) := by
  have hwhole : ∀ number, WireNumber column bytes number →
      ∃ whole : Int, number = whole ∧
        IntegerBytes column.type bytes whole := by
    intro number hnumber
    cases hnumber with
    | integer hwhole => exact ⟨_, rfl, hwhole⟩
    | decimal hdecimal =>
        rw [not_integerType hdecimal] at hinteger
        cases hinteger
  constructor
  · intro whole hnumber
    obtain ⟨found, hfound, hbytes⟩ := hwhole _ hnumber
    obtain rfl := Int.cast_inj.mp hfound
    exact decodeInteger_denotes hbytes
  · intro number hnumber hfraction
    obtain ⟨found, hfound, -⟩ := hwhole _ hnumber
    exact absurd hfound (hfraction found)
  · intro hnone
    exact decodeInteger_malformed hinteger fun ⟨whole, hbytes⟩ =>
      hnone ⟨whole, .integer hbytes⟩

theorem columnInteger_converts
    (hspan : currentSpan setting result index = .ok (column, bytes))
    (haccepted : ReadAsInteger column.type)
    (hvalue : ¬ CarriesNull column.type bytes)
    (hcreate : decimalType column.type = true →
      services.createDecimal = true) :
    Converts column bytes
      (columnInteger setting services result index column bytes) := by
  unfold columnInteger
  split
  · next hdecimal =>
    exact decimalInteger_converts hspan hdecimal hvalue (hcreate hdecimal)
  · next hdecimal =>
    exact decodeInteger_converts (haccepted.resolve_right hdecimal)

/-- The span of a column of a fetched row, and its NULL flag. -/
theorem columnRead (hshown : RowShown setting result tuple located)
    (hcolumn : result.columns[index]? = some column) :
    ∃ start span,
      currentSpan setting result index = .ok (column, dataOf tuple span) ∧
      result.nullAt index = spanIsNull column.type start span tuple ∧
      (dataOf tuple span).length = span.length := by
  obtain ⟨span, hspan, hcurrent⟩ := hshown.currentSpan hcolumn
  obtain ⟨hindex, -⟩ := List.getElem?_eq_some_iff.mp hcolumn
  have hlength := locateRow_length hshown.locates
  have hentry := List.getElem?_eq_getElem (show index < located.length by omega)
  obtain ⟨found, other, hfound, hother, hlocated⟩ :=
    locateRow_columnStart hshown.locates hentry
  cases hcolumn.symm.trans hfound
  cases hspan.symm.trans hother
  obtain ⟨hstart, hinside⟩ := locateRow_inside hshown.locates _
    (List.mem_of_getElem? hentry)
  rw [hlocated] at hstart hinside hentry
  refine ⟨columnStart tuple 0 result.columns index, span, hcurrent, ?_, ?_⟩
  · rw [nullAt, hshown.entries, Option.bind_some, hentry]
  · dsimp only at hstart hinside
    rw [dataOf, List.length_take, List.length_drop]
    omega

theorem nullAt_carriesNull (hshown : RowShown setting result tuple located)
    (hcolumn : result.columns[index]? = some column) :
    ∃ bytes, currentSpan setting result index = .ok (column, bytes) ∧
      (ReadAsInteger column.type →
        (result.nullAt index = true ↔ CarriesNull column.type bytes)) := by
  obtain ⟨start, span, hspan, hnull, hlength⟩ := columnRead hshown hcolumn
  refine ⟨_, hspan, fun haccepted => ?_⟩
  rw [hnull]
  exact spanIsNull_iff haccepted hlength

theorem getInt64_eq (out : Cell Int)
    (hspan : currentSpan setting result index = .ok (column, bytes)) :
    (¬ ReadAsInteger column.type →
      getInt64 setting services result index out = (.typeMismatch, out)) ∧
    (ReadAsInteger column.type → getInt64 setting services result index out =
      if result.nullAt index then (.ok, out.setNull)
      else out.store
        (columnInteger setting services result index column bytes)) := by
  have hrejected : ¬ ReadAsInteger column.type ↔
      integerType column.type = false ∧ decimalType column.type = false := by
    simp [ReadAsInteger]
  unfold getInt64 readColumn columnInteger
  rw [hspan]
  dsimp only
  constructor
  · intro hother
    rw [if_pos (hrejected.mp hother)]
  · intro haccepted
    rw [if_neg fun hother => hrejected.mpr hother haccepted]
    split
    · rfl
    · split <;> rfl

theorem Converts.ne_ok {converted : Except Status Int}
    (hconverts : Converts column bytes converted) :
    converted ≠ .error .ok := by
  by_cases hnumber : ∃ number, WireNumber column bytes number
  · obtain ⟨number, hnumber⟩ := hnumber
    by_cases hwhole : ∃ whole : Int, number = whole
    · obtain ⟨whole, rfl⟩ := hwhole
      rw [hconverts.integer whole hnumber]
      split <;> nofun
    · rw [hconverts.fraction number hnumber (not_exists.mp hwhole)]
      nofun
  · rw [hconverts.malformed hnumber]
    nofun

/-- Both getters store what the conversion yields, as far as it fits. -/
def storeWithin (fits : Int → Prop) [DecidablePred fits] (out : Cell Int) :
    Except Status Int → Status × Cell Int
  | .ok whole => if fits whole then (.ok, ⟨whole, false⟩) else (.outOfRange, out)
  | .error status => (status, out)

theorem readsInteger_of_converts {fits : Int → Prop} [DecidablePred fits]
    {converted : Except Status Int} {out : Cell Int}
    {returned : Status × Cell Int} {createDecimal : Bool}
    (hwithin : ∀ whole, fits whole → InInt64 whole)
    (hmismatch : ¬ ReadAsInteger column.type → returned = (.typeMismatch, out))
    (hnull : ReadAsInteger column.type → CarriesNull column.type bytes →
      returned = (.ok, out.setNull))
    (hvalue : ReadAsInteger column.type → ¬ CarriesNull column.type bytes →
      returned = storeWithin fits out converted)
    (hconverts : ReadAsInteger column.type →
      ¬ CarriesNull column.type bytes →
      (decimalType column.type = true → createDecimal = true) →
      Converts column bytes converted)
    (hunavailable : decimalType column.type = true → createDecimal = false →
      converted = .error .allocFail)
    (hne : ReadAsInteger column.type → ¬ CarriesNull column.type bytes →
      converted ≠ .error .ok) :
    ReadsInteger fits column bytes createDecimal out returned := by
  have haccepted : ∀ {number}, WireNumber column bytes number →
      ReadAsInteger column.type := by
    intro number hnumber
    cases hnumber with
    | integer hwhole => exact .inl hwhole.integerType
    | decimal hdecimal => exact .inr hdecimal
  refine ⟨hmismatch, hnull, ?_, ?_, ?_, ?_, ?_, ?_, ?_⟩
  · constructor
    · rintro ⟨hok, hflag⟩
      by_cases hread : ReadAsInteger column.type
      · refine ⟨hread, by_contra fun hsome => ?_⟩
        rw [hvalue hread hsome] at hok hflag
        cases converted with
        | error status =>
            cases show status = .ok from hok
            exact absurd rfl (hne hread hsome)
        | ok whole =>
            unfold storeWithin at hok hflag
            dsimp only at hok hflag
            split at hflag
            · cases hflag
            · next hfits =>
              rw [if_neg hfits] at hok
              cases hok
      · rw [hmismatch hread] at hok
        cases hok
    · rintro ⟨hread, hcarried⟩
      rw [hnull hread hcarried]
      exact ⟨rfl, rfl⟩
  · intro hsome havailable whole hnumber hfits
    have hread := haccepted hnumber
    rw [hvalue hread hsome, (hconverts hread hsome havailable).integer whole
      hnumber, if_pos (hwithin whole hfits)]
    exact if_pos hfits
  · intro hsome havailable whole hnumber hfits
    have hread := haccepted hnumber
    rw [hvalue hread hsome, (hconverts hread hsome havailable).integer whole
      hnumber]
    split
    · exact if_neg hfits
    · rfl
  · intro hsome havailable number hnumber hfraction
    have hread := haccepted hnumber
    rw [hvalue hread hsome, (hconverts hread hsome havailable).fraction number
      hnumber hfraction]
    rfl
  · intro hread hsome havailable hnone
    rw [hvalue hread hsome, (hconverts hread hsome havailable).malformed hnone]
    rfl
  · intro hdecimal hsome hcreate
    rw [hvalue (.inr hdecimal) hsome, hunavailable hdecimal hcreate]
    rfl
  · intro hfailed
    by_cases hread : ReadAsInteger column.type
    · by_cases hcarried : CarriesNull column.type bytes
      · rw [hnull hread hcarried] at hfailed
        exact absurd rfl hfailed
      · rw [hvalue hread hcarried] at hfailed ⊢
        cases converted with
        | error status => rfl
        | ok whole =>
            unfold storeWithin at hfailed ⊢
            dsimp only at hfailed ⊢
            split
            · next hfits =>
              rw [if_pos hfits] at hfailed
              exact absurd rfl hfailed
            · rfl
    · rw [hmismatch hread]

theorem inInt64_store (out : Cell Int) {converted : Except Status Int}
    (hfits : ∀ whole, converted = .ok whole → InInt64 whole) :
    out.store converted = storeWithin InInt64 out converted := by
  cases converted with
  | error status => rfl
  | ok whole => exact (if_pos (hfits whole rfl)).symm

def InInt32 (whole : Int) : Prop := -2147483648 ≤ whole ∧ whole ≤ int32Max

instance (whole : Int) : Decidable (InInt32 whole) :=
  inferInstanceAs (Decidable (_ ∧ _))

/-- A conversion that is told by its octets fits 64 bits. -/
theorem Converts.inInt64 {converted : Except Status Int}
    (hconverts : Converts column bytes converted)
    (hok : converted = .ok whole) : InInt64 whole := by
  by_cases hnumber : ∃ number, WireNumber column bytes number
  · obtain ⟨number, hnumber⟩ := hnumber
    by_cases hwhole : ∃ found : Int, number = found
    · obtain ⟨found, rfl⟩ := hwhole
      rw [hconverts.integer found hnumber] at hok
      split at hok
      · cases hok
        assumption
      · cases hok
    · rw [hconverts.fraction number hnumber (not_exists.mp hwhole)] at hok
      cases hok
  · rw [hconverts.malformed hnumber] at hok
    cases hok

theorem columnInteger_inInt64
    (hspan : currentSpan setting result index = .ok (column, bytes))
    (haccepted : ReadAsInteger column.type)
    (hvalue : ¬ CarriesNull column.type bytes)
    (hok : columnInteger setting services result index column bytes =
      .ok whole) : InInt64 whole := by
  by_cases havailable :
      decimalType column.type = true → services.createDecimal = true
  · exact (columnInteger_converts hspan haccepted hvalue
      havailable).inInt64 hok
  · obtain ⟨hdecimal, hcreate⟩ := Classical.not_imp.mp havailable
    rw [columnInteger, if_pos hdecimal, decimalInteger,
      if_pos (Bool.eq_false_iff.mpr hcreate)] at hok
    cases hok

theorem columnInteger_unavailable (hdecimal : decimalType column.type = true)
    (hcreate : services.createDecimal = false) :
    columnInteger setting services result index column bytes =
      .error .allocFail := by
  rw [columnInteger, if_pos hdecimal, decimalInteger, if_pos hcreate]

theorem columnInteger_ne_ok
    (hspan : currentSpan setting result index = .ok (column, bytes))
    (haccepted : ReadAsInteger column.type)
    (hvalue : ¬ CarriesNull column.type bytes) :
    columnInteger setting services result index column bytes ≠
      .error .ok := by
  by_cases havailable :
      decimalType column.type = true → services.createDecimal = true
  · exact (columnInteger_converts hspan haccepted hvalue havailable).ne_ok
  · obtain ⟨hdecimal, hcreate⟩ := Classical.not_imp.mp havailable
    rw [columnInteger_unavailable hdecimal (Bool.eq_false_iff.mpr hcreate)]
    nofun

theorem getInt64_reads (out : Cell Int)
    (hspan : currentSpan setting result index = .ok (column, bytes))
    (hflag : ReadAsInteger column.type →
      (result.nullAt index = true ↔ CarriesNull column.type bytes)) :
    ReadsInteger InInt64 column bytes services.createDecimal out
      (getInt64 setting services result index out) := by
  obtain ⟨hmismatch, hread⟩ :=
    @getInt64_eq bytes result setting services index column out hspan
  refine readsInteger_of_converts (fun _ hfits => hfits) hmismatch ?_ ?_
    (columnInteger_converts hspan) columnInteger_unavailable
    (columnInteger_ne_ok hspan)
  · intro haccepted hcarried
    rw [hread haccepted, if_pos ((hflag haccepted).mpr hcarried)]
  · intro haccepted hvalue
    rw [hread haccepted, if_neg fun hnull =>
      hvalue ((hflag haccepted).mp hnull)]
    exact inInt64_store out fun whole =>
      columnInteger_inInt64 hspan haccepted hvalue

theorem getInt_reads (out : Cell Int)
    (hspan : currentSpan setting result index = .ok (column, bytes))
    (hflag : ReadAsInteger column.type →
      (result.nullAt index = true ↔ CarriesNull column.type bytes)) :
    ReadsInteger InInt32 column bytes services.createDecimal out
      (getInt setting services result index out) := by
  obtain ⟨hmismatch, hread⟩ :=
    @getInt64_eq bytes result setting services index column ⟨0, false⟩ hspan
  refine readsInteger_of_converts ?_ ?_ ?_ ?_ (columnInteger_converts hspan)
    columnInteger_unavailable (columnInteger_ne_ok hspan)
  · intro whole hfits
    unfold InInt32 int32Max at hfits
    unfold InInt64
    omega
  · intro hother
    rw [getInt, hmismatch hother]
  · intro haccepted hcarried
    rw [getInt, hread haccepted, if_pos ((hflag haccepted).mpr hcarried)]
    rfl
  · intro haccepted hvalue
    rw [getInt, hread haccepted, if_neg fun hnull =>
      hvalue ((hflag haccepted).mp hnull)]
    cases hconverted : columnInteger setting services result index column
        bytes with
    | error status =>
        have hne := @columnInteger_ne_ok bytes result setting services index
          column hspan haccepted hvalue
        rw [hconverted] at hne
        cases status with
        | ok => exact absurd rfl hne
        | _ => rfl
    | ok whole =>
        have hrange : InInt32 whole ↔
            ¬ (whole < -2147483648 ∨ int32Max < whole) := by
          unfold InInt32
          omega
        unfold Cell.store storeWithin
        dsimp only
        rw [if_neg nofun]
        by_cases hfits : InInt32 whole
        · rw [if_pos hfits, if_neg (hrange.mp hfits)]
        · rw [if_neg hfits, if_pos (not_not.mp (mt hrange.mpr hfits))]

/-- The checked integer getters on a fetched row. -/
theorem integerGetters_exact
    (hshown : RowShown setting result tuple located)
    (hcolumn : result.columns[index]? = some column)
    (services : Services) :
    ∃ bytes, currentSpan setting result index = .ok (column, bytes) ∧
      (∀ out, ReadsInteger InInt64 column bytes services.createDecimal out
        (getInt64 setting services result index out)) ∧
      ∀ out, ReadsInteger InInt32 column bytes services.createDecimal out
        (getInt setting services result index out) := by
  obtain ⟨bytes, hspan, hflag⟩ := nullAt_carriesNull hshown hcolumn
  exact ⟨bytes, hspan, fun out => getInt64_reads out hspan hflag,
    fun out => getInt_reads out hspan hflag⟩

theorem twoIntegers_shown :
    RowShown unowned (fetched twoIntegers) [0, 0, 0, 7] [⟨0, 4, false⟩] :=
  ⟨⟨rfl, rfl, rfl, by decide, rfl, rfl, rfl⟩, rfl, rfl⟩

/-- The first integer is read as 7 by both getters. -/
theorem integerGetters_exact_seven :
    getInt64 unowned noServices (fetched twoIntegers) 0 ⟨-1, true⟩ =
        (.ok, ⟨7, false⟩) ∧
      getInt unowned noServices (fetched twoIntegers) 0 ⟨-1, true⟩ =
        (.ok, ⟨7, false⟩) := by
  obtain ⟨bytes, hspan, hlong, hint⟩ := integerGetters_exact
    twoIntegers_shown
    (rfl : (fetched twoIntegers).columns[0]? = some ⟨typeInt, 4⟩) noServices
  cases (rfl : currentSpan unowned (fetched twoIntegers) 0 =
    .ok (⟨typeInt, 4⟩, [0, 0, 0, 7])).symm.trans hspan
  have hvalue : ¬ CarriesNull typeInt [0, 0, 0, 7] := by
    unfold CarriesNull
    decide
  have hwire : WireNumber ⟨typeInt, 4⟩ [0, 0, 0, 7] (7 : Int) :=
    .integer (.word (by decide) (by decide))
  exact ⟨(hlong _).exact hvalue nofun 7 hwire (by decide),
    (hint _).exact hvalue nofun 7 hwire (by decide)⟩

end Libsqli.Result
