import Libsqli.Decimal.Canonical
import Libsqli.Result.DecimalText

namespace Libsqli.Result

open Libsqli.Base100
open Libsqli.Data.Numeral
open Libsqli.Data.Radix
open Libsqli.Decimal (floatingScale)
open Layout

/-! The number that the text stands for. -/

variable {digits groups : List UInt8} {rawScale frac scale : Nat}
  {parts : Base100Parts}

/-- The first digits are a quotient. -/
theorem digitsValue_take (hdigits : digits.all isDigit = true) (count : Nat) :
    digitsValue (digits.take count) =
      digitsValue digits / 10 ^ (digits.length - count) := by
  have hrest : (digits.drop count).all isDigit = true := by
    rw [List.all_eq_true] at hdigits ⊢
    exact fun byte hbyte => hdigits byte (List.mem_of_mem_drop hbyte)
  have hlt := digitsValue_lt hrest
  have hsplit := digitsValue_append (digits.take count) (digits.drop count)
  rw [List.take_append_drop] at hsplit
  rw [List.length_drop] at hlt hsplit
  rw [hsplit, Nat.add_comm, Nat.add_mul_div_right _ _ (by positivity),
    Nat.div_eq_of_lt hlt, Nat.zero_add]

theorem digitAt_value (hdigits : digits.all isDigit = true) (index : Nat)
    (hindex : index < digits.length) :
    digitValue (digitAt digits index) =
      digitsValue digits / 10 ^ (digits.length - 1 - index) % 10 := by
  have hdigit := getD_eq_digit (by decide : 1 < 10) (digitValues_lt hdigits)
    (by rwa [List.length_map])
  rw [List.length_map] at hdigit
  rw [digitsValue, ← hdigit, digitAt, if_pos (Int.natCast_nonneg _),
    Int.toNat_natCast]
  simp [List.getD_eq_getElem?_getD, hindex]

/-- Every digit after the point, inside the array or not. -/
theorem digitAt_point (hdigits : digits.all isDigit = true) (scale : Nat) :
    digitValue (digitAt digits ((digits.length : Int) - frac + scale)) =
      digitsValue digits * 10 ^ (scale + 1) / 10 ^ frac % 10 := by
  have hlt := digitsValue_lt hdigits
  by_cases hbefore : digits.length + scale < frac
  · have hsmall : digitsValue digits * 10 ^ (scale + 1) < 10 ^ frac := by
      calc
        digitsValue digits * 10 ^ (scale + 1) <
            10 ^ digits.length * 10 ^ (scale + 1) := by gcongr
        _ = 10 ^ (digits.length + (scale + 1)) := (pow_add _ _ _).symm
        _ ≤ 10 ^ frac := Nat.pow_le_pow_right (by decide) (by omega)
    rw [digitAt, if_neg (by omega), Nat.div_eq_of_lt hsmall]
    rfl
  · by_cases hafter : frac ≤ scale
    · have hpower : digitsValue digits * 10 ^ (scale + 1) =
          digitsValue digits * 10 ^ (scale - frac) * 10 * 10 ^ frac := by
        rw [show scale + 1 = scale - frac + 1 + frac by omega, pow_add,
          pow_succ]
        ring
      rw [hpower, Nat.mul_div_cancel _ (by positivity), Nat.mul_mod_left,
        digitAt, if_pos (by omega), List.getD_eq_getElem?_getD,
        List.getElem?_eq_none (by omega)]
      rfl
    · have hquotient : digitsValue digits * 10 ^ (scale + 1) / 10 ^ frac =
          digitsValue digits / 10 ^ (frac - (scale + 1)) := by
        have hpower : 10 ^ frac =
            10 ^ (frac - (scale + 1)) * 10 ^ (scale + 1) := by
          rw [← pow_add]
          congr 1
          omega
        rw [hpower, Nat.mul_div_mul_right _ _ (by positivity)]
      have hposition : (digits.length : Int) - frac + scale =
          ((digits.length + scale - frac : Nat) : Int) := by omega
      rw [hposition, digitAt_value hdigits _ (by omega), hquotient]
      congr 3
      omega

theorem isDigit_digitAt (hdigits : digits.all isDigit = true) (src : Int) :
    isDigit (digitAt digits src) = true := by
  unfold digitAt
  split
  · by_cases hinside : src.toNat < digits.length
    · rw [List.getD_eq_getElem?_getD, List.getElem?_eq_getElem hinside,
        Option.getD_some]
      exact List.all_eq_true.mp hdigits _ (List.getElem_mem hinside)
    · rw [List.getD_eq_getElem?_getD, List.getElem?_eq_none (by omega)]
      decide
  · decide

theorem skipZeros_spec (text : List UInt8) :
    digitsValue (skipZeros text) = digitsValue text ∧
      skipZeros text <:+ text ∧ (text ≠ [] → skipZeros text ≠ []) := by
  fun_induction skipZeros text with
  | case1 => simp
  | case2 digit => simp
  | case3 next rest ih =>
      obtain ⟨hvalue, hsuffix, hnonempty⟩ := ih
      refine ⟨?_, hsuffix.trans (List.suffix_cons _ _), fun _ =>
        hnonempty (List.cons_ne_nil _ _)⟩
      rw [hvalue, digitsValue_zero_cons]
  | case4 digit next rest hdigit => simp

theorem integralText_spec (hdigits : digits.all isDigit = true) :
    let text := integralText digits ((digits.length : Int) - frac)
    digitsValue text = digitsValue digits / 10 ^ frac ∧ text ≠ [] ∧
      text.all isDigit = true := by
  intro text
  have hcount : ((digits.length : Int) - frac).toNat = digits.length - frac :=
    by omega
  have htake := digitsValue_take hdigits (digits.length - frac)
  have hvalue : digitsValue (digits.take (digits.length - frac)) =
      digitsValue digits / 10 ^ frac := by
    by_cases hwide : frac ≤ digits.length
    · rw [htake, show digits.length - (digits.length - frac) = frac by omega]
    · have hsmall : digitsValue digits < 10 ^ frac :=
        (digitsValue_lt hdigits).trans_le
          (Nat.pow_le_pow_right (by decide) (by omega))
      rw [show digits.length - frac = 0 by omega, List.take_zero,
        Nat.div_eq_of_lt hsmall]
      rfl
  obtain ⟨hskip, hsuffix, hnonempty⟩ :=
    skipZeros_spec (digits.take (digits.length - frac))
  change digitsValue (integralText _ _) = _ ∧ integralText _ _ ≠ [] ∧
    (integralText _ _).all isDigit = true
  unfold integralText
  rw [hcount]
  by_cases hempty : digits.take (digits.length - frac) = []
  · rw [if_pos hempty, ← hvalue, hempty]
    exact ⟨by decide, by simp, by decide⟩
  · rw [if_neg hempty, hskip, hvalue]
    refine ⟨rfl, hnonempty hempty, ?_⟩
    rw [List.all_eq_true] at hdigits ⊢
    exact fun byte hbyte =>
      hdigits byte (List.mem_of_mem_take (hsuffix.subset hbyte))

/-- The digits up to a scale are a quotient. -/
theorem shownDigits_value (hdigits : digits.all isDigit = true)
    (scale : Nat) :
    digitsValue (integralText digits ((digits.length : Int) - frac) ++
        fractionText digits ((digits.length : Int) - frac) scale) =
      digitsValue digits * 10 ^ scale / 10 ^ frac := by
  induction scale with
  | zero =>
      rw [fractionText, List.range_zero, List.map_nil, List.append_nil,
        (integralText_spec hdigits).1, pow_zero, Nat.mul_one]
  | succ scale ih =>
      have hfraction : fractionText digits ((digits.length : Int) - frac)
          (scale + 1) = fractionText digits ((digits.length : Int) - frac)
            scale ++ [digitAt digits ((digits.length : Int) - frac + scale)] := by
        simp [fractionText, List.range_succ]
      have hdigit := @digitAt_point digits frac hdigits scale
      have hquotient : digitsValue digits * 10 ^ (scale + 1) / 10 ^ frac / 10 =
          digitsValue digits * 10 ^ scale / 10 ^ frac := by
        rw [Nat.div_div_eq_div_mul, pow_succ, ← Nat.mul_assoc,
          Nat.mul_div_mul_right _ _ (by decide)]
      rw [hfraction, ← List.append_assoc, digitsValue_concat, ih, hdigit,
        ← hquotient]
      omega

theorem strippedScale_value (hdigits : digits.all isDigit = true)
    (scale : Nat) :
    let kept := strippedScale digits ((digits.length : Int) - frac) scale
    kept ≤ scale ∧ digitsValue digits * 10 ^ scale / 10 ^ frac =
      digitsValue digits * 10 ^ kept / 10 ^ frac * 10 ^ (scale - kept) := by
  induction scale with
  | zero => simp [strippedScale]
  | succ scale ih =>
      intro kept
      change strippedScale _ _ _ ≤ _ ∧ _ = digitsValue digits *
        10 ^ strippedScale _ _ _ / 10 ^ frac * 10 ^ (_ - strippedScale _ _ _)
      unfold strippedScale
      by_cases hzero :
          digitAt digits ((digits.length : Int) - frac + scale) = zero
      · obtain ⟨hle, hvalue⟩ := ih
        have hdigit := @digitAt_point digits frac hdigits scale
        rw [hzero] at hdigit
        have hlast : digitsValue digits * 10 ^ (scale + 1) / 10 ^ frac % 10 = 0 :=
          hdigit.symm
        have hquotient :
            digitsValue digits * 10 ^ (scale + 1) / 10 ^ frac / 10 =
              digitsValue digits * 10 ^ scale / 10 ^ frac := by
          rw [Nat.div_div_eq_div_mul, pow_succ, ← Nat.mul_assoc,
            Nat.mul_div_mul_right _ _ (by decide)]
        rw [if_neg (not_not.mpr hzero)]
        refine ⟨by omega, ?_⟩
        rw [Nat.succ_sub hle, pow_succ 10 (scale - _), ← Nat.mul_assoc,
          ← hvalue, ← hquotient]
        omega
      · rw [if_pos hzero]
        simp

/-! The digits of the groups. -/

theorem groupDigits_spec {group : UInt8} (hgroup : group.toNat < radix) :
    digitsValue (groupDigits group) = group.toNat ∧
      (groupDigits group).all isDigit = true := by
  have hall : ∀ code : Fin 256, code.val < radix →
      digitsValue (groupDigits (UInt8.ofFin code)) = code.val ∧
        (groupDigits (UInt8.ofFin code)).all isDigit = true := by
    decide +kernel
  exact hall group.toFin hgroup

theorem length_groupsDigits (groups : List UInt8) :
    (groups.flatMap groupDigits).length = 2 * groups.length := by
  induction groups with
  | nil => rfl
  | cons group groups ih =>
      rw [List.flatMap_cons, List.length_append, ih, groupDigits]
      simp
      omega

theorem groupsDigits_spec
    (hgroups : ∀ group ∈ byteGroups groups, group < radix) :
    digitsValue (groups.flatMap groupDigits) =
        ofBigEndian radix (byteGroups groups) ∧
      (groups.flatMap groupDigits).all isDigit = true := by
  induction groups with
  | nil => simp [byteGroups]
  | cons group groups ih =>
      simp only [byteGroups, List.map_cons, List.forall_mem_cons] at hgroups
      obtain ⟨hvalue, hdigits⟩ := ih hgroups.2
      obtain ⟨hgroup, hpair⟩ := groupDigits_spec hgroups.1
      have hpower : 10 ^ (2 * groups.length) = radix ^ groups.length := by
        rw [pow_mul]
        rfl
      constructor
      · change _ = ofBigEndian radix (group.toNat :: byteGroups groups)
        rw [List.flatMap_cons, digitsValue_append, hvalue, hgroup,
          length_groupsDigits, hpower, ofBigEndian_cons, length_byteGroups]
      · rw [List.flatMap_cons, List.all_append, hpair, hdigits]
        rfl

def Base100Parts.value (parts : Base100Parts) : Nat :=
  ofBigEndian radix (byteGroups parts.groups)

/-- The value at its scale, cut off there. -/
def Base100Parts.shown (parts : Base100Parts) (scale : Nat) : Nat :=
  parts.value * 10 ^ scale / 10 ^ parts.fracDigits.toNat

theorem groups_all_zero (hzero : parts.groups.all (· == 0) = true) :
    parts.value = 0 := by
  rw [Base100Parts.value, ofBigEndian_eq_zero_iff (by decide)]
  intro group hgroup
  obtain ⟨byte, hbyte, rfl⟩ := List.mem_map.mp hgroup
  have hbyte := List.all_eq_true.mp hzero byte hbyte
  rw [beq_iff_eq] at hbyte
  rw [hbyte]
  rfl

theorem signed_zero (negative : Bool) : signed negative 0 = 0 := by
  cases negative <;> simp [signed]

/-- The number of the text: cut off at the scale it starts from. -/
theorem partsText_value (rawScale : Nat)
    (hgroups : ∀ group ∈ byteGroups parts.groups, group < radix) :
    readNumeral (partsText rawScale parts) = some (signed parts.negative
      ((parts.shown (shownScale rawScale parts.fracDigits) : ℚ) /
        10 ^ shownScale rawScale parts.fracDigits)) := by
  obtain ⟨hvalue, hdigits⟩ := groupsDigits_spec hgroups
  have hpoint : ((parts.groups.flatMap groupDigits).length : Int) -
      max parts.fracDigits 0 = ((parts.groups.flatMap groupDigits).length : Int) -
        (parts.fracDigits.toNat : Nat) := by omega
  unfold partsText
  simp only [hpoint]
  generalize hshown : shownScale rawScale parts.fracDigits = shown
  have hkept : ∃ kept, kept ≤ shown ∧
      (if rawScale = floatingScale then
        strippedScale (parts.groups.flatMap groupDigits)
          (((parts.groups.flatMap groupDigits).length : Int) -
            (parts.fracDigits.toNat : Nat)) shown
        else shown) = kept ∧
      parts.shown shown = parts.shown kept * 10 ^ (shown - kept) := by
    by_cases hfloating : rawScale = floatingScale
    · obtain ⟨hle, hstripped⟩ :=
        @strippedScale_value _ parts.fracDigits.toNat hdigits shown
      rw [hvalue] at hstripped
      exact ⟨_, hle, if_pos hfloating, hstripped⟩
    · exact ⟨shown, le_refl _, if_neg hfloating, by simp⟩
  obtain ⟨kept, hle, hscale, hsame⟩ := hkept
  rw [hscale]
  obtain ⟨-, hnonempty, hintegral⟩ :=
    @integralText_spec _ parts.fracDigits.toNat hdigits
  have hfraction : (fractionText (parts.groups.flatMap groupDigits)
      (((parts.groups.flatMap groupDigits).length : Int) -
        (parts.fracDigits.toNat : Nat)) kept).all isDigit = true := by
    rw [List.all_eq_true]
    intro byte hbyte
    obtain ⟨src, -, rfl⟩ := List.mem_map.mp hbyte
    exact isDigit_digitAt hdigits _
  rw [readNumeral_printed hnonempty hintegral hfraction,
    shownDigits_value hdigits, hvalue]
  have hfractionLength : (fractionText (parts.groups.flatMap groupDigits)
      (((parts.groups.flatMap groupDigits).length : Int) -
        (parts.fracDigits.toNat : Nat)) kept).length = kept := by
    simp [fractionText]
  rw [hfractionLength]
  change some (signed _ ((parts.shown kept : ℚ) / 10 ^ kept)) = _
  have hquotient : (parts.shown kept : ℚ) / 10 ^ kept =
      (parts.shown shown : ℚ) / 10 ^ shown := by
    rw [hsame, div_eq_div_iff (by positivity) (by positivity)]
    push_cast
    rw [mul_assoc, ← pow_add, Nat.sub_add_cancel hle]
  rw [hquotient]
  cases hzero : parts.groups.all (· == 0) with
  | true =>
      have hnothing : parts.shown shown = 0 := by
        simp [Base100Parts.shown, groups_all_zero hzero]
      simp [hnothing, signed_zero]
  | false => simp

/-! The second decoder finds what the first one does. -/

theorem complementCarry_le (received : List Nat) :
    (complementCarry radix received).2 ≤ 1 := by
  induction received with
  | nil => simp
  | cons group received ih =>
      rw [complementCarry_cons, complementStep]
      simp only [radix] at ih ⊢
      omega

/-- What stands in for a carry of the radix complement. -/
def minuend (carry : Nat) : UInt8 := if carry = 1 then 100 else 99

theorem complement_octet {byte : UInt8} {carry : Nat}
    (hbyte : byte.toNat < radix) (hcarry : carry ≤ 1) :
    (if byte ≠ 0 ∨ minuend carry ≠ 100 then
        (minuend carry - byte, (99 : UInt8)) else (byte, minuend carry)) =
      (UInt8.ofNat ((radix - 1 - byte.toNat + carry) % radix),
        minuend ((radix - 1 - byte.toNat + carry) / radix)) := by
  have hall : ∀ code : Fin 256, ∀ carry : Fin 2, code.val < radix →
      (if UInt8.ofFin code ≠ 0 ∨ minuend carry.val ≠ 100 then
          (minuend carry.val - UInt8.ofFin code, (99 : UInt8))
        else (UInt8.ofFin code, minuend carry.val)) =
      (UInt8.ofNat ((radix - 1 - code.val + carry.val) % radix),
        minuend ((radix - 1 - code.val + carry.val) / radix)) := by
    decide +kernel
  exact hall byte.toFin ⟨carry, by omega⟩ hbyte

theorem base100Complement_eq {bytes : List UInt8}
    (hbytes : ∀ group ∈ byteGroups bytes, group < radix) :
    base100Complement bytes = groupBytes (radixComplement (byteGroups bytes)) := by
  have hfold : bytes.foldr (fun byte state =>
      if byte ≠ 0 ∨ state.2 ≠ 100 then ((state.2 - byte) :: state.1, 99)
      else (byte :: state.1, state.2)) (([] : List UInt8), (100 : UInt8)) =
        (groupBytes (complementCarry radix (byteGroups bytes)).1,
          minuend (complementCarry radix (byteGroups bytes)).2) := by
    induction bytes with
    | nil => rfl
    | cons byte bytes ih =>
        simp only [byteGroups, List.map_cons, List.forall_mem_cons] at hbytes
        have hcarry := complementCarry_le (byteGroups bytes)
        have hoctet := complement_octet hbytes.1 hcarry
        rw [List.foldr_cons, ih hbytes.2]
        change _ = (groupBytes (complementStep radix byte.toNat
          (complementCarry radix (byteGroups bytes))).1, _)
        split at hoctet
        · next hborrow =>
          obtain ⟨hgroup, hnext⟩ := Prod.mk.inj hoctet
          rw [if_pos hborrow, hgroup, hnext]
          rfl
        · next hkept =>
          obtain ⟨hgroup, hnext⟩ := Prod.mk.inj hoctet
          rw [if_neg hkept]
          exact Prod.ext (congrArg (· :: _) hgroup) hnext
  rw [base100Complement, hfold]
  rfl

theorem legacyHeader_eq (header : UInt8) :
    (header &&& 0x80 == 0) = headerNegative header ∧
      (((if header &&& 0x80 == 0 then header ^^^ 0x7F else header) &&&
        0x7F).toNat : Int) - 64 = headerExponent header := by
  have hall : ∀ code : Fin 256,
      (UInt8.ofFin code &&& 0x80 == 0) = headerNegative (UInt8.ofFin code) ∧
      (((if UInt8.ofFin code &&& 0x80 == 0 then UInt8.ofFin code ^^^ 0x7F
        else UInt8.ofFin code) &&& 0x7F).toNat : Int) - 64 =
          headerExponent (UInt8.ofFin code) := by
    decide +kernel
  exact hall header.toFin

theorem base100DecodeParts_eq {header : UInt8} {bytes : List UInt8}
    (hnonempty : bytes ≠ [])
    (hbytes : ∀ group ∈ byteGroups bytes, group < radix) :
    base100DecodeParts (header :: bytes) =
      some ⟨groupBytes (plainGroups header (byteGroups bytes)),
        bytes.length * 2 - headerExponent header * 2, headerNegative header⟩ := by
  obtain ⟨hnegative, hexponent⟩ := legacyHeader_eq header
  obtain ⟨byte, rest, rfl⟩ := List.exists_cons_of_ne_nil hnonempty
  have hparts : base100DecodeParts (header :: byte :: rest) =
      some ⟨if header &&& 0x80 == 0 then base100Complement (byte :: rest)
          else byte :: rest,
        (byte :: rest).length * 2 -
          ((((if header &&& 0x80 == 0 then header ^^^ 0x7F else header) &&&
            0x7F).toNat : Int) - 64) * 2, header &&& 0x80 == 0⟩ := rfl
  rw [hparts, hexponent, base100Complement_eq hbytes, hnegative, plainGroups,
    codeGroups]
  cases headerNegative header with
  | true => rfl
  | false => rw [if_neg Bool.false_ne_true, if_neg Bool.false_ne_true,
        groupBytes_byteGroups]

/-! When the text stands for the value. -/

open Decimal

variable {type : WireType} {bytes : List UInt8} {value : Decimal}

def payloadExponent (bytes : List UInt8) : Int :=
  headerExponent (bytes.headD 0)

def payloadGroups (bytes : List UInt8) : List Nat :=
  plainGroups (bytes.headD 0) (byteGroups bytes.tail)

/-- Digits after the point if every digit of the groups is written. -/
def fractionDigits (bytes : List UInt8) : Nat :=
  ((payloadGroups bytes).length * 2 - payloadExponent bytes * 2).toNat

/-- All digits after the first `scale` ones behind the point are zero. -/
def FractionWithin (bytes : List UInt8) (scale : Nat) : Prop :=
  10 ^ fractionDigits bytes ∣
    ofBigEndian radix (payloadGroups bytes) * 10 ^ scale

instance (bytes : List UInt8) (scale : Nat) :
    Decidable (FractionWithin bytes scale) :=
  inferInstanceAs (Decidable (_ ∣ _))

/-- In a floating column the point stands within the groups or in front of them,
and there are at most 30 digits after it; a fixed scale of 31 or 32 leaves
room for six. -/
def Showable (type : WireType) (bytes : List UInt8) : Prop :=
  if type.scale = floatingScale then
    payloadExponent bytes ≤ (payloadGroups bytes).length ∧
      FractionWithin bytes 30
  else if type.scale ≤ 30 then True
  else FractionWithin bytes 6

instance (type : WireType) (bytes : List UInt8) :
    Decidable (Showable type bytes) :=
  inferInstanceAs (Decidable (if type.scale = floatingScale then
      payloadExponent bytes ≤ (payloadGroups bytes).length ∧
        FractionWithin bytes 30
    else if type.scale ≤ 30 then True
    else FractionWithin bytes 6))

/-- A payload that starts with a header and has groups of two digits. -/
structure Plain (type : WireType) (bytes : List UInt8) : Prop where
  length_eq : bytes.length = type.width
  groups_lt : ∀ group ∈ byteGroups bytes.tail, group < radix

/-- `width` follows from precision and scale. -/
theorem decodeType_width {descriptor : UInt16}
    (htype : decodeType descriptor = .ok type) :
    type.width ≤ 18 ∧ (type.scale ≠ floatingScale →
      type.scale ≤ type.precision ∧
        type.precision + type.scale % 2 + 2 ≤ type.width * 2) := by
  unfold decodeType at htype
  simp only at htype
  split at htype
  · cases htype
  · next hrefused =>
    cases htype
    simp only [maxPrecision, not_or, not_and, not_lt] at hrefused
    obtain ⟨-, hprecision, hscale⟩ := hrefused
    simp only [Nat.and_one_is_mod]
    refine ⟨by omega, fun hfixed => ⟨hscale hfixed, by omega⟩⟩

theorem Plain.text_value (hplain : Plain type bytes) (hwidth : 2 ≤ type.width)
    (hsize : type.width ≤ 18) :
    readNumeral (decimalText type.scale bytes) =
      some (signed (headerNegative (bytes.headD 0))
        (((ofBigEndian radix (payloadGroups bytes) * 10 ^ shownScale type.scale
            ((payloadGroups bytes).length * 2 - payloadExponent bytes * 2) /
          10 ^ fractionDigits bytes : Nat) : ℚ) / 10 ^ shownScale type.scale
            ((payloadGroups bytes).length * 2 - payloadExponent bytes * 2))) := by
  obtain ⟨hlength, hgroups⟩ := hplain
  have hwhole : bytes.take rawSize = bytes :=
    List.take_of_length_le (by rw [hlength, rawSize]; omega)
  cases bytes with
  | nil =>
      rw [List.length_nil] at hlength
      omega
  | cons header tail =>
      have hnonempty : tail ≠ [] := by
        rintro rfl
        rw [List.length_singleton] at hlength
        omega
      have hcoded : ∀ group ∈ plainGroups header (byteGroups tail),
          group < radix := codeGroups_lt _ hgroups
      have hparts := @base100DecodeParts_eq header tail hnonempty hgroups
      have hlow : (groupBytes (plainGroups header (byteGroups tail))).any
          (99 < ·) = false := by
        rw [List.any_eq_false]
        intro byte hbyte
        obtain ⟨group, hgroup, rfl⟩ := List.mem_map.mp hbyte
        have hlt := hcoded group hgroup
        simp only [radix] at hlt
        simp only [decide_eq_true_eq, UInt8.lt_iff_toNat_lt]
        have hbyte : group < UInt8.size := hlt.trans (by decide)
        rw [UInt8.toNat_ofNat_of_lt' hbyte]
        simp
        omega
      unfold decimalText
      rw [hwhole, hparts]
      dsimp only
      rw [hlow, if_neg Bool.false_ne_true, partsText_value type.scale (by
        rw [byteGroups_groupBytes hcoded]
        exact hcoded)]
      simp only [Base100Parts.shown, Base100Parts.value,
        byteGroups_groupBytes hcoded]
      simp [payloadGroups, payloadExponent, fractionDigits]

/-- A quotient at a scale is the whole value exactly if nothing is cut off. -/
theorem shown_eq_iff (whole scale frac : Nat) :
    ((whole * 10 ^ scale / 10 ^ frac : Nat) : ℚ) / 10 ^ scale =
        whole * (10 : ℚ) ^ (-(frac : Int)) ↔
      10 ^ frac ∣ whole * 10 ^ scale := by
  rw [zpow_neg, zpow_natCast, ← div_eq_mul_inv,
    div_eq_div_iff (by positivity) (by positivity)]
  constructor
  · intro heq
    exact ⟨whole * 10 ^ scale / 10 ^ frac, by
      rw [Nat.mul_comm (10 ^ frac)]
      exact_mod_cast heq.symm⟩
  · intro hdvd
    exact_mod_cast Nat.div_mul_cancel hdvd

theorem signed_inj {negative : Bool} {left right : ℚ} :
    signed negative left = signed negative right ↔ left = right := by
  cases negative <;> simp [signed]

/-! The payloads that the native decoder accepts. -/

theorem payload_plain (payload : Payload type magnitude)
    (hwidth : 2 ≤ type.width) :
    Plain type payload.bytes ∧ payloadGroups payload.bytes = payload.groups ∧
      payloadExponent payload.bytes = payload.exponent ∧
      headerNegative (payload.bytes.headD 0) = magnitude.negative := by
  obtain ⟨hsign, hexponent⟩ := header_encode_decode magnitude.negative
    payload.exponent_min payload.exponent_max
  have hcoded := byteGroups_groupBytes payload.codedGroups_lt
  refine ⟨⟨?_, ?_⟩, ?_, hexponent, hsign⟩
  · simp [Payload.bytes]
    omega
  · simpa [Payload.bytes, hcoded] using payload.codedGroups_lt
  · rw [payloadGroups, Payload.bytes, List.headD_cons, List.tail_cons, hcoded]
    change codeGroups (headerNegative _) _ = _
    rw [hsign]
    exact codeGroups_involutive _ payload.groups_lt

theorem zero_plain (hwidth : 2 ≤ type.width)
    (hbytes : bytes = positiveFlag :: List.replicate (type.width - 1) 0) :
    Plain type bytes ∧
      payloadGroups bytes = List.replicate (type.width - 1) 0 ∧
      payloadExponent bytes = -64 := by
  have hexponent : headerExponent positiveFlag = -64 := by decide
  rw [hbytes]
  refine ⟨⟨?_, ?_⟩, ?_, hexponent⟩
  · simp
    omega
  · simp [byteGroups, radix]
  · simp [payloadGroups, plainGroups, byteGroups]
    rfl

/-- The value of a payload, read at its exponent. -/
theorem represents_number (hvalid : type.Valid)
    (hrepresents : Represents type bytes value) (hnull : value.isNull = false) :
    Plain type bytes ∧ value.number =
      signed (headerNegative (bytes.headD 0))
        (ofBigEndian radix (payloadGroups bytes) *
          (10 : ℚ) ^ (payloadExponent bytes * 2 -
            (payloadGroups bytes).length * 2)) := by
  have hwidth := hvalid.width_pos
  cases hrepresents with
  | null is_null bytes_eq =>
      rw [is_null] at hnull
      cases hnull
  | zero not_null limbs_nil bytes_eq =>
      obtain ⟨hplain, hgroups, -⟩ := zero_plain hwidth bytes_eq
      refine ⟨hplain, ?_⟩
      change value.parts.number = _
      rw [number_of_limbs_nil limbs_nil, hgroups]
      simp [signed_zero]
  | nonzero magnitude zeros fits payload denotes bytes_eq =>
      obtain ⟨hplain, hgroups, hexponent, hsign⟩ := payload_plain payload hwidth
      rw [bytes_eq]
      refine ⟨hplain, ?_⟩
      have haligned := payload.aligned
      have hroom := payload.room
      simp only [Scientific.integralDigits] at haligned
      have hpower : magnitude.power =
          ((2 * (type.width - 1) - (payload.padding + magnitude.digits) : Nat) :
            Int) + (payload.exponent * 2 - (type.width - 1 : Nat) * 2) := by
        omega
      change value.parts.number = _
      rw [denotes.number_eq, hgroups, hexponent, hsign, payload.groups_value,
        payload.length_groups, Scientific.number, hpower,
        zpow_add₀ (by norm_num), zpow_natCast]
      cases magnitude.negative with
      | true =>
          simp only [signed, if_true]
          push_cast
          ring
      | false =>
          simp only [signed]
          push_cast
          ring

/-- What a fixed scale of the column says of the payload. -/
theorem represents_fixed {descriptor : UInt16}
    (htype : decodeType descriptor = .ok type)
    (hrepresents : Represents type bytes value) (hnull : value.isNull = false)
    (hfixed : type.scale ≠ floatingScale) :
    payloadExponent bytes ≤ (payloadGroups bytes).length ∧
      FractionWithin bytes type.scale := by
  have hwidth := (decodeType_valid htype).width_pos
  obtain ⟨hscale, hprecision⟩ := (decodeType_width htype).2 hfixed
  cases hrepresents with
  | null is_null bytes_eq =>
      rw [is_null] at hnull
      cases hnull
  | zero not_null limbs_nil bytes_eq =>
      obtain ⟨-, hgroups, hexponent⟩ := zero_plain hwidth bytes_eq
      rw [FractionWithin, hgroups, hexponent]
      simp
  | nonzero magnitude zeros fits payload denotes bytes_eq =>
      obtain ⟨-, hgroups, hexponent, -⟩ := payload_plain payload hwidth
      rw [Fits, if_neg hfixed] at fits
      have haligned := payload.aligned
      have hroom := payload.room
      have hpadding := payload.padding_le
      simp only [Scientific.integralDigits] at haligned
      rw [bytes_eq, FractionWithin, fractionDigits, hgroups, hexponent,
        payload.groups_value, payload.length_groups, mul_assoc, ← pow_add]
      refine ⟨by omega, (Nat.pow_dvd_pow 10 ?_).trans (Nat.dvd_mul_left _ _)⟩
      omega

theorem represents_positive (hvalid : type.Valid)
    (hrepresents : Represents type bytes value) (hnull : value.isNull = false)
    (hexponent : (payloadGroups bytes).length < payloadExponent bytes) :
    0 < ofBigEndian radix (payloadGroups bytes) := by
  have hwidth := hvalid.width_pos
  cases hrepresents with
  | null is_null bytes_eq =>
      rw [is_null] at hnull
      cases hnull
  | zero not_null limbs_nil bytes_eq =>
      obtain ⟨-, -, hleast⟩ := zero_plain hwidth bytes_eq
      omega
  | nonzero magnitude zeros fits payload denotes bytes_eq =>
      obtain ⟨-, hgroups, -, -⟩ := payload_plain payload hwidth
      rw [bytes_eq, hgroups]
      exact payload.groups_value_pos

theorem shownScale_long (hlong : 30 < fractionDigits bytes) :
    shownScale floatingScale ((payloadGroups bytes).length * 2 -
      payloadExponent bytes * 2) = 30 := by
  unfold fractionDigits at hlong
  rw [shownScale, if_pos rfl, if_neg (by omega), if_pos (by omega)]

theorem shownScale_short
    (hexponent : payloadExponent bytes ≤ (payloadGroups bytes).length)
    (hshort : ¬ 30 < fractionDigits bytes) :
    shownScale floatingScale ((payloadGroups bytes).length * 2 -
      payloadExponent bytes * 2) = fractionDigits bytes := by
  unfold fractionDigits at hshort ⊢
  rw [shownScale, if_pos rfl, if_neg (by omega), if_neg (by omega)]

theorem shownScale_negative
    (hexponent : (payloadGroups bytes).length < payloadExponent bytes) :
    shownScale floatingScale ((payloadGroups bytes).length * 2 -
      payloadExponent bytes * 2) = 0 := by
  rw [shownScale, if_pos rfl, if_pos (by omega)]

theorem decimalText_agrees_iff {descriptor : UInt16}
    (htype : decodeType descriptor = .ok type)
    (hrepresents : Represents type bytes value)
    (hnull : value.isNull = false) :
    readNumeral (decimalText type.scale bytes) = some value.number ↔
      Showable type bytes := by
  have hvalid := decodeType_valid htype
  obtain ⟨hplain, hnumber⟩ := represents_number hvalid hrepresents hnull
  rw [hplain.text_value hvalid.width_pos (decodeType_width htype).1, hnumber,
    Option.some.injEq, signed_inj]
  by_cases hexponent : payloadExponent bytes ≤ (payloadGroups bytes).length
  · have hfrac : payloadExponent bytes * 2 -
        ((payloadGroups bytes).length : Int) * 2 =
          -(fractionDigits bytes : Int) := by
      unfold fractionDigits
      omega
    rw [hfrac, shown_eq_iff]
    change FractionWithin bytes _ ↔ _
    by_cases hfloating : type.scale = floatingScale
    · rw [Showable, if_pos hfloating, and_iff_right hexponent, hfloating]
      by_cases hlong : 30 < fractionDigits bytes
      · rw [shownScale_long hlong]
      · rw [shownScale_short hexponent hlong]
        exact iff_of_true (Nat.dvd_mul_left _ _)
          ((Nat.pow_dvd_pow 10 (by omega)).trans (Nat.dvd_mul_left _ _))
    · obtain ⟨-, hwithin⟩ :=
        represents_fixed htype hrepresents hnull hfloating
      rw [Showable, if_neg hfloating, shownScale, if_neg hfloating]
      by_cases hsmall : type.scale ≤ 30
      · rw [if_pos hsmall, if_neg (by omega)]
        exact iff_of_true hwithin trivial
      · rw [if_neg hsmall, if_pos (by omega)]
  · have hpositive :=
      represents_positive hvalid hrepresents hnull (by omega)
    have hfloating : type.scale = floatingScale := by
      by_contra hfixed
      exact hexponent (represents_fixed htype hrepresents hnull hfixed).1
    rw [Showable, if_pos hfloating, hfloating, shownScale_negative (by omega)]
    refine iff_of_false ?_ fun hshowable => hexponent hshowable.1
    -- The digits end before the point, and the zeros up to it are missing.
    have hwhole : fractionDigits bytes = 0 := by
      unfold fractionDigits
      omega
    have hmore : (1 : ℚ) < (10 : ℚ) ^ (payloadExponent bytes * 2 -
        ((payloadGroups bytes).length : Int) * 2) :=
      one_lt_zpow₀ (by norm_num) (by omega)
    have hvalue : (0 : ℚ) < ofBigEndian radix (payloadGroups bytes) := by
      exact_mod_cast hpositive
    rw [hwhole]
    simp only [pow_zero, Nat.mul_one, Nat.div_one, div_one]
    exact ne_of_lt (lt_mul_of_one_lt_right hvalue hmore)

end Libsqli.Result
