import Libsqli.Bind.Message

namespace Libsqli.Bind

open Libsqli.Data
open Libsqli.Data.Bytes

/-! Trailing zeros of a native payload are restored by extension. -/

theorem trimmedLength_le (bytes : List UInt8) (length : Nat) :
    trimmedLength bytes length ≤ length := by
  fun_induction trimmedLength bytes length with
  | case1 => exact Nat.le_refl _
  | case2 => exact Nat.le_refl _
  | case3 length hzero ih => omega
  | case4 => exact Nat.le_refl _

theorem take_trimmedLength (hlength : length ≤ bytes.length) :
    bytes.take (trimmedLength bytes length) ++
        List.replicate (length - trimmedLength bytes length) 0 =
      bytes.take length := by
  fun_induction trimmedLength bytes length with
  | case1 => simp
  | case2 => simp
  | case3 length hzero ih =>
      have hle := trimmedLength_le bytes (length + 1)
      have hlast : bytes[length + 1] = 0 := by
        simpa [List.getD, show length + 1 < bytes.length by omega] using hzero
      rw [List.take_succ_eq_append_getElem (by omega), hlast,
        ← ih (by omega),
        show length + 2 - trimmedLength bytes (length + 1) =
          length + 1 - trimmedLength bytes (length + 1) + 1 by omega,
        List.replicate_succ', List.append_assoc]
  | case4 => simp

theorem length_trimNative (bytes : List UInt8) :
    (trimNative bytes).length ≤ bytes.length := by
  simp [trimNative]

theorem trimNative_extended (bytes : List UInt8) :
    trimNative bytes ++
        List.replicate (bytes.length - (trimNative bytes).length) 0 =
      bytes := by
  have hle := trimmedLength_le bytes bytes.length
  have htake := take_trimmedLength (Nat.le_refl bytes.length)
  rwa [List.take_length, ← trimNative,
    show trimmedLength bytes bytes.length = (trimNative bytes).length by
      simp [trimNative, hle]] at htake

/-! The reader inverts the builder on one parameter. -/

def BoundParam.fieldValue (encode : Encoder) (param : BoundParam) :
    FieldValue :=
  match param.type with
  | .unset => .unset
  | .int => .int param.ival
  | .bigint => .bigint param.ival64
  | .float => .float param.dval
  | .decimal | .datetime | .interval =>
      .native param.nativeQualifier (trimNative param.nativeBytes)
  | .string => .string (stringData encode param)
  | .date => .date param.nativeBytes
  | .bytes => .bytes (param.bval.getD [])
  | .sblob => .sblob (param.bval.getD [])

def BoundParam.field (encode : Encoder) (param : BoundParam) : Field where
  type := param.type.code.toNat
  name := if param.type = .sblob then some (sblobName param) else none
  value := if param.isNull then none else some (param.fieldValue encode)

/-- A string that goes in line fits its 16-bit length. -/
def BoundParam.Fits (encode : Encoder) (param : BoundParam) : Prop :=
  param.type = .string → param.isNull = false →
    (stringData encode param).length ≤ 0xFFFF

theorem reads_zeros_then {next : Reader α} (hnext : Reads next bytes value) :
    Reads (do expect [0, 0]; next) ([0, 0] ++ bytes) value :=
  (Reads.expect [0, 0]).bind hnext

theorem reads_counted (width : Nat) {data : List UInt8}
    (hdata : data.length < 256 ^ width) (wrap : List UInt8 → α) :
    Reads (do
        let length ← natural width
        let bytes ← padded length
        return wrap bytes)
      (bigEndian width data.length ++ padEven data) (wrap data) := by
  have hbody : Reads (do
      let bytes ← padded data.length
      return wrap bytes) (padEven data ++ []) (wrap data) :=
    (Reads.padded rfl).bind (Reads.pure _)
  rw [List.append_nil] at hbody
  exact (Reads.natural hdata).bind hbody

theorem reads_number (width : Nat) {number : Nat}
    (hnumber : number < 256 ^ width) (wrap : Nat → α) :
    Reads (do
        let value ← natural width
        return wrap value)
      (bigEndian width number) (wrap number) :=
  (Reads.natural hnumber).map wrap

theorem reads_string (hfits : data.length ≤ 0xFFFF) :
    Reads readString (bigEndian 2 data.length ++ bigEndian 2 data.length ++
      padEven data) (.string data) := by
  have hbody : Reads (do
      expect (bigEndian 2 data.length)
      let bytes ← padded data.length
      return FieldValue.string bytes)
      (bigEndian 2 data.length ++ (padEven data ++ [])) (.string data) :=
    (Reads.expect _).bind ((Reads.padded rfl).bind (Reads.pure _))
  rw [List.append_nil] at hbody
  rw [List.append_assoc]
  exact (Reads.natural (by omega)).bind hbody

theorem reads_native (qualifier : UInt16) (hdata : data.length < 256) :
    Reads readNative (bigEndian 2 qualifier.toNat ++
      [0, UInt8.ofNat data.length] ++ padEven data)
      (.native qualifier data) := by
  have hlength : [0, UInt8.ofNat data.length] = bigEndian 2 data.length := by
    simp [bigEndian, Radix.toBigEndian, Nat.div_eq_of_lt hdata,
      Nat.mod_eq_of_lt hdata]
  have hbody := @reads_counted _ 2 data (by omega)
    (FieldValue.native (UInt16.ofNat qualifier.toNat))
  have hread : Reads readNative _ _ :=
    (Reads.natural qualifier.toNat_lt).bind hbody
  rw [hlength, List.append_assoc]
  simpa using hread

theorem reads_inlineValue {param : BoundParam} (hcomplete : param.Complete)
    (hnull : param.isNull = false) (hfits : param.Fits encode) :
    Reads (readValue param.type.code.toNat) (inlineValue encode param)
      (param.fieldValue encode) := by
  have hnative (hkind : param.type = .decimal ∨ param.type = .datetime ∨
      param.type = .interval) :
      (trimNative param.nativeBytes).length < 256 := by
    have htrim := length_trimNative param.nativeBytes
    have hlength := hcomplete.native_value hkind
    simp only [decimalWireCapacity] at hlength
    omega
  unfold inlineValue BoundParam.fieldValue
  cases htype : param.type with
  | unset => exact absurd htype hcomplete.is_set
  | int =>
      have hread := reads_zeros_then (reads_number 4
        param.ival.toUInt32.toNat_lt
        fun value => FieldValue.int (UInt32.ofNat value).toInt32)
      rw [UInt32.ofNat_toNat, Int32.toInt32_toUInt32] at hread
      exact hread
  | bigint =>
      have hread := reads_zeros_then (reads_number 8
        param.ival64.toUInt64.toNat_lt
        fun value => FieldValue.bigint (UInt64.ofNat value).toInt64)
      rw [UInt64.ofNat_toNat, Int64.toInt64_toUInt64] at hread
      exact hread
  | float =>
      have hread := reads_zeros_then (reads_number 8 param.dval.toNat_lt
        fun value => FieldValue.float (UInt64.ofNat value))
      rw [UInt64.ofNat_toNat] at hread
      exact hread
  | decimal =>
      exact reads_native param.nativeQualifier (hnative (.inl htype))
  | datetime =>
      exact reads_native param.nativeQualifier (hnative (.inr (.inl htype)))
  | interval =>
      exact reads_native param.nativeQualifier (hnative (.inr (.inr htype)))
  | string =>
      have hlength := hfits htype hnull
      rw [List.take_of_length_le hlength]
      exact reads_string hlength
  | date =>
      have hlength := hcomplete.date_value htype
      rw [← hlength, List.take_length]
      have hread : Reads (do
          let bytes ← take Temporal.dateWireSize
          return FieldValue.date bytes) param.nativeBytes
          (.date param.nativeBytes) := (Reads.take hlength).map _
      exact reads_zeros_then hread
  | bytes =>
      obtain ⟨value, hvalue, hlength⟩ := hcomplete.bytes_value htype hnull
      simp only [maxBytesLength] at hlength
      rw [hvalue, Option.getD_some, List.take_of_length_le hlength]
      exact reads_counted 2 (by omega) FieldValue.bytes
  | sblob =>
      obtain ⟨locator, hlocator, hlength⟩ := hcomplete.sblob_value htype hnull
      simp only [sblobLocatorMax] at hlength
      rw [hlocator, Option.getD_some, List.append_assoc]
      exact reads_zeros_then (reads_counted 4 (by omega) FieldValue.sblob)

theorem reads_extendedType (param : BoundParam) :
    Reads (readName param.type.code.toNat) (extendedType param)
      (if param.type = .sblob then some (sblobName param) else none) := by
  unfold extendedType readName
  by_cases htype : param.type = .sblob
  · have hname : (sblobName param).length < 256 ^ 2 := by
      unfold sblobName
      split <;> decide
    have howner : Reads (padded 0) (padEven []) [] := Reads.padded rfl
    have hread : Reads readTypeName (bigEndian 2 0 ++ (padEven [] ++
        (bigEndian 2 (sblobName param).length ++ padEven (sblobName param))))
        (sblobName param) :=
      (Reads.natural (by decide)).bind (howner.bind
        ((Reads.natural hname).bind (Reads.padded rfl)))
    have hsome := hread.map some
    rw [if_pos htype, if_pos htype, htype]
    simpa [bigEndian, Radix.toBigEndian, padEven, BindType.code] using hsome
  · have hcode : param.type.code.toNat ≠ 44 := by
      revert htype
      cases param.type <;> decide
    rw [if_neg htype, if_neg htype, if_neg hcode]
    exact Reads.pure none

theorem reads_paramMessage {param : BoundParam} (hcomplete : param.Complete)
    (hinline : isLegacyLob serverType param = false)
    (hfits : param.Fits encode) :
    Reads readParam (paramMessage encode serverType param)
      (param.field encode) := by
  have htype : Reads (natural 2) [0, wireType serverType param]
      param.type.code.toNat := by
    have hbytes : [0, wireType serverType param] =
        bigEndian 2 param.type.code.toNat := by
      rw [wireType, hinline]
      cases param.type <;> rfl
    rw [hbytes]
    exact Reads.natural (by
      have := param.type.code.toNat_lt
      omega)
  have hvalue : Reads (readIndicated param.type.code.toNat)
      (paramValue encode serverType param)
      (if param.isNull then none else some (param.fieldValue encode)) := by
    unfold paramValue readIndicated
    by_cases hnull : param.isNull = true
    · rw [if_pos hnull, if_pos hnull]
      have hbytes : bigEndian 2 0xFFFF = [0xFF, 0xFF] := by decide
      have hindicator := @Reads.natural 2 0xFFFF (by decide)
      rw [hbytes] at hindicator
      have hrest : Reads (do
          expect [0, 0]
          return (none : Option FieldValue)) ([0, 0] ++ []) none :=
        (Reads.expect _).bind (Reads.pure _)
      exact hindicator.bind hrest
    · rw [if_neg hnull, if_neg hnull, hinline]
      have hbytes : bigEndian 2 0 = [0, 0] := by decide
      have hindicator := @Reads.natural 2 0 (by decide)
      rw [hbytes] at hindicator
      have hrest := (reads_inlineValue hcomplete (by simpa using hnull)
        hfits).map some
      exact hindicator.bind hrest
  have hrest : Reads (do
      let value ← readIndicated param.type.code.toNat
      return Field.mk param.type.code.toNat
        (if param.type = .sblob then some (sblobName param) else none) value)
      (paramValue encode serverType param) (param.field encode) :=
    hvalue.map _
  rw [paramMessage, List.append_assoc]
  exact htype.bind ((reads_extendedType param).bind hrest)

end Libsqli.Bind
