import Libsqli.Bind.Param

namespace Libsqli.Bind

open Libsqli.Temporal

/-! What a successful bind call leaves in the parameter. -/

/-- The value that the type of a non-NULL parameter calls for is there. -/
structure BoundParam.Complete (param : BoundParam) : Prop where
  is_set : param.type ≠ .unset
  string_value : param.type = .string → param.isNull = false →
    ∃ text, param.sval = some text
  bytes_value : param.type = .bytes → param.isNull = false →
    ∃ value, param.bval = some value ∧ value.length ≤ maxBytesLength
  sblob_value : param.type = .sblob → param.isNull = false →
    ∃ locator, param.bval = some locator ∧ locator.length ≤ sblobLocatorMax
  date_value : param.type = .date → param.nativeBytes.length = dateWireSize
  native_value : param.type = .decimal ∨ param.type = .datetime ∨
    param.type = .interval → param.nativeBytes.length ≤ decimalWireCapacity

theorem encodeCoefficient_length
    (hencode : Decimal.encodeCoefficient parts type = .ok bytes) :
    bytes.length = 1 + (type.width - 1) := by
  simp only [Decimal.encodeCoefficient] at hencode
  split at hencode
  · cases hencode
  · split at hencode
    · cases hencode
    · split at hencode
      · cases hencode
      · cases hencode
        simp [Nat.add_comm]

theorem encodeParts_length
    (hencode : Decimal.encodeParts parts type = .ok bytes) :
    bytes.length ≤ type.width ∨ bytes.length = 1 + (type.width - 1) := by
  unfold Decimal.encodeParts at hencode
  split at hencode
  · cases hencode
    simp
  · split at hencode
    · cases hencode
      simp [Nat.add_comm]
    · exact .inr (encodeCoefficient_length hencode)

theorem encodeWire_length
    (hencode : Decimal.encodeWire value descriptor decimalWireCapacity =
      .ok bytes) : bytes.length ≤ decimalWireCapacity := by
  unfold Decimal.encodeWire at hencode
  split at hencode
  · cases hencode
  · split at hencode
    · cases hencode
    · next encoded hparts =>
      split at hencode
      · cases hencode
      · next type hdecode hroom =>
        cases hencode
        have := encodeParts_length hparts
        simp only [decimalWireCapacity] at hroom ⊢
        omega

theorem pack_length {range : WireRange} (hvalid : range.Valid interval)
    (hpack : pack fields range capacity = .ok bytes) :
    bytes.length = range.width := by
  rcases pack_ok hpack with ⟨-, rfl⟩ | ⟨-, -, -, rfl⟩
  · exact List.length_replicate
  · exact length_packedBytes hvalid (length_packedGroups hvalid fields)

theorem encodeDatetime_length
    (hencode : encodeDatetime value qualifier capacity = .ok bytes) :
    bytes.length ≤ wireCapacity := by
  unfold encodeDatetime at hencode
  split at hencode
  · cases hencode
  · next range hrange =>
    split at hencode
    · have hvalid := decodeRange_valid hrange
      rw [pack_length hvalid hencode]
      exact hvalid.width_le
    · cases hencode

theorem encodeInterval_length
    (hencode : encodeInterval value qualifier capacity = .ok bytes) :
    bytes.length ≤ wireCapacity := by
  unfold encodeInterval at hencode
  split at hencode
  · cases hencode
  · next range hrange =>
    split at hencode
    · have hvalid := decodeRange_valid hrange
      rw [pack_length hvalid hencode]
      exact hvalid.width_le
    · cases hencode

/-- A parameter whose type is not among those with a value to look up. -/
theorem BoundParam.Complete.scalar {param : BoundParam}
    (htype : param.type = .int ∨ param.type = .bigint ∨ param.type = .float) :
    param.Complete := by
  rcases htype with htype | htype | htype <;>
    constructor <;> simp [htype]

theorem BoundParam.Complete.null {param : BoundParam}
    (hset : param.type = .string ∨
      param.type = .int ∨ param.type = .bigint ∨ param.type = .float ∨
      param.type = .sblob) (hnull : param.isNull = true) :
    param.Complete := by
  rcases hset with htype | htype | htype | htype | htype <;>
    constructor <;> simp [htype, hnull]

theorem setParamString_complete
    (hset : (setParamString malloc value param).1 = .ok) :
    (setParamString malloc value param).2.Complete := by
  unfold setParamString at hset ⊢
  split
  · constructor <;> simp
  · next hfull => simp [hfull] at hset

theorem setParamBytes_complete
    (hset : (setParamBytes malloc value param).1 = .ok) :
    (setParamBytes malloc value param).2.Complete := by
  unfold setParamBytes at hset ⊢
  split
  · next hrange => simp [hrange] at hset
  · next hrange =>
    split
    · constructor <;> simp
      omega
    · next hfull => simp [hrange, hfull] at hset

/-! An encoder that fails does not report success. -/

theorem decodeType_ne_ok : Decimal.decodeType descriptor ≠ .error .ok := by
  unfold Decimal.decodeType
  simp only
  split <;> simp

theorem checkTarget_ne_ok : Decimal.checkTarget parts type ≠ .error .ok := by
  unfold Decimal.checkTarget
  simp only
  split
  · split <;> simp
  · split
    · simp
    · split <;> simp

theorem encodeCoefficient_ne_ok :
    Decimal.encodeCoefficient parts type ≠ .error .ok := by
  unfold Decimal.encodeCoefficient
  simp only
  split
  · next status htarget =>
    rintro ⟨⟩
    exact checkTarget_ne_ok htarget
  · split
    · simp
    · split <;> simp

theorem encodeWire_ne_ok :
    Decimal.encodeWire value descriptor capacity ≠ .error .ok := by
  unfold Decimal.encodeWire Decimal.encodeParts
  split
  · next status htype =>
    rintro ⟨⟩
    exact decodeType_ne_ok htype
  · split
    · next status hparts =>
      rintro ⟨⟩
      split at hparts
      · cases hparts
      · split at hparts
        · cases hparts
        · exact encodeCoefficient_ne_ok hparts
    · split <;> simp

theorem decodeRange_ne_ok : decodeRange qualifier interval ≠ .error .ok := by
  intro hrange
  cases decodeRange_error hrange

theorem pack_ne_ok : pack fields range capacity ≠ .error .ok := by
  unfold pack
  split
  · simp
  · split
    · simp
    · split
      · simp
      · split <;> simp

theorem encodeDatetime_ne_ok :
    encodeDatetime value qualifier capacity ≠ .error .ok := by
  unfold encodeDatetime
  split
  · next status hrange =>
    rintro ⟨⟩
    exact decodeRange_ne_ok hrange
  · split
    · exact pack_ne_ok
    · simp

theorem encodeInterval_ne_ok :
    encodeInterval value qualifier capacity ≠ .error .ok := by
  unfold encodeInterval
  split
  · next status hrange =>
    rintro ⟨⟩
    exact decodeRange_ne_ok hrange
  · split
    · exact pack_ne_ok
    · simp

theorem encodeDate_ne_ok : encodeDate value capacity ≠ .error .ok := by
  unfold encodeDate
  split
  · split <;> simp
  · next hvalid =>
    intro hfailure
    exact hvalid (Except.error.inj hfailure)

theorem temporalQualifier_ne_ok :
    temporalQualifier target interval leading ≠ .error .ok := by
  unfold temporalQualifier
  split
  · simp
  · split
    · simp
    · split
      · simp
      · split
        · simp
        · split <;> simp

/-! The native binders. -/

def nativeParam (type : BindType) (qualifier : UInt16) (isNull : Bool)
    (bytes : List UInt8) : BoundParam :=
  { BoundParam.zeroed with
    type := type, isNull := isNull, nativeQualifier := qualifier
    nativeBytes := bytes }

theorem bindNative_ok (herror : encoded ≠ .error .ok)
    (hset : (bindNative type qualifier encoded isNull param).1 = .ok) :
    ∃ bytes, encoded = .ok bytes ∧
      (bindNative type qualifier encoded isNull param).2 =
        nativeParam type qualifier isNull bytes := by
  cases encoded with
  | error status =>
      cases show status = .ok from hset
      exact absurd rfl herror
  | ok bytes => exact ⟨bytes, rfl, rfl⟩

theorem bindDate_complete (hset : (bindDate value param).1 = .ok) :
    (bindDate value param).2.Complete := by
  obtain ⟨bytes, hbytes, hparam⟩ := bindNative_ok encodeDate_ne_ok hset
  rw [bindDate, hparam, nativeParam]
  constructor <;> simp [encodeDate_length hbytes]

theorem nativeParam_complete {bytes : List UInt8}
    (hnative : type = .decimal ∨ type = .datetime ∨ type = .interval)
    (hlength : bytes.length ≤ decimalWireCapacity) :
    (nativeParam type qualifier isNull bytes).Complete := by
  rw [nativeParam]
  rcases hnative with rfl | rfl | rfl <;> constructor <;> simp [hlength]

theorem bindNative_complete
    (hnative : type = .decimal ∨ type = .datetime ∨ type = .interval)
    (herror : encoded ≠ .error .ok)
    (hlength : ∀ bytes, encoded = .ok bytes →
      bytes.length ≤ decimalWireCapacity)
    (hset : (bindNative type qualifier encoded isNull param).1 = .ok) :
    (bindNative type qualifier encoded isNull param).2.Complete := by
  obtain ⟨bytes, hbytes, hparam⟩ := bindNative_ok herror hset
  rw [hparam]
  exact nativeParam_complete hnative (hlength bytes hbytes)

theorem bindDatetime_eq {value : Datetime}
    (hset : (bindDatetime value target param).1 = .ok) :
    ∃ qualifier bytes, temporalQualifier target false 0 = .ok qualifier ∧
      encodeDatetime value qualifier decimalWireCapacity = .ok bytes ∧
      (bindDatetime value target param).2 =
        nativeParam .datetime qualifier value.parts.isNull bytes := by
  unfold bindDatetime at hset ⊢
  cases hqualifier : temporalQualifier target false 0 with
  | error status =>
      rw [hqualifier] at hset
      cases show status = .ok from hset
      exact absurd hqualifier temporalQualifier_ne_ok
  | ok qualifier =>
      rw [hqualifier] at hset
      obtain ⟨bytes, hbytes, hbound⟩ := bindNative_ok encodeDatetime_ne_ok hset
      exact ⟨qualifier, bytes, rfl, hbytes, hbound⟩

theorem bindInterval_eq {value : Interval}
    (hset : (bindInterval value target leading param).1 = .ok) :
    ∃ qualifier bytes, temporalQualifier target true leading = .ok qualifier ∧
      encodeInterval value qualifier decimalWireCapacity = .ok bytes ∧
      (bindInterval value target leading param).2 =
        nativeParam .interval qualifier value.parts.isNull bytes := by
  unfold bindInterval at hset ⊢
  cases hqualifier : temporalQualifier target true leading with
  | error status =>
      rw [hqualifier] at hset
      cases show status = .ok from hset
      exact absurd hqualifier temporalQualifier_ne_ok
  | ok qualifier =>
      rw [hqualifier] at hset
      obtain ⟨bytes, hbytes, hbound⟩ := bindNative_ok encodeInterval_ne_ok hset
      exact ⟨qualifier, bytes, rfl, hbytes, hbound⟩

theorem bindDatetime_complete
    (hset : (bindDatetime value target param).1 = .ok) :
    (bindDatetime value target param).2.Complete := by
  obtain ⟨qualifier, bytes, -, hbytes, hparam⟩ := bindDatetime_eq hset
  rw [hparam]
  exact nativeParam_complete (.inr (.inl rfl))
    ((encodeDatetime_length hbytes).trans (by decide))

theorem bindInterval_complete
    (hset : (bindInterval value target leading param).1 = .ok) :
    (bindInterval value target leading param).2.Complete := by
  obtain ⟨qualifier, bytes, -, hbytes, hparam⟩ := bindInterval_eq hset
  rw [hparam]
  exact nativeParam_complete (.inr (.inr rfl))
    ((encodeInterval_length hbytes).trans (by decide))

theorem bindTimestamp_complete
    (hset : (bindTimestamp malloc value param).1 = .ok) :
    (bindTimestamp malloc value param).2.Complete := by
  unfold bindTimestamp at hset ⊢
  cases value with
  | none => exact .null (.inl rfl) rfl
  | some value =>
      by_cases hnull : value.isNull = true
      · simp only [hnull, if_true]
        exact .null (.inl rfl) rfl
      · simp only [hnull] at hset ⊢
        exact setParamString_complete hset

theorem bindSblob_complete
    (hset : (bindSblob malloc serverType lob param).1 = .ok) :
    (bindSblob malloc serverType lob param).2.Complete := by
  unfold bindSblob at hset ⊢
  cases lob with
  | none => exact .null (.inr (.inr (.inr (.inr rfl)))) rfl
  | some lob =>
      by_cases hrange : lob.locator = [] ∨
          sblobLocatorMax < lob.locator.length
      · simp [hrange] at hset
      · by_cases hroom : malloc lob.locator.length = true
        · simp only [hrange, hroom, if_false, if_true]
          constructor <;> simp
          omega
        · simp [hrange, hroom] at hset

theorem BindCall.apply_complete
    (hset : (BindCall.apply malloc serverType param call).1 = .ok) :
    (BindCall.apply malloc serverType param call).2.Complete := by
  cases call with
  | int value => exact .scalar (.inl rfl)
  | int64 value => exact .scalar (.inr (.inl rfl))
  | double value => exact .scalar (.inr (.inr rfl))
  | string value => exact setParamString_complete hset
  | bool value => exact setParamString_complete hset
  | bytes value => exact setParamBytes_complete hset
  | date value => exact bindDate_complete hset
  | decimal value target =>
      exact bindNative_complete (.inl rfl) encodeWire_ne_ok
        (fun _ => encodeWire_length) hset
  | datetime value target => exact bindDatetime_complete hset
  | interval value target leading => exact bindInterval_complete hset
  | timestamp value => exact bindTimestamp_complete hset
  | null => exact .null (.inl rfl) rfl
  | nullInt => exact .null (.inr (.inl rfl)) rfl
  | nullInt64 => exact .null (.inr (.inr (.inl rfl))) rfl
  | nullDouble => exact .null (.inr (.inr (.inr (.inl rfl)))) rfl
  | sblob lob => exact bindSblob_complete hset

/-- A parameter left by a bind call that succeeded. -/
def BoundParam.Accepted (param : BoundParam) : Prop :=
  ∃ malloc call stmt index after,
    Statement.bind malloc stmt index call = (.ok, after) ∧
      after.params[index]? = some param

theorem BoundParam.Accepted.complete {param : BoundParam}
    (haccepted : param.Accepted) : param.Complete := by
  obtain ⟨malloc, call, stmt, index, after, hbind, hparam⟩ := haccepted
  unfold Statement.bind at hbind
  split at hbind
  · cases hbefore : stmt.params[index]? with
    | none => simp [hbefore] at hbind
    | some before =>
        simp only [hbefore, Prod.mk.injEq] at hbind
        obtain ⟨hset, rfl⟩ := hbind
        have hindex : index < stmt.params.length :=
          (List.getElem?_eq_some_iff.mp hbefore).1
        rw [Statement.setParam, List.getElem?_set_self hindex] at hparam
        cases hparam
        exact BindCall.apply_complete hset
  · next hcheck => exact absurd (Prod.mk.inj hbind).1 hcheck

end Libsqli.Bind
