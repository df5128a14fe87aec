import Libsqli.Bind.Calls
import Libsqli.Bind.Reading
import Libsqli.Decimal.Canonical
import Libsqli.Temporal.IntervalWire
import Libsqli.Temporal.DateCodec

namespace Libsqli.Bind

open Libsqli.Data.Bytes
open Libsqli.Temporal

/-! What is sent for a native value. -/

/-- The payload behind its qualifier and its length. -/
def nativeFrame (qualifier : UInt16) (payload : List UInt8) : List UInt8 :=
  bigEndian 2 qualifier.toNat ++ [0, UInt8.ofNat payload.length] ++
    padEven payload

/-- The value is framed as NULL or with octets. -/
structure Framed (type : BindType) (bound : BoundParam) (isNull : Bool)
    (octets : List UInt8) : Prop where
  typed : ∀ serverType, wireType serverType bound = type.code
  null_iff : ∀ encode serverType,
    paramValue encode serverType bound = [0xFF, 0xFF, 0, 0] ↔ isNull = true
  present : isNull = false → ∀ encode serverType,
    paramValue encode serverType bound = [0, 0] ++ octets

/-- The octets are those of a payload, and with zeros behind it up to the width
the payload is one that is taken back. -/
def Payload (qualifier : UInt16) (width : Nat) (takenBack : List UInt8 → Prop)
    (octets : List UInt8) : Prop :=
  ∃ payload, octets = nativeFrame qualifier payload ∧
    payload.length ≤ width ∧
    takenBack (payload ++ List.replicate (width - payload.length) 0)

variable {malloc : Nat → Bool} {stmt after : Statement} {index : Nat}
  {param bound : BoundParam} {type : BindType} {qualifier : UInt16}
  {isNull : Bool} {bytes : List UInt8} {width : Nat}
  {takenBack : List UInt8 → Prop} {target : TemporalRange} {interval : Bool}
  {leading : UInt8}

theorem isLegacyLob_native (htype : type = .date ∨ type = .decimal ∨
    type = .datetime ∨ type = .interval) (serverType : UInt8) :
    isLegacyLob serverType (nativeParam type qualifier isNull bytes) =
      false := by
  rcases htype with rfl | rfl | rfl | rfl <;>
    simp [isLegacyLob, nativeParam]

theorem framed_native (htype : type = .date ∨ type = .decimal ∨
    type = .datetime ∨ type = .interval) :
    Framed type (nativeParam type qualifier isNull bytes) isNull
      (inlineValue .ok (nativeParam type qualifier isNull bytes)) := by
  have hlegacy (serverType : UInt8) :
      isLegacyLob serverType (nativeParam type qualifier isNull bytes) =
        false :=
    isLegacyLob_native htype serverType
  have hinline (encode : Encoder) :
      inlineValue encode (nativeParam type qualifier isNull bytes) =
        inlineValue .ok (nativeParam type qualifier isNull bytes) := by
    rcases htype with rfl | rfl | rfl | rfl <;> rfl
  refine ⟨fun serverType => ?_, fun encode serverType => ?_,
    fun hpresent encode serverType => ?_⟩
  · unfold wireType
    rw [hlegacy]
    rfl
  · unfold paramValue
    rw [hlegacy]
    cases isNull with
    | true => exact iff_of_true rfl rfl
    | false => exact iff_of_false nofun nofun
  · unfold paramValue
    rw [hlegacy, hinline]
    cases hpresent
    rfl

theorem payload_native (hlength : bytes.length = width)
    (htakenBack : takenBack bytes) (htype : type = .decimal ∨
      type = .datetime ∨ type = .interval) :
    Payload qualifier width takenBack
      (inlineValue .ok (nativeParam type qualifier isNull bytes)) := by
  have htrimmed := trimNative_extended bytes
  rw [hlength] at htrimmed
  refine ⟨trimNative bytes, ?_, ?_, ?_⟩
  · rcases htype with rfl | rfl | rfl <;> rfl
  · rw [← hlength]
    exact length_trimNative bytes
  · rw [htrimmed]
    exact htakenBack

/-! The calls. -/

theorem getElem?_of_bind (call : BindCall)
    (hbind : stmt.bind malloc index call = (.ok, after)) :
    ∃ param, (call.apply malloc stmt.serverTypes[index]? param).1 = .ok ∧
      after.params[index]? =
        some (call.apply malloc stmt.serverTypes[index]? param).2 := by
  unfold Statement.bind at hbind
  split at hbind
  · split at hbind
    · cases hbind
    · next param hparam =>
      have hindex := (List.getElem?_eq_some_iff.mp hparam).1
      obtain ⟨hok, rfl⟩ := Prod.mk.inj hbind
      exact ⟨param, hok, by simp [Statement.setParam, hindex]⟩
  · next hfailed =>
    exact absurd (Prod.mk.inj hbind).1 hfailed

/-! The qualifier. -/

/-- A range that a qualifier can name. -/
structure TemporalRange.Nameable (range : TemporalRange) : Prop where
  first_pos : fieldYear ≤ range.first
  ordered : range.first ≤ range.last
  last_le : range.last ≤ fieldFraction
  digits : if range.last = fieldFraction then
    1 ≤ range.fractionalDigits ∧ range.fractionalDigits ≤ maxFractionDigits
    else range.fractionalDigits = 0

theorem qualifierStart_lt (hnameable : TemporalRange.Nameable target) :
    qualifierStart target < 16 := by
  have hordered := hnameable.ordered
  have hlast := hnameable.last_le
  simp only [qualifierStart, fieldYear, fieldFraction] at *
  omega

theorem qualifierStop_lt (hnameable : TemporalRange.Nameable target) :
    qualifierStop target < 16 := by
  have hlast := hnameable.last_le
  have hdigits := hnameable.digits
  unfold qualifierStop
  simp only [fieldYear, fieldFraction, wireSecond, maxFractionDigits] at *
  split
  · next hfraction =>
    rw [if_pos hfraction] at hdigits
    omega
  · omega

theorem qualifierRange_target (hnameable : TemporalRange.Nameable target) :
    qualifierRange (qualifierStart target) (qualifierStop target) = target := by
  have hfirst := hnameable.first_pos
  have hordered := hnameable.ordered
  have hlast := hnameable.last_le
  have hdigits := hnameable.digits
  obtain ⟨first, last, digits⟩ := target
  simp only [fieldYear, fieldFraction, maxFractionDigits] at *
  have hstart : qualifierStart ⟨first, last, digits⟩ = (first - 1) * 2 := rfl
  by_cases hfraction : last = 7
  · have hstop : qualifierStop ⟨first, last, digits⟩ = 10 + digits :=
      if_pos hfraction
    rw [if_pos hfraction] at hdigits
    rw [hstart, hstop, qualifierRange_fraction (by omega),
      TemporalRange.mk.injEq]
    omega
  · have hstop : qualifierStop ⟨first, last, digits⟩ = (last - 1) * 2 :=
      if_neg hfraction
    rw [if_neg hfraction] at hdigits
    rw [hstart, hstop, qualifierRange_integral (by omega),
      TemporalRange.mk.injEq]
    omega

theorem composeQualifier_start (hnameable : TemporalRange.Nameable target) :
    ((composeQualifier target interval leading).toNat >>> 4) &&& 0xf =
      qualifierStart target := by
  have hstart := qualifierStart_lt hnameable
  have hstop := qualifierStop_lt hnameable
  unfold composeQualifier
  rw [UInt16.toNat_ofNat', Nat.and_two_pow_sub_one_eq_mod _ 4,
    Nat.shiftRight_eq_div_pow]
  omega

theorem composeQualifier_stop (hnameable : TemporalRange.Nameable target) :
    (composeQualifier target interval leading).toNat &&& 0xf =
      qualifierStop target := by
  have hstart := qualifierStart_lt hnameable
  have hstop := qualifierStop_lt hnameable
  unfold composeQualifier
  rw [UInt16.toNat_ofNat', Nat.and_two_pow_sub_one_eq_mod _ 4]
  omega

theorem decodeCodes_range {digits start stop : Nat} {range : WireRange}
    (hdecode : decodeCodes digits start stop interval = .ok range) :
    range.range = qualifierRange start stop := by
  have hclose {named : TemporalRange} {leadingDigits pairs : Nat}
      {exponent : Int} (hclose :
        closeRange named leadingDigits pairs exponent = .ok range) :
      range.range = named := by
    unfold closeRange at hclose
    dsimp only at hclose
    split at hclose
    · cases hclose
    · cases hclose
      rfl
  unfold decodeCodes at hdecode
  split at hdecode
  · cases hdecode
  · split at hdecode
    · cases hdecode
    · split at hdecode
      · split at hdecode
        · cases hdecode
        · exact hclose hdecode
      · split at hdecode
        · cases hdecode
        · split at hdecode
          · cases hdecode
          · exact hclose hdecode

/-- A qualifier that is built for a range names that range. -/
theorem decodeRange_of_temporalQualifier
    (hqualifier : temporalQualifier target interval leading = .ok qualifier) :
    ∃ range, decodeRange qualifier interval = .ok range ∧
      range.range = target := by
  unfold temporalQualifier at hqualifier
  split at hqualifier
  · cases hqualifier
  next hordered =>
  split at hqualifier
  · cases hqualifier
  next hfraction =>
  split at hqualifier
  · cases hqualifier
  next hintegral =>
  split at hqualifier
  · cases hqualifier
  split at hqualifier
  · cases hqualifier
  next range hdecode =>
  cases hqualifier
  have hnameable : TemporalRange.Nameable target := by
    refine ⟨by omega, by omega, by omega, ?_⟩
    split
    · next hlast =>
      constructor <;> by_contra hdigits <;>
        exact hfraction ⟨hlast, by omega⟩
    · next hlast =>
      by_contra hdigits
      exact hintegral ⟨hlast, hdigits⟩
  refine ⟨range, hdecode, ?_⟩
  have hrange := decodeCodes_range hdecode
  rw [composeQualifier_start hnameable, composeQualifier_stop hnameable,
    qualifierRange_target hnameable] at hrange
  exact hrange

/-! The calls, end to end. -/

/-- Decoding gives the number. -/
def DecimalTakenBack (value : Decimal) (descriptor : UInt16)
    (bytes : List UInt8) : Prop :=
  ∀ malloc out, ∃ decoded,
    Decimal.decodeWire malloc bytes descriptor out = (.ok, decoded) ∧
      decoded.isNull = value.isNull ∧ decoded.number = value.number

/-- Decoding gives the fields, in the range of the target. -/
def DatetimeTakenBack (value : Datetime) (target : TemporalRange)
    (qualifier : UInt16) (bytes : List UInt8) : Prop :=
  ∀ out, ∃ decoded, decodeDatetime bytes qualifier out = (.ok, decoded) ∧
    decoded.parts.range = target ∧
    decoded.parts.withRange value.parts.range = value.parts

def IntervalTakenBack (value : Interval) (target : TemporalRange)
    (qualifier : UInt16) (bytes : List UInt8) : Prop :=
  ∀ out, ∃ decoded, decodeInterval bytes qualifier out = (.ok, decoded) ∧
    decoded.parts.range = target ∧
    decoded.parts.withRange value.parts.range = value.parts

/-- A parameter that holds a native value with a qualifier. -/
def Sent (type : BindType) (after : Statement) (index : Nat) (isNull : Bool)
    (width : Nat) (takenBack : List UInt8 → Prop) : Prop :=
  ∃ bound octets, after.params[index]? = some bound ∧
    Framed type bound isNull octets ∧
    Payload bound.nativeQualifier width takenBack octets

theorem sent_native (hparam : after.params[index]? =
      some (nativeParam type qualifier isNull bytes))
    (hlength : bytes.length = width) (htakenBack : takenBack bytes)
    (htype : type = .decimal ∨ type = .datetime ∨ type = .interval) :
    Sent type after index isNull width takenBack :=
  ⟨_, _, hparam, framed_native (Or.inr htype),
    payload_native hlength htakenBack htype⟩

theorem sent_bindDecimal {value : Decimal} {target : DecimalTarget}
    (hbind : stmt.bindDecimal malloc index (some value) (some target) =
      (.ok, after)) :
    ∃ type, Decimal.decodeType target.descriptor = .ok type ∧
      Sent .decimal after index value.isNull type.width
        (DecimalTakenBack value target.descriptor) := by
  obtain ⟨param, hok, hparam⟩ := getElem?_of_bind (.decimal value target) hbind
  obtain ⟨bytes, hbytes, hbound⟩ := bindNative_ok encodeWire_ne_ok hok
  obtain ⟨type, htype, -, hrepresents⟩ := Decimal.encodeWire_ok_iff.mp hbytes
  have hlength := Decimal.represents_length
    (Decimal.decodeType_valid htype) hrepresents
  refine ⟨type, htype, sent_native (hparam.trans (congrArg some hbound)) hlength
    ?_ (by decide)⟩
  intro malloc out
  obtain ⟨decoded, hdecode, hnull, hnumber, -⟩ :=
    Decimal.decodeWire_of_represents malloc out htype hrepresents
  exact ⟨decoded, hdecode, hnull, hnumber⟩

theorem length_encodeDatetime {value : Datetime} {range : WireRange}
    (hrange : decodeRange qualifier false = .ok range)
    (hbytes : encodeDatetime value qualifier decimalWireCapacity = .ok bytes) :
    bytes.length = range.width := by
  unfold encodeDatetime at hbytes
  rw [hrange] at hbytes
  dsimp only at hbytes
  split at hbytes
  · exact pack_length (decodeRange_valid hrange) hbytes
  · cases hbytes

theorem length_encodeInterval {value : Interval} {range : WireRange}
    (hrange : decodeRange qualifier true = .ok range)
    (hbytes : encodeInterval value qualifier decimalWireCapacity = .ok bytes) :
    bytes.length = range.width := by
  unfold encodeInterval at hbytes
  rw [hrange] at hbytes
  dsimp only at hbytes
  split at hbytes
  · exact pack_length (decodeRange_valid hrange) hbytes
  · cases hbytes

theorem sent_bindDatetime {value : Datetime}
    (hbind : stmt.bindDatetime malloc index (some value) (some target) =
      (.ok, after)) :
    ∃ qualifier range, temporalQualifier target false 0 = .ok qualifier ∧
      decodeRange qualifier false = .ok range ∧ range.range = target ∧
      Sent .datetime after index value.parts.isNull range.width
        (DatetimeTakenBack value target qualifier) := by
  obtain ⟨param, hok, hparam⟩ := getElem?_of_bind (.datetime value target) hbind
  obtain ⟨qualifier, bytes, hqualifier, hbytes, hbound⟩ := bindDatetime_eq hok
  obtain ⟨range, hrange, htarget⟩ := decodeRange_of_temporalQualifier hqualifier
  refine ⟨qualifier, range, hqualifier, hrange, htarget, sent_native
    (hparam.trans (congrArg some hbound)) (length_encodeDatetime hrange hbytes) ?_
    (by decide)⟩
  intro out
  obtain ⟨decoded, hdecode, hparts⟩ := decodeDatetime_of_encode hbytes out
  obtain ⟨found, hfound, hdecoded, -⟩ := decodeDatetime_ok hdecode
  rw [hrange] at hfound
  cases hfound
  exact ⟨decoded, hdecode, hdecoded.trans htarget, hparts⟩

theorem sent_bindInterval {value : Interval}
    (hbind : stmt.bindInterval malloc index leading (some value)
      (some target) = (.ok, after)) :
    ∃ qualifier range, temporalQualifier target true leading = .ok qualifier ∧
      decodeRange qualifier true = .ok range ∧ range.range = target ∧
      Sent .interval after index value.parts.isNull range.width
        (IntervalTakenBack value target qualifier) := by
  obtain ⟨param, hok, hparam⟩ := getElem?_of_bind (.interval value target leading) hbind
  obtain ⟨qualifier, bytes, hqualifier, hbytes, hbound⟩ := bindInterval_eq hok
  obtain ⟨range, hrange, htarget⟩ := decodeRange_of_temporalQualifier hqualifier
  refine ⟨qualifier, range, hqualifier, hrange, htarget, sent_native
    (hparam.trans (congrArg some hbound)) (length_encodeInterval hrange hbytes) ?_
    (by decide)⟩
  intro out
  obtain ⟨decoded, hdecode, hparts⟩ := decodeInterval_of_encode hbytes out
  obtain ⟨found, hfound, hdecoded, -⟩ := decodeInterval_ok hdecode
  rw [hrange] at hfound
  cases hfound
  exact ⟨decoded, hdecode, hdecoded.trans htarget, hparts⟩

/-- A DATE has neither a qualifier nor a length. -/
theorem sent_bindDate {value : Date}
    (hbind : stmt.bindDate malloc index (some value) = (.ok, after)) :
    ∃ bound payload, after.params[index]? = some bound ∧
      Framed .date bound value.isNull ([0, 0] ++ payload) ∧
      payload.length = dateWireSize ∧
      (value.isNull = false → ∀ out, decodeDate payload out = (.ok, value)) := by
  obtain ⟨param, hok, hparam⟩ := getElem?_of_bind (.date value) hbind
  obtain ⟨bytes, hbytes, hbound⟩ := bindNative_ok encodeDate_ne_ok hok
  have hlength := encodeDate_length hbytes
  have hframed : Framed .date (nativeParam .date 0 value.isNull bytes)
      value.isNull ([0, 0] ++ bytes.take dateWireSize) :=
    framed_native (Or.inl rfl)
  rw [List.take_of_length_le (Nat.le_of_eq hlength)] at hframed
  refine ⟨_, bytes, hparam.trans (congrArg some hbound), hframed, hlength, ?_⟩
  intro hpresent out
  obtain ⟨hvalid, -, rfl⟩ := encodeDate_ok_iff.mp hbytes
  rw [decodeDate_payload hvalid, hpresent]
  rfl

/-- What a native binder stores is sent as NULL when it is NULL, and otherwise as
octets that its decoder takes back under the qualifier of the target. -/
theorem nativeBinding_preserves (malloc : Nat → Bool) (stmt after : Statement)
    (index : Nat) :
    (∀ value : Date, stmt.bindDate malloc index (some value) = (.ok, after) →
      ∃ bound payload, after.params[index]? = some bound ∧
        Framed .date bound value.isNull ([0, 0] ++ payload) ∧
        payload.length = dateWireSize ∧
        (value.isNull = false →
          ∀ out, decodeDate payload out = (.ok, value))) ∧
    (∀ (value : Decimal) (target : DecimalTarget),
      stmt.bindDecimal malloc index (some value) (some target) = (.ok, after) →
      ∃ type, Decimal.decodeType target.descriptor = .ok type ∧
        Sent .decimal after index value.isNull type.width
          (DecimalTakenBack value target.descriptor)) ∧
    (∀ (value : Datetime) (target : TemporalRange),
      stmt.bindDatetime malloc index (some value) (some target) =
        (.ok, after) →
      ∃ qualifier range, temporalQualifier target false 0 = .ok qualifier ∧
        decodeRange qualifier false = .ok range ∧ range.range = target ∧
        Sent .datetime after index value.parts.isNull range.width
          (DatetimeTakenBack value target qualifier)) ∧
    ∀ (value : Interval) (target : TemporalRange) (leading : UInt8),
      stmt.bindInterval malloc index leading (some value) (some target) =
        (.ok, after) →
      ∃ qualifier range, temporalQualifier target true leading = .ok qualifier ∧
        decodeRange qualifier true = .ok range ∧ range.range = target ∧
        Sent .interval after index value.parts.isNull range.width
          (IntervalTakenBack value target qualifier) :=
  ⟨fun _ => sent_bindDate, fun _ _ => sent_bindDecimal,
    fun _ _ => sent_bindDatetime, fun _ _ _ => sent_bindInterval⟩

/-- The leap day, -12.30, 13:05:09.250 and minus 120 days, 7 hours and 5 minutes. -/
theorem nativeBinding_preserves_samples :
    let stmt := insertStatement [.zeroed]
    let room := fun _ => true
    (∃ bound payload,
      (stmt.bindDate room 0 (some ⟨2000, 2, 29, false⟩)).2.params[0]? =
        some bound ∧ Framed .date bound false ([0, 0] ++ payload) ∧
      payload.length = dateWireSize ∧ (false = false →
        ∀ out, decodeDate payload out = (.ok, ⟨2000, 2, 29, false⟩))) ∧
    (∃ type, Decimal.decodeType (DecimalTarget.descriptor ⟨5, 2, false⟩) =
        .ok type ∧
      Sent .decimal (stmt.bindDecimal room 0 (some Decimal.minusTwelveThirty)
        (some ⟨5, 2, false⟩)).2 0 false type.width
        (DecimalTakenBack Decimal.minusTwelveThirty
          (DecimalTarget.descriptor ⟨5, 2, false⟩))) ∧
    (∃ qualifier range, temporalQualifier ⟨4, 7, 3⟩ false 0 = .ok qualifier ∧
      decodeRange qualifier false = .ok range ∧ range.range = ⟨4, 7, 3⟩ ∧
      Sent .datetime (stmt.bindDatetime room 0 (some quarterPastNine)
        (some ⟨4, 7, 3⟩)).2 0 false range.width
        (DatetimeTakenBack quarterPastNine ⟨4, 7, 3⟩ qualifier)) ∧
    ∃ qualifier range, temporalQualifier ⟨3, 5, 0⟩ true 3 = .ok qualifier ∧
      decodeRange qualifier true = .ok range ∧ range.range = ⟨3, 5, 0⟩ ∧
      Sent .interval (stmt.bindInterval room 0 3 (some minusHundredTwentyDays)
        (some ⟨3, 5, 0⟩)).2 0 false range.width
        (IntervalTakenBack minusHundredTwentyDays ⟨3, 5, 0⟩ qualifier) := by
  intro stmt room
  refine ⟨?_, ?_, ?_, ?_⟩
  · exact (nativeBinding_preserves room stmt _ 0).1 ⟨2000, 2, 29, false⟩
      (Prod.ext (by decide +kernel) rfl)
  · exact (nativeBinding_preserves room stmt _ 0).2.1
      Decimal.minusTwelveThirty ⟨5, 2, false⟩
      (Prod.ext (by decide +kernel) rfl)
  · exact (nativeBinding_preserves room stmt _ 0).2.2.1 quarterPastNine
      ⟨4, 7, 3⟩ (Prod.ext (by decide +kernel) rfl)
  · exact (nativeBinding_preserves room stmt _ 0).2.2.2
      minusHundredTwentyDays ⟨3, 5, 0⟩ 3 (Prod.ext (by decide +kernel) rfl)

end Libsqli.Bind
