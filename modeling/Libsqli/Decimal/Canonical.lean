import Libsqli.Decimal.RoundTrip

namespace Libsqli.Decimal

open Libsqli.Base100
open Libsqli.Data.Radix

/-! Nonzero payloads. -/

theorem decode_payload (malloc : Nat → Bool) (out : Decimal)
    (hvalid : type.Valid) {value : Scientific}
    (hfits : Fits type value) (payload : Payload type value) :
    ∃ decoded extraZeros,
      decodeCoefficient malloc (encodeHeader value.negative payload.exponent)
        payload.codedGroups type out = (.ok, decoded) ∧
      decoded.parts.Denotes value extraZeros ∧
      (type.scale ≠ floatingScale → decoded.scale.toInt = type.scale) := by
  obtain ⟨hreading, hne, hhead, hpadding, hcount⟩ := payload.strip_spec
  obtain ⟨hsign, hexponent⟩ := header_encode_decode value.negative
    payload.exponent_min payload.exponent_max
  obtain ⟨extraZeros, htarget, htotal, hscale⟩ := targetScale_of_fits hfits
  have hplain := payload.plainGroups_eq
  have hdigits := hreading.digits_eq
  change value.digits = _ at hdigits
  have hle := hreading.digits_le
  have haligned := payload.aligned
  have hmin := payload.exponent_min
  have hmax := payload.exponent_max
  have hprecision := hvalid.precision_le
  simp only [Scientific.integralDigits] at haligned
  simp only [exponentMin, exponentMax, maxPrecision, maxCoefficientGroups] at *
  have hpower : ((stripGroups payload.groups).length : Int) * 2 -
      payload.exponent * 2 - dropLastZero (stripGroups payload.groups) =
        -value.power := by omega
  obtain ⟨decoded, hset, hdecoded, hdenotes⟩ :=
    setParts_decoded malloc out value.negative extraZeros (-value.power)
      hreading (by omega) (by omega) (by omega)
  refine ⟨decoded, extraZeros, ?_, ?_, ?_⟩
  · rw [decodeCoefficient_eq payload.codedGroups_lt (by rwa [hplain])
      (by rwa [hplain]) (by rwa [hplain]), hplain, hsign, hexponent, hpower,
      ← hdigits, htarget]
    exact hset
  · refine ⟨hdenotes.not_null, hdenotes.negative_eq, hdenotes.coefficient_eq, ?_⟩
    rw [← hdenotes.power_eq, neg_neg]
  · intro hfixed
    rw [hdecoded]
    exact hscale hfixed

/-- The bytes are the wire form of the value under the column type. -/
inductive Represents (type : WireType) (bytes : List UInt8) (value : Decimal) :
    Prop where
  | null
      (is_null : value.isNull = true)
      (bytes_eq : bytes = List.replicate type.width 0)
  | zero
      (not_null : value.isNull = false)
      (limbs_nil : value.parts.limbs = [])
      (bytes_eq : bytes = positiveFlag :: List.replicate (type.width - 1) 0)
  | nonzero (magnitude : Scientific) (zeros : Nat)
      (fits : Fits type magnitude)
      (payload : Payload type magnitude)
      (denotes : value.parts.Denotes magnitude zeros)
      (bytes_eq : bytes = payload.bytes)

theorem setI64_zero (malloc : Nat → Bool) (target : Int32) (out : Decimal) :
    ∃ decoded, setI64 malloc 0 target out = (.ok, decoded) ∧
      decoded.parts = ⟨[], target, false, false⟩ :=
  ⟨_, rfl, rfl⟩

theorem stripGroups_nil_iff (groups : List Nat) :
    stripGroups groups = [] ↔ ∀ group ∈ groups, group = 0 := by
  rw [stripGroups, List.rdropWhile_eq_nil_iff]
  simp

section ReceivedGroups

variable {received : List Nat} {type : WireType} {header : UInt8}
  {mantissa : Nat}

theorem headerExponent_min (header : UInt8) :
    exponentMin ≤ headerExponent header := (header_decode_encode header).2.1

theorem headerExponent_max (header : UInt8) :
    headerExponent header ≤ exponentMax := (header_decode_encode header).2.2

theorem received_padding (header : UInt8) (received : List Nat) :
    firstDigit (stripGroups (plainGroups header received)) ≤ 1 := by
  unfold firstDigit
  split <;> omega

theorem received_aligned
    (hreading : GroupsOf (stripGroups (plainGroups header received)) mantissa) :
    headerExponent header * 2 =
      (Nat.digits 10 mantissa).length +
        -((stripGroups (plainGroups header received)).length * 2 -
          headerExponent header * 2 -
          dropLastZero (stripGroups (plainGroups header received))) +
        firstDigit (stripGroups (plainGroups header received)) := by
  have hdigits := hreading.digits_eq
  have hle := hreading.digits_le
  omega

theorem length_received (hwidth : received.length = type.width - 1) :
    (plainGroups header received).length = type.width - 1 := by
  simpa using hwidth

theorem received_lt (hreceived : ∀ group ∈ received, group < radix) :
    ∀ group ∈ plainGroups header received, group < radix :=
  codeGroups_lt _ hreceived

theorem received_room (hwidth : received.length = type.width - 1)
    (hreading : GroupsOf (stripGroups (plainGroups header received)) mantissa) :
    firstDigit (stripGroups (plainGroups header received)) +
      (Nat.digits 10 mantissa).length ≤ 2 * (type.width - 1) := by
  have hdigits := hreading.digits_eq
  have hle := hreading.digits_le
  have hlength := (stripGroups_isPrefix (plainGroups header received)).length_le
  rw [length_codeGroups] at hlength
  omega

theorem received_value (hwidth : received.length = type.width - 1)
    (hreading : GroupsOf (stripGroups (plainGroups header received)) mantissa) :
    ofBigEndian radix (plainGroups header received) =
      mantissa * 10 ^ (2 * (type.width - 1) -
        (firstDigit (stripGroups (plainGroups header received)) +
          (Nat.digits 10 mantissa).length)) := by
  have hdigits := hreading.digits_eq
  have hle := hreading.digits_le
  have hlength := (stripGroups_isPrefix (plainGroups header received)).length_le
  rw [length_codeGroups] at hlength
  rw [stripGroups_value, hreading.value_eq, length_codeGroups, Nat.mul_assoc,
    ← pow_add]
  congr 2
  omega

theorem received_capacity
    (hreading : GroupsOf (stripGroups (plainGroups header received)) mantissa)
    (hcount : (stripGroups (plainGroups header received)).length ≤
      maxCoefficientGroups) :
    firstDigit (stripGroups (plainGroups header received)) +
      (Nat.digits 10 mantissa).length ≤ 2 * maxCoefficientGroups := by
  have hdigits := hreading.digits_eq
  have hle := hreading.digits_le
  omega

/-- The payload that a run of accepted nonzero groups spells out. -/
def receivedPayload
    (hreceived : ∀ group ∈ received, group < radix)
    (hwidth : received.length = type.width - 1)
    (hreading : GroupsOf (stripGroups (plainGroups header received)) mantissa)
    (hcount : (stripGroups (plainGroups header received)).length ≤
      maxCoefficientGroups) :
    Payload type ⟨headerNegative header, mantissa,
      -((stripGroups (plainGroups header received)).length * 2 -
        headerExponent header * 2 -
        dropLastZero (stripGroups (plainGroups header received))),
      hreading.normalized⟩ where
  exponent := headerExponent header
  padding := firstDigit (stripGroups (plainGroups header received))
  groups := plainGroups header received
  exponent_min := headerExponent_min header
  exponent_max := headerExponent_max header
  aligned := received_aligned hreading
  padding_le := received_padding header received
  length_groups := length_received hwidth
  groups_lt := received_lt hreceived
  room := received_room hwidth hreading
  groups_value := received_value hwidth hreading
  capacity := received_capacity hreading hcount

end ReceivedGroups

theorem decodeCoefficient_ok (hvalid : type.Valid) {received : List Nat}
    (hwidth : received.length = type.width - 1)
    (hdecode : decodeCoefficient malloc header received type out =
      (.ok, decoded)) :
    Represents type (header :: groupBytes received) decoded := by
  by_cases hrange : ∃ group ∈ received, radix ≤ group
  · simp [decodeCoefficient, if_pos hrange] at hdecode
  have hreceived : ∀ group ∈ received, group < radix := fun group member =>
    Nat.lt_of_not_le fun hle => hrange ⟨group, member, hle⟩
  by_cases hempty : stripGroups (plainGroups header received) = []
  · rw [decodeCoefficient, if_neg hrange] at hdecode
    simp only [hempty, List.length_nil, if_true] at hdecode
    by_cases hheader : header = positiveFlag
    · rw [if_neg (by simpa using hheader)] at hdecode
      obtain ⟨zero, hzero, hparts⟩ := setI64_zero malloc
        (if type.scale = floatingScale then 0 else Int32.ofNat type.scale) out
      obtain rfl : zero = decoded := by
        rw [hzero] at hdecode
        exact (Prod.mk.inj hdecode).2
      refine .zero (by rw [isNull, hparts]) (by rw [hparts]) ?_
      have hplain : plainGroups header received = received := by
        rw [plainGroups, hheader]
        rfl
      rw [hplain, stripGroups_nil_iff] at hempty
      rw [hheader, ← hwidth, List.eq_replicate_of_mem hempty,
        List.length_replicate]
      simp [groupBytes]
    · rw [if_pos (by simpa using hheader)] at hdecode
      cases hdecode
  by_cases hshape : maxCoefficientGroups <
      (stripGroups (plainGroups header received)).length ∨
        (stripGroups (plainGroups header received)).headD 0 = 0
  · rw [decodeCoefficient, if_neg hrange] at hdecode
    simp only at hdecode
    rw [if_neg (by simpa using hempty), if_pos hshape] at hdecode
    cases hdecode
  rw [not_or] at hshape
  obtain ⟨hcount, hhead⟩ := hshape
  obtain ⟨mantissa, hreading⟩ :=
    exists_groupsOf (codeGroups_lt _ hreceived) hempty hhead
  let payload := receivedPayload hreceived hwidth hreading (by omega)
  rw [decodeCoefficient_eq hreceived hempty (by omega) hhead] at hdecode
  split at hdecode
  · cases hdecode
  rename_i extraZeros scale htarget
  rw [← hreading.digits_eq, ← neg_neg (((stripGroups _).length : Int) * 2 -
    _ - _)] at htarget
  obtain ⟨hfits, hscale, htotal⟩ := fits_of_targetScale
    ⟨headerNegative header, mantissa, _, hreading.normalized⟩ htarget
  have hmin := payload.exponent_min
  have hmax := payload.exponent_max
  have haligned := payload.aligned
  have hpadding := payload.padding_le
  have hdigits := hreading.digits_eq
  have hprecision := hvalid.precision_le
  simp only [Scientific.integralDigits] at haligned
  simp only [Scientific.digits] at htotal haligned
  simp only [exponentMin, exponentMax, maxPrecision] at *
  obtain ⟨parsed, hset, -, hdenotes⟩ :=
    setParts_decoded malloc out (headerNegative header) extraZeros
      ((stripGroups (plainGroups header received)).length * 2 -
        headerExponent header * 2 -
        dropLastZero (stripGroups (plainGroups header received)))
      hreading (by omega) (by omega) (by omega)
  rw [hscale, neg_neg] at hdecode
  obtain rfl : parsed = decoded := by
    rw [hset] at hdecode
    exact (Prod.mk.inj hdecode).2
  refine .nonzero _ extraZeros hfits payload hdenotes ?_
  change header :: groupBytes received =
    encodeHeader (headerNegative header) (headerExponent header) ::
      groupBytes (plainGroups header (plainGroups header received))
  rw [(header_decode_encode header).1]
  exact congrArg (fun groups => header :: groupBytes groups)
    (codeGroups_involutive _ hreceived).symm

/-! Whole payloads. -/

theorem encodeParts_ok_iff :
    encodeParts value.parts type = .ok bytes ↔ Represents type bytes value := by
  constructor
  · intro hencode
    unfold encodeParts at hencode
    split at hencode
    · rename_i hnull
      exact .null hnull (Except.ok.inj hencode).symm
    rename_i hnull
    rw [Bool.not_eq_true] at hnull
    split at hencode
    · rename_i hlimbs
      exact .zero hnull (List.eq_nil_of_length_eq_zero hlimbs)
        (Except.ok.inj hencode).symm
    rename_i hlimbs
    obtain ⟨magnitude, hdenotes⟩ := value.wellformed.exists_denotes hnull
      fun hempty => hlimbs (by rw [hempty, List.length_nil])
    obtain ⟨hfits, payload, hpayload⟩ :=
      encodeCoefficient_sound value.wellformed hdenotes hencode
    exact .nonzero magnitude _ hfits payload hdenotes hpayload.symm
  · intro hrepresents
    unfold encodeParts
    cases hrepresents with
    | null is_null bytes_eq => rw [if_pos is_null, bytes_eq]
    | zero not_null limbs_nil bytes_eq =>
        rw [if_neg (by simpa using not_null), if_pos (by simp [limbs_nil]),
          bytes_eq]
    | nonzero magnitude zeros fits payload denotes bytes_eq =>
        rw [if_neg (by simp [denotes.not_null]),
          if_neg (by simpa using denotes.limbs_ne_nil), bytes_eq]
        exact encodeCoefficient_complete value.wellformed denotes fits payload

theorem encodeWire_ok_iff :
    encodeWire value descriptor capacity = .ok bytes ↔
      ∃ type, decodeType descriptor = .ok type ∧ type.width ≤ capacity ∧
        Represents type bytes value := by
  unfold encodeWire
  cases htype : decodeType descriptor with
  | error status => simp
  | ok type =>
      simp only [Except.ok.injEq, ← encodeParts_ok_iff, exists_eq_left']
      cases hparts : encodeParts value.parts type with
      | error status => simp
      | ok encoded =>
          by_cases hroom : capacity < type.width
          · simp only [if_pos hroom, reduceCtorEq, false_iff]
            omega
          · simp only [if_neg hroom]
            exact (and_iff_right (by omega)).symm

theorem decodeWire_represents
    (hdecode : decodeWire malloc bytes descriptor out = (.ok, decoded)) :
    ∃ type, decodeType descriptor = .ok type ∧ bytes.length = type.width ∧
      Represents type bytes decoded := by
  cases htype : decodeType descriptor with
  | error status =>
      simp only [decodeWire, htype, Prod.mk.injEq] at hdecode
      obtain ⟨rfl, -⟩ := hdecode
      simp only [decodeType] at htype
      split at htype <;> cases htype
  | ok type =>
      have hvalid := decodeType_valid htype
      simp only [decodeWire, htype] at hdecode
      by_cases hlength : bytes.length = type.width
      · rw [if_neg (by simpa using hlength)] at hdecode
        refine ⟨type, rfl, hlength, ?_⟩
        by_cases hzero : ∀ byte ∈ bytes, byte = 0
        · rw [if_pos hzero] at hdecode
          obtain rfl : null = decoded := (Prod.mk.inj hdecode).2
          exact .null rfl (hlength ▸ List.eq_replicate_of_mem hzero)
        · rw [if_neg hzero] at hdecode
          cases bytes with
          | nil => simp at hzero
          | cons header received =>
              have hcoefficient := decodeCoefficient_ok hvalid (by
                simp only [List.length_cons] at hlength
                simp
                omega) hdecode
              simpa using hcoefficient
      · rw [if_pos hlength] at hdecode
        cases hdecode

/-- The decoder refuses a payload in one way only. -/
theorem decodeCoefficient_status (hvalid : type.Valid) (malloc : Nat → Bool)
    (header : UInt8) (received : List Nat) (out : Decimal) :
    (decodeCoefficient malloc header received type out).1 = .ok ∨
      (decodeCoefficient malloc header received type out).1 = .protoError := by
  by_cases hrange : ∃ group ∈ received, radix ≤ group
  · rw [decodeCoefficient, if_pos hrange]
    exact .inr rfl
  have hreceived : ∀ group ∈ received, group < radix := fun group member =>
    Nat.lt_of_not_le fun hle => hrange ⟨group, member, hle⟩
  by_cases hempty : stripGroups (plainGroups header received) = []
  · rw [decodeCoefficient, if_neg hrange]
    simp only [hempty, List.length_nil, if_true]
    split
    · exact .inr rfl
    · obtain ⟨zero, hzero, -⟩ := setI64_zero malloc
        (if type.scale = floatingScale then 0 else Int32.ofNat type.scale) out
      rw [hzero]
      exact .inl rfl
  by_cases hshape : maxCoefficientGroups <
      (stripGroups (plainGroups header received)).length ∨
        (stripGroups (plainGroups header received)).headD 0 = 0
  · rw [decodeCoefficient, if_neg hrange]
    simp only
    rw [if_neg (by simpa using hempty), if_pos hshape]
    exact .inr rfl
  rw [not_or] at hshape
  obtain ⟨mantissa, hreading⟩ : ∃ mantissa,
      GroupsOf (stripGroups (plainGroups header received)) mantissa :=
    exists_groupsOf (codeGroups_lt _ hreceived) hempty hshape.2
  have hdrop : dropLastZero (stripGroups (plainGroups header received)) ≤ 1 := by
    unfold dropLastZero
    split <;> omega
  rw [decodeCoefficient_eq hreceived hempty (by omega) hshape.2]
  split
  · exact .inr rfl
  rename_i extraZeros scale htarget
  rw [← hreading.digits_eq, ← neg_neg (((stripGroups _).length : Int) * 2 -
    _ - _)] at htarget
  obtain ⟨-, hscale, htotal⟩ := fits_of_targetScale
    ⟨headerNegative header, mantissa, _, hreading.normalized⟩ htarget
  obtain ⟨-, hmin, hmax⟩ := header_decode_encode header
  have hdigits := hreading.digits_eq
  have hprecision := hvalid.precision_le
  simp only [Scientific.digits] at htotal
  simp only [exponentMin, exponentMax, maxPrecision, maxCoefficientGroups] at *
  obtain ⟨parsed, hset, -, -⟩ :=
    setParts_decoded malloc out (headerNegative header) extraZeros
      ((stripGroups (plainGroups header received)).length * 2 -
        headerExponent header * 2 -
        dropLastZero (stripGroups (plainGroups header received)))
      hreading (by omega) (by omega) (by omega)
  rw [hscale, neg_neg, hset]
  exact .inl rfl

theorem decodeWire_status (malloc : Nat → Bool) (bytes : List UInt8)
    (descriptor : UInt16) (out : Decimal) :
    (decodeWire malloc bytes descriptor out).1 = .ok ∨
      (decodeWire malloc bytes descriptor out).1 = .protoError := by
  unfold decodeWire
  cases htype : decodeType descriptor with
  | error status =>
      right
      simp only [decodeType] at htype
      split at htype
      · cases htype
        rfl
      · cases htype
  | ok type =>
      dsimp only
      split
      · exact .inr rfl
      · split
        · exact .inl rfl
        · exact decodeCoefficient_status (decodeType_valid htype) _ _ _ _

theorem represents_length (hvalid : type.Valid)
    (hrepresents : Represents type bytes value) : bytes.length = type.width := by
  have hwidth := hvalid.width_pos
  cases hrepresents with
  | null _ bytes_eq => simp [bytes_eq]
  | zero _ _ bytes_eq =>
      simp [bytes_eq]
      omega
  | nonzero _ _ _ payload _ bytes_eq =>
      simp [bytes_eq, Payload.bytes]
      omega

theorem number_of_limbs_nil {parts : Parts} (hlimbs : parts.limbs = []) :
    parts.number = 0 := by
  simp [Parts.number, Parts.coefficient, hlimbs]

theorem Parts.Wellformed.number_null {parts : Parts}
    (hwellformed : parts.Wellformed) (hnull : parts.isNull = true) :
    parts.number = 0 :=
  number_of_limbs_nil (hwellformed.null_cleared hnull).1

theorem decodeWire_of_represents (malloc : Nat → Bool) (out : Decimal)
    (htype : decodeType descriptor = .ok type)
    (hrepresents : Represents type bytes value) :
    ∃ decoded, decodeWire malloc bytes descriptor out = (.ok, decoded) ∧
      decoded.isNull = value.isNull ∧ decoded.number = value.number ∧
      (value.isNull = false → type.scale ≠ floatingScale →
        decoded.scale.toInt = type.scale) := by
  have hvalid := decodeType_valid htype
  have hlength := represents_length hvalid hrepresents
  have hopen : decodeWire malloc bytes descriptor out =
      if ∀ byte ∈ bytes, byte = 0 then setNull out
      else decodeCoefficient malloc (bytes.headD 0) (byteGroups bytes.tail)
        type out := by
    rw [decodeWire, htype]
    simp only
    rw [if_neg (by simpa using hlength)]
  rw [hopen]
  cases hrepresents with
  | null is_null bytes_eq =>
      rw [if_pos (by simp [bytes_eq])]
      refine ⟨null, rfl, is_null.symm, ?_, fun hnot => ?_⟩
      · rw [number, number, value.wellformed.number_null is_null,
          null.wellformed.number_null rfl]
      · rw [is_null] at hnot
        cases hnot
  | zero not_null limbs_nil bytes_eq =>
      obtain ⟨zero, hzero, hparts⟩ := setI64_zero malloc
        (if type.scale = floatingScale then 0 else Int32.ofNat type.scale) out
      have hgroups : byteGroups (List.replicate (type.width - 1) 0) =
          List.replicate (type.width - 1) 0 := by
        simp [byteGroups]
      have hstrip : stripGroups
          (plainGroups positiveFlag (List.replicate (type.width - 1) 0)) = [] := by
        rw [stripGroups_nil_iff]
        intro group member
        exact List.eq_of_mem_replicate member
      refine ⟨zero, ?_, ?_, ?_, ?_⟩
      · rw [if_neg (by simp [bytes_eq, positiveFlag]), bytes_eq]
        simp only [List.headD_cons, List.tail_cons, hgroups]
        rw [decodeCoefficient, if_neg (by simp [radix])]
        simp only [hstrip, List.length_nil, if_true, ne_eq, not_true_eq_false,
          if_false]
        exact hzero
      · rw [isNull, hparts, not_null]
      · rw [number, number, number_of_limbs_nil limbs_nil,
          number_of_limbs_nil (by rw [hparts])]
      · intro _ hfixed
        have hscale := hvalid.scale_le
        rw [scale, hparts]
        simp only [if_neg hfixed]
        exact Int32.toInt_ofNat_of_lt (by omega)
  | nonzero magnitude zeros fits payload denotes bytes_eq =>
      obtain ⟨decoded, extraZeros, hdecode, hdenotes, hscale⟩ :=
        decode_payload malloc out hvalid fits payload
      refine ⟨decoded, ?_, ?_, ?_, fun _ => hscale⟩
      · have hnonzero : ¬ ∀ byte ∈ bytes, byte = 0 := by
          intro hall
          have hvalue := payload.codedGroups_value_pos
          rw [← byteGroups_groupBytes payload.codedGroups_lt] at hvalue
          refine absurd ((ofBigEndian_eq_zero_iff (by decide)).mpr ?_)
            (Nat.ne_of_gt hvalue)
          intro group member
          obtain ⟨byte, hbyte, rfl⟩ := List.mem_map.mp member
          rw [hall byte (by
            rw [bytes_eq]
            exact List.mem_cons_of_mem _ hbyte)]
          rfl
        rw [if_neg hnonzero, bytes_eq]
        simp only [Payload.bytes, List.headD_cons, List.tail_cons,
          byteGroups_groupBytes payload.codedGroups_lt]
        exact hdecode
      · rw [isNull, isNull, hdenotes.not_null, denotes.not_null]
      · rw [number, number, hdenotes.number_eq, denotes.number_eq]

/-- The wire form depends on the number alone. -/
theorem represents_unique (hleft : Represents type leftBytes left)
    (hright : Represents type rightBytes right)
    (hnull : left.isNull = right.isNull) (hnumber : left.number = right.number) :
    leftBytes = rightBytes := by
  cases hleft with
  | null is_null bytes_eq =>
      rw [is_null] at hnull
      cases hright with
      | null _ other_eq => rw [bytes_eq, other_eq]
      | zero not_null => simp [not_null] at hnull
      | nonzero _ _ _ _ denotes =>
          rw [isNull, denotes.not_null] at hnull
          cases hnull
  | zero not_null limbs_nil bytes_eq =>
      rw [number, number_of_limbs_nil limbs_nil] at hnumber
      cases hright with
      | null is_null => simp [not_null, is_null] at hnull
      | zero _ _ other_eq => rw [bytes_eq, other_eq]
      | nonzero magnitude _ _ _ denotes =>
          rw [number, denotes.number_eq] at hnumber
          exact absurd hnumber.symm magnitude.number_ne_zero
  | nonzero magnitude _ _ payload denotes bytes_eq =>
      rw [number, denotes.number_eq] at hnumber
      cases hright with
      | null is_null =>
          rw [is_null, isNull, denotes.not_null] at hnull
          cases hnull
      | zero _ limbs_nil =>
          rw [number, number_of_limbs_nil limbs_nil] at hnumber
          exact absurd hnumber magnitude.number_ne_zero
      | nonzero other _ _ otherPayload otherDenotes other_eq =>
          rw [number, otherDenotes.number_eq] at hnumber
          obtain rfl := Scientific.number_injective hnumber
          rw [bytes_eq, other_eq, Payload.bytes_unique]

theorem decimalWire_canonical (malloc : Nat → Bool) (descriptor : UInt16) :
    (∀ value capacity bytes out,
      encodeWire value descriptor capacity = .ok bytes →
        ∃ decoded, decodeWire malloc bytes descriptor out = (.ok, decoded) ∧
          decoded.isNull = value.isNull ∧ decoded.number = value.number ∧
          ∀ type, decodeType descriptor = .ok type →
            value.isNull = false → type.scale ≠ floatingScale →
              decoded.scale.toInt = type.scale) ∧
    (∀ bytes out decoded capacity,
      decodeWire malloc bytes descriptor out = (.ok, decoded) →
        bytes.length ≤ capacity →
          encodeWire decoded descriptor capacity = .ok bytes) ∧
    ∀ leftBytes rightBytes leftOut rightOut left right,
      decodeWire malloc leftBytes descriptor leftOut = (.ok, left) →
        decodeWire malloc rightBytes descriptor rightOut = (.ok, right) →
          left.isNull = right.isNull → left.number = right.number →
            leftBytes = rightBytes := by
  refine ⟨?_, ?_, ?_⟩
  · intro value capacity bytes out hencode
    obtain ⟨type, htype, -, hrepresents⟩ := encodeWire_ok_iff.mp hencode
    obtain ⟨decoded, hdecode, hnull, hnumber, hscale⟩ :=
      decodeWire_of_represents malloc out htype hrepresents
    refine ⟨decoded, hdecode, hnull, hnumber, ?_⟩
    intro other hother
    obtain rfl : type = other := Except.ok.inj (htype.symm.trans hother)
    exact hscale
  · intro bytes out decoded capacity hdecode hcapacity
    obtain ⟨type, htype, hlength, hrepresents⟩ := decodeWire_represents hdecode
    exact encodeWire_ok_iff.mpr
      ⟨type, htype, hlength ▸ hcapacity, hrepresents⟩
  · intro leftBytes rightBytes leftOut rightOut left right hleft hright
    obtain ⟨type, htype, -, hleftForm⟩ := decodeWire_represents hleft
    obtain ⟨other, hother, -, hrightForm⟩ := decodeWire_represents hright
    obtain rfl : type = other := Except.ok.inj (htype.symm.trans hother)
    exact represents_unique hleftForm hrightForm

/-- `-12.30` as a DECIMAL(5,2) column stores it. -/
def minusTwelveThirty : Decimal where
  parts := ⟨[1230], 2, true, false⟩
  wellformed := by constructor <;> decide +kernel

theorem decimalWire_canonical_minusTwelveThirty :
    (∃ decoded,
      decodeWire (fun _ => false) [0x3e, 0x57, 0x46, 0x00] 0x0502 null =
        (.ok, decoded) ∧
      decoded.isNull = false ∧ decoded.number = minusTwelveThirty.number ∧
      decoded.scale.toInt = 2) ∧
    encodeWire minusTwelveThirty 0x0502 4 = .ok [0x3e, 0x57, 0x46, 0x00] ∧
    ([0x3e, 0x57, 0x46, 0x00] : List UInt8) = [62, 87, 70, 0] := by
  obtain ⟨hencoded, hdecoded, hunique⟩ :=
    decimalWire_canonical (fun _ => false) 0x0502
  refine ⟨?_, ?_, ?_⟩
  · obtain ⟨decoded, hdecode, hnull, hnumber, hscale⟩ :=
      hencoded minusTwelveThirty 18 [0x3e, 0x57, 0x46, 0x00] null
        (by decide +kernel)
    exact ⟨decoded, hdecode, hnull, hnumber,
      hscale ⟨5, 2, 4⟩ (by decide) rfl (by decide)⟩
  · exact hdecoded [0x3e, 0x57, 0x46, 0x00] null minusTwelveThirty 4
      (by decide +kernel) (by decide)
  · exact hunique _ _ null null minusTwelveThirty minusTwelveThirty
      (by decide +kernel) (by decide +kernel) rfl rfl

end Libsqli.Decimal
