import Libsqli.Receive.Descriptor

namespace Libsqli.Receive

open Libsqli.Data.Bytes
open Libsqli.Data.Program
open Libsqli.Data.Stream

variable {sizes : Sizes} {malloc : Nat → Bool} {caps : Capabilities}
  {extended : Bool} {certain : Prop} {own : Drafting} {field : Field}
  {fields : List Field} {describe : Describe} {bytes names later : List UInt8}

/-! A DESCRIBE on the wire. -/

def stringBytes (bytes : List UInt8) : List UInt8 :=
  bigEndian 2 bytes.length ++ padEven bytes

def extensionBytes (field : Field) : List UInt8 :=
  bigEndian 4 field.extendedInfo.toNat ++
    (stringBytes field.typeOwner ++
      (stringBytes field.typeName ++
        (bigEndian 2 field.reference.toNat ++
          (bigEndian 2 field.alignment.toNat ++
            (bigEndian 4 field.sourceType.toNat ++
              bigEndian 4 field.encodedLength.toNat)))))

def fieldBytes (extended : Bool) (field : Field) : List UInt8 :=
  bigEndian 4 field.fieldIndex.toNat ++
    (bigEndian 4 field.tupleOffset.toNat ++
      (bigEndian 2 field.typeRaw.toNat ++
        (if extended = false then bigEndian 2 field.encodedLength.toNat
          else extensionBytes field)))

def describeBytes (extended : Bool) (describe : Describe) : List UInt8 :=
  bigEndian 2 describe.statementType.toNat ++
    (bigEndian 2 describe.statementId.toNat ++
      (bigEndian 4 describe.cost.toNat ++
        (bigEndian 2 describe.tupleSize.toNat ++
          (bigEndian 2 describe.fields.length ++
            (bigEndian (if extended then 4 else 2) describe.names.length ++
              (describe.fields.flatMap (fieldBytes extended) ++
                padEven describe.names))))))

/-- What the layout has room for; without the extension its members are zero. -/
structure Field.Fits (extended : Bool) (field : Field) : Prop where
  typeOwner_lt : field.typeOwner.length < 65536
  typeName_lt : field.typeName.length < 65536
  standard : extended = false → field =
    ⟨field.fieldIndex, field.tupleOffset, field.typeRaw,
      .ofNat (field.encodedLength.toNat % 65536), 0, [], [], 0, 0, 0⟩

structure Describe.Fits (extended : Bool) (describe : Describe) : Prop where
  fields_lt : describe.fields.length < 65536
  field_fits : ∀ field ∈ describe.fields, field.Fits extended
  names_lt : describe.names.length < 256 ^ (if extended then 4 else 2)

def Field.stringsLength (field : Field) : Nat :=
  field.typeOwner.length + field.typeName.length

def Describe.stringsLength (describe : Describe) : Nat :=
  (describe.fields.map Field.stringsLength).sum + describe.names.length

/-- The octets that its descriptor retains. -/
def Describe.retainedSize (sizes : Sizes) (describe : Describe) : Nat :=
  sizes.descriptor + describe.fields.length * sizes.field +
    describe.stringsLength

/-- Every allocation succeeds, and there is room for `count` more octets. -/
structure Roomy (malloc : Nat → Bool) (own : Drafting) (count : Nat) :
    Prop where
  granted : ∀ size, malloc size = true
  within : own.retainedBytes + count ≤ descriptorMaxBytes

def Drafting.retain (own : Drafting) (count : Nat) : Drafting :=
  { own with retainedBytes := own.retainedBytes + count }

@[simp] theorem retain_retain (own : Drafting) (first second : Nat) :
    (own.retain first).retain second = own.retain (first + second) := by
  simp [Drafting.retain, Nat.add_assoc]

@[simp] theorem retain_zero (own : Drafting) : own.retain 0 = own := rfl

theorem Roomy.retain {more count : Nat} (hroom : Roomy malloc own count)
    {rest : Nat} (hrest : more + rest ≤ count) :
    Roomy malloc (own.retain more) rest :=
  ⟨hroom.granted, by
    have := hroom.within
    simp only [Drafting.retain]
    omega⟩

/-! The readers of the parts. -/

theorem attempts_allocBytes {length : Nat}
    (hroom : certain → Roomy malloc own length) :
    Attempts certain (allocBytes malloc length) [] own ()
      (own.retain length) := by
  apply Attempts.onOwn
  by_cases hlimit : descriptorMaxBytes - own.retainedBytes < length
  · right
    refine ⟨fun h => ?_, .limitExceeded, if_pos hlimit⟩
    have := (hroom h).within
    omega
  · by_cases hmalloc : length ≠ 0 ∧ malloc length = false
    · right
      refine ⟨fun h => ?_, .allocFail, by rw [if_neg hlimit, if_pos hmalloc]⟩
      rw [(hroom h).granted length] at hmalloc
      exact absurd hmalloc.2 (by decide)
    · left
      rw [if_neg hlimit, if_neg hmalloc]
      rfl

theorem takes_word {width value : Nat} (hvalue : value < 256 ^ width) :
    Takes (word width) (bigEndian width value) value :=
  Takes.readNatural hvalue

theorem takes_paddedOctets (bytes : List UInt8) :
    Takes (paddedOctets bytes.length) (padEven bytes) bytes :=
  (Takes.readExact rfl).bind <|
    (Takes.readExact List.length_replicate).then (Takes.pure bytes)

theorem attempts_receiveString (hlength : bytes.length < 65536)
    (hroom : certain → Roomy malloc own bytes.length) :
    Attempts certain (receiveString malloc) (stringBytes bytes) own bytes
      (own.retain bytes.length) := by
  refine ((takes_word hlength).attempts own).bind ?_
  exact (attempts_allocBytes hroom).bind
    ((takes_paddedOctets bytes).attempts _)

theorem takes_receiveLength {length : Nat} (hlength : length < 65536)
    (field : Field) :
    Takes (receiveLength field) (bigEndian 2 length)
      { field with encodedLength := .ofNat length } :=
  (takes_word hlength).then (Takes.pure _)

theorem attempts_receiveExtension (hfits : field.Fits true) (plain : Field)
    (hroom : certain → Roomy malloc own field.stringsLength) :
    Attempts certain (receiveExtension malloc plain) (extensionBytes field)
      own
      { field with
        fieldIndex := plain.fieldIndex
        tupleOffset := plain.tupleOffset
        typeRaw := plain.typeRaw }
      (own.retain field.stringsLength) := by
  have howner : certain → Roomy malloc own field.typeOwner.length :=
    fun h => ⟨(hroom h).granted, by
      have := (hroom h).within
      simp only [Field.stringsLength] at this
      omega⟩
  have hname : certain → Roomy malloc (own.retain field.typeOwner.length)
      field.typeName.length :=
    fun h => (hroom h).retain (Nat.le_refl _)
  have hstrings := retain_retain own field.typeOwner.length
    field.typeName.length
  unfold Field.stringsLength
  rw [← hstrings]
  refine ((takes_word field.extendedInfo.toNat_lt).attempts own).bind ?_
  refine (attempts_receiveString hfits.typeOwner_lt howner).bind ?_
  refine (attempts_receiveString hfits.typeName_lt hname).bind ?_
  refine ((takes_word field.reference.toNat_lt).attempts _).bind ?_
  refine ((takes_word field.alignment.toNat_lt).attempts _).bind ?_
  refine ((takes_word field.sourceType.toNat_lt).attempts _).bind ?_
  refine ((takes_word field.encodedLength.toNat_lt).attempts _).then ?_
  simp only [UInt32.ofNat_toNat, UInt16.ofNat_toNat]
  exact Attempts.pure _

theorem attempts_receiveField (hfits : field.Fits extended)
    (hroom : certain → Roomy malloc own field.stringsLength) :
    Attempts certain (receiveField malloc extended) (fieldBytes extended field)
      own field (own.retain field.stringsLength) := by
  refine ((takes_word field.fieldIndex.toNat_lt).attempts own).bind ?_
  refine ((takes_word field.tupleOffset.toNat_lt).attempts own).bind ?_
  refine ((takes_word field.typeRaw.toNat_lt).attempts own).bind ?_
  simp only [UInt32.ofNat_toNat, UInt16.ofNat_toNat]
  cases extended with
  | true => exact attempts_receiveExtension hfits _ hroom
  | false =>
      have hlength : field.encodedLength.toNat < 65536 := by
        have hstandard := congrArg (fun field => field.encodedLength.toNat)
          (hfits.standard rfl)
        simp only [UInt32.toNat_ofNat'] at hstandard
        omega
      have hfield := hfits.standard rfl
      have hnone : field.stringsLength = 0 := by
        rw [hfield]
        rfl
      rw [Nat.mod_eq_of_lt hlength] at hfield
      rw [hnone, retain_zero]
      have htakes := takes_receiveLength hlength ⟨field.fieldIndex,
        field.tupleOffset, field.typeRaw, 0, 0, [], [], 0, 0, 0⟩
      rw [← hfield] at htakes
      exact htakes.attempts own

theorem attempts_receiveFields
    (hfits : ∀ field ∈ fields, Field.Fits extended field)
    (hroom : certain →
      Roomy malloc own (fields.map Field.stringsLength).sum) :
    Attempts certain (receiveFields malloc extended fields.length)
      (fields.flatMap (fieldBytes extended)) own fields
      (own.retain (fields.map Field.stringsLength).sum) := by
  induction fields generalizing own with
  | nil => exact Attempts.pure []
  | cons field fields ih =>
      rw [List.map_cons, List.sum_cons] at hroom ⊢
      rw [List.forall_mem_cons] at hfits
      have hfield := @attempts_receiveField malloc extended certain own field
        hfits.1 fun h => ⟨(hroom h).granted, by
          have := (hroom h).within
          omega⟩
      have hrest := @ih (own.retain field.stringsLength) hfits.2
        fun h => (hroom h).retain (Nat.le_refl _)
      rw [← retain_retain]
      exact hfield.bind (hrest.then (Attempts.pure _))

theorem attempts_receiveNames (hroom : certain → Roomy malloc own names.length) :
    Attempts certain (receiveNames malloc names.length) (padEven names) own
      names (own.retain names.length) :=
  (attempts_allocBytes hroom).bind ((takes_paddedOctets names).attempts _)

/-- Room for a descriptor, as its reader asks for it. -/
structure Afforded (sizes : Sizes) (malloc : Nat → Bool)
    (describe : Describe) : Prop where
  granted : ∀ size, malloc size = true
  within : describe.retainedSize sizes ≤ descriptorMaxBytes

def Drafting.restart (own : Drafting) (count : Nat) : Drafting :=
  { own with retainedBytes := count }

theorem attempts_createDescriptor (hcount : fields.length < 65536)
    (hgranted : certain → ∀ size, malloc size = true)
    (hwithin : certain → sizes.descriptor + fields.length * sizes.field ≤
      descriptorMaxBytes) :
    Attempts certain (createDescriptor sizes malloc fields.length) [] own ()
      (own.restart (sizes.descriptor + fields.length * sizes.field)) := by
  apply Attempts.onOwn
  by_cases hlimit : 65535 < fields.length ∨
      (descriptorMaxBytes - sizes.descriptor) / sizes.field < fields.length
  · right
    refine ⟨fun h => ?_, .limitExceeded, if_pos hlimit⟩
    rcases hlimit with hmany | hmany
    · omega
    · rw [Nat.div_lt_iff_lt_mul sizes.field_pos] at hmany
      have := hwithin h
      omega
  · by_cases hdescriptor : malloc sizes.descriptor = false
    · right
      refine ⟨fun h => ?_, .allocFail,
        by rw [if_neg hlimit, if_pos hdescriptor]⟩
      rw [hgranted h] at hdescriptor
      cases hdescriptor
    · by_cases hfields : fields.length ≠ 0 ∧
          malloc (fields.length * sizes.field) = false
      · right
        refine ⟨fun h => ?_, .allocFail,
          by rw [if_neg hlimit, if_neg hdescriptor, if_pos hfields]⟩
        rw [hgranted h] at hfields
        exact absurd hfields.2 (by decide)
      · left
        rw [if_neg hlimit, if_neg hdescriptor, if_neg hfields]
        rfl

theorem attempts_receiveDraft (hfits : describe.Fits extended)
    (hafforded : certain → Afforded sizes malloc describe) :
    Attempts certain (receiveDraft sizes malloc extended)
      (describeBytes extended describe) own describe
      (own.restart (describe.retainedSize sizes)) := by
  have hcreate := @attempts_createDescriptor sizes malloc certain own
    describe.fields hfits.fields_lt (fun h => (hafforded h).granted) fun h => by
      have := (hafforded h).within
      simp only [Describe.retainedSize] at this
      omega
  have hfields := @attempts_receiveFields malloc extended certain
    (own.restart (sizes.descriptor + describe.fields.length * sizes.field))
    describe.fields hfits.field_fits fun h => ⟨(hafforded h).granted, by
      have := (hafforded h).within
      simp only [Describe.retainedSize, Describe.stringsLength] at this
      simp only [Drafting.restart]
      omega⟩
  have hnames := @attempts_receiveNames malloc certain
    ((own.restart (sizes.descriptor + describe.fields.length * sizes.field)).retain
      (describe.fields.map Field.stringsLength).sum) describe.names
    fun h => ⟨(hafforded h).granted, by
      have := (hafforded h).within
      simp only [Describe.retainedSize, Describe.stringsLength] at this
      simp only [Drafting.restart, Drafting.retain]
      omega⟩
  have hafter : ((own.restart
      (sizes.descriptor + describe.fields.length * sizes.field)).retain
        (describe.fields.map Field.stringsLength).sum).retain
          describe.names.length =
      own.restart (describe.retainedSize sizes) := by
    simp [Drafting.restart, Drafting.retain, Describe.retainedSize,
      Describe.stringsLength, Nat.add_assoc]
  refine ((takes_word describe.statementType.toNat_lt).attempts own).bind ?_
  refine ((takes_word describe.statementId.toNat_lt).attempts own).bind ?_
  refine ((takes_word describe.cost.toNat_lt).attempts own).bind ?_
  refine ((takes_word describe.tupleSize.toNat_lt).attempts own).bind ?_
  refine ((takes_word hfits.fields_lt).attempts own).bind ?_
  refine ((takes_word hfits.names_lt).attempts own).bind ?_
  by_cases hlimit : descriptorMaxBytes < describe.names.length
  · rw [if_pos hlimit]
    refine fun rest => .inr ⟨fun h => ?_, .limitExceeded, _, rfl⟩
    have := (hafforded h).within
    simp only [Describe.retainedSize, Describe.stringsLength] at this
    omega
  · rw [if_neg hlimit]
    refine (List.nil_append _) ▸ hcreate.bind (hfields.bind ?_)
    refine (hnames.then ?_)
    rw [hafter]
    simp only [UInt32.ofNat_toNat, UInt16.ofNat_toNat]
    exact Attempts.pure _

end Libsqli.Receive
