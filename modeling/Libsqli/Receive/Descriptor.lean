import Libsqli.Data.Stream
import Libsqli.Receive.Message
import Libsqli.Status

namespace Libsqli.Receive

open Libsqli.Data.Stream

/-! `sqli_descriptor.c`: the descriptor that a DESCRIBE becomes. -/

/-- `SQLI_DESCRIPTOR_MAX_BYTES` -/
def descriptorMaxBytes : Nat := 16 * 1024 * 1024

def sizeMax : Nat := 2 ^ 64 - 1

/-- The sizes of the structures, in octets. -/
structure Sizes where
  descriptor : Nat
  field : Nat
  column : Nat
  descriptor_le : descriptor ≤ descriptorMaxBytes
  field_pos : 0 < field
  columns_le : 65535 ≤ sizeMax / column

structure Descriptor where
  extended : Bool
  describe : Describe
  /-- one for each field; `none` is a name that is not available -/
  fieldNames : List (Option (List UInt8))
  retainedBytes : Nat

/-- The octets that the descriptor under construction retains, and what is
published. -/
structure Drafting where
  retainedBytes : Nat
  published : Option Descriptor
  result : Result

abbrev DescribeReader := Reading Status Drafting

/-- `sqli_descriptor_create`; `malloc` says which sizes can be had. -/
def createDescriptor (sizes : Sizes) (malloc : Nat → Bool) (count : Nat) :
    DescribeReader Unit :=
  onOwn fun own =>
    if 65535 < count ∨
        (descriptorMaxBytes - sizes.descriptor) / sizes.field < count then
      .error .limitExceeded
    else if malloc sizes.descriptor = false then .error .allocFail
    else if count ≠ 0 ∧ malloc (count * sizes.field) = false then
      .error .allocFail
    else .ok ((), { own with
      retainedBytes := sizes.descriptor + count * sizes.field })

/-- `sqli_descriptor_alloc_bytes` -/
def allocBytes (malloc : Nat → Bool) (length : Nat) : DescribeReader Unit :=
  onOwn fun own =>
    if descriptorMaxBytes - own.retainedBytes < length then
      .error .limitExceeded
    else if length ≠ 0 ∧ malloc length = false then .error .allocFail
    else .ok ((), { own with retainedBytes := own.retainedBytes + length })

/-- `sqli_descriptor_assign_names` -/
def assignFieldNames : Nat → List UInt8 → Option (List (Option (List UInt8)))
  | 0, _ => some []
  | fields + 1, [] => some (List.replicate (fields + 1) none)
  | fields + 1, names =>
      match names.idxOf? 0 with
      | none => none
      | some length =>
          (assignFieldNames fields (names.drop (length + 1))).map
            (some (names.take length) :: ·)

/-! `receive_describe` -/

def word (width : Nat) : DescribeReader Nat := readNatural .ioError width

/-- Octets and, if their number is odd, one more. -/
def paddedOctets (length : Nat) : DescribeReader (List UInt8) := do
  let bytes ← readExact .ioError length
  let _padding ← readExact .ioError (length % 2)
  return bytes

/-- `receive_descriptor_string` -/
def receiveString (malloc : Nat → Bool) : DescribeReader (List UInt8) := do
  let length ← word 2
  allocBytes malloc length
  paddedOctets length

def receiveLength (field : Field) : DescribeReader Field := do
  let length ← word 2
  return { field with encodedLength := .ofNat length }

def receiveExtension (malloc : Nat → Bool) (field : Field) :
    DescribeReader Field := do
  let extendedInfo ← word 4
  let typeOwner ← receiveString malloc
  let typeName ← receiveString malloc
  let reference ← word 2
  let alignment ← word 2
  let sourceType ← word 4
  let encodedLength ← word 4
  return { field with
    extendedInfo := .ofNat extendedInfo
    typeOwner := typeOwner
    typeName := typeName
    reference := .ofNat reference
    alignment := .ofNat alignment
    sourceType := .ofNat sourceType
    encodedLength := .ofNat encodedLength }

/-- `receive_descriptor_field` -/
def receiveField (malloc : Nat → Bool) (extended : Bool) :
    DescribeReader Field := do
  let fieldIndex ← word 4
  let tupleOffset ← word 4
  let typeRaw ← word 2
  let field : Field :=
    ⟨.ofNat fieldIndex, .ofNat tupleOffset, .ofNat typeRaw, 0, 0, [], [], 0, 0, 0⟩
  if extended = false then receiveLength field
  else receiveExtension malloc field

def receiveFields (malloc : Nat → Bool) (extended : Bool) :
    Nat → DescribeReader (List Field)
  | 0 => return []
  | count + 1 => do
      let field ← receiveField malloc extended
      let fields ← receiveFields malloc extended count
      return field :: fields

def receiveNames (malloc : Nat → Bool) (length : Nat) :
    DescribeReader (List UInt8) := do
  allocBytes malloc length
  paddedOctets length

/-- The message, read into a descriptor of its own. -/
def receiveDraft (sizes : Sizes) (malloc : Nat → Bool) (extended : Bool) :
    DescribeReader Describe := do
  let statementType ← word 2
  let statementId ← word 2
  let cost ← word 4
  let tupleSize ← word 2
  let count ← word 2
  let namesLength ← word (if extended then 4 else 2)
  if descriptorMaxBytes < namesLength then throw .limitExceeded
  else
    createDescriptor sizes malloc count
    let fields ← receiveFields malloc extended count
    let names ← receiveNames malloc namesLength
    return ⟨.ofNat statementType, .ofNat statementId, .ofNat cost,
      .ofNat tupleSize, fields, names⟩

/-- Room for the columns that the fields become. -/
def allocColumns (sizes : Sizes) (malloc : Nat → Bool) (count : Nat) :
    DescribeReader Unit :=
  onOwn fun own =>
    if count ≠ 0 ∧ sizeMax / sizes.column < count then .error .limitExceeded
    else if count ≠ 0 ∧ malloc (count * sizes.column) = false then
      .error .allocFail
    else .ok ((), own)

def publish (caps : Capabilities) (describe : Describe)
    (names : List (Option (List UInt8))) : DescribeReader Unit :=
  onOwn fun own =>
    .ok ((), { own with
      published := some
        ⟨caps.extendedDescribe, describe, names, own.retainedBytes⟩
      result := replaceDescriptor caps describe own.result })

/-- Nothing is replaced before the names are assigned and the columns made. -/
def finishDescribe (sizes : Sizes) (malloc : Nat → Bool) (caps : Capabilities)
    (describe : Describe) : DescribeReader Unit :=
  match assignFieldNames describe.fields.length describe.names with
  | none => throw .protoError
  | some names => do
      allocColumns sizes malloc describe.fields.length
      publish caps describe names

/-- No descriptor is under construction yet. -/
def beginDraft : DescribeReader Unit :=
  onOwn fun own => .ok ((), { own with retainedBytes := 0 })

def receiveDescribe (sizes : Sizes) (malloc : Nat → Bool)
    (caps : Capabilities) : DescribeReader Unit := do
  beginDraft
  let describe ← receiveDraft sizes malloc caps.extendedDescribe
  finishDescribe sizes malloc caps describe

end Libsqli.Receive
