import Libsqli.Data.Objects
import Libsqli.Decimal.ExactRescale
import Libsqli.Decimal.Parsing

namespace Libsqli.Decimal

open Libsqli.Base100
open Libsqli.Data
open Libsqli.Data.Objects

variable {object : Object} {value : Decimal} {malloc : Malloc}

/-! Decoding into an object. -/

/-- The parts that `decode_coefficient` hands to the setters. -/
def receivedParts (header : UInt8) (received : List Nat) (type : WireType) :
    Except Status Parts :=
  if ∃ group ∈ received, radix ≤ group then .error .protoError
  else
    let groups := stripGroups (plainGroups header received)
    let count := groups.length
    if count = 0 then
      if header ≠ positiveFlag then .error .protoError
      else .ok
        { limbs := []
          scale := if type.scale = floatingScale then 0
            else Int32.ofNat type.scale
          negative := false
          isNull := false }
    else if maxCoefficientGroups < count ∨ groups.headD 0 = 0 then
      .error .protoError
    else
      let digits := count * 2 - dropLastZero groups - firstDigit groups
      let scale : Int :=
        count * 2 - headerExponent header * 2 - dropLastZero groups
      match targetScale type digits scale with
      | none => .error .protoError
      | some (extraZeros, scale) => .ok
          { limbs := digitLimbs groups (firstDigit groups) digits extraZeros
            scale := Int32.ofInt scale
            negative := headerNegative header
            isNull := false }

theorem decodeCoefficient_eq_setParts (allocated : Nat → Bool) (header : UInt8)
    (received : List Nat) (type : WireType) (out : Decimal) :
    decodeCoefficient allocated header received type out =
      match receivedParts header received type with
      | .error status => (status, out)
      | .ok parts => setParts allocated parts out := by
  simp only [decodeCoefficient, receivedParts]
  split
  · rfl
  split
  · split <;> rfl
  split
  · rfl
  · generalize targetScale type _ _ = target
    cases target with
    | none => rfl
    | some target => rfl

namespace Object

/-- `sqli_decimal_decode_wire` -/
def decodeWire (malloc : Malloc) (bytes : List UInt8) (descriptor : UInt16)
    (object : Object) : Option (Status × Object) :=
  match decodeType descriptor with
  | .error status => some (status, object)
  | .ok type =>
      if bytes.length ≠ type.width then some (.protoError, object)
      else if ∀ byte ∈ bytes, byte = 0 then some object.setNull
      else
        match receivedParts (bytes.headD 0) (byteGroups bytes.tail) type with
        | .error status => some (status, object)
        | .ok parts => object.setParts malloc parts

theorem refusal_simulates (status : Status) :
    Simulates (fun object => some (status, object))
      (fun value => (status, value)) :=
  fun object _ hstores => ⟨object, rfl, hstores, fun _ => rfl⟩

theorem setNull_simulates :
    Simulates (fun object => some object.setNull) Decimal.setNull :=
  fun _ _ hstores =>
    ⟨_, rfl, hstores.setNull, fun hfailed => absurd rfl hfailed⟩

theorem setI64_simulates (malloc : Malloc) (coefficient : Int64)
    (scale : Int32) :
    Simulates (setI64 malloc coefficient scale)
      (Decimal.setI64 (allocates malloc) coefficient scale) :=
  setParts_simulates malloc _

/-- `sqli_decimal_decode_wire` on objects is that on values. -/
theorem decodeWire_simulates (malloc : Malloc) (bytes : List UInt8)
    (descriptor : UInt16) :
    Simulates (decodeWire malloc bytes descriptor)
      (Decimal.decodeWire (allocates malloc) bytes descriptor) := by
  unfold decodeWire Decimal.decodeWire
  cases decodeType descriptor with
  | error status => exact refusal_simulates status
  | ok type =>
      simp only
      split
      · exact refusal_simulates .protoError
      split
      · exact setNull_simulates
      simp only [decodeCoefficient_eq_setParts]
      cases receivedParts (bytes.headD 0) (byteGroups bytes.tail) type with
      | error status => exact refusal_simulates status
      | ok parts => exact setParts_simulates malloc parts

/-! What every call keeps. -/

/-- The limbs are below the base without leading zeros, within the storage and
the bound on digits; zero has no sign, and NULL no fields. -/
structure Invariant (object : Object) : Prop where
  limbs_lt : ∀ limb ∈ object.limbs.take object.used, limb < limbBase
  top_ne_zero : 0 < object.used → object.limbs.getD (object.used - 1) 0 ≠ 0
  used_le : object.used ≤ object.capacity
  limbs_length : object.limbs.length = object.capacity
  digits_le : object.digits ≤ maxDigits
  zero_nonnegative : object.used = 0 → object.negative = false
  null_cleared : object.isNull = true →
    object.used = 0 ∧ object.scale = 0 ∧ object.negative = false

theorem Stores.invariant (hstores : object.Stores value) : object.Invariant := by
  have hlimbs := hstores.limbs_eq
  have hused := hstores.used_eq
  have hvalid := value.wellformed
  have hzero : object.used = 0 → value.parts.limbs = [] := fun hnone =>
    List.eq_nil_of_length_eq_zero (hused.symm.trans hnone)
  refine ⟨fun limb member => hvalid.limbs_lt limb (hlimbs ▸ member), ?_,
    hstores.used_le, hstores.limbs_length,
    hstores.digits_eq ▸ hvalid.digits_le, ?_, ?_⟩
  · intro hpositive hzeroTop
    refine hvalid.trimmed ?_
    have hroom : object.used - 1 < object.limbs.length := by
      have hle := hstores.limbs_length ▸ hstores.used_le
      omega
    rw [← hlimbs, List.getLast?_eq_getElem?, List.length_take_of_le
      (hstores.limbs_length ▸ hstores.used_le),
      List.getElem?_take_of_lt (by omega), List.getElem?_eq_getElem hroom,
      ← List.getD_eq_getElem _ 0 hroom, hzeroTop]
  · intro hnone
    rw [hstores.negative_eq]
    exact hvalid.zero_nonnegative (hzero hnone)
  · intro hnull
    rw [hstores.isNull_eq] at hnull
    obtain ⟨hempty, hscale⟩ := hvalid.null_cleared hnull
    exact ⟨hused.trans (congrArg List.length hempty),
      hstores.scale_eq.trans hscale,
      hstores.negative_eq.trans (hvalid.zero_nonnegative hempty)⟩

/-- The call yields an object that again stores a value, and the same one when
it fails. -/
def Keeps (call : Object → Option (Status × Object)) : Prop :=
  ∀ object value, object.Stores value →
    ∃ status result, call object = some (status, result) ∧
      (∃ after, result.Stores after) ∧ (status ≠ .ok → result = object)

theorem Simulates.keeps {call : Object → Option (Status × Object)}
    {spec : Decimal → Status × Decimal} (hcall : Simulates call spec) :
    Keeps call := by
  intro object value hstores
  obtain ⟨result, hresult, hafter, hkept⟩ := hcall object value hstores
  exact ⟨_, result, hresult, ⟨_, hafter⟩, hkept⟩

theorem parse_keeps (malloc : Malloc) (text : List UInt8) (isNull : Bool) :
    Keeps (parse malloc text isNull) := by
  cases isNull with
  | true => exact setNull_simulates.keeps
  | false =>
      intro object value hstores
      obtain ⟨⟨status, result⟩, hresult, houtcome⟩ :=
        parse_outcome malloc hstores text
      refine ⟨status, result, hresult, ?_⟩
      cases houtcome with
      | parsed _ _ after _ _ _ stores _ =>
          exact ⟨⟨after, stores⟩, fun hfailed => absurd rfl hfailed⟩
      | refused => exact ⟨⟨value, hstores⟩, fun _ => rfl⟩
      | allocFail => exact ⟨⟨value, hstores⟩, fun _ => rfl⟩

theorem rescaleExact_keeps (malloc : Malloc) (scale : Int32) :
    Keeps (rescaleExact malloc scale) := by
  intro object value hstores
  cases hnull : value.isNull with
  | true =>
      have hrefused : rescaleExact malloc scale object =
          some (.nullValue, object) := by
        rw [rescaleExact, if_pos (hstores.isNull_eq.trans hnull)]
      exact ⟨_, _, hrefused, ⟨value, hstores⟩, fun _ => rfl⟩
  | false =>
      obtain ⟨⟨status, result⟩, hresult, houtcome⟩ :=
        rescaleExact_outcome malloc hstores hnull scale
      refine ⟨status, result, hresult, ?_⟩
      cases houtcome with
      | rescaled _ after stores =>
          exact ⟨⟨after, stores⟩, fun hfailed => absurd rfl hfailed⟩
      | inexact => exact ⟨⟨value, hstores⟩, fun _ => rfl⟩
      | limit => exact ⟨⟨value, hstores⟩, fun _ => rfl⟩
      | allocFail => exact ⟨⟨value, hstores⟩, fun _ => rfl⟩

end Object

/-! Any number of objects under any calls. -/

/-- Where the limbs of given parts lie: in the caller's memory, or within the
storage of one of the objects. -/
inductive LimbSource where
  | caller (limbs : List Nat)
  | borrowed (owner offset count : Nat)

/-- The limbs as the call finds them; it writes its object only after it has
read them. -/
def LimbSource.read (objects : List Object) : LimbSource → List Nat
  | .caller limbs => limbs
  | .borrowed owner offset count =>
      match objects[owner]? with
      | none => []
      | some object => (object.limbs.drop offset).take count

inductive DecimalCall where
  | setNull
  | setParts (source : LimbSource) (scale : Int32) (negative isNull : Bool)
  | copy (source : Nat)
  | setI64 (coefficient : Int64) (scale : Int32)
  | parse (text : List UInt8) (isNull : Bool)
  | rescaleExact (scale : Int32)
  | decodeWire (bytes : List UInt8) (descriptor : UInt16)

/-- A call on the object `index` among the others; a handle without an object
stands for a null pointer. -/
def DecimalCall.run (malloc : Malloc) (objects : List Object) (index : Nat)
    (call : DecimalCall) (object : Object) : Option (Status × Object) :=
  match call with
  | .setNull => some object.setNull
  | .setParts source scale negative isNull =>
      object.setParts malloc ⟨source.read objects, scale, negative, isNull⟩
  | .copy source =>
      if source = index then some (.ok, object)
      else
        match objects[source]? with
        | none => some (.invalidArgument, object)
        | some other => other.copy malloc object
  | .setI64 coefficient scale => object.setI64 malloc coefficient scale
  | .parse text isNull => object.parse malloc text isNull
  | .rescaleExact scale => object.rescaleExact malloc scale
  | .decodeWire bytes descriptor => object.decodeWire malloc bytes descriptor

/-- `allocated` says whether the allocation of a new object succeeds, `malloc`
does so for the limbs that a call needs. -/
inductive ObjectsCall where
  | create (allocated : Bool)
  | onDecimal (malloc : Malloc) (index : Nat) (call : DecimalCall)

/-- Without a status a call has written outside its arrays. -/
def withStatus (call : Object → Option (Status × Object)) (object : Object) :
    Option Status × Object :=
  match call object with
  | none => (none, object)
  | some (status, result) => (some status, result)

def objectsStep (objects : List Object) :
    ObjectsCall → Option Status × List Object
  | .create allocated =>
      if allocated then (some .ok, objects ++ [Object.init])
      else (some .allocFail, objects)
  | .onDecimal malloc index call =>
      onObject (some .invalidArgument) objects index
        (withStatus (call.run malloc objects index))

/-- The objects after some calls, from none. -/
def objectsAfter (calls : List ObjectsCall) : List Object :=
  calls.foldl (fun objects call => (objectsStep objects call).2) []

/-- Every object stores a value. -/
def AllStore (objects : List Object) : Prop :=
  ∀ object ∈ objects, ∃ value, object.Stores value

theorem DecimalCall.keeps (malloc : Malloc) (objects : List Object)
    (index : Nat) (call : DecimalCall) :
    Object.Keeps (call.run malloc objects index) := by
  cases call with
  | setNull => exact Object.setNull_simulates.keeps
  | setParts source scale negative isNull =>
      exact (Object.setParts_simulates malloc _).keeps
  | copy source =>
      unfold DecimalCall.run
      by_cases hsame : source = index
      · simp only [if_pos hsame]
        intro object value hstores
        exact ⟨_, _, rfl, ⟨value, hstores⟩, fun _ => rfl⟩
      · simp only [if_neg hsame]
        cases objects[source]? with
        | none => exact (Object.refusal_simulates .invalidArgument).keeps
        | some other => exact (Object.setParts_simulates malloc _).keeps
  | setI64 coefficient scale =>
      exact (Object.setI64_simulates malloc coefficient scale).keeps
  | parse text isNull => exact Object.parse_keeps malloc text isNull
  | rescaleExact scale => exact Object.rescaleExact_keeps malloc scale
  | decodeWire bytes descriptor =>
      exact (Object.decodeWire_simulates malloc bytes descriptor).keeps

theorem withStatus_keeps {call : Object → Option (Status × Object)}
    (hcall : Object.Keeps call) (hstores : object.Stores value) :
    (withStatus call object).1 ≠ none ∧
      (∃ after, (withStatus call object).2.Stores after) ∧
      ((withStatus call object).1 ≠ some .ok →
        (withStatus call object).2 = object) := by
  obtain ⟨status, result, hresult, hafter, hkept⟩ := hcall object value hstores
  rw [withStatus, hresult]
  exact ⟨by simp, hafter, fun hfailed =>
    hkept fun hok => hfailed (congrArg some hok)⟩

theorem objectsStep_keeps {objects : List Object} (hobjects : AllStore objects)
    (call : ObjectsCall) :
    AllStore (objectsStep objects call).2 ∧
      (objectsStep objects call).1 ≠ none ∧
      ((objectsStep objects call).1 ≠ some .ok →
        (objectsStep objects call).2 = objects) := by
  cases call with
  | create allocated =>
      cases allocated with
      | true =>
          refine ⟨fun object member => ?_, by simp [objectsStep],
            fun hfailed => absurd rfl hfailed⟩
          rcases List.mem_append.mp member with member | member
          · exact hobjects object member
          · obtain rfl := List.mem_singleton.mp member
            exact ⟨_, Object.init_stores⟩
      | false => exact ⟨hobjects, by simp [objectsStep], fun _ => rfl⟩
  | onDecimal malloc index call =>
      have hcall : ∀ object ∈ objects, _ := fun object member =>
        withStatus_keeps (call.keeps malloc objects index)
          (hobjects object member).choose_spec
      have hmissing : some Status.invalidArgument ≠ none := Option.some_ne_none _
      exact ⟨onObject_forall hobjects fun object member =>
          (hcall object member).2.1,
        @onObject_outcome _ _ _ _ _ _ (· ≠ none)
          (fun object member => (hcall object member).1) hmissing,
        onObject_unchanged (· ≠ some Status.ok) fun object member =>
          (hcall object member).2.2⟩

theorem objectsAfter_stores (calls : List ObjectsCall) :
    AllStore (objectsAfter calls) := by
  induction calls using List.reverseRecOn with
  | nil => simp [AllStore, objectsAfter]
  | append_singleton calls call ih =>
      rw [objectsAfter, List.foldl_append]
      exact (objectsStep_keeps ih call).1

/-- Whatever the calls and the allocations, every object keeps its invariant,
no call writes outside an array, and one that fails changes no object. -/
theorem decimalObjects_keep (calls : List ObjectsCall) :
    (∀ object ∈ objectsAfter calls, object.Invariant) ∧
      ∀ call, ∃ status, (objectsStep (objectsAfter calls) call).1 = some status ∧
        (status ≠ .ok →
          objectsAfter (calls ++ [call]) = objectsAfter calls) := by
  have hobjects := objectsAfter_stores calls
  refine ⟨fun object member => (hobjects object member).choose_spec.invariant,
    fun call => ?_⟩
  obtain ⟨-, hstatus, hkept⟩ := objectsStep_keeps hobjects call
  obtain ⟨status, hsome⟩ := Option.ne_none_iff_exists'.mp hstatus
  refine ⟨status, hsome, fun hfailed => ?_⟩
  rw [objectsAfter, List.foldl_append]
  exact hkept fun hok => hfailed (Option.some.inj (hsome.symm.trans hok))

end Libsqli.Decimal
