import Libsqli.Bind.Reading

namespace Libsqli.Bind

open Libsqli.Data.Bytes

/-! The buffer of `build_bind_msg` is as long as `estimate_bind_msg_size`
says. -/

/-- The growth that the estimate allows a conversion. -/
def GrowsWithin (encode : Encoder) : Prop :=
  ∀ text converted, encode text = .ok converted →
    converted.length ≤ 8 * text.length + 32

theorem stringData_length_le (hencode : GrowsWithin encode)
    (param : BoundParam) :
    (stringData encode param).length ≤
      8 * (param.sval.getD []).length + 32 := by
  unfold stringData
  cases hsval : param.sval with
  | none => simp
  | some text =>
      simp only [sentText, Option.getD_some]
      cases hconverted : encode text with
      | ok converted => exact hencode text converted hconverted
      | error status =>
          simp only
          omega

theorem length_lobDescriptor (length : Nat) :
    (lobDescriptor length).length = lobDescriptorSize := by
  simp [lobDescriptor, lobDescriptorSize]

theorem length_extendedType (param : BoundParam) :
    (extendedType param).length = if param.type = .sblob then 8 else 0 := by
  have hname : (sblobName param).length = 4 := by
    unfold sblobName
    split <;> rfl
  unfold extendedType
  split
  · simp [hname]
  · rfl

/-- The null indicator's two octets are counted with the type. -/
theorem inlineValue_length_le (hencode : GrowsWithin encode)
    (hinline : isLegacyLob serverType param = false)
    (hvalue : param.isNull = false) :
    (inlineValue encode param).length ≤
      2 + estimateValue serverType param := by
  unfold estimateValue inlineValue
  rw [hvalue, hinline]
  cases htype : param.type with
  | unset => simp
  | int => simp
  | bigint => simp
  | float => simp
  | decimal | datetime | interval =>
      have htrim := length_trimNative param.nativeBytes
      simp only [List.length_append, length_bigEndian, List.length_cons,
        List.length_nil, length_padEven]
      simp
      omega
  | date =>
      have htake := List.length_take_le Temporal.dateWireSize param.nativeBytes
      have hsize : Temporal.dateWireSize = 4 := rfl
      simp
      omega
  | bytes =>
      have htake := List.length_take_le' 0xFFFF (param.bval.getD [])
      simp only [List.length_append, length_bigEndian, length_padEven]
      simp
      omega
  | string =>
      have hdata := stringData_length_le hencode param
      have htake := List.length_take_le' 0xFFFF (stringData encode param)
      simp only [List.length_append, length_bigEndian, length_padEven]
      simp
      omega
  | sblob =>
      simp only [List.length_append, length_bigEndian, length_padEven,
        List.length_cons, List.length_nil]
      simp
      omega

theorem paramValue_length_le (hencode : GrowsWithin encode)
    (serverType : UInt8) (param : BoundParam) :
    (paramValue encode serverType param).length ≤
      4 + estimateValue serverType param := by
  unfold paramValue
  split
  · simp
  · next hvalue =>
    split
    · next hlob =>
      simp only [estimateValue, hvalue, hlob, List.length_append,
        List.length_cons, List.length_nil, length_lobDescriptor]
      simp
    · next hinline =>
      have hlength := inlineValue_length_le hencode
        (Bool.eq_false_iff.mpr hinline) (Bool.eq_false_iff.mpr hvalue)
      simp only [List.length_append, List.length_cons, List.length_nil]
      omega

/-- What the estimate adds for one parameter. -/
def estimateParam (serverType : UInt8) (param : BoundParam) : Nat :=
  6 + (if param.type = .sblob then 8 else 0) + estimateValue serverType param

theorem paramMessage_length_le (hencode : GrowsWithin encode)
    (serverType : UInt8) (param : BoundParam) :
    (paramMessage encode serverType param).length ≤
      estimateParam serverType param := by
  have hvalue := paramValue_length_le hencode serverType param
  have hextended := length_extendedType param
  simp only [paramMessage, estimateParam, List.length_append,
    List.length_cons, List.length_nil, hextended]
  omega

theorem paramMessages_length_le (hencode : GrowsWithin encode)
    (typed : List (UInt8 × BoundParam)) :
    (typed.flatMap fun typed =>
      paramMessage encode typed.1 typed.2).length ≤
      (typed.map fun typed => estimateParam typed.1 typed.2).sum := by
  induction typed with
  | nil => simp
  | cons head typed ih =>
      have hhead := paramMessage_length_le hencode head.1 head.2
      rw [List.flatMap_cons, List.length_append, List.map_cons, List.sum_cons]
      exact Nat.add_le_add hhead ih

theorem length_bindHeader (stmt : Statement) :
    (bindHeader stmt).length = 8 := by
  simp [bindHeader]

theorem buildBindMsg_length_le (hencode : GrowsWithin encode)
    (stmt : Statement) (includeEot : Bool) :
    (buildBindMsg encode stmt includeEot).length ≤
      estimateBindMsgSize stmt includeEot := by
  have hparams := paramMessages_length_le hencode stmt.typedParams
  unfold buildBindMsg estimateBindMsgSize
  rw [List.length_append, List.length_append, length_bindHeader]
  refine Nat.add_le_add (Nat.add_le_add_left hparams 8) ?_
  cases includeEot with
  | true => simp
  | false => simp

/-- One text of three octets, of which each becomes two. -/
theorem buildBindMsg_length_le_text :
    (buildBindMsg (fun text => .ok (text ++ text))
      ⟨1, 6, 0, [{ BoundParam.zeroed with
        type := .string, sval := some [97, 98, 99] }], [13]⟩ true).length ≤ 74 :=
  @buildBindMsg_length_le (fun text => .ok (text ++ text))
    (by
      rintro text converted ⟨⟩
      rw [List.length_append]
      omega)
    _ true

end Libsqli.Bind
