import Libsqli.Bind.Message
import Libsqli.Wire.Send
import Libsqli.Bind.Reading

namespace Libsqli.Bind

open Libsqli.Data.Bytes
open Libsqli.Wire

/-! The requests that carry parameters. -/

def sqCurname : UInt8 := 3
def sqOpen : UInt8 := 6
def sqExecute : UInt8 := 7
def sqScroll : UInt8 := 24
def sqBlob : UInt8 := 39
def sqBbind : UInt8 := 41
def sqHold : UInt8 := 43

/-- `sqli_stmt_send_bind_if_needed` -/
def sendBindIfNeeded (malloc : Nat → Bool) (encode : Encoder)
    (stmt : Statement) (terminateGroup : Bool) : Sender Unit :=
  if stmt.params = [] then return
  else if malloc (estimateBindMsgSize stmt terminateGroup) then
    send (buildBindMsg encode stmt terminateGroup)
  else require (.error .allocFail)

/-- `sqli_stmt_param_needs_lob_streaming` -/
def needsLobStreaming (serverType : UInt8) (param : BoundParam) : Bool :=
  !param.isNull && isLobColumn serverType &&
    (param.type == .bytes || param.type == .string)

def chunkSize : Nat := 1024

def sendChunk (chunk : List UInt8) : Sender Unit := do
  send ([0, sqBlob] ++ bigEndian 2 chunk.length)
  send chunk
  if chunk.length % 2 = 1 then send [0] else return

/-- The loop over the remaining data. -/
def sendChunks (data : List UInt8) : Sender Unit :=
  if data = [] then return
  else do
    sendChunk (data.take chunkSize)
    sendChunks (data.drop chunkSize)
termination_by data.length
decreasing_by
  have := List.length_pos_iff.mpr ‹data ≠ []›
  simp [chunkSize]
  omega

def sendStream (encode : Encoder) (typed : UInt8 × BoundParam) :
    Sender Unit := do
  sendChunks (lobData encode typed.1 typed.2)
  send [0, sqBlob, 0, 0]

def sendStreams (encode : Encoder) :
    List (UInt8 × BoundParam) → Sender Unit
  | [] => return
  | typed :: rest => do
      sendStream encode typed
      sendStreams encode rest

def Statement.streamed (stmt : Statement) : List (UInt8 × BoundParam) :=
  stmt.typedParams.filter fun typed => needsLobStreaming typed.1 typed.2

/-- SQ_BBIND and the streams it announces. -/
def sendLobs (encode : Encoder) (stmt : Statement) : Sender Unit :=
  if stmt.streamed = [] then return
  else do
    send ([0, sqBbind] ++ bigEndian 2 stmt.streamed.length)
    sendStreams encode stmt.streamed

def idMessage (stmt : Statement) : List UInt8 :=
  [0, sqId] ++ bigEndian 2 stmt.stmtId.toUInt32.toNat

def executeMessage : List UInt8 := [0, sqExecute, 0, sqEot]

/-- The sends of `sqli_stmt_execute_bound_params`. -/
def sendExecute (malloc : Nat → Bool) (encode : Encoder)
    (stmt : Statement) : Sender Unit := do
  if stmt.params = [] then send (idMessage stmt)
  else do
    sendBindIfNeeded malloc encode stmt false
    sendLobs encode stmt
  send executeMessage

/-- `_ifxc000000000000` -/
def cursorName : List UInt8 :=
  [95, 105, 102, 120, 99] ++ List.replicate 12 48

structure CursorOptions where
  scroll : Bool
  hold : Bool

def sendIf (condition : Bool) (bytes : List UInt8) : Sender Unit :=
  if condition then send bytes else return

/-- `sqli_send_open` -/
def sendOpen (cursor : CursorOptions) (stmt : Statement) : Sender Unit := do
  send (idMessage stmt ++ [0, sqCurname] ++ bigEndian 2 cursorName.length)
  send cursorName
  send [0]
  sendIf cursor.scroll [0, sqScroll]
  sendIf cursor.hold [0, sqHold]
  send [0, sqOpen]
  send [0, sqEot]

/-- The sends of `sqli_stmt_execute_select` up to the cursor being open; the
fetches that follow carry no parameter. -/
def sendSelect (malloc : Nat → Bool) (encode : Encoder)
    (cursor : CursorOptions) (stmt : Statement) : Sender Unit := do
  sendBindIfNeeded malloc encode stmt true
  sendOpen cursor stmt

def selectStatement : Nat := 2
def procedureStatement : Nat := 56

/-- The statements that `sqli_execute` opens a cursor for. -/
def Statement.opensCursor (stmt : Statement) : Bool :=
  stmt.statementType == selectStatement ||
    (stmt.statementType == procedureStatement && 0 < stmt.columnCount)

def sendExecution (malloc : Nat → Bool) (encode : Encoder)
    (cursor : CursorOptions) (stmt : Statement) : Sender Unit :=
  if stmt.opensCursor then sendSelect malloc encode cursor stmt
  else sendExecute malloc encode stmt

/-! The whole message read back. -/

theorem typedParams_snd (params : List BoundParam) (serverTypes : List UInt8) :
    (withServerTypes params serverTypes).map Prod.snd = params := by
  induction params generalizing serverTypes with
  | nil => rfl
  | cons param params ih =>
      cases serverTypes with
      | nil => simp [withServerTypes, ih]
      | cons serverType serverTypes => simp [withServerTypes, ih]

theorem typedParams_length (stmt : Statement) :
    stmt.typedParams.length = stmt.params.length := by
  have hmap := congrArg List.length
    (typedParams_snd stmt.params stmt.serverTypes)
  simpa [Statement.typedParams] using hmap

theorem typedParams_fst
    (htyped : typed ∈ withServerTypes params serverTypes) :
    typed.1 = 0 ∨ typed.1 ∈ serverTypes := by
  induction params generalizing serverTypes with
  | nil => simp [withServerTypes] at htyped
  | cons param params ih =>
      cases serverTypes with
      | nil =>
          rcases List.mem_cons.mp htyped with rfl | htyped
          · exact .inl rfl
          · simpa using ih htyped
      | cons serverType serverTypes =>
          rcases List.mem_cons.mp htyped with rfl | htyped
          · exact .inr List.mem_cons_self
          · exact (ih htyped).imp_right (List.mem_cons_of_mem _)

theorem mem_params_of_typed {stmt : Statement}
    (htyped : typed ∈ stmt.typedParams) : typed.2 ∈ stmt.params := by
  rw [← typedParams_snd stmt.params stmt.serverTypes]
  exact List.mem_map_of_mem htyped

theorem reads_params {typed : List (UInt8 × BoundParam)}
    (htyped : ∀ entry ∈ typed, entry.2.Complete ∧
      isLegacyLob entry.1 entry.2 = false ∧ entry.2.Fits encode) :
    Reads (readAll (List.replicate typed.length readParam))
      (typed.flatMap fun entry => paramMessage encode entry.1 entry.2)
      (typed.map fun entry => entry.2.field encode) := by
  induction typed with
  | nil => exact Reads.pure []
  | cons entry typed ih =>
      obtain ⟨⟨hcomplete, hinline, hfits⟩, hrest⟩ :=
        List.forall_mem_cons.mp htyped
      exact (reads_paramMessage hcomplete hinline hfits).cons (ih hrest)

theorem reads_bind {stmt : Statement} (hcount : stmt.params.length ≤ 0xFFFF)
    (htyped : ∀ entry ∈ stmt.typedParams, entry.2.Complete ∧
      isLegacyLob entry.1 entry.2 = false ∧ entry.2.Fits encode) :
    Reads readBind (bindHeader stmt ++
        stmt.typedParams.flatMap
          fun entry => paramMessage encode entry.1 entry.2)
      (stmt.stmtId.toUInt32.toNat % 256 ^ 2,
        stmt.params.map fun param => param.field encode) := by
  have hid : Reads (natural 2) (bigEndian 2 stmt.stmtId.toUInt32.toNat)
      (stmt.stmtId.toUInt32.toNat % 256 ^ 2) := by
    have hbytes := bigEndian_natOfBytes
      (bigEndian 2 stmt.stmtId.toUInt32.toNat)
    rw [length_bigEndian, natOfBytes_bigEndian] at hbytes
    rw [← hbytes]
    exact Reads.natural (Nat.mod_lt _ (by decide))
  have hparams := reads_params htyped
  rw [typedParams_length] at hparams
  have hmap : stmt.typedParams.map (fun entry => entry.2.field encode) =
      stmt.params.map fun param => param.field encode := by
    conv_rhs => rw [← typedParams_snd stmt.params stmt.serverTypes]
    rw [List.map_map]
    rfl
  rw [hmap] at hparams
  have hrest : Reads (do
      let fields ← readAll (List.replicate stmt.params.length readParam)
      return (stmt.stmtId.toUInt32.toNat % 256 ^ 2, fields))
      (stmt.typedParams.flatMap
        fun entry => paramMessage encode entry.1 entry.2)
      (stmt.stmtId.toUInt32.toNat % 256 ^ 2,
        stmt.params.map fun param => param.field encode) :=
    hparams.map _
  simp only [bindHeader, List.append_assoc]
  exact (Reads.expect _).bind (hid.bind ((Reads.expect _).bind
    ((Reads.natural (by omega)).bind hrest)))

theorem exists_of_forall₂ {relation : α → β → Prop}
    (hall : List.Forall₂ relation left right) (hmember : value ∈ left) :
    ∃ image ∈ right, relation value image := by
  induction hall with
  | nil => cases hmember
  | cons hhead _ ih =>
      rcases List.mem_cons.mp hmember with rfl | hmember
      · exact ⟨_, List.mem_cons_self, hhead⟩
      · obtain ⟨image, himage, hrelated⟩ := ih hmember
        exact ⟨image, List.mem_cons_of_mem _ himage, hrelated⟩

/-! What a field that was read says about its parameter. -/

/-- `converted` relates a bound text to the octets that stand for it. -/
inductive CarriesValue (converted : List UInt8 → List UInt8 → Prop)
    (param : BoundParam) : FieldValue → Prop where
  | int (htype : param.type = .int) :
      CarriesValue converted param (.int param.ival)
  | bigint (htype : param.type = .bigint) :
      CarriesValue converted param (.bigint param.ival64)
  | float (htype : param.type = .float) :
      CarriesValue converted param (.float param.dval)
  | native (htype : param.type = .decimal ∨ param.type = .datetime ∨
        param.type = .interval)
      (hbytes : bytes ++
        List.replicate (param.nativeBytes.length - bytes.length) 0 =
          param.nativeBytes) :
      CarriesValue converted param (.native param.nativeQualifier bytes)
  | string (htype : param.type = .string) (htext : param.sval = some text)
      (hbytes : converted text bytes) :
      CarriesValue converted param (.string bytes)
  | date (htype : param.type = .date) :
      CarriesValue converted param (.date param.nativeBytes)
  | bytes (htype : param.type = .bytes) (hvalue : param.bval = some value) :
      CarriesValue converted param (.bytes value)
  | sblob (htype : param.type = .sblob) (hvalue : param.bval = some value) :
      CarriesValue converted param (.sblob value)

/-- The field has the bound type, the NULL state and the value. -/
structure Carries (converted : List UInt8 → List UInt8 → Prop)
    (param : BoundParam) (field : Field) : Prop where
  type_eq : field.type = param.type.code.toNat
  name_eq : param.type = .sblob → field.name = some (sblobName param)
  null_iff : field.value = none ↔ param.isNull = true
  value_carried : ∀ value, field.value = some value →
    CarriesValue converted param value

theorem carries_field {param : BoundParam} (hcomplete : param.Complete)
    (hconverted : ∀ text, param.type = .string → param.isNull = false →
      param.sval = some text → converted text (sentText encode text)) :
    Carries converted param (param.field encode) := by
  refine ⟨rfl, fun htype => by simp [BoundParam.field, htype], ?_, ?_⟩
  · cases hnull : param.isNull <;> simp [BoundParam.field, hnull]
  · intro value hvalue
    have hnull : param.isNull = false := by
      cases hnull : param.isNull
      · rfl
      · simp [BoundParam.field, hnull] at hvalue
    have heq : param.fieldValue encode = value := by
      simpa [BoundParam.field, hnull] using hvalue
    subst heq
    unfold BoundParam.fieldValue
    cases htype : param.type with
    | unset => exact absurd htype hcomplete.is_set
    | int => exact .int htype
    | bigint => exact .bigint htype
    | float => exact .float htype
    | decimal => exact .native (.inl htype) (trimNative_extended _)
    | datetime => exact .native (.inr (.inl htype)) (trimNative_extended _)
    | interval => exact .native (.inr (.inr htype)) (trimNative_extended _)
    | string =>
        obtain ⟨text, htext⟩ := hcomplete.string_value htype hnull
        have hsent := hconverted text htype hnull htext
        rw [stringData, htext]
        exact .string htype htext hsent
    | date => exact .date htype
    | bytes =>
        obtain ⟨value, hvalue, -⟩ := hcomplete.bytes_value htype hnull
        rw [hvalue]
        exact .bytes htype hvalue
    | sblob =>
        obtain ⟨locator, hlocator, -⟩ := hcomplete.sblob_value htype hnull
        rw [hlocator]
        exact .sblob htype hlocator

/-! A string that the reader returns has a 16-bit length. -/

def Field.Bounded (field : Field) : Prop :=
  ∀ bytes, field.value = some (.string bytes) → bytes.length ≤ 0xFFFF

def FieldValue.Bounded (value : FieldValue) : Prop :=
  ∀ bytes, value = .string bytes → bytes.length ≤ 0xFFFF

theorem yields_readString : Yields readString FieldValue.Bounded := by
  refine (Yields.natural 2).bind fun length hlength => ?_
  refine (Yields.any _).bind fun _ _ => ?_
  refine (Yields.padded length).bind fun bytes hbytes => ?_
  apply Yields.pure
  rintro _ ⟨⟩
  omega

theorem yields_readValue (type : Nat) :
    Yields (readValue type) FieldValue.Bounded := by
  have hone {α : Type} {reader : Reader α} {wrap : α → FieldValue}
      (hwrap : ∀ value, (wrap value).Bounded) :
      Yields (do return wrap (← reader)) FieldValue.Bounded :=
    (Yields.any reader).bind fun value _ => Yields.pure (hwrap value)
  unfold readValue
  split
  · exact (Yields.any _).bind fun _ _ => Yields.pure (by rintro _ ⟨⟩)
  split
  · exact (Yields.any _).bind fun _ _ => hone (by rintro _ _ ⟨⟩)
  split
  · exact (Yields.any _).bind fun _ _ => hone (by rintro _ _ ⟨⟩)
  split
  · exact (Yields.any _).bind fun _ _ => (Yields.any _).bind fun _ _ =>
      hone (by rintro _ _ ⟨⟩)
  split
  · exact (Yields.any _).bind fun _ _ => hone (by rintro _ _ ⟨⟩)
  split
  · exact (Yields.any _).bind fun _ _ => hone (by rintro _ _ ⟨⟩)
  split
  · exact yields_readString
  split
  · exact (Yields.any _).bind fun _ _ => (Yields.any _).bind fun _ _ =>
      hone (by rintro _ _ ⟨⟩)
  split
  · exact (Yields.any _).bind fun _ _ => hone (by rintro _ _ ⟨⟩)
  · exact fun _ _ _ hread => by cases hread

theorem yields_readIndicated (type : Nat) :
    Yields (readIndicated type) fun value =>
      ∀ bytes, value = some (.string bytes) → bytes.length ≤ 0xFFFF := by
  refine (Yields.any _).bind fun indicator _ => ?_
  split
  · refine (yields_readValue type).bind fun value hvalue => ?_
    exact Yields.pure fun bytes hbytes => hvalue bytes (Option.some.inj hbytes)
  · split
    · exact (Yields.any _).bind fun _ _ => Yields.pure (by rintro _ ⟨⟩)
    · exact fun _ _ _ hread => by cases hread

theorem yields_readParam : Yields readParam Field.Bounded := by
  refine (Yields.any _).bind fun type _ => ?_
  refine (Yields.any _).bind fun name _ => ?_
  refine (yields_readIndicated type).bind fun value hvalue => ?_
  exact Yields.pure hvalue

theorem yields_readBind : Yields readBind fun message =>
    message.2.length ≤ 0xFFFF ∧ ∀ field ∈ message.2, field.Bounded := by
  refine (Yields.any _).bind fun _ _ => ?_
  refine (Yields.any _).bind fun stmtId _ => ?_
  refine (Yields.any _).bind fun _ _ => ?_
  refine (Yields.natural 2).bind fun count hcount => ?_
  intro bytes message rest hread
  obtain ⟨fields, middle, hfields, hmessage⟩ := reader_bind_eq_some.mp hread
  have hlength := Yields.readAll _ _ _ hfields
  have hreaders : ∀ reader ∈ List.replicate count readParam,
      Yields reader Field.Bounded := by
    intro reader member
    rw [List.eq_of_mem_replicate member]
    exact yields_readParam
  have hbounded := Yields.readAll_forall hreaders _ _ _ hfields
  cases hmessage
  rw [List.length_replicate] at hlength
  exact ⟨by simp only [hlength]; omega, hbounded⟩

end Libsqli.Bind
