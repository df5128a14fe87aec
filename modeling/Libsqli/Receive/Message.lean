import Libsqli.Result.State

namespace Libsqli.Receive

open Layout

/-! The messages of the server, as their payloads decode. -/

/-- The negotiated capabilities that reception depends on, and the setting for
opcodes that are not known. -/
structure Capabilities where
  longRowId : Bool
  remove64kLimit : Bool
  extendedDescribe : Bool
  strictProtocol : Bool
  deriving DecidableEq

/-- One field of a descriptor; the standard layout has the first four members. -/
structure Field where
  fieldIndex : UInt32
  tupleOffset : UInt32
  typeRaw : UInt16
  encodedLength : UInt32
  extendedInfo : UInt32
  typeOwner : List UInt8
  typeName : List UInt8
  reference : UInt16
  alignment : UInt16
  sourceType : UInt32
  deriving DecidableEq

structure Describe where
  statementType : UInt16
  statementId : UInt16
  cost : UInt32
  tupleSize : UInt16
  fields : List Field
  names : List UInt8
  deriving DecidableEq

/-- `rows` and `rowId` have four octets without `longRowId`. -/
structure Done where
  warnings : UInt16
  rows : UInt64
  rowId : UInt64
  errd1 : UInt32
  deriving DecidableEq

/-- `skipped` stands before the text: a statement offset or, for some codes, an
SQLSTATE. -/
structure ServerError where
  sqlcode : Int16
  isamcode : Int16
  skipped : List UInt8
  text : List UInt8
  deriving DecidableEq

/-- An Informix INT8: a sign and a magnitude in two words. -/
structure Int8Value where
  sign : Int16
  low : UInt32
  high : UInt32
  deriving DecidableEq

inductive Message where
  | dbopenFlags (flags : UInt16)
  | command (payload : UInt32)
  | prepare
  | describe (payload : Describe)
  | close
  | release
  | eot
  | err (payload : ServerError)
  | tuple (warnings : UInt16) (bytes : List UInt8)
  | done (payload : Done)
  | tupid (id : UInt32)
  | dbopen (name : List UInt8)
  | dbclose
  | cost (rows cost : UInt32)
  | exit
  | info (items : List (UInt16 × List UInt8))
  | reassoc
  | insertdone (serial : Int8Value)
  | xactstat (event newLevel oldLevel : UInt16)
  | unknown (opcode : UInt16)
  -- given up on before the end of their payload
  | oversizedTuple
  | oversizedDescribe
  deriving DecidableEq

/-- The descriptor limits of a received field type. -/
def Field.columnType (extended : Bool) (field : Field) : UInt8 :=
  let base := field.typeRaw.toUInt8
  if extended = false then base
  else if field.extendedInfo = 10 then typeBlob
  else if field.extendedInfo = 11 then typeClob
  else if field.extendedInfo = 1 then typeLvarchar
  else if field.extendedInfo = 5 then typeBool
  else base

/-- `descriptor_legacy_columns` -/
def Describe.columns (extended : Bool) (describe : Describe) : List Column :=
  describe.fields.map fun field =>
    ⟨field.columnType extended, field.encodedLength⟩

/-- `sqli_descriptor_assign_names` finds the end of every name it assigns. -/
def assignNames : Nat → List UInt8 → Bool
  | 0, _ => true
  | _ + 1, [] => true
  | fields + 1, names =>
      match names.idxOf? 0 with
      | none => false
      | some length => assignNames fields (names.drop (length + 1))

def Done.rowsAffected (longRowId : Bool) (done : Done) : Int :=
  (done.rows.toNat : Int).bmod (if longRowId then 2 ^ 64 else 2 ^ 32)

def Done.serial (done : Done) : Int := toInt32 done.errd1.toNat

/-- `receive_done` takes a serial from a DONE that counts rows. -/
def Done.suppliesSerial (longRowId : Bool) (done : Done) : Bool :=
  done.errd1 != 0 && 0 < done.rowsAffected longRowId

/-- `sqli_decode_ifx_int8`; NULL is `none`. -/
def Int8Value.decode (value : Int8Value) : Option Int :=
  let magnitude : Nat := value.high.toNat * 2 ^ 32 + value.low.toNat
  if value.sign = 0 then none
  else if value.sign.toInt < 0 then
    some (if 9223372036854775808 ≤ magnitude then -9223372036854775808
      else -(magnitude : Int))
  else some (if 9223372036854775807 < magnitude then 9223372036854775807
    else magnitude)

/-! What the messages do to the result they are received into. -/

/-- `replace_descriptor` -/
def replaceDescriptor (caps : Capabilities) (describe : Describe)
    (result : Result) : Result :=
  { result with
    located := none
    columns := describe.columns caps.extendedDescribe
    statementType := describe.statementType.toNat
    stmtId := describe.statementId.toNat
    eof := false
    view := { result.view with
      cacheRow := -1
      cursor := -1
      currentRow := -1
      absoluteRowNum := 0
      atBeforeFirst := true
      atAfterLast := false } }

/-- The most rows that the row arrays can be grown to. -/
def rowLimit : Nat := 2 ^ 30

theorem append_le {rows : List (List UInt8)} (hrows : rows.length < rowLimit)
    (row : List UInt8) : ((rows ++ [row]).length : Int) ≤ int32Max := by
  unfold rowLimit at hrows
  unfold int32Max
  rw [List.length_append, List.length_singleton]
  omega

/-- `receive_tuple`, once the tuple is read; `none` if there is no room. -/
def receiveTuple (warnings : UInt16) (bytes : List UInt8) (result : Result) :
    Option Result :=
  if hroom : result.rows.val.length < rowLimit then
    some { result with
      rows := ⟨result.rows.val ++ [bytes], append_le hroom bytes⟩
      warnings := warnings.toNat }
  else none

/-- `receive_done` -/
def receiveDone (caps : Capabilities) (done : Done) (result : Result) :
    Result :=
  { result with
    warnings := done.warnings.toNat
    rowsAffected := done.rowsAffected caps.longRowId
    generatedSerial :=
      if done.suppliesSerial caps.longRowId then done.serial
      else result.generatedSerial
    hasGeneratedSerial :=
      result.hasGeneratedSerial || done.suppliesSerial caps.longRowId
    eof := true
    sawDone := true }

/-- `receive_insertdone` -/
def receiveInsertdone (serial : Int8Value) (result : Result) : Result :=
  match serial.decode with
  | none => result
  | some value =>
      { result with generatedSerial8 := value, hasGeneratedSerial8 := true }

/-- `sqli_receive_error` -/
def receiveError (error : ServerError) (result : Result) : Result :=
  { result with
    errorCode := error.sqlcode.toInt
    eof := true
    sawError := true }

def endGroup (result : Result) : Result := { result with eof := true }

end Libsqli.Receive
