import Libsqli.Bind.Accepted
import Libsqli.Data.Bytes
import Libsqli.Wire.Charset

namespace Libsqli.Bind

open Libsqli.Data.Bytes

/-! `build_bind_msg`. -/

def sqId : UInt8 := 4
def sqBind : UInt8 := 5
def sqEot : UInt8 := 12
def typeByte : UInt8 := 11
def typeText : UInt8 := 12

abbrev Encoder := List UInt8 → Except Status (List UInt8)

/-- A text whose conversion fails is sent unconverted. -/
def sentText (encode : Encoder) (text : List UInt8) : List UInt8 :=
  match encode text with
  | .ok converted => converted
  | .error _ => text

def stringData (encode : Encoder) (param : BoundParam) : List UInt8 :=
  match param.sval with
  | none => []
  | some text => sentText encode text

def isLobColumn (serverType : UInt8) : Bool :=
  serverType == typeByte || serverType == typeText

/-- `is_legacy_lob` -/
def isLegacyLob (serverType : UInt8) (param : BoundParam) : Bool :=
  isLobColumn serverType && param.type != .datetime &&
    param.type != .interval && param.type != .date && param.type != .decimal

def wireType (serverType : UInt8) (param : BoundParam) : UInt8 :=
  if isLegacyLob serverType param then serverType else param.type.code

/-- The data of a parameter bound to a BYTE or TEXT column. -/
def lobData (encode : Encoder) (serverType : UInt8) (param : BoundParam) :
    List UInt8 :=
  match param.type with
  | .bytes => param.bval.getD []
  | .string =>
      if serverType = typeText then stringData encode param
      else param.sval.getD []
  | _ => []

def lobDescriptorSize : Nat := 56

/-- The length sits in octets 16 to 19 of the descriptor. -/
def lobDescriptor (length : Nat) : List UInt8 :=
  List.replicate 16 0 ++ bigEndian 4 length ++ List.replicate 36 0

/-- The loop that drops trailing zeros but keeps one octet. -/
def trimmedLength (bytes : List UInt8) : Nat → Nat
  | 0 => 0
  | 1 => 1
  | length + 2 =>
      if bytes.getD (length + 1) 0 = 0 then trimmedLength bytes (length + 1)
      else length + 2

def trimNative (bytes : List UInt8) : List UInt8 :=
  bytes.take (trimmedLength bytes bytes.length)

def sblobName (param : BoundParam) : List UInt8 :=
  if param.ival = sblobClob then [99, 108, 111, 98] else [98, 108, 111, 98]

/-- Owner and name of the extended type. -/
def extendedType (param : BoundParam) : List UInt8 :=
  if param.type = .sblob then
    [0, 0] ++ bigEndian 2 (sblobName param).length ++ padEven (sblobName param)
  else []

/-- What follows the null indicator of a value sent in line. -/
def inlineValue (encode : Encoder) (param : BoundParam) : List UInt8 :=
  match param.type with
  | .decimal | .datetime | .interval =>
      bigEndian 2 param.nativeQualifier.toNat ++
        [0, UInt8.ofNat (trimNative param.nativeBytes).length] ++
        padEven (trimNative param.nativeBytes)
  | .int => [0, 0] ++ bigEndian 4 param.ival.toUInt32.toNat
  | .bigint => [0, 0] ++ bigEndian 8 param.ival64.toUInt64.toNat
  | .float => [0, 0] ++ bigEndian 8 param.dval.toNat
  | .string =>
      let data := (stringData encode param).take 0xFFFF
      bigEndian 2 data.length ++ bigEndian 2 data.length ++ padEven data
  | .date => [0, 0] ++ param.nativeBytes.take Temporal.dateWireSize
  | .bytes =>
      let data := (param.bval.getD []).take 0xFFFF
      bigEndian 2 data.length ++ padEven data
  | .sblob =>
      [0, 0] ++ bigEndian 4 (param.bval.getD []).length ++
        padEven (param.bval.getD [])
  | .unset => [0, 0]

def paramValue (encode : Encoder) (serverType : UInt8) (param : BoundParam) :
    List UInt8 :=
  if param.isNull then [0xFF, 0xFF, 0, 0]
  else if isLegacyLob serverType param then
    [0, 0, 0, 56] ++ lobDescriptor (lobData encode serverType param).length
  else [0, 0] ++ inlineValue encode param

def paramMessage (encode : Encoder) (serverType : UInt8)
    (param : BoundParam) : List UInt8 :=
  [0, wireType serverType param] ++ extendedType param ++
    paramValue encode serverType param

/-- Each parameter with its described type, zero where there is none. -/
def withServerTypes : List BoundParam → List UInt8 → List (UInt8 × BoundParam)
  | [], _ => []
  | param :: params, [] => (0, param) :: withServerTypes params []
  | param :: params, serverType :: serverTypes =>
      (serverType, param) :: withServerTypes params serverTypes

def Statement.typedParams (stmt : Statement) : List (UInt8 × BoundParam) :=
  withServerTypes stmt.params stmt.serverTypes

def bindHeader (stmt : Statement) : List UInt8 :=
  [0, sqId] ++ bigEndian 2 stmt.stmtId.toUInt32.toNat ++
    [0, sqBind] ++ bigEndian 2 stmt.params.length

def buildBindMsg (encode : Encoder) (stmt : Statement) (includeEot : Bool) :
    List UInt8 :=
  bindHeader stmt ++
    stmt.typedParams.flatMap (fun typed => paramMessage encode typed.1 typed.2) ++
    if includeEot then [0, sqEot] else []

/-- Octets reserved for the value of one parameter. -/
def estimateValue (serverType : UInt8) (param : BoundParam) : Nat :=
  if param.isNull then 0
  else if isLegacyLob serverType param then lobDescriptorSize
  else match param.type with
    | .decimal | .datetime | .interval =>
        2 + param.nativeBytes.length + param.nativeBytes.length % 2
    | .int => 4
    | .bigint | .float => 8
    | .string =>
        let size := 2 + (param.sval.getD []).length * 8 + 32
        size + size % 2
    | .date => 4
    | .bytes => (param.bval.getD []).length + (param.bval.getD []).length % 2
    | .sblob =>
        4 + (param.bval.getD []).length + (4 + (param.bval.getD []).length) % 2
    | .unset => 0

/-- `estimate_bind_msg_size` -/
def estimateBindMsgSize (stmt : Statement) (includeEot : Bool) : Nat :=
  8 + (stmt.typedParams.map fun typed =>
    6 + (if typed.2.type = .sblob then 8 else 0) +
      estimateValue typed.1 typed.2).sum +
  if includeEot then 2 else 0

/-! The message as the server takes it apart. -/

inductive FieldValue where
  | unset
  | int (value : Int32)
  | bigint (value : Int64)
  | float (value : UInt64)
  | native (qualifier : UInt16) (bytes : List UInt8)
  | string (bytes : List UInt8)
  | date (bytes : List UInt8)
  | bytes (bytes : List UInt8)
  | sblob (bytes : List UInt8)
  deriving DecidableEq, Repr

/-- `name` is the extended type name, `value` is absent for NULL. -/
structure Field where
  type : Nat
  name : Option (List UInt8)
  value : Option FieldValue
  deriving DecidableEq, Repr

def readTypeName : Reader (List UInt8) := do
  let ownerLength ← natural 2
  let _ ← padded ownerLength
  let nameLength ← natural 2
  padded nameLength

def readNative : Reader FieldValue := do
  let qualifier ← natural 2
  let length ← natural 2
  let bytes ← padded length
  return .native (UInt16.ofNat qualifier) bytes

def readInt : Reader FieldValue := do
  expect [0, 0]
  let value ← natural 4
  return .int (UInt32.ofNat value).toInt32

def readBigint : Reader FieldValue := do
  expect [0, 0]
  let value ← natural 8
  return .bigint (UInt64.ofNat value).toInt64

def readFloat : Reader FieldValue := do
  expect [0, 0]
  let value ← natural 8
  return .float (UInt64.ofNat value)

def readString : Reader FieldValue := do
  let length ← natural 2
  expect (bigEndian 2 length)
  let bytes ← padded length
  return .string bytes

def readDate : Reader FieldValue := do
  expect [0, 0]
  let bytes ← take Temporal.dateWireSize
  return .date bytes

def readBytes : Reader FieldValue := do
  let length ← natural 2
  let bytes ← padded length
  return .bytes bytes

def readSblob : Reader FieldValue := do
  expect [0, 0]
  let length ← natural 4
  let bytes ← padded length
  return .sblob bytes

def readUnset : Reader FieldValue := do
  expect [0, 0]
  return .unset

/-- The layout that a type code calls for. -/
def readValue (type : Nat) : Reader FieldValue :=
  if type = 0 then readUnset
  else if type = 2 then readInt
  else if type = 3 then readFloat
  else if type = 5 ∨ type = 10 ∨ type = 14 then readNative
  else if type = 7 then readDate
  else if type = 11 then readBytes
  else if type = 13 then readString
  else if type = 44 then readSblob
  else if type = 52 then readBigint
  else failure

def readIndicated (type : Nat) : Reader (Option FieldValue) := do
  let indicator ← natural 2
  if indicator = 0 then return some (← readValue type)
  else if indicator = 0xFFFF then
    expect [0, 0]
    return none
  else failure

def readName (type : Nat) : Reader (Option (List UInt8)) :=
  if type = 44 then some <$> readTypeName else return none

def readParam : Reader Field := do
  let type ← natural 2
  let name ← readName type
  let value ← readIndicated type
  return ⟨type, name, value⟩

/-- The statement id and the parameters. -/
def readBind : Reader (Nat × List Field) := do
  expect [0, sqId]
  let stmtId ← natural 2
  expect [0, sqBind]
  let count ← natural 2
  let fields ← readAll (List.replicate count readParam)
  return (stmtId, fields)

end Libsqli.Bind
