import Libsqli.Data.Stream
import Libsqli.Receive.Message
import Libsqli.Status

namespace Libsqli.Octets

open Libsqli.Data.Bytes
open Libsqli.Data.Program
open Libsqli.Data.Stream
open Libsqli.Receive (Done)

/-! The readers of `sqli_dispatch.c` that the LOB fetches go through. -/

namespace Opcode

def dbopenFlags : Nat := 0
def eot : Nat := 12
def err : Nat := 13
def done : Nat := 15
def blob : Nat := 39
def cost : Nat := 55
def info : Nat := 81
def lodata : Nat := 97
def xactstat : Nat := 99
def getRoutine : Nat := 101
def fpRoutine : Nat := 103

end Opcode

/-- `sqli_is_likely_opcode` -/
def likelyOpcodes : List Nat :=
  [0, 1, 2, 4, 5, 7, 8, 9, 10, 11, 12, 13, 14, 15, 35, 36, 37, 38, 39, 53, 55,
    56, 81, 86, 94, 97, 98, 99, 100, 126]

/-- What the next peek shows: up to `seen` octets. The one behind an error looks
past the read buffer if that has a single octet left. -/
structure Look where
  behind : Nat
  seen : Nat
  deriving DecidableEq

abbrev OctetReader := Reading Status (List Look)

def readOctets (count : Nat) : OctetReader (List UInt8) :=
  readExact .ioError count

def readBe16 : OctetReader Nat := readNatural .ioError 2
def readBe32 : OctetReader Nat := readNatural .ioError 4

/-- `drain_bytes` reads up to 256 octets at a time. -/
def drainBytes (count : Nat) : OctetReader Unit :=
  (fun _ => ()) <$> readOctets count

/-- `sqli_peek_bytes` -/
def peekBytes (count : Nat) : OctetReader (List UInt8) := fun state =>
  match state.own with
  | [] => .ok [] state
  | look :: looks =>
      .ok (state.unread.take (min look.seen count)) { state with own := looks }

/-- `read_str` -/
def readStr (size : Nat) : OctetReader (List UInt8) := do
  let length ← readBe16
  let text ← readOctets (min length (size - 1))
  drainBytes (length - (size - 1))
  drainBytes (length % 2)
  return text

/-! `receive_done` up to its optional tail; what it drains behind that belongs to
other messages. -/

def doneFields (longRowId : Bool) : OctetReader Done := do
  let warnings ← readBe16
  let rows ← readNatural .ioError (if longRowId then 8 else 4)
  let rowId ← readNatural .ioError (if longRowId then 8 else 4)
  let errd1 ← readBe32
  return ⟨.ofNat warnings, .ofNat rows, .ofNat rowId, .ofNat errd1⟩

/-- `errd2` and `errd3` -/
def doneExtra : OctetReader Unit := do
  let _ ← readBe32
  let _ ← readBe32

/-- They are read if no opcode is in sight, or only behind two zero words. -/
def tailBehind (peek : List UInt8) : OctetReader Unit :=
  if peek.length ≠ 2 then pure ()
  else if natOfBytes peek ∉ likelyOpcodes then doneExtra
  else if natOfBytes peek ≠ 0 then pure ()
  else do
    let peek8 ← peekBytes 8
    if peek8.length = 8 ∧ natOfBytes (peek8.drop 6) ∈ likelyOpcodes then
      doneExtra
    else return

def doneTail : OctetReader Unit := do
  let peek ← peekBytes 2
  tailBehind peek

def receiveDone (longRowId : Bool) : OctetReader Done := do
  let done ← doneFields longRowId
  doneTail
  return done

/-! The messages beside the data of a LOB. -/

def receiveCost : OctetReader Unit := do
  let _ ← readBe32
  let _ ← readBe32

def infoRound (_ : Unit) : OctetReader (Unit ⊕ Unit) := do
  let itemType ← readBe16
  if itemType = 0 then return .inr ()
  else
    let length ← readBe16
    drainBytes (length + length % 2)
    return .inl ()

/-- `drain_sq_info` -/
def drainInfo : OctetReader Unit := forever .ioError infoRound ()

/-- A read whose failure is passed over. -/
def heedless (program : OctetReader α) : OctetReader Unit := fun state =>
  .ok () (stateOf (program state))

def toInt16 (value : Nat) : Int := (value : Int).bmod (2 ^ 16)

/-- `skipped` octets and a text -/
def errorText (skipped : Nat) : OctetReader Unit := do
  heedless (drainBytes skipped)
  heedless (readStr 512)

def errorDetail (remove64k : Bool) (sqlcode : Int) : OctetReader Unit :=
  if sqlcode = -619 then errorText (if remove64k then 6 else 4)
  else if sqlcode = -368 then pure ()
  else if sqlcode = 0 ∨ sqlcode = -937 ∨ sqlcode = 100 then errorText 5
  else errorText (if remove64k then 4 else 2)

/-- `SQ_EOT` behind an error, if it is in sight. -/
def errorEnd : OctetReader Unit := fun state =>
  match state.own with
  | [] => .ok () state
  | look :: looks =>
      let peek := (state.unread.drop look.behind).take (min look.seen 2)
      if peek = bigEndian 2 Opcode.eot then
        heedless readBe16 { state with own := looks }
      else .ok () { state with own := looks }

/-- `sqli_receive_error` -/
def receiveError (remove64k : Bool) : OctetReader Status := do
  let sqlcode ← readBe16
  let _isamcode ← readBe16
  errorDetail remove64k (toInt16 sqlcode)
  errorEnd
  return .protoError

/-! `sqli_fetchblob_materialize` behind its request. -/

/-- Whether a chunk of a length can be buffered, and whether the octets received
so far can grow to a length. -/
structure Room where
  malloc : Nat → Bool
  realloc : Nat → Bool

/-- `append_dynamic_bytes` -/
def appendBytes (room : Room) (accum bytes : List UInt8) :
    OctetReader (List UInt8) :=
  if bytes = [] then pure accum
  else if room.realloc (accum.length + bytes.length) = false then
    throw .allocFail
  else pure (accum ++ bytes)

/-- `read_padded_chunk` -/
def readPaddedChunk (room : Room) (length : Nat) (accum : List UInt8) :
    OctetReader (List UInt8) :=
  if 4096 < length ∧ room.malloc length = false then throw .allocFail
  else do
    let bytes ← readOctets length
    drainBytes (length % 2)
    appendBytes room accum bytes

def lodataRound (room : Room) (progress : Nat × List UInt8) :
    OctetReader ((Nat × List UInt8) ⊕ List UInt8) :=
  if progress.1 = 0 then pure (.inr progress.2)
  else do
    let length ← readBe16
    if progress.1 < length then throw .protoError
    else
      let accum ← readPaddedChunk room length progress.2
      return .inl (progress.1 - length, accum)

def receiveLodata (room : Room) (accum : List UInt8) :
    OctetReader (List UInt8) := do
  let _optype ← readBe16
  let fileSize ← readBe32
  if toInt32 fileSize < 0 then throw .protoError
  else forever .ioError (lodataRound room) (fileSize, accum)

def receiveBlob (room : Room) (accum : List UInt8) :
    OctetReader (List UInt8) := do
  let length ← readBe16
  readPaddedChunk room length accum

/-- An error of the server ends the fetch. -/
def fetchFailed (remove64k : Bool) : OctetReader α := do
  let status ← receiveError remove64k
  throw (if status = .ok then .protoError else status)

/-- A DONE has 22 octets here, whatever was negotiated. -/
def materializeRound (room : Room) (remove64k : Bool) (accum : List UInt8) :
    OctetReader (List UInt8 ⊕ List UInt8) := do
  let opcode ← readBe16
  if opcode = Opcode.cost then (fun _ => .inl accum) <$> receiveCost
  else if opcode = Opcode.info then (fun _ => .inl accum) <$> drainInfo
  else if opcode = Opcode.blob then .inl <$> receiveBlob room accum
  else if opcode = Opcode.lodata then .inl <$> receiveLodata room accum
  else if opcode = Opcode.done then (fun _ => .inl accum) <$> drainBytes 22
  else if opcode = Opcode.eot then return .inr accum
  else if opcode = Opcode.err then fetchFailed remove64k
  else throw .protoError

def materialize (room : Room) (remove64k : Bool) : OctetReader (List UInt8) :=
  forever .ioError (materializeRound room remove64k) []

end Libsqli.Octets
