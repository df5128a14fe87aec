import Libsqli.Data.Transition
import Libsqli.Sblob.LobReaders
import Libsqli.Sblob.Writes

namespace Libsqli.Sblob

open Libsqli.Data
open Libsqli.Data.Bytes
open Libsqli.Data.Stream
open Libsqli.Octets

/-! The requests of `sqli_sblob_read` and `sqli_sblob_read_seek`. -/

/-- Of the descriptor, two octets. -/
def readHeader (subCom : Nat) (lofd : Int) (nbytes : Nat) : List UInt8 :=
  [0, 97] ++ (bigEndian 2 subCom ++ (bigEndian 2 lofd.toNat ++
    (bigEndian 4 (requestLength nbytes) ++ bigEndian 2 bufsize)))

def magnitude (offset : Int) : Nat :=
  if offset < 0 then (-(offset + 1)).toNat + 1 else offset.toNat

/-- Sign, low and high half of the magnitude, and LO_SEEK_CUR. -/
def seekBytes (offset : Int) : List UInt8 :=
  bigEndian 2 (if offset < 0 then 65535 else 1) ++
    (bigEndian 4 (magnitude offset % 2 ^ 32) ++
      (bigEndian 4 (magnitude offset / 2 ^ 32) ++ bigEndian 2 1))

def readRequest (lofd : Int) (nbytes : Nat) : List UInt8 :=
  readHeader 0 lofd nbytes ++ eotBytes

def readSeekRequest (lofd : Int) (offset : Int64) (nbytes : Nat) :
    List UInt8 :=
  readHeader 1 lofd nbytes ++ (seekBytes offset.toInt ++ eotBytes)

def requestBytes (seek : Option Int64) (lofd : Int) (nbytes : Nat) :
    List UInt8 :=
  match seek with
  | none => readRequest lofd nbytes
  | some offset => readSeekRequest lofd offset nbytes

/-! A server with a position in an object for each descriptor. -/

structure ReadRequest where
  descriptor : Nat
  length : Nat
  offset : Int
  deriving DecidableEq

def seekOffset : Reader Int := do
  let sign ← natural 2
  let low ← natural 4
  let high ← natural 4
  let _whence ← natural 2
  let size : Int := low + 2 ^ 32 * high
  return if sign = 65535 then -size else size

def offsetField (subCom : Nat) : Reader Int :=
  if subCom = 1 then seekOffset else pure 0

def readRequestFields : Reader ReadRequest := do
  expect [0, 97]
  let subCom ← natural 2
  let descriptor ← natural 2
  let length ← natural 4
  let _bufsize ← natural 2
  let offset ← offsetField subCom
  expect eotBytes
  return ⟨descriptor, length, offset⟩

structure ReadServer where
  object : Nat → List UInt8
  position : Nat → Nat

namespace ReadServer

variable (server : ReadServer) (request : ReadRequest)

/-- Where a read starts. -/
def start : Nat :=
  (server.position request.descriptor + request.offset).toNat

def remaining : Nat :=
  (server.object request.descriptor).length - server.start request

def octets : List UInt8 :=
  ((server.object request.descriptor).drop (server.start request)).take
    request.length

def moved : ReadServer :=
  { server with
    position := Function.update server.position request.descriptor
      (server.start request + (server.octets request).length) }

end ReadServer

/-- How a reply is cut into chunks, with what else the server is free in. -/
structure Cut where
  chunks : List UInt8 → List (List UInt8)
  pad : UInt8
  operation : UInt16
  flatten_chunks : ∀ octets, (chunks octets).flatten = octets
  chunk_size : ∀ octets, ∀ chunk ∈ chunks octets,
    chunk ≠ [] ∧ chunk.length < 65536

def Cut.chunkBytes (cut : Cut) (chunk : List UInt8) : List UInt8 :=
  bigEndian 2 chunk.length ++
    (chunk ++ List.replicate (chunk.length % 2) cut.pad)

/-- The size has four octets. -/
def Cut.reply (cut : Cut) (remaining : Nat) (octets : List UInt8) :
    List UInt8 :=
  [0, 97] ++ lodataBytes cut.operation.toNat remaining ++
    ((cut.chunks octets).flatMap cut.chunkBytes ++ eotBytes)

def ReadServer.answer (server : ReadServer) (cut : Cut) (bytes : List UInt8) :
    List UInt8 × ReadServer :=
  match readRequestFields bytes with
  | none => ([], server)
  | some (request, _) =>
      (cut.reply (server.remaining request) (server.octets request),
        server.moved request)

/-! Calls of the readers. -/

/-- What a call reads of its connection. -/
structure ReadConn where
  discarded : Bool
  fd : Int
  ready : Bool
  remove64k : Bool

/-- `sqli_sblob_read_cursor_t` -/
structure ReadCursor where
  descriptor : Int
  isOpen : Bool

/-- `sqli_sblob_reader_read`, or `sqli_sblob_reader_read_seek` with its offset, and
how the server will cut a reply. -/
structure ReaderCall where
  conn : ReadConn
  reader : ReadCursor
  seek : Option Int64
  buffer : List UInt8
  capacity : Nat
  cut : Cut
  hcapacity : capacity ≤ buffer.length

/-- The request of `sqli_sblob_read`; for no octets there is none. -/
def sblobRequest (conn : ReadConn) (lofd : Int) (seek : Option Int64)
    (nbytes : Nat) : Except Status (Option (List UInt8)) :=
  if lofd < 0 then .error .invalidState
  else if nbytes = 0 then .ok none
  else if conn.fd < 0 ∨ conn.ready = false then .error .invalidState
  else .ok (some (requestBytes seek lofd nbytes))

/-- `reader_read` up to the request. -/
def ReaderCall.request (call : ReaderCall) :
    Except Status (Option (List UInt8)) :=
  if call.reader.isOpen = false ∨ call.conn.discarded = true then
    .error .invalidState
  else if int32Max < call.capacity then .error .outOfRange
  else if call.capacity = 0 then .ok none
  else sblobRequest call.conn call.reader.descriptor call.seek call.capacity

def ReaderCall.receive (call : ReaderCall) : OctetReader (List UInt8) :=
  match call.seek with
  | none => sblobRead call.conn.remove64k call.capacity
  | some _ => sblobReadSeek call.conn.remove64k call.capacity

/-- `*bytes_read` and the buffer of a call that returns SQLI_OK. -/
structure ReadResult where
  count : Nat
  buffer : List UInt8

/-- The server and what of its replies is unread. -/
structure ReadScene where
  server : ReadServer
  unread : List UInt8

/-- The octets go to the front of the buffer. -/
def ReaderCall.stored (call : ReaderCall) (octets : List UInt8) : ReadResult :=
  ⟨octets.length, octets ++ call.buffer.drop octets.length⟩

def ReaderCall.run (call : ReaderCall) (scene : ReadScene) :
    Except Status ReadResult × ReadScene :=
  match call.request with
  | .error status => (.error status, scene)
  | .ok none => (.ok (call.stored []), scene)
  | .ok (some bytes) =>
      let answer := scene.server.answer call.cut bytes
      match call.receive ⟨scene.unread ++ answer.1, []⟩ with
      | .ok octets after => (.ok (call.stored octets), ⟨answer.2, after.unread⟩)
      | .error status after => (.error status, ⟨answer.2, after.unread⟩)

/-! What the calls are for. -/

/-- A plain read goes on at the position. -/
def offsetOf (seek : Option Int64) : Int :=
  match seek with
  | none => 0
  | some offset => offset.toInt

namespace ReaderCall

variable (call : ReaderCall) (scene : ReadScene)

def descriptor : Nat := call.reader.descriptor.toNat

def object : List UInt8 := scene.server.object call.descriptor

/-- Where in the object the call is to read. -/
def start : Nat :=
  (scene.server.position call.descriptor + offsetOf call.seek).toNat

def wanted : List UInt8 :=
  ((call.object scene).drop (call.start scene)).take call.capacity

end ReaderCall

/-- The octets of the object from the position on are in the buffer, nothing else
of it has changed, and the whole reply is read. -/
structure ReaderCall.Faithful (call : ReaderCall) (scene : ReadScene)
    (stored : ReadResult) (after : ReadScene) : Prop where
  buffer_eq : stored.buffer = call.wanted scene ++
    call.buffer.drop (call.wanted scene).length
  count_eq : stored.count = (call.wanted scene).length
  count_le : stored.count ≤ call.capacity
  at_end : stored.count = 0 →
    call.capacity = 0 ∨ (call.object scene).length ≤ call.start scene
  unread_eq : after.unread = scene.unread
  object_eq : after.server.object = scene.server.object
  position_eq : after.server.position =
    if call.capacity = 0 then scene.server.position
    else Function.update scene.server.position call.descriptor
      (call.start scene + stored.count)

end Libsqli.Sblob
