import Libsqli.Lifecycle.Conn
import Libsqli.Receive.Execute
import Mathlib.Logic.Function.Basic
import Libsqli.Data.Stream

namespace Libsqli.Handshake

open Libsqli.Receive

/-! A connection object, as far as connecting reads or writes it. -/

/-- What a buffer of `size` octets holds as a C string. -/
abbrev Text (size : Nat) := { text : List UInt8 // text.length < size }

/-- `str_copy`; `none` if the source is too long. -/
def strCopy {size : Nat} (buffer : Text size) :
    Option (List UInt8) → Option (Text size)
  | none => some buffer
  | some source =>
      if hfits : source.length < size then some ⟨source, hfits⟩ else none

/-- The strings that a connection owns. -/
inductive Slot where
  | hostname
  | service
  | server
  | database
  | username
  | password
  | clientLocale
  | dbLocale
  deriving DecidableEq

/-- The size of the buffer. -/
def Slot.size : Slot → Nat
  | .service => 64
  | _ => 256

abbrev Strings := (slot : Slot) → Text slot.size

theorem Slot.size_pos (slot : Slot) : 0 < slot.size := by
  cases slot <;> decide

def Strings.empty : Strings := fun slot => ⟨[], slot.size_pos⟩

/-- The members of `sqli_capabilities` that a handshake sets. -/
structure Caps where
  cap1 : Nat
  hasPam : Bool
  remove64kLimit : Bool
  extendedDescribe : Bool
  largeTupleMode : Bool
  longRowId : Bool
  deriving DecidableEq

def Caps.unset : Caps := ⟨0, false, false, false, false, false⟩

/-- What the user sets on a connection. -/
structure Settings where
  strictProtocol : Bool
  trimTrailingSpaces : Bool
  autocommit : Bool
  cursorType : CursorType
  holdability : Holdability
  deriving DecidableEq

/-- `sqli_error_info`; of an error that the server has sent, its code. -/
structure ErrorReport where
  status : Status
  sqlcode : Int
  context : String
  opcode : Nat
  message : String
  deriving DecidableEq

/-- `struct sqli_conn`. -/
structure Connection where
  lifecycle : Lifecycle
  state : ConnState
  socketFd : Int
  settings : Settings
  strings : Strings
  decodes : Bool
  caps : Caps
  inTransaction : Bool
  inBatch : Bool
  databaseOpen : Bool
  -- what is between `read_buf_pos` and `read_buf_len`
  buffered : List Message
  loCreateFphandle : Int
  loCreateDbname : Text 128
  errorContext : String
  errorOpcode : Nat
  report : Option ErrorReport

namespace Connection

/-- `sqli_create`, with the settings that the user makes then. -/
def create (settings : Settings) : Connection where
  lifecycle := .clear
  state := .closed
  socketFd := -1
  settings := settings
  strings := .empty
  decodes := false
  caps := .unset
  inTransaction := false
  inBatch := false
  databaseOpen := false
  buffered := []
  loCreateFphandle := -1
  loCreateDbname := ⟨[], by decide⟩
  errorContext := ""
  errorOpcode := 0
  report := none

def withString (slot : Slot) (text : Text slot.size) (conn : Connection) :
    Connection :=
  { conn with strings := Function.update conn.strings slot text }

/-- `clear_error` -/
def clearError (conn : Connection) : Connection :=
  { conn with errorContext := "", errorOpcode := 0, report := none }

/-- `set_error_context` -/
def setErrorContext (context : String) (opcode : Nat) (conn : Connection) :
    Connection :=
  { conn with errorContext := context, errorOpcode := opcode }

/-- `set_error` -/
def setError (message : String) (conn : Connection) : Connection :=
  { conn with
    report := some ⟨.err, 0, conn.errorContext, conn.errorOpcode, message⟩ }

/-- `sqli_conn_discard`; `teardown` is what discarding the socket returned. -/
def discard (teardown : Status) (conn : Connection) : Connection :=
  let marked := { conn with
    lifecycle := conn.lifecycle.discard
    state := .error
    databaseOpen := false }
  if teardown = .err then marked
  else { marked with
    socketFd := -1
    buffered := []
    loCreateFphandle := -1
    loCreateDbname := ⟨[], by decide⟩ }

/-- `sqli_close`; what it tells the server before changes nothing here. -/
def close (teardown : Status) (conn : Connection) : Connection :=
  if conn.lifecycle.pinned then conn
  else if conn.lifecycle.discarded then conn.discard teardown
  else clearError { conn with
    socketFd := if 0 ≤ conn.socketFd then -1 else conn.socketFd
    state := .closed
    databaseOpen := false
    loCreateFphandle := -1
    loCreateDbname := ⟨[], by decide⟩ }

end Connection

end Libsqli.Handshake

namespace Libsqli.Handshake

open Libsqli.Data.Bytes
open Libsqli.Data.Stream

/-! What the server says of itself. -/

theorem err_ne_ok : Status.err ≠ .ok := by decide

theorem authFail_ne_ok : Status.authFail ≠ .ok := by decide

theorem protoError_ne_ok : Status.protoError ≠ .ok := by decide

theorem ioError_ne_ok : Status.ioError ≠ .ok := by decide

theorem allocFail_ne_ok : Status.allocFail ≠ .ok := by decide

theorem invalidState_ne_ok : Status.invalidState ≠ .ok := by decide

/-- How a step of the handshake fails: the status, what it reports, and where it
says so if not in the context at hand. -/
structure Failure where
  status : Status
  message : Option String := none
  context : Option (String × Nat) := none
  reported : Status := .err
  failed : status ≠ .ok := by
    first
    | exact err_ne_ok
    | exact authFail_ne_ok
    | exact protoError_ne_ok
    | exact ioError_ne_ok
    | exact allocFail_ne_ok
    | exact invalidState_ne_ok

/-! The body of a CONACC. -/

def word (body : List UInt8) (pos : Nat) : Nat :=
  natOfBytes ((body.drop pos).take 2)

/-- Where `parse_conacc_body` goes on, or where it starts to look for the service
error once the body is too short. -/
def skip (count : Nat) (body : List UInt8) (pos : Nat) : Except Nat Nat :=
  if body.length < pos + count then .error pos else .ok (pos + count)

def skipCounted (body : List UInt8) (pos : Nat) : Except Nat Nat :=
  if body.length < pos + 2 then .error pos
  else skip (word body pos) body (pos + 2)

/-- The tags and the version, the float type, the product with its version, the
RDS number and the application. -/
def capabilityPosition (body : List UInt8) : Except Nat Nat := do
  let pos ← skip 4 body 0
  let pos ← skip 4 body pos
  let pos ← skipCounted body pos
  let pos ← skip 14 body pos
  let pos ← skipCounted body pos
  let pos ← skipCounted body pos
  let pos ← skipCounted body pos
  if body.length < pos + 4 then .error pos else .ok pos

def capabilityWord (body : List UInt8) : Option Nat :=
  match capabilityPosition body with
  | .ok pos => some (natOfBytes ((body.drop pos).take 4))
  | .error _ => none

def scanStart (body : List UInt8) : Nat :=
  match capabilityPosition body with
  | .ok pos => pos + 14
  | .error pos => pos

def tagService : Nat := 102
def tagEnd : Nat := 127

/-- The scan for the tag 102; 0 stands for no error. -/
def serviceError : List UInt8 → Int
  | [] => 0
  | byte :: rest =>
      if rest.length + 1 < 8 then 0
      else if word (byte :: rest) 0 = tagService then
        (word (byte :: rest) 6 : Int).bmod (2 ^ 16)
      else if word (byte :: rest) 0 = tagEnd then 0
      else serviceError rest

/-- What `parse_conacc_body` takes over. -/
def Caps.heardBody (body : List UInt8) (caps : Caps) : Caps :=
  match capabilityWord body with
  | some number => { caps with cap1 := number }
  | none => caps

/-! The capability octets. -/

/-- The answer to SQ_PROTOCOLS: its length, and up to 16 octets of it. -/
structure Protocols where
  length : Nat
  octets : List UInt8
  deriving DecidableEq

def Protocols.has (protocols : Protocols) (index : Nat) (mask : UInt8) : Bool :=
  protocols.octets.getD index 0 &&& mask != 0

/-- What `do_sq_protocols` takes over. -/
def Caps.heardProtocols (protocols : Protocols) (caps : Caps) : Caps :=
  let pam :=
    if 6 ≤ protocols.length then { caps with hasPam := protocols.has 5 0x08 }
    else caps
  let wide :=
    if 8 ≤ protocols.length then
      { pam with
        remove64kLimit := protocols.has 7 0x02
        extendedDescribe := protocols.has 7 0x01 }
    else pam
  if 9 ≤ protocols.length then
    { wide with
      largeTupleMode := protocols.has 8 0x04
      longRowId := protocols.has 8 0x02 }
  else wide

/-! Reading the replies. -/

variable {σ : Type}

/-- An answer to the connection request. -/
structure Answer where
  body : List UInt8
  phase : String
  opcode : Nat
  rejected : Bool
  deriving DecidableEq

def sqEot : Nat := 12
def sqDbopen : Nat := 36
def sqExit : Nat := 56
def sqInfo : Nat := 81
def sqProtocols : Nat := 126
def sqAccept : Nat := 127
def sqAck : Nat := 128
def sqChallenge : Nat := 129
def sqResponse : Nat := 130

def slConreq : Nat := 1
def slConacc : Nat := 2
def slConrej : Nat := 3
def slRedirect : Nat := 13
def slHeaderSize : Nat := 6

/-- The length of the body behind an SL header, and whether it rejects. -/
def slLength (type pdu : Nat) : Except Failure (Nat × Bool) :=
  if type = slRedirect then
    .error
      { status := .err
        message := "server returned redirect"
        context := some ("connect/sl_header", type) }
  else if type = slConrej then
    if pdu < slHeaderSize then
      .error
        { status := .protoError
          message := "invalid CONREJ pdu size"
          context := some ("connect/conrej", type) }
    else if pdu = slHeaderSize then
      .error
        { status := .protoError
          message := "empty CONREJ body"
          context := some ("connect/conrej", type) }
    else .ok (pdu - slHeaderSize, true)
  else if type ≠ slConacc then
    .error
      { status := .protoError
        message := "unexpected SL type: " ++ toString type
        context := some ("connect/sl_header", type) }
  -- the length is a `uint16_t`
  else if pdu = slHeaderSize then
    .error
      { status := .protoError
        message := "empty ASC-BINARY body from server"
        context := some ("connect/conacc", type) }
  else .ok ((pdu + 2 ^ 16 - slHeaderSize) % 2 ^ 16, false)

/-- An SL header, and the length of the body behind it. -/
def slHeader : Reading Failure σ (Nat × Bool) := do
  let header ← readExact
    { status := .ioError
      message := "failed to read server response header"
      context := some ("connect/sl_header_read", 0) } slHeaderSize
  match slLength (header.getD 2 0).toNat (word header 0) with
  | .ok found => return found
  | .error failure => throw failure

def slPhase (rejected : Bool) : String × Nat :=
  if rejected then ("connect/conrej", slConrej) else ("connect/conacc", slConacc)

/-- The body behind an SL header. -/
def slBody (length : Nat) (rejected : Bool) : Reading Failure σ Answer := do
  let body ← readExact
    { status := .ioError
      message := some (if rejected then "failed to read CONREJ body"
        else "failed to read server response body")
      context := some (slPhase rejected) } length
  return ⟨body, (slPhase rejected).1, (slPhase rejected).2, rejected⟩

def ipcGreeting : Reading Failure σ Unit := do
  let _ ← readExact
    { status := .ioError, message := "failed to read server greeting" } 12
  return ()

/-- The frame on a Unix socket counts its own length. -/
def ipcLength : Reading Failure σ Nat := do
  let frame ← readNatural
    { status := .ioError, message := "failed to read CONACC length" } 2
  if frame < 2 then
    throw
      { status := .protoError
        message := some ("invalid CONACC frame length: " ++ toString frame) }
  else if frame = 2 ∨ 4096 < frame - 2 then
    throw
      { status := .protoError
        message := some
          ("invalid CONACC body length: " ++ toString (frame - 2)) }
  else return frame - 2

def ipcBody (length : Nat) : Reading Failure σ Answer := do
  let body ← readExact
    { status := .ioError, message := "failed to read CONACC body" } length
  return ⟨body, "connect/ipc_conacc", 0, false⟩

def protocolsFailure (status : Status) (message : String)
    (failed : status ≠ .ok := by
      first
      | exact ioError_ne_ok
      | exact protoError_ne_ok) : Failure :=
  ⟨status, "SQ_PROTOCOLS: " ++ message, none, .err, failed⟩

/-- The answer to SQ_PROTOCOLS without the EOT behind it. -/
def protocolsReply : Reading Failure σ Protocols := do
  let opcode ← readNatural
    (protocolsFailure .ioError "failed to read opcode") 2
  let length ← readNatural
    (protocolsFailure .ioError "failed to read length") 2
  if opcode ≠ sqProtocols then
    throw (protocolsFailure .protoError
      ("unexpected opcode " ++ toString opcode))
  else
    let octets ← readExact
      (protocolsFailure .ioError "failed to read capability bytes")
      (min length 16)
    let _ ← readExact
      (protocolsFailure .ioError "failed to drain trailing bytes")
      (length - min length 16 + length % 2)
    return ⟨length, octets⟩

/-- What a server says before it authenticates. -/
structure Replies where
  answer : Answer
  protocols : Protocols
  deriving DecidableEq

/-- What the replies make of the capabilities. -/
def Caps.heard (replies : Replies) (caps : Caps) : Caps :=
  (caps.heardBody replies.answer.body).heardProtocols replies.protocols

/-- The answer to the connection request, over a Unix socket or with TCP. -/
def readAnswer (unix : Bool) : Reading Failure σ Answer :=
  if unix then do
    ipcGreeting
    let length ← ipcLength
    ipcBody length
  else do
    let (length, rejected) ← slHeader
    slBody length rejected

def readReplies (unix : Bool) : Reading Failure σ Replies := do
  let answer ← readAnswer unix
  let protocols ← protocolsReply
  return ⟨answer, protocols⟩

/-- The replies at the start of what the server sends. -/
def repliesOf (unix : Bool) (octets : List UInt8) : Option Replies :=
  match readReplies unix ⟨octets, ()⟩ with
  | .ok replies _ => some replies
  | .error _ _ => none

end Libsqli.Handshake
