import Libsqli.Receive.Descriptor
import Libsqli.Receive.Execute
import Libsqli.Receive.TupleStorage

namespace Libsqli.Dispatch

open Libsqli.Data.Bytes
open Libsqli.Data.Stream
open Libsqli.Octets
open Libsqli.Receive (Capabilities Context Diagnostic Done Sizes canEndGroup
  endGroup)

/-! `sqli_receive_dispatch` over the octets that have arrived. -/

namespace Opcode

def command : Nat := 1
def prepare : Nat := 2
def describe : Nat := 8
def close : Nat := 10
def release : Nat := 11
def tuple : Nat := 14
def tupid : Nat := 25
def dbopen : Nat := 36
def dbclose : Nat := 37
def exit : Nat := 56
def reassoc : Nat := 86
def insertdone : Nat := 94

end Opcode

/-- What the loop works on beside the octets: what its peeks show, whether the
next allocation succeeds, and what it leaves behind. -/
structure Listener where
  looks : List Look
  allocs : Nat → Bool
  result : Result
  diagnostic : Diagnostic

abbrev Dispatcher := Reading Status Listener

/-- A part that reads and peeks; a read that fails is recorded. -/
def heard (program : OctetReader α) : Dispatcher α := fun state =>
  match program ⟨state.unread, state.own.looks⟩ with
  | .ok value after =>
      .ok value ⟨after.unread, { state.own with looks := after.own }⟩
  | .error status after =>
      .error status ⟨after.unread,
        { state.own with looks := after.own, diagnostic := .local }⟩

def change (step : Listener → Listener) : Dispatcher Unit := fun state =>
  .ok () { state with own := step state.own }

def changeResult (step : Result → Result) : Dispatcher Unit :=
  change fun own => { own with result := step own.result }

def changeDiagnostic (step : Diagnostic → Diagnostic) : Dispatcher Unit :=
  change fun own => { own with diagnostic := step own.diagnostic }

def skip (program : OctetReader α) : Dispatcher Unit :=
  (fun _ => ()) <$> heard program

/-- Memory that has to be had. -/
def granted : Dispatcher Unit := fun state =>
  let after := { state with own :=
    { state.own with allocs := fun index => state.own.allocs (index + 1) } }
  if state.own.allocs 0 then .ok () after else .error .allocFail after

/-! The messages with an effect. -/

def receiveDescribe (sizes : Sizes) (malloc : Nat → Bool)
    (caps : Capabilities) : Dispatcher Unit := fun state =>
  match Receive.receiveDescribe sizes malloc caps
      ⟨state.unread, ⟨0, none, state.own.result⟩⟩ with
  | .ok () after =>
      .ok () ⟨after.unread, { state.own with result := after.own.result }⟩
  | .error status after =>
      .error status ⟨after.unread, { state.own with
        diagnostic :=
          if status = .ioError then .local else state.own.diagnostic }⟩

def appendTuple (warnings : UInt16) (bytes : List UInt8) : Dispatcher Unit :=
  fun state =>
    match Receive.receiveTuple warnings bytes state.own.result with
    | none => .error .allocFail state
    | some result => .ok () { state with own := { state.own with result } }

/-- `receive_tuple`; the arena is grown before the payload is read, the arrays of
the rows behind it. -/
def receiveTuple : Dispatcher Unit := do
  let warnings ← heard readBe16
  let size ← heard readBe32
  if maxTupleBytes < size then do
    changeDiagnostic fun _ => .local
    throw .protoError
  else
    granted
    let bytes ← heard (readOctets size)
    heard (drainBytes (size % 2))
    appendTuple (.ofNat warnings) bytes

/-- A drained message, if it can be read; the drain ends if it cannot. -/
def drained (program : OctetReader Unit) : Dispatcher (Unit ⊕ Unit) :=
  fun state =>
    match heard program state with
    | .ok () after => .ok (.inl ()) after
    | .error _ after => .ok (.inr ()) after

def trailMessage (opcode : Nat) : Option (OctetReader Unit) :=
  if opcode = Octets.Opcode.cost then some receiveCost
  else if opcode = Octets.Opcode.info then some drainInfo
  else if opcode = Octets.Opcode.dbopenFlags then
    some ((fun _ => ()) <$> readBe16)
  else if opcode = Octets.Opcode.eot then some (pure ())
  else none

def trailRound (_ : Unit) : Dispatcher (Unit ⊕ Unit) := do
  let peek ← heard (peekBytes 2)
  if peek.length ≠ 2 then return .inr ()
  else
    match trailMessage (natOfBytes peek) with
    | none => return .inr ()
    | some program => drained do
        let _ ← readBe16
        program

/-- The last loop of `receive_done`. -/
def drainTrail : Dispatcher Unit := forever .ioError trailRound ()

/-- What `receive_done` leaves in the result before it looks for its tail. -/
def recordDone (caps : Capabilities) (done : Done) (result : Result) : Result :=
  { Receive.receiveDone caps done result with
    eof := result.eof
    sawDone := result.sawDone }

def receiveDone (caps : Capabilities) : Dispatcher Unit := do
  let done ← heard (doneFields caps.longRowId)
  changeResult (recordDone caps done)
  heard doneTail
  drainTrail
  changeResult fun result => { result with eof := true, sawDone := true }

/-- The opcodes that end the tail of an INSERTDONE. -/
def insertdoneStops : List Nat := [15, 12, 13, 14, 94, 99, 56, 55, 81]

/-- The tail is dropped word by word; the count is what is left of its bound. -/
def insertdoneTail : Nat → OctetReader Unit
  | 0 => pure ()
  | words + 1 => do
      let peek ← peekBytes 2
      if peek.length ≠ 2 ∨ natOfBytes peek ∈ insertdoneStops then pure ()
      else do
        drainBytes 2
        insertdoneTail words

def receiveInsertdone : Dispatcher Unit := do
  let sign ← heard readBe16
  let low ← heard readBe32
  let high ← heard readBe32
  changeResult (Receive.receiveInsertdone
    ⟨.ofNat sign, .ofNat low, .ofNat high⟩)
  heard (insertdoneTail 256)

/-- `sqli_receive_error` -/
def receiveError (caps : Capabilities) : Dispatcher Unit := do
  let sqlcode ← heard readBe16
  let _isamcode ← heard readBe16
  changeResult fun result => { result with errorCode := toInt16 sqlcode }
  heard (errorDetail caps.remove64kLimit (toInt16 sqlcode))
  changeDiagnostic fun _ => ⟨true, toInt16 sqlcode⟩
  heard errorEnd
  changeResult fun result => { result with eof := true, sawError := true }
  throw .protoError

/-- The two looks at the end of a group, the second after a short wait. -/
def receiveEot (context : Context) (start : Int) : Dispatcher Unit := do
  let first ← heard (peekBytes 1)
  if first ≠ [] then pure ()
  else do
    let second ← heard (peekBytes 1)
    if second ≠ [] then pure ()
    else changeResult fun result =>
      if canEndGroup context start result then endGroup result else result

/-- Its payload is read unless the socket shows an opcode. -/
def receiveCommand : OctetReader Unit := fun state =>
  match state.own with
  | [] => ((fun _ => ()) <$> readBe32) state
  | look :: looks =>
      let peek := (state.unread.drop look.behind).take (min look.seen 2)
      if peek.length = 2 ∧ natOfBytes peek ∈ likelyOpcodes then
        .ok () { state with own := looks }
      else ((fun _ => ()) <$> readBe32) { state with own := looks }

/-- A name, two octets more, and the opcode of an end. -/
def receiveDbopen : OctetReader Unit := do
  let length ← readBe16
  heedless (drainBytes (length + 2))
  let _eot ← readBe16

def receiveXactstat : OctetReader Unit := do
  let _event ← readBe16
  let _newLevel ← readBe16
  let _oldLevel ← readBe16

def receiveExit : Dispatcher Unit := do
  changeResult endGroup
  throw .ioError

/-- An opcode that is not known; the peek is for the log. -/
def receiveUnknown (caps : Capabilities) : Dispatcher Unit := do
  let _shown ← heard (peekBytes 8)
  changeDiagnostic Diagnostic.flagged
  if caps.strictProtocol then do
    changeResult endGroup
    throw .protoError
  else pure ()

/-! The loop. -/

section

variable (sizes : Sizes) (malloc : Nat → Bool) (caps : Capabilities)
  (context : Context) (start : Int)

def dispatchOpcode (opcode : Nat) : Dispatcher Unit :=
  if opcode = Octets.Opcode.dbopenFlags then skip readBe16
  else if opcode = Opcode.command then skip receiveCommand
  else if opcode = Opcode.describe then receiveDescribe sizes malloc caps
  else if opcode = Opcode.tuple then receiveTuple
  else if opcode = Opcode.tupid then skip readBe32
  else if opcode = Octets.Opcode.done then receiveDone caps
  else if opcode = Octets.Opcode.err then receiveError caps
  else if opcode = Opcode.close ∨ opcode = Opcode.release ∨
      opcode = Opcode.prepare ∨ opcode = Opcode.dbclose ∨
      opcode = Opcode.reassoc then pure ()
  else if opcode = Octets.Opcode.eot then receiveEot context start
  else if opcode = Opcode.exit then receiveExit
  else if opcode = Opcode.dbopen then skip receiveDbopen
  else if opcode = Octets.Opcode.xactstat then skip receiveXactstat
  else if opcode = Octets.Opcode.info then skip drainInfo
  else if opcode = Opcode.insertdone then receiveInsertdone
  else if opcode = Octets.Opcode.cost then skip receiveCost
  else receiveUnknown caps

def dispatchMessage : Dispatcher (Unit ⊕ Unit) := do
  let opcode ← heard readBe16
  dispatchOpcode sizes malloc caps context start opcode
  return .inl ()

def dispatchRound (_ : Unit) : Dispatcher (Unit ⊕ Unit) := fun state =>
  if state.own.result.eof then .ok (.inr ()) state
  else dispatchMessage sizes malloc caps context start state

end

/-- `sqli_receive_dispatch` -/
def receiveDispatch (sizes : Sizes) (malloc : Nat → Bool)
    (caps : Capabilities) (context : Context) : Dispatcher Unit := fun state =>
  forever .ioError
    (dispatchRound sizes malloc caps context state.own.result.rowCount) () state

end Libsqli.Dispatch
