import Libsqli.Receive.Message

namespace Libsqli.Receive

open Layout

/-! The dispatch loop over decoded messages. -/

/-- The part of the connection's diagnostics that decisions depend on. -/
structure Diagnostic where
  hasError : Bool
  sqlcode : Int
  deriving DecidableEq

/-- `clear_error` -/
def Diagnostic.clear : Diagnostic := ⟨false, 0⟩

/-- `set_error` -/
def Diagnostic.local : Diagnostic := ⟨true, 0⟩

/-- `set_error_info_from_sqerr` -/
def Diagnostic.server (error : ServerError) : Diagnostic :=
  ⟨true, error.sqlcode.toInt⟩

/-- What the dispatch loop records of an opcode it does not know. -/
def Diagnostic.flagged (diagnostic : Diagnostic) : Diagnostic :=
  { diagnostic with hasError := true }

/-- `set_error` where no error is recorded yet. -/
def Diagnostic.orLocal (diagnostic : Diagnostic) : Diagnostic :=
  if diagnostic.hasError then diagnostic else .local

/-- What an error context says about the end of a message group. -/
inductive Context where
  | prepareRecv
  | fetchRecv
  | otherRecv
  deriving DecidableEq

/-- What reception has at hand beside the messages.  `looks` says whether the
next look ahead finds the next message arrived, `allocs` whether the next
allocation succeeds. -/
structure Scene where
  looks : Nat → Bool
  allocs : Nat → Bool
  result : Result
  diagnostic : Diagnostic

namespace Scene

def looked (scene : Scene) : Scene :=
  { scene with looks := fun index => scene.looks (index + 1) }

def allocated (scene : Scene) : Scene :=
  { scene with allocs := fun index => scene.allocs (index + 1) }

def withResult (scene : Scene) (result : Result) : Scene := { scene with result }

def withDiagnostic (scene : Scene) (diagnostic : Diagnostic) : Scene :=
  { scene with diagnostic }

end Scene

/-- The messages that `receive_done` reads on after a DONE. -/
def Message.trails : Message → Bool
  | .cost _ _ | .info _ | .dbopenFlags _ | .eot => true
  | _ => false

/-- The last loop of `receive_done`. -/
def drainTrail : List Message → Scene → List Message × Scene
  | [], scene => ([], scene.looked)
  | message :: rest, scene =>
      if scene.looks 0 && message.trails then drainTrail rest scene.looked
      else (message :: rest, scene.looked)

/-- The EOT that `sqli_receive_error` takes along. -/
def drainEot : List Message → Scene → List Message × Scene
  | .eot :: rest, scene =>
      (if scene.looks 0 then rest else .eot :: rest, scene.looked)
  | messages, scene => (messages, scene.looked)

/-- Whether a group may end at an EOT with nothing behind it. -/
def canEndGroup (context : Context) (start : Int) (result : Result) : Bool :=
  match context with
  | .prepareRecv => !(result.statementType == 0 && result.stmtId == 0 &&
      result.columns.isEmpty)
  | .fetchRecv => result.sawDone || result.rowCount - start != 0
  | .otherRecv => true

/-- How the dispatch loop goes on after a message. -/
inductive Handled where
  | continue (scene : Scene)
  | finish (status : Status) (rest : List Message) (scene : Scene)

/-- The two looks at an EOT, the second after a short wait. -/
def handleEot (context : Context) (start : Int) (rest : List Message)
    (scene : Scene) : Handled :=
  if rest ≠ [] ∧ scene.looks 0 then .continue scene.looked
  else if rest ≠ [] ∧ scene.looks 1 then .continue scene.looked.looked
  else if canEndGroup context start scene.result then
    .continue (scene.looked.looked.withResult (endGroup scene.result))
  else .continue scene.looked.looked

def handleDescribe (caps : Capabilities) (describe : Describe)
    (rest : List Message) (scene : Scene) : Handled :=
  if scene.allocs 0 = false then .finish .allocFail rest scene.allocated
  else if assignNames describe.fields.length describe.names = false then
    .finish .protoError rest scene.allocated
  else .continue (scene.allocated.withResult
    (replaceDescriptor caps describe scene.result))

def handleTuple (warnings : UInt16) (bytes : List UInt8) (rest : List Message)
    (scene : Scene) : Handled :=
  if scene.allocs 0 = false then .finish .allocFail rest scene.allocated
  else
    match receiveTuple warnings bytes scene.result with
    | none => .finish .allocFail rest scene.allocated
    | some result => .continue (scene.allocated.withResult result)

def handleDone (caps : Capabilities) (done : Done) (rest : List Message)
    (scene : Scene) : Handled :=
  let drained :=
    drainTrail rest (scene.withResult (receiveDone caps done scene.result))
  .finish .ok drained.1 drained.2

def handleError (error : ServerError) (rest : List Message) (scene : Scene) :
    Handled :=
  let drained := drainEot rest ((scene.withResult
    (receiveError error scene.result)).withDiagnostic (.server error))
  .finish .protoError drained.1 drained.2

def handleUnknown (caps : Capabilities) (rest : List Message) (scene : Scene) :
    Handled :=
  let flagged := scene.withDiagnostic scene.diagnostic.flagged
  if caps.strictProtocol then
    .finish .protoError rest (flagged.withResult (endGroup scene.result))
  else .continue flagged

/-- One round of `sqli_receive_dispatch`. -/
def handle (caps : Capabilities) (context : Context) (start : Int)
    (message : Message) (rest : List Message) (scene : Scene) : Handled :=
  match message with
  | .describe payload => handleDescribe caps payload rest scene
  | .tuple warnings bytes => handleTuple warnings bytes rest scene
  | .done payload => handleDone caps payload rest scene
  | .err payload => handleError payload rest scene
  | .eot => handleEot context start rest scene
  | .exit => .finish .ioError rest (scene.withResult (endGroup scene.result))
  | .insertdone serial =>
      .continue (scene.withResult (receiveInsertdone serial scene.result))
  | .unknown _ => handleUnknown caps rest scene
  | .oversizedTuple => .finish .protoError rest (scene.withDiagnostic .local)
  | .oversizedDescribe => .finish .limitExceeded rest scene
  | .dbopenFlags _ | .command _ | .prepare | .close | .release | .tupid _
  | .dbopen _ | .dbclose | .cost _ _ | .info _ | .reassoc
  | .xactstat _ _ _ => .continue scene

/-- What a call of the dispatch loop leaves. -/
structure Reception where
  status : Status
  messages : List Message
  scene : Scene

def receiveLoop (caps : Capabilities) (context : Context) (start : Int) :
    List Message → Scene → Reception
  | [], scene =>
      if scene.result.eof then ⟨.ok, [], scene⟩
      else ⟨.ioError, [], scene.withDiagnostic .local⟩
  | message :: rest, scene =>
      if scene.result.eof then ⟨.ok, message :: rest, scene⟩
      else
        match handle caps context start message rest scene with
        | .continue scene => receiveLoop caps context start rest scene
        | .finish status rest scene => ⟨status, rest, scene⟩

/-- `sqli_receive_dispatch` -/
def receiveDispatch (caps : Capabilities) (context : Context)
    (messages : List Message) (scene : Scene) : Reception :=
  receiveLoop caps context scene.result.rowCount messages scene

end Libsqli.Receive
