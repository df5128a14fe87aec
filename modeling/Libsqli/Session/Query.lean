import Libsqli.Session.Statement

namespace Libsqli.Session

open Libsqli.Receive
open Layout

/-! `sqli_query_ex`. -/

/-- What `sqli_result_destroy` asks of the server. -/
def destroyResult (caps : Capabilities) : Exchange Unit := fun client =>
  if client.txn.state = .ready ∧ client.txn.lifecycle.discarded = false ∧
      client.result.statementType = statementSelect ∧
      0 ≤ client.result.stmtId then
    closeRelease caps client.result.stmtId client
  else .ok () client

/-- The result that a query is received into. -/
def queriedResult (choice : CursorChoice) (txn : Txn) : Result :=
  { blankResult with
    cursorType := choice.cursorType
    holdability := choice.holdability
    commitEpoch := txn.commitEpoch
    rollbackEpoch := txn.rollbackEpoch
    view := ⟨-1, 0, true, false, none, -1, 0⟩ }

def newResult (choice : CursorChoice) : Exchange Unit := do
  allocate fun _ => true
  update fun client => client.withResult (queriedResult choice client.txn)

/-- What the server has prepared is executed once it has an identifier. -/
def checkPrepared : Exchange Unit := do
  check fun client => if client.result.stmtId < 0 then .protoError else .ok
  updateResult clearEof

def selects (result : Result) : Bool :=
  result.statementType == statementSelect

/-- `sqli_is_legacy_lob_type` for one of the columns. -/
def hasLobs (result : Result) : Bool :=
  result.columns.any fun column =>
    column.type == typeByte || column.type == typeText

def openQuery (caps : Capabilities) (stmtId : Int) : Exchange Unit := do
  request (.open stmtId)
  updateResult clearFlags
  receive caps .otherRecv
  nextFetch stmtId

/-- A result without its statement. -/
def forgetStatement (result : Result) : Result := { result with stmtId := -1 }

def closeQuery (caps : Capabilities) (choice : CursorChoice) (stmtId : Int) :
    Exchange Unit := fun client =>
  if hasLobs client.result = false ∧
      choice.cursorType ≠ .scrollInsensitive then
    (do
      closeRelease caps stmtId
      updateResult forgetStatement : Exchange Unit) client
  else .ok () client

/-- The loop that receives the reply to an EXECUTE; the count is what is left of
its guard. -/
def queryRounds (caps : Capabilities) :
    Nat → List Message → Scene → Reception
  | 0, messages, scene => ⟨.protoError, messages, scene.withDiagnostic .local⟩
  | guard + 1, messages, scene =>
      let reception := receiveDispatch caps .otherRecv messages
        (scene.withResult (clearFlags scene.result))
      if reception.status ≠ .ok then reception
      else if settledFlags reception.scene.result then reception
      else if reception.messages = [] ∨
          (reception.scene.looks 0 = false ∧ reception.scene.looks 1 = false)
      then { reception with scene := reception.scene.looked.looked }
      else queryRounds caps guard reception.messages reception.scene.looked

def receiveQuery (caps : Capabilities) : Exchange Unit := do
  update fun client => client.took (takenBy caps .otherRecv client.rowCount
    client.incoming (client.scene.withResult (clearFlags client.result)))
  ofReception fun client =>
    queryRounds caps executeGuard client.incoming client.scene

def startQuery (caps : Capabilities) (stmtId : Int) : Exchange Unit :=
  fun client =>
    if selects client.result then openQuery caps stmtId client
    else request (.execute stmtId) client

def finishQuery (caps : Capabilities) (choice : CursorChoice) (stmtId : Int) :
    Exchange Unit := fun client =>
  if selects client.result then
    (do
      fetchLoop caps stmtId
      closeQuery caps choice stmtId : Exchange Unit) client
  else
    (do
      receiveQuery caps
      drainTail caps
      track : Exchange Unit) client

/-- The query once its statement is prepared. -/
def runQuery (caps : Capabilities) (choice : CursorChoice) (stmtId : Int) :
    Exchange Unit := do
  startQuery caps stmtId
  finishQuery caps choice stmtId

def answerQuery (caps : Capabilities) (choice : CursorChoice) :
    Exchange Unit := do
  updateResult clearFlags
  receive caps .prepareRecv
  autobegin caps
  checkPrepared
  fun client => runQuery caps choice client.result.stmtId client

/-- `sqli_query_ex` -/
def queryEx (caps : Capabilities) (choice : CursorChoice) (sql : List UInt8) :
    Exchange Unit := do
  checkReady
  newResult choice
  request (.prepare sql)
  onError (answerQuery caps choice) (destroyResult caps)

end Libsqli.Session
