import Libsqli.Data.Program
import Libsqli.Requests.Message
import Libsqli.Transaction.Local

namespace Libsqli.Requests

open Libsqli.Bind
open Libsqli.Wire

/-! The public calls as what they send. -/

/-- What the result at hand says once something is received into it: whether it
has grown, whether its cursor went with the transaction, and how it asks for
more rows. -/
structure Facts where
  statementType : Nat
  stmtId : Int32
  grown : Bool
  hasLobs : Bool
  cursorLost : Bool
  form : FetchForm

/-- All that the code does between two sends, receptions and allocations alike,
comes to one entry of `heard`: a status and what the result then says. -/
structure Dialogue where
  wire : Outgoing
  txn : Txn
  inBatch : Bool
  cursorOpen : Bool
  facts : Facts
  heard : List (Status × Facts)

abbrev Speaker := EStateM Status Dialogue

/-- What a call finds beside its arguments. -/
structure Setting where
  charset : Charset
  session : Session
  malloc : Nat → Bool
  cursor : CursorOptions

def Setting.encode (setting : Setting) : Encoder :=
  encodeClientToDb setting.charset setting.session

/-! The parts of a call. -/

def update (change : Dialogue → Dialogue) : Speaker Unit := fun dialogue =>
  .ok () (change dialogue)

/-- Goes on only with the status OK. -/
def check (status : Dialogue → Status) : Speaker Unit := fun dialogue =>
  if status dialogue = .ok then .ok () dialogue
  else .error (status dialogue) dialogue

theorem bind_returns {first : Speaker Unit} {next : Unit → Speaker Unit}
    {dialogue middle : Dialogue} (hfirst : first dialogue = .ok () middle) :
    (first >>= next) dialogue = next () middle := by
  rw [Data.Program.bind_apply, hfirst]

theorem bind_stops {first : Speaker Unit} {next : Unit → Speaker Unit}
    {dialogue after : Dialogue} {status : Status}
    (hfirst : first dialogue = .error status after) :
    (first >>= next) dialogue = .error status after := by
  rw [Data.Program.bind_apply, hfirst]

theorem check_pass {status : Dialogue → Status} {next : Unit → Speaker Unit}
    {dialogue : Dialogue} (hstatus : status dialogue = .ok) :
    (check status >>= next) dialogue = next () dialogue := by
  exact bind_returns (by rw [check, if_pos hstatus])

theorem check_stop {status : Dialogue → Status} {next : Unit → Speaker Unit}
    {dialogue : Dialogue} (hstatus : status dialogue ≠ .ok) :
    (check status >>= next) dialogue =
      .error (status dialogue) dialogue := by
  exact bind_stops (by rw [check, if_neg hstatus])

def say (sender : Sender Unit) : Speaker Unit := fun dialogue =>
  match sender dialogue.wire with
  | .ok () after => .ok () { dialogue with wire := after }
  | .error status after => .error status { dialogue with wire := after }

/-- The next entry; `keep` says what of it the result at hand keeps. -/
def hearInto (keep : Facts → Facts → Facts) : Speaker Unit := fun dialogue =>
  match dialogue.heard with
  | [] => .error .ioError dialogue
  | (status, facts) :: heard =>
      check (fun _ => status)
        { dialogue with heard, facts := keep dialogue.facts facts }

/-- Received into the result at hand. -/
def hear : Speaker Unit := hearInto fun _ facts => facts

/-- Received into a throw-away result. -/
def hearAside : Speaker Unit := hearInto fun kept _ => kept

/-- Runs a program whose status the caller ignores. -/
def attempt (program : Speaker Unit) : Speaker Unit := fun dialogue =>
  .ok () (Data.Program.stateOf (program dialogue))

/-- Runs a program and, if it stops, what its error exits do. -/
def onError (program cleanup : Speaker Unit) : Speaker Unit := fun dialogue =>
  match program dialogue with
  | .ok () after => .ok () after
  | .error status after =>
      .error status (Data.Program.stateOf (cleanup after))

/-- Runs a program whose failures are all reported as one. -/
def reporting (status : Status) (program : Speaker Unit) : Speaker Unit :=
  fun dialogue =>
    match program dialogue with
    | .ok () after => .ok () after
    | .error _ after => .error status after

/-! The transaction and batch calls. -/

/-- A native transaction command. -/
def native (message : List UInt8) (active : Bool) (effect : Txn → Txn) :
    Speaker Unit := do
  check fun dialogue => dialogue.txn.verifyTxnReady
  check fun dialogue =>
    if dialogue.txn.inTransaction = active then .ok else .invalidState
  say (send message)
  hearAside
  update fun dialogue => { dialogue with txn := effect dialogue.txn }

/-- `sqli_begin` -/
def begin : Speaker Unit := native beginMessage false Txn.started

/-- `sqli_commit` -/
def commit : Speaker Unit := native commitMessage true Txn.committed

/-- `sqli_rollback` -/
def rollback : Speaker Unit := native rollbackMessage true Txn.rolledBack

/-- `sqli_batch_begin` and `sqli_batch_end` -/
def batchMark (opcode : UInt8) (active : Bool) : Speaker Unit := do
  check fun dialogue => dialogue.txn.verifyTxnReady
  check fun dialogue =>
    if dialogue.inBatch = active then .ok else .invalidState
  say (send [0, opcode])
  update fun dialogue => { dialogue with inBatch := !active }

/-- `sqli_autobegin` -/
def autobegin (statementType : Nat) : Speaker Unit := fun dialogue =>
  if dialogue.txn.autocommit ∨ dialogue.txn.inTransaction then .ok () dialogue
  else if Txn.accessesData statementType then begin dialogue
  else .ok () dialogue

/-- `sqli_track_transaction_statement` for the result at hand. -/
def track : Speaker Unit := update fun dialogue =>
  { dialogue with
    txn := dialogue.txn.trackTransactionStatement dialogue.facts.statementType }

def beginIfNone : Speaker Unit := fun dialogue =>
  if dialogue.txn.inTransaction then .ok () dialogue else begin dialogue

/-- `savepoint_send_core` -/
def savepoint (setting : Setting) (call : SavepointCall) (name : List UInt8) :
    Speaker Unit := do
  check fun dialogue => dialogue.txn.verifyTxnReady
  check fun _ => if name = [] then .invalidState else .ok
  check fun dialogue =>
    if dialogue.txn.inTransaction = false ∧ dialogue.txn.autocommit then
      .invalidState
    else .ok
  beginIfNone
  say (sendSavepoint setting.encode call name)
  hearAside

/-! Statements and queries. -/

/-- `sqli_send_stmt_control` -/
def stmtControl (stmtId : Int32) (opcode : UInt8) : Speaker Unit := do
  say (send (controlBytes stmtId opcode))
  hearAside

/-- `sqli_stmt_close_release` -/
def closeRelease (stmtId : Int32) : Speaker Unit := do
  attempt (stmtControl stmtId sqClose)
  attempt (stmtControl stmtId sqRelease)

/-- `sqli_stmt_best_effort_control`; the statement's socket is that of the
connection. -/
def bestEffortControl (stmtId : Int32) (opcode : UInt8) : Speaker Unit :=
  fun dialogue =>
    if dialogue.txn.socketFd < 0 ∨ stmtId < 0 ∨
        dialogue.txn.lifecycle.discarded then .ok () dialogue
    else attempt (say (send (controlBytes stmtId opcode))) dialogue

def setCursor (isOpen : Bool) : Speaker Unit :=
  update fun dialogue => { dialogue with cursorOpen := isOpen }

/-- `sqli_stmt_close_cursor_if_open` -/
def closeCursorIfOpen (stmtId : Int32) : Speaker Unit := fun dialogue =>
  if dialogue.cursorOpen = false then .ok () dialogue
  else if dialogue.facts.cursorLost then setCursor false dialogue
  else if 0 < dialogue.txn.socketFd ∧ dialogue.txn.state = .ready ∧
      0 ≤ stmtId ∧ dialogue.txn.lifecycle.discarded = false then
    (do
      stmtControl stmtId sqClose
      setCursor false : Speaker Unit) dialogue
  else if 0 < dialogue.txn.socketFd ∧ 0 ≤ stmtId then
    (do
      bestEffortControl stmtId sqClose
      setCursor false : Speaker Unit) dialogue
  else setCursor false dialogue

def nextFetch (stmtId : Int32) : Speaker Unit := fun dialogue =>
  say (sendFetch dialogue.facts.form stmtId) dialogue

/-- The fetch loops: they go on as long as rows come. The recursion is on what
is still to be heard. -/
def fetchRounds (stmtId : Int32) :
    List (Status × Facts) → Speaker Unit
  | [] => hear
  | _ :: heard => do
      hear
      fun dialogue =>
        if dialogue.facts.grown = false then .ok () dialogue
        else
          (do
            nextFetch stmtId
            fetchRounds stmtId heard : Speaker Unit) dialogue

def fetchLoop (stmtId : Int32) : Speaker Unit := fun dialogue =>
  fetchRounds stmtId dialogue.heard dialogue

/-- The reception of BIND's reply. -/
def bindIfNeeded (setting : Setting) (stmt : Statement) : Speaker Unit := do
  say (sendBindIfNeeded setting.malloc setting.encode stmt true)
  if stmt.params = [] then pure () else hearAside

/-- `sqli_stmt_execute_select` -/
def executeSelect (setting : Setting) (stmt : Statement) : Speaker Unit := do
  autobegin stmt.statementType
  bindIfNeeded setting stmt
  say (sendOpen setting.cursor stmt)
  setCursor true
  hear
  nextFetch stmt.stmtId
  fetchLoop stmt.stmtId

/-- `sqli_stmt_execute_bound_params` -/
def executeBoundParams (setting : Setting) (stmt : Statement) :
    Speaker Unit := do
  autobegin stmt.statementType
  say (sendExecute setting.malloc setting.encode stmt)
  hear
  track

/-- `sqli_execute` -/
def execute (setting : Setting) (stmt : Statement) : Speaker Unit := do
  check fun dialogue =>
    if dialogue.txn.lifecycle.discarded then .invalidState else .ok
  closeCursorIfOpen stmt.stmtId
  if stmt.opensCursor then
    onError (executeSelect setting stmt) (closeCursorIfOpen stmt.stmtId)
  else executeBoundParams setting stmt

def checkReady : Speaker Unit := check fun dialogue =>
  if dialogue.txn.state = .ready then .ok else .invalidState

/-- `sqli_prepare` -/
def prepare (setting : Setting) (sql : List UInt8) : Speaker Unit := do
  checkReady
  reporting .ioError (say (Prepare.sendPrepare setting.charset setting.session sql))
  hear

def selects (facts : Facts) : Bool := facts.statementType == selectStatement

/-- What `sqli_result_destroy` asks of the server. -/
def destroyResult : Speaker Unit := fun dialogue =>
  if dialogue.txn.state = .ready ∧
      dialogue.txn.lifecycle.discarded = false ∧
      selects dialogue.facts = true ∧ 0 ≤ dialogue.facts.stmtId then
    closeRelease dialogue.facts.stmtId dialogue
  else .ok () dialogue

/-- A result fresh from `calloc`. -/
def blankFacts : Facts where
  statementType := 0
  stmtId := 0
  grown := false
  hasLobs := false
  cursorLost := false
  form := ⟨none, 0, none⟩

def newResult : Speaker Unit := do
  hearAside
  update fun dialogue => { dialogue with facts := blankFacts }

def closeQuery (setting : Setting) (stmtId : Int32) : Speaker Unit :=
  fun dialogue =>
    if dialogue.facts.hasLobs = false ∧ setting.cursor.scroll = false then
      closeRelease stmtId dialogue
    else .ok () dialogue

def queryRows (setting : Setting) (stmtId : Int32) : Speaker Unit := do
  say (sendOpen setting.cursor (bareStatement stmtId))
  hear
  nextFetch stmtId
  fetchLoop stmtId
  closeQuery setting stmtId

def queryEffect (stmtId : Int32) : Speaker Unit := do
  say (sendExecuteMessage stmtId)
  hear
  track

def answerQuery (setting : Setting) : Speaker Unit := do
  hear
  fun dialogue => autobegin dialogue.facts.statementType dialogue
  check fun dialogue =>
    if dialogue.facts.stmtId < 0 then .protoError else .ok
  fun dialogue =>
    if selects dialogue.facts then
      queryRows setting dialogue.facts.stmtId dialogue
    else queryEffect dialogue.facts.stmtId dialogue

/-- `sqli_query` -/
def query (setting : Setting) (sql : List UInt8) : Speaker Unit := do
  checkReady
  newResult
  say (Prepare.sendPrepare setting.charset setting.session sql)
  onError (answerQuery setting) destroyResult

/-- The calls that build a request. -/
inductive Call where
  | query (sql : List UInt8)
  | prepare (sql : List UInt8)
  | execute (stmt : Statement)
  | savepoint (call : SavepointCall) (name : List UInt8)
  | begin
  | commit
  | rollback
  | batchBegin
  | batchEnd

def Call.run (setting : Setting) : Call → Speaker Unit
  | .query sql => Requests.query setting sql
  | .prepare sql => Requests.prepare setting sql
  | .execute stmt => Requests.execute setting stmt
  | .savepoint call name => Requests.savepoint setting call name
  | .begin => Requests.begin
  | .commit => Requests.commit
  | .rollback => Requests.rollback
  | .batchBegin => batchMark sqBatchstart false
  | .batchEnd => batchMark sqBatchend true

end Libsqli.Requests
