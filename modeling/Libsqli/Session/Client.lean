import Libsqli.Data.Program
import Libsqli.Receive.Retained
import Libsqli.Transaction.Local

namespace Libsqli.Session

open Libsqli.Data.Program
open Libsqli.Receive

/-! A connection at work: requests, the messages that answer them, and the result
they are received into. -/

inductive Request where
  | prepare (sql : List UInt8)
  | begin
  | bind (stmtId : Int)
  | open (stmtId : Int)
  | fetch (stmtId : Int)
  -- with the kind of the scroll and the row number
  | scrollFetch (stmtId : Int) (kind : UInt16) (index : Int)
  | execute (stmtId : Int)
  | close (stmtId : Int)
  | release (stmtId : Int)
  deriving DecidableEq

/-- What arrives with each complete request is given beforehand. -/
structure Client where
  incoming : List Message
  answers : List (List Message)
  -- the status of each attempt to send a request
  sends : Nat → Status
  scene : Scene
  txn : Txn
  -- whether the statement at hand has a cursor open
  cursorOpen : Bool
  -- the rows that a callback was called with
  delivered : List (List UInt8)
  -- ghost: the complete requests, each with what arrived
  asked : List (Request × List Message)
  -- ghost: the messages that went into the result
  taken : List Message

abbrev Exchange := EStateM Status Client

namespace Client

def result (client : Client) : Result := client.scene.result

def withResult (client : Client) (result : Result) : Client :=
  { client with scene := client.scene.withResult result }

def withTxn (client : Client) (txn : Txn) : Client := { client with txn }

def rowCount (client : Client) : Int := client.scene.result.rowCount

/-- Where a reception leaves the client. -/
def after (client : Client) (reception : Reception) : Client :=
  { client with incoming := reception.messages, scene := reception.scene }

def spent (client : Client) : Client :=
  { client with sends := fun index => client.sends (index + 1) }

/-- The client once a request is sent whole. -/
def answered (client : Client) (wanted : Request) : Client :=
  { client.spent with
    incoming := client.incoming ++ client.answers.headD []
    answers := client.answers.tail
    asked := client.asked ++ [(wanted, client.answers.headD [])] }

@[simp] theorem answered_scene (client : Client) (wanted : Request) :
    (client.answered wanted).scene = client.scene := rfl

@[simp] theorem answered_txn (client : Client) (wanted : Request) :
    (client.answered wanted).txn = client.txn := rfl

end Client

/-! The parts that requests and receptions are made of. -/

def update (change : Client → Client) : Exchange Unit := fun client =>
  .ok () (change client)

def updateResult (change : Result → Result) : Exchange Unit :=
  update fun client => client.withResult (change client.result)

/-- Goes on only with the status OK. -/
def check (status : Client → Status) : Exchange Unit := fun client =>
  if status client = .ok then .ok () client
  else .error (status client) client

theorem check_eq_ok {status : Client → Status} {client after : Client}
    {value : Unit} :
    check status client = .ok value after ↔
      status client = .ok ∧ after = client := by
  unfold check
  split
  · next hok =>
    constructor
    · intro hcheck
      cases hcheck
      exact ⟨hok, rfl⟩
    · rintro ⟨-, rfl⟩
      rfl
  · next hfailed =>
    constructor
    · intro hcheck
      cases hcheck
    · rintro ⟨hok, -⟩
      exact absurd hok hfailed

def request (wanted : Request) : Exchange Unit := fun client =>
  match client.sends 0 with
  | .ok => .ok () (client.answered wanted)
  | status => .error status
      { client.spent with scene := client.scene.withDiagnostic .local }

def Client.took (client : Client) (messages : List Message) : Client :=
  { client with taken := client.taken ++ messages }

/-- A reception on the client's connection. -/
def ofReception (reception : Client → Reception) : Exchange Unit :=
  fun client =>
    if (reception client).status = .ok then
      .ok () (client.after (reception client))
    else .error (reception client).status (client.after (reception client))

/-- `sqli_receive_dispatch` into the result at hand. -/
def receive (caps : Capabilities) (context : Context) : Exchange Unit := do
  update fun client => client.took
    (takenBy caps context client.rowCount client.incoming client.scene)
  ofReception fun client =>
    receiveDispatch caps context client.incoming client.scene

/-- Runs a program with a throw-away result. -/
def aside (program : Exchange α) : Exchange α := fun client =>
  match program (client.withResult blankResult) with
  | .ok value after =>
      .ok value { after.withResult client.result with taken := client.taken }
  | .error status after => .error status
      { after.withResult client.result with taken := client.taken }

/-- Runs a program whose status the caller ignores. -/
def attempt (program : Exchange Unit) : Exchange Unit := fun client =>
  .ok () (stateOf (program client))

/-- Runs a program and, if it stops, what its error exits do. -/
def onError (program : Exchange Unit) (cleanup : Exchange Unit) :
    Exchange Unit := fun client =>
  match program client with
  | .ok () after => .ok () after
  | .error status after => .error status (stateOf (cleanup after))

/-- The tail loops: dispatches into throw-away results while something is there. -/
def drainTail (caps : Capabilities) : Exchange Unit :=
  aside (ofReception fun client =>
    drainExtra caps extraGroups client.incoming client.scene)

/-! The start of a transaction. -/

/-- `drain_txn_response` -/
def drainTxnResponse (caps : Capabilities) : Exchange Unit :=
  aside do
    receive caps .otherRecv
    check fun client => if client.result.sawError then .protoError else .ok

/-- `sqli_begin` -/
def begin (caps : Capabilities) : Exchange Unit := do
  check fun client => client.txn.verifyTxnReady
  check fun client =>
    if client.txn.inTransaction then .invalidState else .ok
  request .begin
  drainTxnResponse caps
  update fun client => client.withTxn client.txn.started

/-- `sqli_autobegin` for the statement of the result at hand. -/
def autobegin (caps : Capabilities) : Exchange Unit := fun client =>
  if client.txn.autocommit ∨ client.txn.inTransaction then .ok () client
  else if Txn.accessesData client.result.statementType then begin caps client
  else .ok () client

/-- `sqli_track_transaction_statement` -/
def track : Exchange Unit :=
  update fun client => client.withTxn
    (client.txn.trackTransactionStatement client.result.statementType)

end Libsqli.Session
